import RetinaServer.Sites.PublicLocation

/-! Polygons drawn around a node, moved as its published point is. -/
namespace Retina.Sites
open Rounding Frames

/-- One number of a vertex: finite, NaN or infinite, a boolean, or nothing that adds to a float. -/
inductive Coordinate where
  | num (x : ℚ)
  | notFinite
  | flag (b : Bool)
  | other
deriving DecidableEq, Repr

abbrev Vertex := Coordinate × Coordinate

/-- `v + d`, unless it raises. -/
def Coordinate.plus : Coordinate → ℚ → Option Coordinate
  | .num x, d => some (.num (x + d))
  | .notFinite, _ => some .notFinite
  | .flag b, d => some (.num ((if b then 1 else 0) + d))
  | .other, _ => none

def Vertex.plus (d : ℚ × ℚ) (v : Vertex) : Option Vertex := do
  let lat ← v.1.plus d.1
  let lon ← v.2.plus d.2
  return (lat, lon)

variable (geo : Geodesy) (kmPerDegLon : ℚ → ℚ) (fuzz : Fuzz) (positions : Dict String Position) (radiusKm : ℚ)

/-- From a node's own position to the one it is published from. -/
def siteShiftDeg (c : Clustering) (nodeId : String) : ℚ × ℚ :=
  if nodeId = "" then (0, 0)
  else match c.joined.get? nodeId, positions.get? nodeId with
    | some anchor, some own => (anchor.1 - own.1, anchor.2 - own.2)
    | _, _ => (0, 0)

def publicDeltaDeg (c : Clustering) (lat : ℚ) (nodeId : String) : ℚ × ℚ :=
  let offset := publicOffsetKm fuzz c nodeId
  let shift := siteShiftDeg positions c nodeId
  (shift.1 + offset.2 / geo.kmPerDegLat, shift.2 + offset.1 / kmPerDegLon lat)

/-- `none` where an addition raises. -/
def translatePolygon (c : Clustering) (vertices : Option (List Vertex)) (nodeId : String) (anchorLat : Option Coordinate) :
    Option (Option (List Vertex)) :=
  match vertices with
  | none => some none
  | some verts =>
    if fuzz.enabled then
      match verts with
      | [] => some (some verts)
      | first :: _ =>
        match anchorLat.getD first.1 with
        | .num lat => (verts.mapM (Vertex.plus (publicDeltaDeg geo kmPerDegLon fuzz positions c lat nodeId))).map some
        | _ => some (some verts)
    else some (some verts)

/-- The latitude the longitude conversion is taken at, where that is a usable number. -/
def referenceLat (verts : List Vertex) (anchorLat : Option Coordinate) : Option ℚ :=
  match anchorLat <|> verts.head?.map Prod.fst with
  | some (.num lat) => some lat
  | _ => none

def finite (p : Position) : Vertex := (.num p.1, .num p.2)

/-- Where a node stands before its offset. -/
def publishedFrom (c : Clustering) (nodeId : String) (p : Position) : Position := (sitePosition c nodeId).getD p

/-- `offset_latlon`: each axis by its own scale, that of the longitude taken at the point displaced. -/
def OffsetByScales : Prop :=
  ∀ lat lon eastKm northKm, geo.offsetLatlon lat lon eastKm northKm = (lat + northKm / geo.kmPerDegLat, lon + eastKm / kmPerDegLon lat)

/-- What polygons around a placed node and its published point have to do with each other. -/
structure PolygonsFollow (c : Clustering) (nodeId : String) (p : Position) : Prop where
  rigid : fuzz.enabled = true → ∀ (points : List Position) anchorLat lat, referenceLat (points.map finite) anchorLat = some lat →
    translatePolygon geo kmPerDegLon fuzz positions c (some (points.map finite)) nodeId anchorLat =
      some (some (points.map fun v => finite (v + publicDeltaDeg geo kmPerDegLon fuzz positions c lat nodeId)))
  latitude : ∀ lat, p.1 + (publicDeltaDeg geo kmPerDegLon fuzz positions c lat nodeId).1 =
    (displaced geo fuzz c nodeId (publishedFrom c nodeId p)).1
  longitude : ∀ lat, kmPerDegLon lat = kmPerDegLon (publishedFrom c nodeId p).1 →
    p.2 + (publicDeltaDeg geo kmPerDegLon fuzz positions c lat nodeId).2 = (displaced geo fuzz c nodeId (publishedFrom c nodeId p)).2
  published : fuzz.enabled = true → publicLatlon geo fuzz c (.num p.1) (.num p.2) nodeId =
    (.num (roundTo PUBLIC_DECIMALS (displaced geo fuzz c nodeId (publishedFrom c nodeId p)).1),
      .num (roundTo PUBLIC_DECIMALS (displaced geo fuzz c nodeId (publishedFrom c nodeId p)).2))
  untranslated : fuzz.enabled = true → ∀ verts anchorLat, (∃ point, finite point ∈ verts) →
    translatePolygon geo kmPerDegLon fuzz positions c (some verts) nodeId anchorLat = some (some verts) →
    referenceLat verts anchorLat = none ∨
      ∃ lat, referenceLat verts anchorLat = some lat ∧ publicDeltaDeg geo kmPerDegLon fuzz positions c lat nodeId = 0

/-! ### Moving every vertex -/

theorem mapM_finite (d : ℚ × ℚ) (points : List Position) :
    (points.map finite).mapM (Vertex.plus d) = some (points.map fun v => finite (v + d)) := by
  induction points with
  | nil => rfl
  | cons v rest ih => simp [ih, Vertex.plus, Coordinate.plus, finite]

theorem unmoved_of_mapM {f : Vertex → Option Vertex} {verts : List Vertex} (unmoved : verts.mapM f = some verts) :
    ∀ v ∈ verts, f v = some v := by
  have each : ∀ (verts moved : List Vertex), verts.mapM f = some moved → List.Forall₂ (fun v w => f v = some w) verts moved := by
    intro verts
    induction verts with
    | nil =>
      intro moved result
      cases result
      exact .nil
    | cons v rest ih =>
      intro moved result
      rw [List.mapM_cons] at result
      obtain ⟨w, first, result⟩ := Option.bind_eq_some_iff.mp result
      obtain ⟨ws, later, result⟩ := Option.bind_eq_some_iff.mp result
      cases result
      exact .cons first (ih ws later)
  exact List.forall₂_same.mp (each verts verts unmoved)

theorem Vertex.plus_eq_self (unmoved : Vertex.plus d (finite point) = some (finite point)) : d = 0 := by
  simp only [Vertex.plus, Coordinate.plus, finite, Option.bind_eq_bind, Option.bind_some, Option.pure_def, Option.some_inj,
    Prod.mk.injEq, Coordinate.num.injEq, add_eq_left] at unmoved
  exact Prod.ext unmoved.1 unmoved.2

/-! ### The delta of a placed node -/

theorem siteShiftDeg_placed (c : Clustering) (placed : positions.get? nodeId = some p) :
    siteShiftDeg positions c nodeId = publishedFrom c nodeId p - p := by
  rw [siteShiftDeg, publishedFrom, sitePosition]
  split
  · simp
  · rw [placed]
    cases c.joined.get? nodeId with
    | none => simp
    | some anchor => rfl

theorem displaced_by_scales (nodeId : String) (scales : OffsetByScales geo kmPerDegLon) (c : Clustering) (q : Position) :
    displaced geo fuzz c nodeId q = (q.1 + (publicOffsetKm fuzz c nodeId).2 / geo.kmPerDegLat,
      q.2 + (publicOffsetKm fuzz c nodeId).1 / kmPerDegLon q.1) :=
  scales _ _ _ _

/-- With fuzzing on and a usable latitude every vertex is moved. -/
theorem translatePolygon_on (on : fuzz.enabled = true) (c : Clustering) (found : referenceLat verts anchorLat = some lat) :
    translatePolygon geo kmPerDegLon fuzz positions c (some verts) nodeId anchorLat =
      (verts.mapM (Vertex.plus (publicDeltaDeg geo kmPerDegLon fuzz positions c lat nodeId))).map some := by
  cases verts with
  | nil => simp [translatePolygon, on]
  | cons first rest =>
    have used : anchorLat.getD first.1 = .num lat := by
      cases anchorLat <;> simp only [referenceLat, List.head?_cons] at found
      all_goals
        split at found
        · rename_i same
          simp_all
        · cases found
    simp only [translatePolygon, on, if_true, used]

/-- A node's polygons move as one with its published point: by one step, which carries the true position to the
point that is rounded for publication. They pass through unmoved only where no usable latitude is at hand. -/
theorem polygons_follow (scales : OffsetByScales geo kmPerDegLon) (placed : positions.get? nodeId = some p) :
    PolygonsFollow geo kmPerDegLon fuzz positions (cluster geo positions radiusKm) nodeId p := by
  generalize cluster geo positions radiusKm = c
  have shift := siteShiftDeg_placed positions c placed
  have carried := displaced_by_scales geo kmPerDegLon fuzz nodeId scales c (publishedFrom c nodeId p)
  constructor
  · intro on points anchorLat lat found
    rw [translatePolygon_on geo kmPerDegLon fuzz positions on c found, mapM_finite]
    rfl
  · intro lat
    rw [carried, publicDeltaDeg, shift]
    simp only [Prod.fst_sub]
    ring
  · intro lat same_scale
    rw [carried, publicDeltaDeg, shift]
    simp only [Prod.snd_sub, same_scale]
    ring
  · intro on
    simp only [publicLatlon, on, if_true]
    rfl
  · rintro on verts anchorLat ⟨point, listed⟩ result
    cases found : referenceLat verts anchorLat with
    | none => exact .inl rfl
    | some lat =>
      rw [translatePolygon_on geo kmPerDegLon fuzz positions on c found] at result
      obtain ⟨moved, all, same⟩ := Option.map_eq_some_iff.mp result
      rw [Option.some_inj] at same
      rw [same] at all
      exact .inr ⟨lat, rfl, Vertex.plus_eq_self (unmoved_of_mapM all _ listed)⟩

/-! ### A receiver by itself -/

def loneReceiver : Dict String Position := ⟨[("example-node-a", (407000037 / 10000000, -74))], by decide⟩

/-- The longitude scale at its latitude. -/
def flatLonScale (_ : ℚ) : ℚ := 8430069190021916 / 100000000000000

/-- The apex of its polygon is near the published point and not at it, and with a reference latitude
that is no finite number the apex is where the receiver is. -/
theorem lone_apex_is_beside_the_point :
    publicLatlon flatGeodesy defaultFuzz (cluster flatGeodesy loneReceiver (15 / 100)) (.num (407000037 / 10000000)) (.num (-74))
        "example-node-a" = (.num (203523 / 5000), .num (-739909 / 10000)) ∧
      translatePolygon flatGeodesy flatLonScale defaultFuzz loneReceiver (cluster flatGeodesy loneReceiver (15 / 100))
        (some [finite (407000037 / 10000000, -74)]) "example-node-a" (some (.num (407000037 / 10000000))) ≠
        some (some [finite (203523 / 5000, -739909 / 10000)]) ∧
      translatePolygon flatGeodesy flatLonScale defaultFuzz loneReceiver (cluster flatGeodesy loneReceiver (15 / 100))
        (some [finite (407000037 / 10000000, -74)]) "example-node-a" (some .notFinite) =
        some (some [finite (407000037 / 10000000, -74)]) := by
  refine ⟨by decide +kernel, by decide +kernel, by decide +kernel⟩

theorem lone_polygons_follow :
    PolygonsFollow flatGeodesy flatLonScale defaultFuzz loneReceiver (cluster flatGeodesy loneReceiver (15 / 100))
      "example-node-a" (407000037 / 10000000, -74) :=
  polygons_follow flatGeodesy flatLonScale defaultFuzz loneReceiver (15 / 100) (fun _ _ _ _ => rfl) (by decide +kernel)

end Retina.Sites
