import RetinaServer.Library.Sphere
import Mathlib.Algebra.Order.Floor.Ring
import Mathlib.Algebra.Order.Archimedean.Real.Basic

/-! Query regions for external ADS-B truth: the boxes asked for around a cell's nodes. -/
namespace Retina.Adsb

/-- The mathematical functions and the geodesy of the module, over one kind of number. -/
structure Geometry (K : Type*) where
  sin : K → K
  cos : K → K
  asin : K → K
  radians : K → K
  degrees : K → K
  ceil : K → ℤ
  earthKm : K
  haversineKm : K → K → K → K → K

/-- One OpenSky bounding box. -/
structure Box (K : Type*) where
  lamin : K
  lamax : K
  lomin : K
  lomax : K

structure Region (K : Type*) where
  name : String
  row : ℤ
  col : ℤ
  lat : K
  lon : K
  radiusNm : ℤ
  boxes : List (Box K)
  nNodes : Nat

variable {K : Type*} [Field K] [LinearOrder K]

def KM_PER_NM : K := 1.852

def MAX_RADIUS_NM : ℤ := 250

def MARGIN_SURPLUS : K := 1.0001

variable (geo : Geometry K) (marginKm : K)

def dlatForMargin : K := geo.degrees (marginKm * MARGIN_SURPLUS / geo.earthKm)

def dlonForMargin (lat : K) : K :=
  let cosLat := geo.cos (geo.radians lat)
  if cosLat < 1e-12 then 180
  else
    let ratio := geo.sin (marginKm * MARGIN_SURPLUS / (2.0 * geo.earthKm)) / cosLat
    if 1 ≤ ratio then 180 else geo.degrees (2.0 * geo.asin ratio)

namespace Box

def sqDeg (box : Box K) : K := (box.lamax - box.lamin) * (box.lomax - box.lomin)

def openskyCredits (box : Box K) : Nat :=
  if box.sqDeg ≤ 25.0 then 1 else if box.sqDeg ≤ 100.0 then 2 else if box.sqDeg ≤ 400.0 then 3 else 4

end Box

/-- `_credits`. -/
def credits (boxes : List (Box K)) : Nat := (boxes.map Box.openskyCredits).sum

/-- The padded extent of the members, before it is brought into range. -/
structure Band (K : Type*) where
  laminRaw : K
  lamaxRaw : K
  lominRaw : K
  lomaxRaw : K

namespace Band
variable (band : Band K)

def lamin : K := max (-90) band.laminRaw
def lamax : K := min 90 band.lamaxRaw
def crossesPole : Prop := band.laminRaw < -90 ∨ 90 < band.lamaxRaw
def leavesRange : Prop := band.lominRaw < -180 ∨ 180 < band.lomaxRaw

instance : Decidable band.crossesPole := inferInstanceAs (Decidable (_ ∨ _))
instance : Decidable band.leavesRange := inferInstanceAs (Decidable (_ ∨ _))

/-- The whole parallel. -/
def sweep : List (Box K) := [⟨band.lamin, band.lamax, -180, 180⟩]

/-- The piece against -180 and the piece against +180. -/
def split : List (Box K) :=
  if 180 < band.lomaxRaw then
    [⟨band.lamin, band.lamax, -180, band.lomaxRaw - 360⟩, ⟨band.lamin, band.lamax, band.lominRaw, 180⟩]
  else [⟨band.lamin, band.lamax, -180, band.lomaxRaw⟩, ⟨band.lamin, band.lamax, band.lominRaw + 360, 180⟩]

def boxes : List (Box K) :=
  if band.crossesPole ∨ 360 ≤ band.lomaxRaw - band.lominRaw then band.sweep
  else if band.leavesRange then if credits band.sweep < credits band.split then band.sweep else band.split
  else [⟨band.lamin, band.lamax, band.lominRaw, band.lomaxRaw⟩]

end Band

/-- The members of a region: a cell is in the grouping once a position falls in it. -/
structure Members (K : Type*) where
  positions : List (K × K)
  inhabited : positions ≠ []

namespace Members
variable (members : Members K)

omit [Field K] [LinearOrder K] in
theorem map_ne_nil (f : K × K → α) : members.positions.map f ≠ [] := by simpa using members.inhabited

def minLat : K := (members.positions.map Prod.fst).min (members.map_ne_nil _)
def maxLat : K := (members.positions.map Prod.fst).max (members.map_ne_nil _)
def minLon : K := (members.positions.map Prod.snd).min (members.map_ne_nil _)
def maxLon : K := (members.positions.map Prod.snd).max (members.map_ne_nil _)

/-- `max((min(lats), max(lats)), key=abs)`. -/
def extremeLat : K := if |members.minLat| < |members.maxLat| then members.maxLat else members.minLat

end Members

def paddedBand (members : Members K) : Band K :=
  let dlon := dlonForMargin geo marginKm members.extremeLat
  { laminRaw := members.minLat - dlatForMargin geo marginKm
    lamaxRaw := members.maxLat + dlatForMargin geo marginKm
    lominRaw := members.minLon - dlon
    lomaxRaw := members.maxLon + dlon }

def regionFromMembers (row col : ℤ) (members : Members K) : Region K :=
  let centreLat := (members.minLat + members.maxLat) / 2.0
  let centreLon := (members.minLon + members.maxLon) / 2.0
  let reachKm := (members.positions.map fun p => geo.haversineKm centreLat centreLon p.1 p.2).max (members.map_ne_nil _)
  { name := "r" ++ toString row ++ "c" ++ toString col
    row := row
    col := col
    lat := centreLat
    lon := centreLon
    radiusNm := min MAX_RADIUS_NM (geo.ceil ((reachKm + marginKm) / KM_PER_NM))
    boxes := (paddedBand geo marginKm members).boxes
    nNodes := members.positions.length }

/-! ### What a box covers -/

namespace Box

/-- A request that stays in range, and not inside out. -/
def InRange (box : Box K) : Prop :=
  (-90 ≤ box.lamin ∧ box.lamin ≤ box.lamax ∧ box.lamax ≤ 90) ∧ -180 ≤ box.lomin ∧ box.lomin ≤ box.lomax ∧ box.lomax ≤ 180

/-- The box holds the point, its longitude taken modulo 360. -/
def Holds (box : Box K) (lat lon : K) : Prop :=
  box.lamin ≤ lat ∧ lat ≤ box.lamax ∧ ∃ k : ℤ, box.lomin ≤ lon + 360 * k ∧ lon + 360 * k ≤ box.lomax

end Box

/-- Some box holds the point. -/
def Covered (boxes : List (Box K)) (lat lon : K) : Prop := ∃ box ∈ boxes, box.Holds lat lon

namespace Band
variable {band : Band K}

/-- The whole parallel is asked for: the padding crosses a pole, the band goes all round, or it
crosses the antimeridian and its pieces cost more. -/
def Sweeps (band : Band K) : Prop :=
  (band.crossesPole ∨ 360 ≤ band.lomaxRaw - band.lominRaw) ∨ band.leavesRange ∧ credits band.sweep < credits band.split

theorem boxes_of_sweeps (sweeps : band.Sweeps) : band.boxes = band.sweep := by
  rw [boxes]
  split_ifs with round across cheaper
  · rfl
  · rfl
  · exact absurd sweeps (by simp [Sweeps, round, cheaper])
  · exact absurd sweeps (by simp [Sweeps, round, across])

/-- The band is a padding around a point of the map, at least where it crosses no pole. -/
structure Around (band : Band K) (lat lon : K) : Prop where
  lat_range : -90 ≤ lat ∧ lat ≤ 90
  lon_range : -180 ≤ lon ∧ lon ≤ 180
  lat_within : band.laminRaw ≤ lat ∧ lat ≤ band.lamaxRaw
  lon_within : ¬ band.crossesPole → band.lominRaw ≤ lon ∧ lon ≤ band.lomaxRaw

/-- The latitudes asked for are on the map. -/
theorem Around.lat_inRange (around : band.Around lat lon) : -90 ≤ band.lamin ∧ band.lamin ≤ band.lamax ∧ band.lamax ≤ 90 := by
  refine ⟨le_max_left _ _, ?_, min_le_left _ _⟩
  calc band.lamin ≤ lat := max_le around.lat_range.1 around.lat_within.1
    _ ≤ band.lamax := le_min around.lat_range.2 around.lat_within.2

variable [IsStrictOrderedRing K]

theorem Around.inRange (around : band.Around lat lon) : ∀ box ∈ band.boxes, box.InRange := by
  have lats := around.lat_inRange
  have whole : ∀ box ∈ band.sweep, box.InRange := by
    intro box listed
    rw [sweep, List.mem_singleton] at listed
    subst listed
    exact ⟨lats, by norm_num⟩
  intro box listed
  rw [boxes] at listed
  split_ifs at listed with round across cheaper
  · exact whole box listed
  · exact whole box listed
  · obtain ⟨polar, round⟩ := not_or.mp round
    obtain ⟨west, east⟩ := around.lon_within polar
    have lons := around.lon_range
    rw [split] at listed
    split_ifs at listed with past <;> rcases List.mem_pair.mp listed with rfl | rfl
    · exact ⟨lats, le_rfl, by linarith, by linarith⟩
    · exact ⟨lats, by linarith, by linarith, le_rfl⟩
    · exact ⟨lats, le_rfl, by linarith, by linarith⟩
    · rcases across with before | past'
      · exact ⟨lats, by linarith, by linarith, le_rfl⟩
      · exact absurd past' past
  · rw [List.mem_singleton] at listed
    subst listed
    obtain ⟨west, east⟩ := around.lon_within (not_or.mp round).1
    obtain ⟨before, past⟩ := not_or.mp across
    exact ⟨lats, not_lt.mp before, by linarith, not_lt.mp past⟩

/-- Unless the parallel is swept, the boxes hold the band itself. -/
theorem Around.covered_iff (around : band.Around lat₀ lon₀) (kept : ¬ band.Sweeps) (lat lon : K) :
    Covered band.boxes lat lon ↔ (band.lamin ≤ lat ∧ lat ≤ band.lamax) ∧
      ∃ k : ℤ, band.lominRaw ≤ lon + 360 * k ∧ lon + 360 * k ≤ band.lomaxRaw := by
  obtain ⟨once, pieces⟩ := not_or.mp kept
  obtain ⟨polar, round⟩ := not_or.mp once
  obtain ⟨west, east⟩ := around.lon_within polar
  have lons := around.lon_range
  rw [boxes, if_neg once]
  split_ifs with across cheaper
  · exact absurd ⟨across, cheaper⟩ pieces
  · rw [split]
    split_ifs with past
    · constructor
      · rintro ⟨box, listed, south, north, k, lower, upper⟩
        rcases List.mem_pair.mp listed with rfl | rfl
        · refine ⟨⟨south, north⟩, k + 1, ?_, ?_⟩ <;> push_cast <;> linarith
        · exact ⟨⟨south, north⟩, k, lower, by linarith⟩
      · rintro ⟨⟨south, north⟩, k, lower, upper⟩
        by_cases side : lon + 360 * k ≤ 180
        · exact ⟨_, List.mem_pair.mpr (.inr rfl), south, north, k, lower, side⟩
        · refine ⟨_, List.mem_pair.mpr (.inl rfl), south, north, k - 1, ?_, ?_⟩ <;> push_cast <;> linarith
    · have before := across.resolve_right past
      constructor
      · rintro ⟨box, listed, south, north, k, lower, upper⟩
        rcases List.mem_pair.mp listed with rfl | rfl
        · exact ⟨⟨south, north⟩, k, by linarith, upper⟩
        · refine ⟨⟨south, north⟩, k - 1, ?_, ?_⟩ <;> push_cast <;> linarith
      · rintro ⟨⟨south, north⟩, k, lower, upper⟩
        by_cases side : -180 ≤ lon + 360 * k
        · exact ⟨_, List.mem_pair.mpr (.inl rfl), south, north, k, side, upper⟩
        · refine ⟨_, List.mem_pair.mpr (.inr rfl), south, north, k + 1, ?_, ?_⟩ <;> push_cast <;> linarith
  · simp [Covered, Box.Holds, and_assoc]

/-- Every longitude has a turn on the map. -/
theorem exists_turn [FloorRing K] (lon : K) :
    ∃ k : ℤ, -180 ≤ lon + 360 * k ∧ lon + 360 * k ≤ 180 := by
  refine ⟨-⌊(lon + 180) / 360⌋, ?_, ?_⟩
  · have floor := Int.floor_le ((lon + 180) / 360)
    rw [le_div_iff₀ (by norm_num)] at floor
    push_cast
    linarith
  · have floor := Int.lt_floor_add_one ((lon + 180) / 360)
    rw [div_lt_iff₀ (by norm_num)] at floor
    push_cast
    linarith

/-- A swept parallel holds every longitude. -/
theorem covered_of_sweeps [FloorRing K] (sweeps : band.Sweeps) (south : band.lamin ≤ lat) (north : lat ≤ band.lamax) (lon : K) :
    Covered band.boxes lat lon := by
  obtain ⟨k, west, east⟩ := exists_turn lon
  rw [boxes_of_sweeps sweeps]
  exact ⟨_, List.mem_singleton_self _, south, north, k, west, east⟩

end Band

end Retina.Adsb
