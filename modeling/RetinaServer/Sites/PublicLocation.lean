import RetinaServer.Sites.NodeSites
import RetinaServer.Frames.Frame

/-! The coordinate a node is published at: its site's position, moved by its site's offset and rounded. -/
namespace Retina.Sites
open Rounding Frames

/-- Whether positions are fuzzed, the donut, and the displacement that the salt and the bounds draw for a message. -/
structure Fuzz where
  enabled : Bool
  minKm : ℚ
  maxKm : ℚ
  displacement : String → ℚ × ℚ

def PUBLIC_DECIMALS : Nat := 4

def ORIGINAL_FRAME : ℚ × ℚ := (1, 3)

variable (geo : Geodesy) (fuzz : Fuzz) (positions : Dict String Position) (radiusKm : ℚ)

def frameMessage (c : Clustering) (nodeId : String) : String :=
  let identity := siteIdentity c nodeId
  if (fuzz.minKm, fuzz.maxKm) = ORIGINAL_FRAME then identity
  else identity ++ "\x00" ++ formatFixed 6 fuzz.minKm ++ ":" ++ formatFixed 6 fuzz.maxKm

/-- East and north, in kilometres. -/
def publicOffsetKm (c : Clustering) (nodeId : String) : ℚ × ℚ :=
  if fuzz.enabled then fuzz.displacement (frameMessage fuzz c nodeId) else (0, 0)

/-- Where a node's offset carries a position, before rounding. -/
def displaced (c : Clustering) (nodeId : String) (p : Position) : Position :=
  geo.offsetLatlon p.1 p.2 (publicOffsetKm fuzz c nodeId).1 (publicOffsetKm fuzz c nodeId).2

/-- A coordinate that is no usable number passes through, as everything does when fuzzing is off. -/
def publicLatlon (c : Clustering) (lat lon : RawNumber) (nodeId : String) : RawNumber × RawNumber :=
  if fuzz.enabled then
    match lat, lon with
    | .num x, .num y =>
      let fuzzed := displaced geo fuzz c nodeId ((sitePosition c nodeId).getD (x, y))
      (.num (roundTo PUBLIC_DECIMALS fuzzed.1), .num (roundTo PUBLIC_DECIMALS fuzzed.2))
    | _, _ => (lat, lon)
  else (lat, lon)

/-- What a node at its known position is published at. -/
def publishedPoint (nodeId : String) (p : Position) : RawNumber × RawNumber :=
  publicLatlon geo fuzz (cluster geo positions radiusKm) (.num p.1) (.num p.2) nodeId

/-- Nodes with one site identity are published at one coordinate. -/
def SitesCoincide : Prop :=
  ∀ i j p q, positions.get? i = some p → positions.get? j = some q →
    siteIdentity (cluster geo positions radiusKm) i = siteIdentity (cluster geo positions radiusKm) j →
    publishedPoint geo fuzz positions radiusKm i p = publishedPoint geo fuzz positions radiusKm j q

/-- No boundary of the published grid separates two coordinates. -/
def Unseparated (x y : Position) : Prop :=
  ∀ k : ℤ, (Beyond k (x.1 * 10 ^ PUBLIC_DECIMALS) ↔ Beyond k (y.1 * 10 ^ PUBLIC_DECIMALS)) ∧
    (Beyond k (x.2 * 10 ^ PUBLIC_DECIMALS) ↔ Beyond k (y.2 * 10 ^ PUBLIC_DECIMALS))

/-- With fuzzing on: no boundary falls between two nodes whose configured positions agree to six
decimals, once the site's offset moves them. With it off: site-mates are configured at one position. -/
def SiteMatesAligned : Prop :=
  if fuzz.enabled then
    ∀ i j p q, positions.get? i = some p → positions.get? j = some q → siteKey p = siteKey q →
      Unseparated (displaced geo fuzz (cluster geo positions radiusKm) i p)
        (displaced geo fuzz (cluster geo positions radiusKm) j q)
  else
    ∀ i j p q, positions.get? i = some p → positions.get? j = some q →
      siteIdentity (cluster geo positions radiusKm) i = siteIdentity (cluster geo positions radiusKm) j → p = q

theorem publishedPoint_on (on : fuzz.enabled = true) (nodeId : String) (p : Position) :
    publishedPoint geo fuzz positions radiusKm nodeId p =
      let fuzzed := displaced geo fuzz (cluster geo positions radiusKm) nodeId
        ((sitePosition (cluster geo positions radiusKm) nodeId).getD p)
      (.num (roundTo PUBLIC_DECIMALS fuzzed.1), .num (roundTo PUBLIC_DECIMALS fuzzed.2)) := by
  simp only [publishedPoint, publicLatlon, on, if_true]

theorem publishedPoint_off (off : ¬ fuzz.enabled = true) (nodeId : String) (p : Position) :
    publishedPoint geo fuzz positions radiusKm nodeId p = (.num p.1, .num p.2) :=
  if_neg off

theorem rounded_eq_iff (x y : Position) :
    (RawNumber.num (roundTo PUBLIC_DECIMALS x.1), RawNumber.num (roundTo PUBLIC_DECIMALS x.2)) =
      (RawNumber.num (roundTo PUBLIC_DECIMALS y.1), RawNumber.num (roundTo PUBLIC_DECIMALS y.2)) ↔
    Unseparated x y := by
  simp only [Prod.mk.injEq, RawNumber.num.injEq, roundTo_eq_iff, Unseparated, forall_and]

/-- One identity is one offset. -/
theorem displaced_congr (c : Clustering) (same : siteIdentity c i = siteIdentity c j) (p : Position) :
    displaced geo fuzz c i p = displaced geo fuzz c j p := by
  simp only [displaced, publicOffsetKm, frameMessage, same]

theorem Unseparated.refl (x : Position) : Unseparated x x := fun _ => ⟨Iff.rfl, Iff.rfl⟩

theorem Unseparated.symm (near : Unseparated x y) : Unseparated y x := fun k => ⟨(near k).1.symm, (near k).2.symm⟩

theorem Unseparated.trans (near : Unseparated x y) (next : Unseparated y z) : Unseparated x z :=
  fun k => ⟨(near k).1.trans (next k).1, (near k).2.trans (next k).2⟩

/-- Aligned site-mates are published where their anchor is. -/
theorem unseparated_from_anchor (aligned : SiteMatesAligned geo fuzz positions radiusKm) (on : fuzz.enabled = true)
    (at_i : positions.get? i = some p)
    (at_anchor : positions.get? (siteIdentity (cluster geo positions radiusKm) i) = some q) :
    Unseparated
      (displaced geo fuzz (cluster geo positions radiusKm) i
        ((sitePosition (cluster geo positions radiusKm) i).getD p))
      (displaced geo fuzz (cluster geo positions radiusKm) i q) := by
  obtain ⟨q', at_q, published | published⟩ := published_from_anchor geo positions radiusKm at_i
  · obtain ⟨own, same_key⟩ := published
    rw [Option.some.inj (at_q.symm.trans at_anchor)] at same_key
    rw [own, Option.getD_none]
    by_cases itself : i = siteIdentity (cluster geo positions radiusKm) i
    · rw [← itself, at_i] at at_anchor
      rw [Option.some.inj at_anchor]
      exact Unseparated.refl _
    · have together := (exact_site geo positions radiusKm itself at_i at_anchor same_key).1
      rw [SiteMatesAligned, if_pos on] at aligned
      rw [displaced_congr geo fuzz _ together q]
      exact aligned _ _ _ _ at_i at_anchor same_key
  · rw [published, Option.getD_some, Option.some.inj (at_q.symm.trans at_anchor)]
    exact Unseparated.refl _

/-- Site-mates are published at one coordinate exactly when the published grid does not separate
the nodes whose positions were taken as equal: a node joined by proximity is never apart from its anchor. -/
theorem sites_coincide_iff :
    SitesCoincide geo fuzz positions radiusKm ↔ SiteMatesAligned geo fuzz positions radiusKm := by
  by_cases on : fuzz.enabled = true
  · constructor
    · intro coincide
      rw [SiteMatesAligned, if_pos on]
      intro i j p q at_i at_j same_key
      by_cases same : i = j
      · subst same
        rw [Option.some.inj (at_i.symm.trans at_j)]
        exact Unseparated.refl _
      · obtain ⟨together, own_i, own_j⟩ := exact_site geo positions radiusKm same at_i at_j same_key
        have published := coincide i j p q at_i at_j together
        simp only [publishedPoint_on geo fuzz positions radiusKm on, own_i, own_j, Option.getD_none] at published
        exact (rounded_eq_iff _ _).mp published
    · intro aligned i j p q at_i at_j together
      obtain ⟨anchor, at_anchor, -⟩ := published_from_anchor geo positions radiusKm at_i
      have first := unseparated_from_anchor geo fuzz positions radiusKm aligned on at_i at_anchor
      have second := unseparated_from_anchor geo fuzz positions radiusKm aligned on at_j (together ▸ at_anchor)
      simp only [publishedPoint_on geo fuzz positions radiusKm on]
      rw [rounded_eq_iff]
      rw [displaced_congr geo fuzz _ together anchor] at first
      exact first.trans second.symm
  · simp only [SitesCoincide, SiteMatesAligned, if_neg on, publishedPoint_off geo fuzz positions radiusKm on,
      Prod.mk.injEq, RawNumber.num.injEq, ← Prod.ext_iff]

/-- Positions that agree to six decimals and are equal leave nothing for the grid to separate. -/
theorem sites_coincide_of_exact (on : fuzz.enabled = true)
    (exact_positions : ∀ i j p q, positions.get? i = some p → positions.get? j = some q → siteKey p = siteKey q → p = q) :
    SitesCoincide geo fuzz positions radiusKm := by
  rw [sites_coincide_iff, SiteMatesAligned, if_pos on]
  intro i j p q at_i at_j same_key
  have same := exact_positions i j p q at_i at_j same_key
  subst same
  by_cases itself : i = j
  · rw [itself]
    exact Unseparated.refl _
  · rw [displaced_congr geo fuzz _ (exact_site geo positions radiusKm itself at_i at_j rfl).1 p]
    exact Unseparated.refl _

/-! ### Two receivers typed 22 millimetres apart -/

/-- The conversions at the latitude of the pair, on a sphere of 6371 km. -/
def flatGeodesy : Geodesy where
  kmPerDegLat := 11119492664455873 / 100000000000000
  haversineKm lat lon lat' lon' := 111 * |lat - lat'| + 84 * |lon - lon'|
  offsetLatlon lat lon eastKm northKm :=
    (lat + northKm / (11119492664455873 / 100000000000000), lon + eastKm / (8430069190021916 / 100000000000000))

/-- The default donut, and what the salt "retina" draws for the first node's message in it. -/
def defaultFuzz : Fuzz where
  enabled := true
  minKm := 1 / 2
  maxKm := 1
  displacement message :=
    if message = "example-node-a" ++ "\x00" ++ "0.500000:1.000000" then
      (7681252349335799 / 10000000000000000, 5166318875487813 / 10000000000000000)
    else (1 / 2, 0)

def roofPair : Dict String Position :=
  ⟨[("example-node-a", (407000037 / 10000000, -74)), ("example-node-b", (407000039 / 10000000, -74))], by decide⟩

/-- The pair is one site, and its members are published eleven metres apart. -/
theorem roof_pair_published_apart :
    siteIdentity (cluster flatGeodesy roofPair (15 / 100)) "example-node-b" =
      siteIdentity (cluster flatGeodesy roofPair (15 / 100)) "example-node-a" ∧
    ¬ SitesCoincide flatGeodesy defaultFuzz roofPair (15 / 100) := by
  have together : siteIdentity (cluster flatGeodesy roofPair (15 / 100)) "example-node-b" =
      siteIdentity (cluster flatGeodesy roofPair (15 / 100)) "example-node-a" := by decide +kernel
  have apart : publishedPoint flatGeodesy defaultFuzz roofPair (15 / 100) "example-node-b" (407000039 / 10000000, -74) ≠
      publishedPoint flatGeodesy defaultFuzz roofPair (15 / 100) "example-node-a" (407000037 / 10000000, -74) := by
    decide +kernel
  exact ⟨together, fun coincide => apart (coincide _ _ _ _ (by decide +kernel) (by decide +kernel) together)⟩

end Retina.Sites
