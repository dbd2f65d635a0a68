import RetinaServer.Known.ClaimKnownTargets
import RetinaServer.Library.GreatCircle
import Mathlib.Analysis.Real.Pi.Bounds
import Mathlib.Analysis.SpecialFunctions.Trigonometric.Bounds

/-! What the range screen leaves out. It is weaker than the beam for a state that the frame finds
near enough to its report, and for these the claiming is what it is without the screen. -/
namespace Retina.Known
open Frames Real
open Sphere (radians degrees)

/-! ### The claiming with another choice of candidates -/

section
variable (lib : Externals γ) (cfg : ClaimSettings)

/-- `candidate` as it is without the screen. -/
def unscreenedCandidate (geo : NodeGeometry γ) (frameTsS : ℚ) (nodeWorld : World) (hexn : String) (st : CandState) :
    Option Candidate :=
  if !ofWorld nodeWorld st.world then none
  else if lib.adsbSeedMaxDrAgeS < |st.ageS frameTsS| then none
  else
    let cand := predicted lib geo frameTsS hexn st
    if !lib.pointInBeam cand.drLat cand.drLon (claimVisibilityGeo geo) then none else some cand

variable (scene : Scene γ) (nodeId : String)
variable (pick : NodeGeometry γ → ℚ → World → String → CandState → Option Candidate)

/-- The states that path 2 chooses its candidates from. -/
def offered (m : Moment γ) (claimed : List Claim) (holds : Dict String Holds) : Dict String CandState :=
  candStates m.cache
    (followStates lib cfg m.frameTsS (claimed.map Claim.hexn) m.cache holds scene.multinodeTracks scene.learnedVelocity)

/-- `claimFrame`, with `pick` for `candidate`. -/
def claimFrameBy (m : Moment γ) (frame : Frame) (followClaimed : Option (Finset Nat)) (stores : ClaimStores) : Outcome :=
  match tagClaims lib m.geo (frameTsMs frame) frame with
  | none => { stores, verdict := threw }
  | some tagged =>
      let h := holdStage lib cfg nodeId m frame tagged stores
      match h.2 with
      | none => { stores := h.1, tagged, verdict := threw }
      | some held =>
          let claimed := tagged ++ held
          let cands := (offered lib cfg scene m claimed h.1.knownTrackHolds).items.filterMap fun item =>
            pick m.geo m.frameTsS m.nodeWorld item.1 item.2
          match claimFixes lib frame (freeIndices frame claimed) (claimed.map Claim.hexn) cands with
          | none => { stores := h.1, tagged, held, cands, verdict := threw }
          | some fixed =>
              recordStage lib cfg scene nodeId m frame followClaimed
                { stores := h.1, tagged, held, fixed, cands, verdict := threw }

/-- `claimKnownTargets`, with `pick` for `candidate`. -/
def claimKnownTargetsBy (frame : Frame) (followClaimed : Option (Finset Nat)) (stores : ClaimStores) : Outcome :=
  match scene.geometry with
  | some geo =>
      if frame.delay.getD [] ≠ [] ∧ positionStatus scene.config = .positioned then
        claimFrameBy lib cfg scene nodeId pick (moment scene geo frame) frame followClaimed stores
      else { stores, verdict := .ok (∅, followClaimed.getD ∅) }
  | none => { stores, verdict := .ok (∅, followClaimed.getD ∅) }

theorem claimKnownTargetsBy_candidate :
    claimKnownTargetsBy lib cfg scene nodeId (candidate lib) = claimKnownTargets lib cfg scene nodeId := rfl

/-- The states that a frame offers path 2 once the paths before it have claimed; none if one of them throws. -/
def offeredTo (m : Moment γ) (frame : Frame) (stores : ClaimStores) : List (String × CandState) :=
  match tagClaims lib m.geo (frameTsMs frame) frame with
  | none => []
  | some tagged =>
      let h := holdStage lib cfg nodeId m frame tagged stores
      match h.2 with
      | none => []
      | some held => (offered lib cfg scene m (tagged ++ held) h.1.knownTrackHolds).items

variable {lib cfg scene nodeId}

/-- Two choices that agree on what is offered make the same of a frame. -/
theorem claimFrameBy_congr {m : Moment γ} {frame : Frame} {stores : ClaimStores}
    (agree : ∀ item ∈ offeredTo lib cfg scene nodeId m frame stores,
      pick m.geo m.frameTsS m.nodeWorld item.1 item.2 = pick' m.geo m.frameTsS m.nodeWorld item.1 item.2) :
    claimFrameBy lib cfg scene nodeId pick m frame followClaimed stores =
      claimFrameBy lib cfg scene nodeId pick' m frame followClaimed stores := by
  unfold claimFrameBy offeredTo at *
  cases tagged : tagClaims lib m.geo (frameTsMs frame) frame with
  | none => rfl
  | some claims =>
    simp only [tagged] at agree
    cases held : (holdStage lib cfg nodeId m frame claims stores).2 with
    | none => simp only [held]
    | some more =>
      simp only [held] at agree
      simp only [held, List.filterMap_congr agree]

end

/-! ### The screen against the beam -/

/-- The great-circle distance, on the sphere with `kmPerDegLat` kilometres to a degree. -/
noncomputable def greatCircleKm (lib : Externals γ) (p q : ℚ × ℚ) : ℝ :=
  lib.kmPerDegLat * degrees (Sphere.angle (radians p.1) (radians p.2) (radians q.1) (radians q.2))

def OnMap (p : ℚ × ℚ) : Prop := |p.1| ≤ 90 ∧ |p.2| ≤ 180

/-- The scales of the analytics library: a degree of longitude is no longer than on its parallel. -/
structure Scales (lib : Externals γ) : Prop where
  degree_pos : 0 < lib.kmPerDegLat
  speed_nonneg : 0 ≤ lib.vMaxMs
  parallel : ∀ lat : ℚ, 0 ≤ lat → lat < 90 → |(lib.kmPerDegLon lat : ℝ)| ≤ lib.kmPerDegLat * cos (radians lat)

/-- The beam test rejects every point beyond the effective radius. -/
def BeamWithinRadius (lib : Externals γ) : Prop :=
  ∀ lat lon geo, lib.pointInBeam lat lon geo = true → greatCircleKm lib (geo.rxLat, geo.rxLon) (lat, lon) ≤ geo.effectiveRadiusKm

section
variable (lib : Externals γ) (geo : NodeGeometry γ)

def screenRadiusKm (ageS : ℚ) : ℚ := geo.effectiveRadiusKm * screenMargin + lib.vMaxMs * |ageS| / 1000

/-- How far poleward the screen reaches at the age cap. -/
def screenEdgeDeg : ℚ :=
  |geo.rxLat| + (geo.effectiveRadiusKm * screenMargin + lib.vMaxMs * lib.adsbSeedMaxDrAgeS / 1000) / lib.kmPerDegLat

def wrapped (raw : ℚ) : ℚ := if 180 < raw then raw - 360 else if raw < -180 then raw + 360 else raw

/-- How far from its report a state may be found for the screen to see it: as far as the greatest speed
carries it and the margin on the radius, less half a parallel where the screen reaches over a pole. -/
def screenAllowanceKm (ageS : ℚ) : ℚ :=
  lib.vMaxMs * |ageS| / 1000 + geo.effectiveRadiusKm * (screenMargin - 1) -
    if screenEdgeDeg lib geo < 90 then 0 else 180 * |lib.kmPerDegLon (screenEdgeDeg lib geo)|

def deadReckoned (frameTsS : ℚ) (st : CandState) : ℚ × ℚ :=
  lib.offsetLatlonM st.lat st.lon (st.velEast * st.ageS frameTsS) (st.velNorth * st.ageS frameTsS)

/-- A state may be used for a frame: it is of the node's world and recent enough. -/
def Admitted (frameTsS : ℚ) (nodeWorld : World) (st : CandState) : Prop :=
  ofWorld nodeWorld st.world = true ∧ |st.ageS frameTsS| ≤ lib.adsbSeedMaxDrAgeS

/-- A state is on the map, and the frame finds it as near to its report as the screen allows for. -/
structure WithinAllowance (frameTsS : ℚ) (st : CandState) : Prop where
  on_map : OnMap (st.lat, st.lon)
  drift : greatCircleKm lib (st.lat, st.lon) (deadReckoned lib frameTsS st) ≤ screenAllowanceKm lib geo (st.ageS frameTsS)

end

section
variable {lib : Externals γ} {geo : NodeGeometry γ} {frameTsS : ℚ} {st : CandState}

theorem isLat_of_onMap (valid : OnMap p) : Sphere.IsLat (radians p.1) := by
  have bound : |(p.1 : ℝ)| ≤ 90 := by exact_mod_cast valid.1
  exact (Sphere.isLat_radians_iff _).mpr (abs_le.mp bound)

theorem inScreen_iff (st : CandState) (ageS : ℚ) : inScreen lib geo st ageS = true ↔
    (wrapped (st.lon - geo.rxLon) * lib.kmPerDegLon (screenEdgeDeg lib geo)) ^ 2 +
      ((st.lat - geo.rxLat) * lib.kmPerDegLat) ^ 2 ≤ screenRadiusKm lib geo ageS ^ 2 := by
  simp only [inScreen, Bool.not_eq_true', decide_eq_false_iff_not, not_lt, sq]
  rfl

/-- Longitudes on the map wrap to the short way round. -/
theorem wrapped_eq (east : |lon| ≤ 180) (east' : |lon'| ≤ 180) :
    |wrapped (lon' - lon)| ≤ 180 ∧ ∃ turns : ℤ, lon' = lon + wrapped (lon' - lon) + turns * 360 := by
  rw [abs_le] at east east' ⊢
  unfold wrapped
  split
  · exact ⟨⟨by linarith, by linarith⟩, 1, by push_cast; ring⟩
  · split
    · exact ⟨⟨by linarith, by linarith⟩, -1, by push_cast; ring⟩
    · exact ⟨⟨by linarith, by linarith⟩, 0, by push_cast; ring⟩

theorem greatCircleKm_triangle (scales : Scales lib) (p q r : ℚ × ℚ) :
    greatCircleKm lib p r ≤ greatCircleKm lib p q + greatCircleKm lib q r := by
  have degree : (0 : ℝ) < lib.kmPerDegLat := by exact_mod_cast scales.degree_pos
  rw [greatCircleKm, greatCircleKm, greatCircleKm, ← mul_add, ← Sphere.degrees_add]
  exact mul_le_mul_of_nonneg_left (Sphere.degrees_le.mpr (Sphere.angle_triangle _ _ _ _ _ _)) degree.le

theorem greatCircleKm_comm (p q : ℚ × ℚ) : greatCircleKm lib p q = greatCircleKm lib q p := by
  rw [greatCircleKm, greatCircleKm, Sphere.angle_comm]

/-- Points on one meridian are no farther than their latitudes. -/
theorem greatCircleKm_meridian_le (scales : Scales lib) (lat lat' lon : ℚ) :
    greatCircleKm lib (lat, lon) (lat', lon) ≤ lib.kmPerDegLat * |(lat' : ℝ) - lat| := by
  have degree : (0 : ℝ) < lib.kmPerDegLat := by exact_mod_cast scales.degree_pos
  refine mul_le_mul_of_nonneg_left ?_ degree.le
  rw [← Sphere.degrees_radians |(lat' : ℝ) - lat|, ← Sphere.abs_radians, Sphere.radians_sub]
  exact Sphere.degrees_le.mpr (Sphere.angle_meridian_le _ _ _)

/-- Points on opposite meridians are no farther than the way over the pole. -/
theorem greatCircleKm_over_pole_le (scales : Scales lib) (lat lat' : ℚ) (opposite : |lon' - lon| = 180) :
    greatCircleKm lib (lat, lon) (lat', lon') ≤ lib.kmPerDegLat * |180 - ((lat : ℝ) + lat')| := by
  have degree : (0 : ℝ) < lib.kmPerDegLat := by exact_mod_cast scales.degree_pos
  have turn : cos (radians lon' - radians lon) = -1 := by
    have half : |(lon' : ℝ) - lon| = 180 := by exact_mod_cast opposite
    rw [← cos_abs, ← Sphere.radians_sub, Sphere.abs_radians, half, Sphere.radians_half, cos_pi]
  refine mul_le_mul_of_nonneg_left ?_ degree.le
  rw [← Sphere.degrees_radians |180 - ((lat : ℝ) + lat')|, ← Sphere.abs_radians, Sphere.radians_sub, Sphere.radians_add,
    Sphere.radians_half]
  exact Sphere.degrees_le.mpr (Sphere.angle_over_pole_le _ _ _ _ turn)

theorem abs_north_le (scales : Scales lib) (valid : OnMap p) (valid' : OnMap q) :
    |((q.1 - p.1) * lib.kmPerDegLat : ℝ)| ≤ greatCircleKm lib p q := by
  have degree : (0 : ℝ) < lib.kmPerDegLat := by exact_mod_cast scales.degree_pos
  rw [abs_mul, abs_of_pos degree, mul_comm, greatCircleKm]
  refine mul_le_mul_of_nonneg_left ?_ degree.le
  rw [← Sphere.degrees_radians |(q.1 : ℝ) - p.1|, ← Sphere.abs_radians, Sphere.radians_sub]
  exact Sphere.degrees_le.mpr (Sphere.abs_sub_le_angle (isLat_of_onMap valid) (isLat_of_onMap valid'))

/-- Short of the poles, the map of the screen makes no distance longer. -/
theorem flat_le_greatCircleKm (scales : Scales lib) (valid : OnMap p) (valid' : OnMap q) {edge : ℚ} (short : edge < 90)
    (reach : |(p.1 : ℝ)| + greatCircleKm lib p q / lib.kmPerDegLat ≤ edge) :
    (wrapped (q.2 - p.2) * lib.kmPerDegLon edge : ℝ) ^ 2 + ((q.1 - p.1) * lib.kmPerDegLat : ℝ) ^ 2 ≤
      greatCircleKm lib p q ^ 2 := by
  have degree : (0 : ℝ) < lib.kmPerDegLat := by exact_mod_cast scales.degree_pos
  obtain ⟨half, turns, whole⟩ := wrapped_eq valid.2 valid'.2
  set w := wrapped (q.2 - p.2)
  have turned : greatCircleKm lib p q =
      lib.kmPerDegLat * degrees (Sphere.angle (radians p.1) (radians p.2) (radians q.1) (radians p.2 + radians w)) := by
    have around : radians q.2 = radians p.2 + radians w + turns * (2 * π) := by
      rw [whole, ← Sphere.radians_turns, mul_comm (360 : ℝ)]
      push_cast
      rw [Sphere.radians_add, Sphere.radians_add]
    rw [greatCircleKm, around, Sphere.angle_turns]
  rw [turned] at reach ⊢
  set angle := Sphere.angle (radians p.1) (radians p.2) (radians q.1) (radians p.2 + radians w)
  have nonneg : 0 ≤ angle := Sphere.angle_nonneg _ _ _ _
  have poleward : |radians p.1| + angle ≤ radians edge := by
    rw [mul_div_cancel_left₀ _ degree.ne'] at reach
    rw [Sphere.abs_radians, ← Sphere.radians_degrees angle, ← Sphere.radians_add]
    exact Sphere.radians_le.mpr reach
  have short_edge : radians edge < π / 2 := by
    rw [← Sphere.radians_quarter, Sphere.radians_lt]
    exact_mod_cast short
  have edge_nonneg : 0 ≤ edge := by
    have pos : (0 : ℝ) ≤ edge := le_trans
      (add_nonneg (abs_nonneg _) (div_nonneg (mul_nonneg degree.le (Sphere.degrees_nonneg nonneg)) degree.le)) reach
    exact_mod_cast pos
  have scale : |(lib.kmPerDegLon edge : ℝ)| / lib.kmPerDegLat ≤ cos (|radians p.1| + angle) := by
    rw [div_le_iff₀' degree]
    refine (scales.parallel edge edge_nonneg short).trans (mul_le_mul_of_nonneg_left ?_ degree.le)
    exact cos_le_cos_of_nonneg_of_le_pi (add_nonneg (abs_nonneg _) nonneg) (by linarith [pi_pos]) poleward
  have half_turn : |radians p.2 + radians w - radians p.2| ≤ π := by
    rw [add_sub_cancel_left, Sphere.abs_radians, ← Sphere.radians_half, Sphere.radians_le]
    exact_mod_cast half
  have flat := Sphere.flat_le_angle (isLat_of_onMap valid) (isLat_of_onMap valid') half_turn (poleward.trans_lt short_edge)
    (by positivity) scale
  rw [add_sub_cancel_left, ← Sphere.radians_sub] at flat
  calc (w * lib.kmPerDegLon edge : ℝ) ^ 2 + ((q.1 - p.1) * lib.kmPerDegLat : ℝ) ^ 2
      = (lib.kmPerDegLat * (180 / π)) ^ 2 * (radians (q.1 - p.1) ^ 2 +
          (|(lib.kmPerDegLon edge : ℝ)| / lib.kmPerDegLat * radians w) ^ 2) := by
        rw [mul_pow (_ / _), div_pow, sq_abs, Sphere.radians_eq, Sphere.radians_eq]
        field_simp
        ring
    _ ≤ (lib.kmPerDegLat * (180 / π)) ^ 2 * angle ^ 2 := mul_le_mul_of_nonneg_left flat (sq_nonneg _)
    _ = (lib.kmPerDegLat * degrees angle) ^ 2 := by
        rw [Sphere.degrees_eq]
        ring

/-- Where the screen reaches over a pole, a distance is within that of the latitudes and half a parallel. -/
theorem flat_le_around (scales : Scales lib) (valid : OnMap p) (valid' : OnMap q) (edge : ℚ) :
    (wrapped (q.2 - p.2) * lib.kmPerDegLon edge : ℝ) ^ 2 + ((q.1 - p.1) * lib.kmPerDegLat : ℝ) ^ 2 ≤
      (greatCircleKm lib p q + 180 * |(lib.kmPerDegLon edge : ℝ)|) ^ 2 := by
  have half : |(wrapped (q.2 - p.2) : ℝ)| ≤ 180 := by exact_mod_cast (wrapped_eq valid.2 valid'.2).1
  have across : |(wrapped (q.2 - p.2) * lib.kmPerDegLon edge : ℝ)| ≤ 180 * |(lib.kmPerDegLon edge : ℝ)| := by
    rw [abs_mul]
    exact mul_le_mul_of_nonneg_right half (abs_nonneg _)
  have north := abs_north_le scales valid valid'
  rw [← sq_abs (wrapped (q.2 - p.2) * lib.kmPerDegLon edge : ℝ), ← sq_abs ((q.1 - p.1) * lib.kmPerDegLat : ℝ)]
  calc |(wrapped (q.2 - p.2) * lib.kmPerDegLon edge : ℝ)| ^ 2 + |((q.1 - p.1) * lib.kmPerDegLat : ℝ)| ^ 2
      ≤ (|((q.1 - p.1) * lib.kmPerDegLat : ℝ)| + |(wrapped (q.2 - p.2) * lib.kmPerDegLon edge : ℝ)|) ^ 2 := by
        rw [add_comm]
        exact pow_add_pow_le (abs_nonneg _) (abs_nonneg _) two_ne_zero
    _ ≤ (greatCircleKm lib p q + 180 * |(lib.kmPerDegLon edge : ℝ)|) ^ 2 := pow_le_pow_left₀ (by positivity) (add_le_add north across) 2

/-- The screen passes what the beam sees of a state within its allowance. -/
theorem inScreen_of_seen (scales : Scales lib) (beam : BeamWithinRadius lib) (node : OnMap (geo.rxLat, geo.rxLon))
    (recent : |st.ageS frameTsS| ≤ lib.adsbSeedMaxDrAgeS) (within : WithinAllowance lib geo frameTsS st)
    (seen : lib.pointInBeam (deadReckoned lib frameTsS st).1 (deadReckoned lib frameTsS st).2 (claimVisibilityGeo geo) = true) :
    inScreen lib geo st (st.ageS frameTsS) = true := by
  have degree : (0 : ℝ) < lib.kmPerDegLat := by exact_mod_cast scales.degree_pos
  have reported : greatCircleKm lib (geo.rxLat, geo.rxLon) (st.lat, st.lon) ≤
      geo.effectiveRadiusKm + screenAllowanceKm lib geo (st.ageS frameTsS) := by
    refine (greatCircleKm_triangle scales _ (deadReckoned lib frameTsS st) _).trans (add_le_add (beam _ _ (claimVisibilityGeo geo) seen) ?_)
    rw [greatCircleKm_comm]
    exact within.drift
  have nonneg : 0 ≤ greatCircleKm lib (geo.rxLat, geo.rxLon) (st.lat, st.lon) :=
    mul_nonneg degree.le (Sphere.degrees_nonneg (Sphere.angle_nonneg _ _ _ _))
  rw [inScreen_iff]
  by_cases short : screenEdgeDeg lib geo < 90
  · have radius : (geo.effectiveRadiusKm : ℝ) + screenAllowanceKm lib geo (st.ageS frameTsS) =
        screenRadiusKm lib geo (st.ageS frameTsS) := by
      rw [screenAllowanceKm, if_pos short, screenRadiusKm]
      push_cast
      ring
    have oldest : screenRadiusKm lib geo (st.ageS frameTsS) ≤
        geo.effectiveRadiusKm * screenMargin + lib.vMaxMs * lib.adsbSeedMaxDrAgeS / 1000 := by
      have carried := mul_le_mul_of_nonneg_left recent scales.speed_nonneg
      rw [screenRadiusKm]
      linarith
    have reach : |(geo.rxLat : ℝ)| + greatCircleKm lib (geo.rxLat, geo.rxLon) (st.lat, st.lon) / lib.kmPerDegLat ≤
        screenEdgeDeg lib geo := by
      have largest : (screenRadiusKm lib geo (st.ageS frameTsS) : ℝ) ≤
        ((geo.effectiveRadiusKm * screenMargin + lib.vMaxMs * lib.adsbSeedMaxDrAgeS / 1000 : ℚ) : ℝ) := by exact_mod_cast oldest
      have parts := div_le_div_of_nonneg_right ((reported.trans_eq radius).trans largest) degree.le
      rw [screenEdgeDeg]
      push_cast at parts ⊢
      linarith
    have flat := (flat_le_greatCircleKm scales node within.on_map short reach).trans
      (pow_le_pow_left₀ nonneg (reported.trans_eq radius) 2)
    exact_mod_cast flat
  · have radius : (geo.effectiveRadiusKm : ℝ) + screenAllowanceKm lib geo (st.ageS frameTsS) +
        180 * |(lib.kmPerDegLon (screenEdgeDeg lib geo) : ℝ)| = screenRadiusKm lib geo (st.ageS frameTsS) := by
      rw [screenAllowanceKm, if_neg short, screenRadiusKm]
      push_cast
      ring
    have around := (flat_le_around scales node within.on_map (screenEdgeDeg lib geo)).trans
      (pow_le_pow_left₀ (by positivity) ((add_le_add_left reported _).trans_eq radius) 2)
    exact_mod_cast around

/-- Within its allowance, a state is the candidate that it is without the screen. -/
theorem candidate_eq_unscreened (scales : Scales lib) (beam : BeamWithinRadius lib) (node : OnMap (geo.rxLat, geo.rxLon))
    (within : Admitted lib frameTsS nodeWorld st → WithinAllowance lib geo frameTsS st) :
    candidate lib geo frameTsS nodeWorld hexn st = unscreenedCandidate lib geo frameTsS nodeWorld hexn st := by
  unfold candidate unscreenedCandidate
  split
  · rfl
  · rename_i ours
    split
    · rfl
    · rename_i recent
      have admitted : Admitted lib frameTsS nodeWorld st := ⟨by simpa using ours, not_lt.mp recent⟩
      by_cases seen : lib.pointInBeam (deadReckoned lib frameTsS st).1 (deadReckoned lib frameTsS st).2 (claimVisibilityGeo geo) = true
      · rw [if_neg]
        simp [inScreen_of_seen scales beam node admitted.2 (within admitted) seen]
      · have out : lib.pointInBeam (predicted lib geo frameTsS hexn st).drLat (predicted lib geo frameTsS hexn st).drLon
            (claimVisibilityGeo geo) = false := by simpa [predicted, deadReckoned] using seen
        simp only [out, Bool.not_false, if_true, ite_self]

end

/-- Where every state that a frame is offered keeps within the allowance, the frame comes to what it
comes to without the screen. -/
theorem claimKnownTargets_eq_unscreened (lib : Externals γ) (cfg : ClaimSettings) (scene : Scene γ) (nodeId : String)
    (frame : Frame) (followClaimed : Option (Finset Nat)) (stores : ClaimStores)
    (scales : Scales lib) (beam : BeamWithinRadius lib)
    (within : ∀ geo, scene.geometry = some geo → OnMap (geo.rxLat, geo.rxLon) ∧
      ∀ item ∈ offeredTo lib cfg scene nodeId (moment scene geo frame) frame stores,
        Admitted lib (frameTsS frame) scene.nodeWorld item.2 → WithinAllowance lib geo (frameTsS frame) item.2) :
    claimKnownTargets lib cfg scene nodeId frame followClaimed stores =
      claimKnownTargetsBy lib cfg scene nodeId (unscreenedCandidate lib) frame followClaimed stores := by
  rw [← claimKnownTargetsBy_candidate]
  unfold claimKnownTargetsBy
  cases placed : scene.geometry with
  | none => rfl
  | some geo =>
    obtain ⟨node, near⟩ := within geo placed
    have same : claimFrameBy lib cfg scene nodeId (candidate lib) (moment scene geo frame) frame followClaimed stores =
        claimFrameBy lib cfg scene nodeId (unscreenedCandidate lib) (moment scene geo frame) frame followClaimed stores :=
      claimFrameBy_congr _ fun item listed => candidate_eq_unscreened scales beam node (near item listed)
    simp only [same]

/-! ### A node's own meridian -/

/-- A beam along the node's meridian, both ways and over the poles. Longitudes have a scale that is short of
the cosine's before the pole, and the cosine's tangent from there. -/
def meridianSky : Externals Unit where
  predictObservation _ _ _ _ _ _ _ := (20, 0)
  pointInBeam lat lon geo := decide ((lon = geo.rxLon ∧ 111195 / 1000 * |lat - geo.rxLat| ≤ geo.effectiveRadiusKm) ∨
    (|lon - geo.rxLon| = 180 ∧ 111195 / 1000 * |180 - (geo.rxLat + lat)| ≤ geo.effectiveRadiusKm))
  offsetLatlonM lat lon _ northM := (lat + northM / 111195, lon)
  kmPerDegLat := 111195 / 1000
  kmPerDegLon lat := if lat < 90 then 111195 / 1000 * max 0 (1 - (lat * (11 / 630)) ^ 2 / 2)
    else 111195 / 1000 * ((90 - lat) * (11 / 630))
  claimEligible _ _ := true
  adsbSeedDelayGateUs := 10
  adsbSeedDopplerGateHz := 25
  adsbSeedMaxDrAgeS := 45
  claimDelayGateUs := 10
  claimDopplerGateHz := 25
  claimMaxDrAgeS := 30
  claimMaxGlobalTracks := 200
  vMaxMs := 340
  linearSumAssignment m n _ := Assignment.Matching.diagonal m n
  trig := ⟨fun _ => 0, fun _ => 1⟩
  hypot _ _ := 0
  atan2Deg _ _ := 0

theorem meridianSky_scales : Scales meridianSky where
  degree_pos := by norm_num [meridianSky]
  speed_nonneg := by norm_num [meridianSky]
  parallel lat nonneg short := by
    have north : (0 : ℝ) ≤ lat := by exact_mod_cast nonneg
    have below : (lat : ℝ) < 90 := by exact_mod_cast short
    have quarter : radians lat ≤ π / 2 := by
      rw [← Sphere.radians_quarter, Sphere.radians_le]
      exact below.le
    have wider : radians lat ≤ lat * (11 / 630) := by
      rw [Sphere.radians_eq]
      exact mul_le_mul_of_nonneg_left (by linarith [pi_lt_d4]) north
    have from_zero : 0 ≤ radians lat := mul_nonneg north (by positivity)
    have least : max 0 (1 - ((lat : ℝ) * (11 / 630)) ^ 2 / 2) ≤ cos (radians lat) := by
      refine max_le (cos_nonneg_of_neg_pi_div_two_le_of_le (by linarith [pi_pos]) quarter) ?_
      linarith [one_sub_sq_div_two_le_cos (x := radians lat), pow_le_pow_left₀ from_zero wider 2]
    simp only [meridianSky, if_pos short]
    push_cast
    rw [abs_of_nonneg (mul_nonneg (by norm_num) (le_max_left _ _))]
    exact mul_le_mul_of_nonneg_left least (by norm_num)

theorem meridianSky_beam : BeamWithinRadius meridianSky := by
  intro lat lon geo seen
  simp only [meridianSky, decide_eq_true_eq] at seen
  rcases seen with ⟨rfl, near⟩ | ⟨opposite, near⟩
  · refine (greatCircleKm_meridian_le meridianSky_scales geo.rxLat lat geo.rxLon).trans ?_
    exact_mod_cast near
  · refine (greatCircleKm_over_pole_le meridianSky_scales geo.rxLat lat opposite).trans ?_
    exact_mod_cast near

def northbound (lat lon velNorth : ℚ) (lastSeenMs : ℤ) : AdsbRecord where
  hex := "abc123"
  flight := ""
  lat := lat
  lon := lon
  altBaro := .num 10000
  gs := .num (|velNorth| * 3600 / 1852)
  track := .num (if velNorth < 0 then 180 else 0)
  lastSeenMs := lastSeenMs
  recvMs := none
  world := some .real
  altM := 3048
  velEast := 0
  velNorth := velNorth

/-- A node on the tenth meridian that sees fifty kilometres far, and one aircraft in the cache. -/
def meridianScene (rxLat : ℚ) (fix : AdsbRecord) : Scene Unit where
  geometry := some ⟨rxLat, 10, 100000000, 50, none, ()⟩
  config := ⟨some rxLat, some 10, some rxLat, some 11⟩
  nodeWorld := .real
  polled := .empty
  adsbAircraft := Dict.empty.insert "abc123" fix
  multinodeTracks := .empty
  learnedVelocity _ := none
  followTargets := .empty
  darkFollowMode := .off
  nowS := 1000

def meridianEcho : Frame := ⟨some [20], some [0], none, none, some 1000000⟩

/-- An aircraft that comes in at the greatest speed, from where it was reported to in the beam, is claimed. -/
theorem inbound_claimed :
    (claimKnownTargets meridianSky {} (meridianScene 1 (northbound (158 / 100) 10 (-340) 955000)) "node-1" meridianEcho
      (some ∅) .empty).verdict = .ok ({0}, ∅) ∧
    claimKnownTargets meridianSky {} (meridianScene 1 (northbound (158 / 100) 10 (-340) 955000)) "node-1" meridianEcho
        (some ∅) .empty =
      claimKnownTargetsBy meridianSky {} (meridianScene 1 (northbound (158 / 100) 10 (-340) 955000)) "node-1"
        (unscreenedCandidate meridianSky) meridianEcho (some ∅) .empty := by
  have listed (geo : NodeGeometry Unit) (placed : geo = ⟨1, 10, 100000000, 50, none, ()⟩) :
      offeredTo meridianSky {} (meridianScene 1 (northbound (158 / 100) 10 (-340) 955000)) "node-1"
        (moment (meridianScene 1 (northbound (158 / 100) 10 (-340) 955000)) geo meridianEcho) meridianEcho .empty =
      [("abc123", .ofRecord (northbound (158 / 100) 10 (-340) 955000))] := by
    subst placed
    decide +kernel
  refine ⟨by decide +kernel, claimKnownTargets_eq_unscreened _ _ _ _ _ _ _ meridianSky_scales meridianSky_beam ?_⟩
  intro geo placed
  have same : geo = ⟨1, 10, 100000000, 50, none, ()⟩ := (Option.some.inj placed).symm
  rw [listed geo same]
  subst same
  refine ⟨by norm_num [OnMap], ?_⟩
  intro item member _
  rw [List.mem_singleton.mp member]
  refine ⟨by norm_num [OnMap, CandState.ofRecord, northbound], ?_⟩
  have found : deadReckoned meridianSky (frameTsS meridianEcho) (.ofRecord (northbound (158 / 100) 10 (-340) 955000)) =
      (158 / 100 - 15300 / 111195, 10) := by decide +kernel
  have allowed : screenAllowanceKm meridianSky ⟨1, 10, 100000000, 50, none, ()⟩
      ((CandState.ofRecord (northbound (158 / 100) 10 (-340) 955000)).ageS (frameTsS meridianEcho)) = 163 / 10 := by decide +kernel
  rw [found, allowed]
  refine (greatCircleKm_meridian_le meridianSky_scales _ _ _).trans ?_
  norm_num [meridianSky, CandState.ofRecord, northbound]

/-- A faster one is in the beam and out of the screen, and so is one that hovers on the far side of the pole. -/
theorem screen_drops_seen : Scales meridianSky ∧ BeamWithinRadius meridianSky ∧
    ∀ scene ∈ [meridianScene 1 (northbound (161 / 100) 10 (-400) 955000),
        meridianScene (899 / 10) (northbound (899 / 10) (-170) 0 1000000)],
      (claimKnownTargets meridianSky {} scene "node-1" meridianEcho (some ∅) .empty).verdict = .ok (∅, ∅) ∧
        (claimKnownTargetsBy meridianSky {} scene "node-1" (unscreenedCandidate meridianSky) meridianEcho (some ∅) .empty).verdict =
          .ok ({0}, ∅) := by
  refine ⟨meridianSky_scales, meridianSky_beam, ?_⟩
  decide +kernel

end Retina.Known
