import RetinaServer.Library.Kalman
import RetinaServer.Library.Runs
import RetinaServer.Multinode.TrackFilter
import Mathlib.Algebra.Order.Star.Real
import Mathlib.Analysis.Complex.Exponential
import Mathlib.Analysis.Real.Sqrt

/-! The display filter over any ordered field, with the innovation covariances
that a solve inverts. At the rationals it is the filter the publication runs;
at the reals its covariances stay valid along every run of solves. -/
namespace Retina.Multinode.Exact
open Matrix

-- The plane's two, by name: the numerals below then all rest on the same proof.
local instance neZero_two : NeZero 2 := ⟨two_ne_zero⟩
local instance atLeastTwo_two : Nat.AtLeastTwo 2 := ⟨le_rfl⟩

structure Functions (K : Type*) where
  sqrt : K → K
  exp : K → K
  kmPerDegLon : K → K
  mPerDegLat : K

/-- The filter's tunables, with the source's defaults. -/
structure Settings (K : Type*) [Field K] where
  sigmaA : K := 3 / 2
  sigmaAManoeuvre : K := 800
  manoeuvreD2 : K := 2
  manoeuvreTauS : K := 15
  defaultPosSigmaM : K := 1200
  n2PosSigmaM : K := 2500
  rInflate : K := 4
  velSigmaSolveMs : K := 150

/-- One solve as the filter reads it, with the transponder's velocity where a live one was found. -/
structure Fix (K : Type*) where
  lat : K
  lon : K
  timestampMs : K
  nNodes : Nat
  adsbHex : Option String
  velEast : Option K
  velNorth : Option K
  covEnKm2 : Option (Matrix (Fin 2) (Fin 2) K)
  adsbVel : Option (K × K)

/-- One key's filter, as `Multinode.TrackKF` is. -/
structure TrackKF (K : Type*) where
  refLat : K
  refLon : K
  x : Fin 4 → K
  P : Matrix (Fin 4) (Fin 4) K
  lastTsS : K
  manoeuvre : K

structure Store (K : Type*) where
  tracks : Dict String (TrackKF K)
  lastSweep : K

structure Correction (K : Type*) where
  x : Fin 4 → K
  P : Matrix (Fin 4) (Fin 4) K
  innovation : Fin 2 → K
  S : Matrix (Fin 2) (Fin 2) K

structure Update (K : Type*) where
  x : Fin 4 → K
  P : Matrix (Fin 4) (Fin 4) K
  d2 : K
  S : Matrix (Fin 2) (Fin 2) K

section
variable {K : Type*} [Field K] [LinearOrder K]

def minPosSigmaM : K := 500
def maxPosSigmaM : K := 8000
def velSigmaAdsbMs : K := 5
def maxGapS : K := 160
def gateChi2 : K := 69 / 5
def ttlS : K := 600

def Fix.tsS (fix : Fix K) : K := fix.timestampMs / 1000

def hPos : Matrix (Fin 2) (Fin 4) K := !![1, 0, 0, 0; 0, 0, 1, 0]
def hVel : Matrix (Fin 2) (Fin 4) K := !![0, 1, 0, 0; 0, 0, 0, 1]

def transitionF (dt : K) : Matrix (Fin 4) (Fin 4) K :=
  !![1, dt, 0, 0; 0, 1, 0, 0; 0, 0, 1, dt; 0, 0, 0, 1]

def processQ (dt sigmaA : K) : Matrix (Fin 4) (Fin 4) K :=
  sigmaA • !![dt ^ 3 / 3, dt ^ 2 / 2, 0, 0; dt ^ 2 / 2, dt, 0, 0;
    0, 0, dt ^ 3 / 3, dt ^ 2 / 2; 0, 0, dt ^ 2 / 2, dt]

def inv2 (s : Matrix (Fin 2) (Fin 2) K) : Matrix (Fin 2) (Fin 2) K :=
  (1 / (s 0 0 * s 1 1 - s 0 1 * s 1 0)) • !![s 1 1, -s 0 1; -s 1 0, s 0 0]

/-- One measurement update, with the gain that the inverted covariance `S` gives. -/
def kfCorrect (x : Fin 4 → K) (P : Matrix (Fin 4) (Fin 4) K) (z : Fin 2 → K)
    (h : Matrix (Fin 2) (Fin 4) K) (r : Matrix (Fin 2) (Fin 2) K) : Correction K :=
  let y := z - h *ᵥ x
  let s := Kalman.innovationCov h P r
  let k := P * hᵀ * inv2 s
  { x := x + k *ᵥ y
    P := Kalman.symmetrize (Kalman.joseph h P r k)
    innovation := y
    S := s }

variable (F : Functions K) (kf : Settings K)

def basePosSigmaM (fix : Fix K) : K :=
  if fix.nNodes ≠ 2 ∨ fix.adsbHex.any Solver.isTransponderHex then kf.defaultPosSigmaM else kf.n2PosSigmaM

/-- The formal covariance when it is semidefinite, inflated, over the floor. -/
def composedR (fix : Fix K) : Matrix (Fin 2) (Fin 2) K :=
  let base := basePosSigmaM kf fix ^ 2 • (1 : Matrix (Fin 2) (Fin 2) K)
  match fix.covEnKm2 with
  | none => base
  | some cov =>
      let arr := Kalman.symmetrize ((1000000 : K) • cov)
      if 0 < arr 0 0 ∧ 0 < arr 1 1 ∧ 0 ≤ arr 0 0 * arr 1 1 - arr 0 1 * arr 1 0
      then kf.rInflate ^ 2 • arr + base
      else base

/-- A covariance of sigma `s`, scaled back into the band the source allows. -/
def clampR (s : K) (r : Matrix (Fin 2) (Fin 2) K) : Matrix (Fin 2) (Fin 2) K :=
  if s < minPosSigmaM then (minPosSigmaM / s) ^ 2 • r
  else if maxPosSigmaM < s then (maxPosSigmaM / s) ^ 2 • r
  else r

def measurementR (fix : Fix K) : Matrix (Fin 2) (Fin 2) K :=
  let r := composedR kf fix
  clampR (F.sqrt (1 / 2 * (r 0 0 + r 1 1))) r

def initEntry (fix : Fix K) (r : Matrix (Fin 2) (Fin 2) K) : TrackKF K :=
  let (ve, vn) := fix.adsbVel.getD (fix.velEast.getD 0, fix.velNorth.getD 0)
  let pVel := if fix.adsbVel.isSome then velSigmaAdsbMs ^ 2 else kf.velSigmaSolveMs ^ 2
  { refLat := fix.lat
    refLon := fix.lon
    x := ![0, ve, 0, vn]
    P := !![r 0 0, 0, r 0 1, 0; 0, pVel, 0, 0; r 1 0, 0, r 1 1, 0; 0, 0, 0, pVel]
    lastTsS := fix.tsS
    manoeuvre := 0 }

def enuOffsetM (refLat refLon lat lon : K) : K × K :=
  ((lon - refLon) * F.kmPerDegLon refLat * 1000, (lat - refLat) * F.mPerDegLat)

def entrySigmaA (entry : TrackKF K) : K :=
  if kf.sigmaAManoeuvre ≤ kf.sigmaA ∨ kf.manoeuvreD2 ≤ 0 then kf.sigmaA
  else kf.sigmaA + entry.manoeuvre * (kf.sigmaAManoeuvre - kf.sigmaA)

def updateManoeuvre (entry : TrackKF K) (dt d2 : K) : K :=
  let decayed := if 0 < kf.manoeuvreTauS then entry.manoeuvre * F.exp (-dt / kf.manoeuvreTauS) else 0
  let trigger := if 0 < kf.manoeuvreD2 ∧ kf.manoeuvreD2 < d2
    then min 1 ((d2 - kf.manoeuvreD2) / kf.manoeuvreD2) else 0
  max decayed trigger

def predictUpdate (entry : TrackKF K) (dt : K) (z : Fin 2 → K) (r : Matrix (Fin 2) (Fin 2) K) (sigmaA : K) :
    Update K :=
  let predicted := Kalman.symmetrize (Kalman.predictCov (transitionF dt) entry.P (processQ dt sigmaA))
  let c := kfCorrect (transitionF dt *ᵥ entry.x) predicted z hPos r
  ⟨c.x, c.P, c.innovation ⬝ᵥ (inv2 c.S *ᵥ c.innovation), c.S⟩

/-- The entry after an accepted update, with the velocity measured too where a
transponder gives one, and the innovation covariance which that inverts. -/
def settle (fix : Fix K) (entry : TrackKF K) (taken : Update K) (manoeuvre : K) :
    TrackKF K × List (Matrix (Fin 2) (Fin 2) K) :=
  match fix.adsbVel with
  | none => ({ entry with x := taken.x, P := taken.P, lastTsS := fix.tsS, manoeuvre }, [])
  | some (ve, vn) =>
      let c := kfCorrect taken.x taken.P ![ve, vn] hVel ((velSigmaAdsbMs : K) ^ 2 • 1)
      ({ entry with x := c.x, P := c.P, lastTsS := fix.tsS, manoeuvre }, [c.S])

/-- What one solve makes of its key's filter, and the covariances it inverts, in order. -/
def kfStep (fix : Fix K) (held : Option (TrackKF K)) : TrackKF K × List (Matrix (Fin 2) (Fin 2) K) :=
  let r := measurementR F kf fix
  let fresh := initEntry kf fix r
  match held with
  | none => (fresh, [])
  | some entry =>
      let dt := fix.tsS - entry.lastTsS
      if dt ≤ 0 then (entry, [])
      else if maxGapS < dt then (fresh, [])
      else
        let z := enuOffsetM F entry.refLat entry.refLon fix.lat fix.lon
        let first := predictUpdate entry dt ![z.1, z.2] r (entrySigmaA kf entry)
        let manoeuvre := updateManoeuvre F kf entry dt first.d2
        if first.d2 ≤ gateChi2 then
          let (updated, inverted) := settle fix entry first manoeuvre
          (updated, first.S :: inverted)
        else
          let again := predictUpdate entry dt ![z.1, z.2] r kf.sigmaAManoeuvre
          if again.d2 ≤ gateChi2 ∧ kf.sigmaA < kf.sigmaAManoeuvre then
            let (updated, inverted) := settle fix entry again manoeuvre
            (updated, first.S :: again.S :: inverted)
          else (fresh, [first.S, again.S])

def sweep (nowS : K) (store : Store K) : Store K :=
  if nowS - store.lastSweep < ttlS / 10 then store
  else ⟨store.tracks.filter fun _ entry => decide (nowS - entry.lastTsS ≤ ttlS), nowS⟩

inductive Event (K : Type*) where
  | smoothKf (trackKey : String) (fix : Fix K)
  | dropKey (trackKey : String)

def Store.start : Store K := ⟨Dict.empty, 0⟩

/-- What the solve of an event makes of its key's filter. -/
def solved (store : Store K) (trackKey : String) (fix : Fix K) : TrackKF K × List (Matrix (Fin 2) (Fin 2) K) :=
  kfStep F kf fix ((sweep fix.tsS store).tracks.get? trackKey)

def step (store : Store K) : Event K → Store K
  | .smoothKf trackKey fix =>
      let swept := sweep fix.tsS store
      { swept with tracks := swept.tracks.insert trackKey (solved F kf store trackKey fix).1 }
  | .dropKey trackKey => { store with tracks := store.tracks.erase trackKey }

/-- The innovation covariances that an event inverts. -/
def inverted (store : Store K) : Event K → List (Matrix (Fin 2) (Fin 2) K)
  | .smoothKf trackKey fix => (solved F kf store trackKey fix).2
  | .dropKey _ => []

end
/-! ### At the rationals -/

section
variable (env : SmootherEnv)

def rationalFunctions : Functions ℚ :=
  ⟨env.libm.sqrt, env.libm.exp, env.geodesy.kmPerDegLon, env.geodesy.mPerDegLat⟩

def rationalSettings (kf : KfSettings) : Settings ℚ :=
  ⟨kf.sigmaA, kf.sigmaAManoeuvre, kf.manoeuvreD2, kf.manoeuvreTauS, kf.defaultPosSigmaM, kf.n2PosSigmaM, kf.rInflate,
    kf.velSigmaSolveMs⟩

/-- A solve as the filter reads it. -/
def fixOf (result : Solve) (adsbHex : Option String) (fix : Option AdsbFix) : Fix ℚ where
  lat := result.lat
  lon := result.lon
  timestampMs := result.timestampMs
  nNodes := result.nNodes
  adsbHex := adsbHex
  velEast := result.velEast
  velNorth := result.velNorth
  covEnKm2 := result.covEnKm2.map fun cov => !![cov.ee, cov.en; cov.ne, cov.nn]
  adsbVel := adsbVelocity env fix result.timestampMs

def entryOf (entry : Multinode.TrackKF) : TrackKF ℚ :=
  ⟨entry.refLat, entry.refLon, entry.x, entry.P, entry.lastTsS, entry.manoeuvre⟩

theorem basePosSigmaM_rational (result : Solve) (adsbHex : Option String) (fix : Option AdsbFix) :
    basePosSigmaM (rationalSettings env.kf) (fixOf env result adsbHex fix) =
      Multinode.basePosSigmaM env result adsbHex := rfl

theorem symmetrize_rational (P : Matrix (Fin n) (Fin n) ℚ) : Kalman.symmetrize P = Multinode.symmetrize P := rfl

theorem measurementR_rational (result : Solve) (adsbHex : Option String) (fix : Option AdsbFix) :
    measurementR (rationalFunctions env) (rationalSettings env.kf) (fixOf env result adsbHex fix) =
      Multinode.measurementR env result adsbHex := by
  unfold measurementR composedR Multinode.measurementR
  rw [basePosSigmaM_rational]
  cases cov : result.covEnKm2 with
  | none =>
    simp only [fixOf, cov, Option.map]
    rfl
  | some formal =>
    simp only [fixOf, cov, Option.map, symmetrize_rational]
    rfl

theorem predictUpdate_rational (entry : Multinode.TrackKF) (dt : ℚ) (z : Fin 2 → ℚ)
    (r : Matrix (Fin 2) (Fin 2) ℚ) (sigmaA : ℚ) :
    ∃ s, predictUpdate (entryOf entry) dt z r sigmaA = ⟨(Multinode.predictUpdate env entry dt z r sigmaA).x,
      (Multinode.predictUpdate env entry dt z r sigmaA).P, (Multinode.predictUpdate env entry dt z r sigmaA).d2, s⟩ :=
  ⟨_, rfl⟩

theorem settle_rational (result : Solve) (adsbHex : Option String) (fix : Option AdsbFix)
    (entry : Multinode.TrackKF) (taken : Multinode.Update) (s : Matrix (Fin 2) (Fin 2) ℚ) (manoeuvre : ℚ) :
    (settle (fixOf env result adsbHex fix) (entryOf entry) ⟨taken.x, taken.P, taken.d2, s⟩ manoeuvre).1 =
      entryOf (match (match adsbVelocity env fix result.timestampMs with
        | none => (taken.x, taken.P)
        | some (ve, vn) =>
            let c := Multinode.kfCorrect taken.x taken.P ![ve, vn] Multinode.hVel (kfVelSigmaAdsbMs ^ 2 • 1)
            (c.x, c.P)) with
        | (x, P) => { entry with x, P, lastTsS := result.tsS, manoeuvre }) := by
  unfold settle
  cases vel : adsbVelocity env fix result.timestampMs <;> simp only [fixOf, vel] <;> rfl

/-- The publication's filter is this one at the rationals. -/
theorem kfStep_rational (result : Solve) (adsbHex : Option String) (fix : Option AdsbFix)
    (held : Option Multinode.TrackKF) :
    (kfStep (rationalFunctions env) (rationalSettings env.kf) (fixOf env result adsbHex fix) (held.map entryOf)).1 =
      entryOf (Multinode.kfStep env result adsbHex fix held).2 := by
  cases held with
  | none =>
    simp only [kfStep, Multinode.kfStep, Option.map, measurementR_rational]
    rfl
  | some entry =>
    simp only [kfStep, Multinode.kfStep, gatedUpdate, Option.map, measurementR_rational]
    generalize Multinode.measurementR env result adsbHex = r
    have epoch : (fixOf env result adsbHex fix).tsS - (entryOf entry).lastTsS = result.tsS - entry.lastTsS := rfl
    have offset : enuOffsetM (rationalFunctions env) (entryOf entry).refLat (entryOf entry).refLon
      (fixOf env result adsbHex fix).lat (fixOf env result adsbHex fix).lon =
        Multinode.enuOffsetM env entry.refLat entry.refLon result.lat result.lon := rfl
    have base : entrySigmaA (rationalSettings env.kf) (entryOf entry) = Multinode.entrySigmaA env entry := rfl
    rw [epoch, offset, base]
    generalize Multinode.enuOffsetM env entry.refLat entry.refLon result.lat result.lon = z
    by_cases late : result.tsS - entry.lastTsS ≤ 0
    · rw [if_pos late, if_pos late]
    · rw [if_neg late, if_neg late]
      by_cases gap : kfMaxGapS < result.tsS - entry.lastTsS
      · rw [if_pos gap, if_pos (show maxGapS < result.tsS - entry.lastTsS from gap)]
        rfl
      · rw [if_neg gap, if_neg (show ¬ maxGapS < result.tsS - entry.lastTsS from gap)]
        generalize result.tsS - entry.lastTsS = dt
        obtain ⟨s, first⟩ := predictUpdate_rational env entry dt ![z.1, z.2] r (Multinode.entrySigmaA env entry)
        obtain ⟨s', again⟩ := predictUpdate_rational env entry dt ![z.1, z.2] r env.kf.sigmaAManoeuvre
        have retried : predictUpdate (entryOf entry) dt ![z.1, z.2] r (rationalSettings env.kf).sigmaAManoeuvre = _ := again
        rw [first, retried]
        generalize Multinode.predictUpdate env entry dt ![z.1, z.2] r (Multinode.entrySigmaA env entry) = first
        generalize Multinode.predictUpdate env entry dt ![z.1, z.2] r env.kf.sigmaAManoeuvre = again
        by_cases inGate : first.d2 ≤ kfGateChi2
        · rw [if_pos inGate, if_pos (show first.d2 ≤ gateChi2 from inGate)]
          exact settle_rational env result adsbHex fix entry first s _
        · rw [if_neg inGate, if_neg (show ¬ first.d2 ≤ gateChi2 from inGate)]
          by_cases rescued : again.d2 ≤ kfGateChi2 ∧ env.kf.sigmaA < env.kf.sigmaAManoeuvre
          · rw [if_pos rescued, if_pos (show again.d2 ≤ gateChi2 ∧
              (rationalSettings env.kf).sigmaA < (rationalSettings env.kf).sigmaAManoeuvre from rescued)]
            exact settle_rational env result adsbHex fix entry again s' _
          · rw [if_neg rescued, if_neg (show ¬ (again.d2 ≤ gateChi2 ∧
              (rationalSettings env.kf).sigmaA < (rationalSettings env.kf).sigmaAManoeuvre) from rescued)]
            rfl

end

/-! ### Over the reals -/

/-- Tunables under which the noises are noises: the floors are not zero and no process noise is negative. -/
structure NoiseSettings extends Settings ℝ where
  sigmaA_nonneg : 0 ≤ sigmaA := by norm_num
  sigmaAManoeuvre_nonneg : 0 ≤ sigmaAManoeuvre := by norm_num
  defaultPosSigmaM_ne : defaultPosSigmaM ≠ 0 := by norm_num
  n2PosSigmaM_ne : n2PosSigmaM ≠ 0 := by norm_num

/-- The source's tunables are such. -/
noncomputable def NoiseSettings.shipped : NoiseSettings := {}

noncomputable def realFunctions (kmPerDegLon : ℝ → ℝ) (mPerDegLat : ℝ) : Functions ℝ :=
  ⟨Real.sqrt, Real.exp, kmPerDegLon, mPerDegLat⟩

structure Valid (entry : TrackKF ℝ) : Prop where
  P : entry.P.PosSemidef
  manoeuvre : 0 ≤ entry.manoeuvre

section
variable (kmPerDegLon : ℝ → ℝ) (mPerDegLat : ℝ) (kf : NoiseSettings)

theorem basePosSigmaM_ne (fix : Fix ℝ) : basePosSigmaM kf.toSettings fix ≠ 0 := by
  unfold basePosSigmaM
  split
  · exact kf.defaultPosSigmaM_ne
  · exact kf.n2PosSigmaM_ne

theorem smul_one_posDef {a : ℝ} (positive : 0 < a) : (a • (1 : Matrix (Fin 2) (Fin 2) ℝ)).PosDef :=
  PosDef.one.smul positive

/-- The floor is definite, and what is added to it has passed for semidefinite. -/
theorem composedR_posDef (fix : Fix ℝ) : (composedR kf.toSettings fix).PosDef := by
  have base : (basePosSigmaM kf.toSettings fix ^ 2 • (1 : Matrix (Fin 2) (Fin 2) ℝ)).PosDef :=
    smul_one_posDef (sq_pos_of_ne_zero (basePosSigmaM_ne kf fix))
  unfold composedR
  cases fix.covEnKm2 with
  | none => exact base
  | some cov =>
    simp only
    split
    · rename_i semidefinite
      obtain ⟨east, -, det⟩ := semidefinite
      have formal : (Kalman.symmetrize ((1000000 : ℝ) • cov)).PosSemidef :=
        Kalman.posSemidef_of_two (Kalman.symmetrize_isSymm _) east det
      exact base.posSemidef_add (formal.smul (sq_nonneg _))
    · exact base

theorem clampR_posDef {s : ℝ} {r : Matrix (Fin 2) (Fin 2) ℝ} (sigma : 0 < s) (definite : r.PosDef) :
    (clampR s r).PosDef := by
  have scaled : ∀ bound : ℝ, 0 < bound → ((bound / s) ^ 2 • r).PosDef :=
    fun bound positive => definite.smul (by positivity)
  unfold clampR
  split
  · exact scaled _ (by norm_num [minPosSigmaM])
  · split
    · exact scaled _ (by norm_num [maxPosSigmaM])
    · exact definite

/-- The clamp scales by a positive factor, the diagonal of a definite matrix being positive. -/
theorem measurementR_posDef (fix : Fix ℝ) :
    (measurementR (realFunctions kmPerDegLon mPerDegLat) kf.toSettings fix).PosDef := by
  have definite := composedR_posDef kf fix
  have east : 0 < composedR kf.toSettings fix 0 0 := definite.diag_pos
  have north : 0 < composedR kf.toSettings fix 1 1 := definite.diag_pos
  exact clampR_posDef (Real.sqrt_pos.mpr (by positivity)) definite

theorem velocityR_posDef : ((velSigmaAdsbMs : ℝ) ^ 2 • (1 : Matrix (Fin 2) (Fin 2) ℝ)).PosDef :=
  smul_one_posDef (by norm_num [velSigmaAdsbMs])

/-- The seed puts the measurement's covariance on the position and a multiple of the identity on the velocity. -/
theorem initEntry_valid {r : Matrix (Fin 2) (Fin 2) ℝ} (definite : r.PosDef) (fix : Fix ℝ) :
    Valid (initEntry kf.toSettings fix r) := by
  refine ⟨?_, le_rfl⟩
  have variance : 0 ≤ if fix.adsbVel.isSome then (velSigmaAdsbMs : ℝ) ^ 2 else kf.velSigmaSolveMs ^ 2 := by
    split <;> positivity
  have parts : (initEntry kf.toSettings fix r).P =
      (hPos : Matrix (Fin 2) (Fin 4) ℝ)ᵀ * r * (hPos : Matrix (Fin 2) (Fin 4) ℝ)ᵀᵀ +
      (hVel : Matrix (Fin 2) (Fin 4) ℝ)ᵀ *
        ((if fix.adsbVel.isSome then (velSigmaAdsbMs : ℝ) ^ 2 else kf.velSigmaSolveMs ^ 2) •
          (1 : Matrix (Fin 2) (Fin 2) ℝ)) * (hVel : Matrix (Fin 2) (Fin 4) ℝ)ᵀᵀ := by
    simp only [initEntry]
    generalize (if fix.adsbVel.isSome then (velSigmaAdsbMs : ℝ) ^ 2 else kf.velSigmaSolveMs ^ 2) = pVel
    ext i j
    fin_cases i <;> fin_cases j <;> simp [hPos, hVel, Matrix.mul_apply, Fin.sum_univ_two]
  rw [parts]
  exact (Kalman.congruence_posSemidef definite.posSemidef _).add
    (Kalman.congruence_posSemidef (PosSemidef.one.smul variance) _)

theorem entrySigmaA_nonneg {entry : TrackKF ℝ} (valid : Valid entry) : 0 ≤ entrySigmaA kf.toSettings entry := by
  unfold entrySigmaA
  split
  · exact kf.sigmaA_nonneg
  · rename_i adaptive
    have above : kf.sigmaA < kf.sigmaAManoeuvre := not_le.mp (not_or.mp adaptive).1
    have engaged := mul_nonneg valid.manoeuvre (sub_nonneg.mpr above.le)
    exact add_nonneg kf.sigmaA_nonneg engaged

theorem updateManoeuvre_nonneg (F : Functions ℝ) (kf : Settings ℝ) (entry : TrackKF ℝ) (dt d2 : ℝ) :
    0 ≤ updateManoeuvre F kf entry dt d2 := by
  unfold updateManoeuvre
  refine le_max_of_le_right ?_
  split
  · rename_i surprised
    exact le_min zero_le_one (div_nonneg (sub_nonneg.mpr surprised.2.le) surprised.1.le)
  · exact le_rfl

/-- On each axis the noise is that of a velocity and its integral, so it is the
same two by two block on both. -/
theorem processQ_posSemidef {dt sigmaA : ℝ} (elapsed : 0 < dt) (noise : 0 ≤ sigmaA) :
    (processQ dt sigmaA).PosSemidef := by
  have block : (!![dt ^ 3 / 3, dt ^ 2 / 2; dt ^ 2 / 2, dt] : Matrix (Fin 2) (Fin 2) ℝ).PosSemidef := by
    refine Kalman.posSemidef_two (by positivity) ?_
    have det : dt ^ 3 / 3 * dt - dt ^ 2 / 2 * (dt ^ 2 / 2) = dt ^ 4 / 12 := by ring
    rw [det]
    positivity
  let east : Matrix (Fin 4) (Fin 2) ℝ := !![1, 0; 0, 1; 0, 0; 0, 0]
  let north : Matrix (Fin 4) (Fin 2) ℝ := !![0, 0; 0, 0; 1, 0; 0, 1]
  have axes : processQ dt sigmaA = sigmaA • (east * !![dt ^ 3 / 3, dt ^ 2 / 2; dt ^ 2 / 2, dt] * eastᵀ +
      north * !![dt ^ 3 / 3, dt ^ 2 / 2; dt ^ 2 / 2, dt] * northᵀ) := by
    unfold processQ
    congr 1
    ext i j
    fin_cases i <;> fin_cases j <;> simp [east, north, Matrix.vecMul, dotProduct, Fin.sum_univ_two]
  rw [axes]
  exact ((Kalman.congruence_posSemidef block east).add (Kalman.congruence_posSemidef block north)).smul noise

/-! ### One update -/

theorem inv2_eq_inv (s : Matrix (Fin 2) (Fin 2) ℝ) : inv2 s = s⁻¹ := by
  rw [inv2, Matrix.inv_def, Matrix.adjugate_fin_two, Matrix.det_fin_two, Ring.inverse_eq_inv', one_div]

/-- What the filter inverts is definite and has the inverse it computes. -/
def Invertible (s : Matrix (Fin 2) (Fin 2) ℝ) : Prop := s.PosDef ∧ s * inv2 s = 1

theorem invertible_of_posDef {s : Matrix (Fin 2) (Fin 2) ℝ} (definite : s.PosDef) : Invertible s := by
  refine ⟨definite, ?_⟩
  rw [inv2_eq_inv, Matrix.mul_nonsing_inv s ((Matrix.isUnit_iff_isUnit_det s).mp definite.isUnit)]

theorem kfCorrect_valid {P : Matrix (Fin 4) (Fin 4) ℝ} {r : Matrix (Fin 2) (Fin 2) ℝ} (valid : P.PosSemidef)
    (noise : r.PosDef) (x : Fin 4 → ℝ) (z : Fin 2 → ℝ) (h : Matrix (Fin 2) (Fin 4) ℝ) :
    (kfCorrect x P z h r).P.PosSemidef ∧ Invertible (kfCorrect x P z h r).S := by
  have updated := Kalman.joseph_posSemidef valid noise.posSemidef h (P * hᵀ * inv2 (Kalman.innovationCov h P r))
  refine ⟨?_, invertible_of_posDef (Kalman.innovationCov_posDef valid noise h)⟩
  rw [kfCorrect, Kalman.symmetrize_eq_self updated]
  exact updated

theorem predictUpdate_valid {entry : TrackKF ℝ} {r : Matrix (Fin 2) (Fin 2) ℝ} (valid : Valid entry)
    (noise : r.PosDef) {dt sigmaA : ℝ} (elapsed : 0 < dt) (process : 0 ≤ sigmaA) (z : Fin 2 → ℝ) :
    (predictUpdate entry dt z r sigmaA).P.PosSemidef ∧ Invertible (predictUpdate entry dt z r sigmaA).S := by
  have predicted := Kalman.predictCov_posSemidef valid.P (processQ_posSemidef elapsed process) (transitionF dt)
  have kept := (Kalman.symmetrize_eq_self predicted).symm ▸ predicted
  exact kfCorrect_valid kept noise (transitionF dt *ᵥ entry.x) z hPos

theorem settle_valid (fix : Fix ℝ) (entry : TrackKF ℝ) {taken : Update ℝ} {manoeuvre : ℝ}
    (valid : taken.P.PosSemidef) (engaged : 0 ≤ manoeuvre) :
    Valid (settle fix entry taken manoeuvre).1 ∧ ∀ s ∈ (settle fix entry taken manoeuvre).2, Invertible s := by
  unfold settle
  cases fix.adsbVel with
  | none => exact ⟨⟨valid, engaged⟩, by simp⟩
  | some v =>
    have measured := kfCorrect_valid valid velocityR_posDef taken.x ![v.1, v.2] hVel
    exact ⟨⟨measured.1, engaged⟩, by simpa using measured.2⟩

/-- One case for each of the filter's outcomes: initialised, held, initialised
after a gap, smoothed, rescued at the manoeuvre's noise, anchored again. -/
theorem kfStep_valid (fix : Fix ℝ) (held : Option (TrackKF ℝ)) (valid : ∀ entry ∈ held, Valid entry) :
    Valid (kfStep (realFunctions kmPerDegLon mPerDegLat) kf.toSettings fix held).1 ∧
      ∀ s ∈ (kfStep (realFunctions kmPerDegLon mPerDegLat) kf.toSettings fix held).2, Invertible s := by
  have noise := measurementR_posDef kmPerDegLon mPerDegLat kf fix
  have fresh := initEntry_valid kf noise fix
  cases held with
  | none => exact ⟨fresh, by simp [kfStep]⟩
  | some entry =>
    have entryValid := valid entry rfl
    simp only [kfStep]
    split
    · exact ⟨entryValid, by simp⟩
    · rename_i later
      have elapsed := not_le.mp later
      split
      · exact ⟨fresh, by simp⟩
      · have first := predictUpdate_valid entryValid noise elapsed (entrySigmaA_nonneg kf entryValid)
        have again := predictUpdate_valid entryValid noise elapsed kf.sigmaAManoeuvre_nonneg
        have accepted : ∀ (taken : Update ℝ) (d2 : ℝ), taken.P.PosSemidef → _ := fun taken d2 kept =>
          settle_valid fix entry kept (updateManoeuvre_nonneg (realFunctions kmPerDegLon mPerDegLat) kf.toSettings entry
            (fix.tsS - entry.lastTsS) d2)
        split
        · exact ⟨(accepted _ _ (first _).1).1, List.forall_mem_cons.mpr ⟨(first _).2, (accepted _ _ (first _).1).2⟩⟩
        · split
          · exact ⟨(accepted _ _ (again _).1).1, List.forall_mem_cons.mpr ⟨(first _).2,
              List.forall_mem_cons.mpr ⟨(again _).2, (accepted _ _ (again _).1).2⟩⟩⟩
          · exact ⟨fresh, List.forall_mem_cons.mpr ⟨(first _).2, List.forall_mem_cons.mpr ⟨(again _).2, by simp⟩⟩⟩

/-! ### Every run -/

def StoreValid (store : Store ℝ) : Prop := ∀ key entry, store.tracks.get? key = some entry → Valid entry

omit kmPerDegLon mPerDegLat kf in
theorem sweep_valid {store : Store ℝ} (valid : StoreValid store) (nowS : ℝ) : StoreValid (sweep nowS store) := by
  unfold sweep
  split
  · exact valid
  · intro key entry found
    exact valid key entry (Dict.get?_filter_some found).1

theorem solved_valid {store : Store ℝ} (valid : StoreValid store) (trackKey : String) (fix : Fix ℝ) :
    Valid (solved (realFunctions kmPerDegLon mPerDegLat) kf.toSettings store trackKey fix).1 ∧
      ∀ s ∈ (solved (realFunctions kmPerDegLon mPerDegLat) kf.toSettings store trackKey fix).2, Invertible s :=
  kfStep_valid kmPerDegLon mPerDegLat kf fix _ fun entry found => sweep_valid valid fix.tsS trackKey entry found

theorem step_valid {store : Store ℝ} (valid : StoreValid store) (event : Event ℝ) :
    StoreValid (step (realFunctions kmPerDegLon mPerDegLat) kf.toSettings store event) := by
  intro key entry found
  cases event with
  | smoothKf trackKey fix =>
    by_cases same : trackKey = key
    · subst same
      simp only [step, Dict.get?_insert_self, Option.some.injEq] at found
      rw [← found]
      exact (solved_valid kmPerDegLon mPerDegLat kf valid trackKey fix).1
    · simp only [step, Dict.get?_insert_ne _ _ same] at found
      exact sweep_valid valid fix.tsS key entry found
  | dropKey trackKey => exact valid key entry (Dict.get?_filter_some found).1

/-- Along every run of solves and dropped keys, every covariance held is
symmetric and semidefinite and every innovation covariance inverted is definite. -/
theorem covariances_stay_valid (events : List (Event ℝ)) :
    (∀ key entry, (Runs.run (step (realFunctions kmPerDegLon mPerDegLat) kf.toSettings) Store.start events).tracks.get? key =
        some entry → entry.P.IsSymm ∧ entry.P.PosSemidef) ∧
      Runs.Along (step (realFunctions kmPerDegLon mPerDegLat) kf.toSettings)
        (fun store event => ∀ s ∈ inverted (realFunctions kmPerDegLon mPerDegLat) kf.toSettings store event,
          s.PosDef ∧ s * inv2 s = 1)
        Store.start events := by
  have start : StoreValid (Store.start : Store ℝ) := by
    intro key entry found
    simp [Store.start] at found
  have preserved : ∀ store event, StoreValid store → StoreValid (step _ _ store event) := fun _ event valid =>
    step_valid kmPerDegLon mPerDegLat kf valid event
  constructor
  · intro key entry found
    have valid := (Runs.invariant_always preserved start events key entry found).P
    exact ⟨Kalman.isSymm_iff_isHermitian.mp valid.isHermitian, valid⟩
  · refine Runs.along_of_always preserved (fun store event valid => ?_) start events
    cases event with
    | smoothKf trackKey fix => exact (solved_valid kmPerDegLon mPerDegLat kf valid trackKey fix).2
    | dropKey _ => simp [inverted]

end
end Retina.Multinode.Exact
