import RetinaServer.Multinode.Entry
import RetinaServer.Solver.Input
import Mathlib.LinearAlgebra.Matrix.Notation

/-! The display filter: one constant-velocity Kalman filter for each track key,
with the averaging it replaced as a fallback. Arithmetic is exact; the source's
square root, exponential and trigonometric functions are parameters. -/
namespace Retina.Multinode
open Matrix Rounding

structure Libm where
  sqrt : ℚ → ℚ
  hypot : ℚ → ℚ → ℚ
  exp : ℚ → ℚ
  /-- Sine and cosine of an angle in degrees. -/
  sinDeg : ℚ → ℚ
  cosDeg : ℚ → ℚ

inductive Smoother where
  | kf
  | ewma
  | off
deriving DecidableEq, Repr

/-- The filter's tunables, with the source's defaults. -/
structure KfSettings where
  sigmaA : ℚ := 3 / 2
  sigmaAManoeuvre : ℚ := 800
  manoeuvreD2 : ℚ := 2
  manoeuvreTauS : ℚ := 15
  defaultPosSigmaM : ℚ := 1200
  n2PosSigmaM : ℚ := 2500
  rInflate : ℚ := 4
  velSigmaSolveMs : ℚ := 150

def kfMinPosSigmaM : ℚ := 500
def kfMaxPosSigmaM : ℚ := 8000
def kfVelSigmaAdsbMs : ℚ := 5
def kfMaxGapS : ℚ := 160
def kfGateChi2 : ℚ := 69 / 5
def kfTtlS : ℚ := 600
def adsbVelMaxAgeS : ℚ := 45

/-- What the smoothers call and are configured by. -/
structure SmootherEnv where
  geodesy : Geodesy
  libm : Libm
  kf : KfSettings := {}
  trackSmoother : Smoother := .kf

/-- The cached fix of a transponder, as far as the velocity seed reads it. -/
structure AdsbFix where
  gs : ℚ
  track : ℚ
  timestampMs : Option ℚ
  lastSeenMs : Option ℚ
deriving DecidableEq, Repr

/-- One key's filter: the frame's anchor, the state `[e, ve, n, vn]`, its
covariance, the epoch of the last update and the manoeuvre engagement. -/
structure TrackKF where
  refLat : ℚ
  refLon : ℚ
  x : Fin 4 → ℚ
  P : Matrix (Fin 4) (Fin 4) ℚ
  lastTsS : ℚ
  manoeuvre : ℚ := 0

structure KfStore where
  tracks : Dict String TrackKF
  lastSweep : ℚ

section
variable (env : SmootherEnv)

/-- Drops the filters whose last update is stale, at most every tenth of the horizon. -/
def sweep (nowS : ℚ) (store : KfStore) : KfStore :=
  if nowS - store.lastSweep < kfTtlS / 10 then store
  else ⟨store.tracks.filter fun _ entry => decide (nowS - entry.lastTsS ≤ kfTtlS), nowS⟩

def enuOffsetM (refLat refLon lat lon : ℚ) : ℚ × ℚ :=
  ((lon - refLon) * env.geodesy.kmPerDegLon refLat * 1000, (lat - refLat) * env.geodesy.mPerDegLat)

def entrySigmaA (entry : TrackKF) : ℚ :=
  if env.kf.sigmaAManoeuvre ≤ env.kf.sigmaA ∨ env.kf.manoeuvreD2 ≤ 0 then env.kf.sigmaA
  else env.kf.sigmaA + entry.manoeuvre * (env.kf.sigmaAManoeuvre - env.kf.sigmaA)

def updateManoeuvre (entry : TrackKF) (dt d2 : ℚ) : ℚ :=
  let decayed := if 0 < env.kf.manoeuvreTauS
    then entry.manoeuvre * env.libm.exp (-dt / env.kf.manoeuvreTauS) else 0
  let trigger := if 0 < env.kf.manoeuvreD2 ∧ env.kf.manoeuvreD2 < d2
    then min 1 ((d2 - env.kf.manoeuvreD2) / env.kf.manoeuvreD2) else 0
  max decayed trigger

def transitionF (dt : ℚ) : Matrix (Fin 4) (Fin 4) ℚ :=
  !![1, dt, 0, 0; 0, 1, 0, 0; 0, 0, 1, dt; 0, 0, 0, 1]

/-- White-noise acceleration of density `sigmaA`, not squared. -/
def processQ (dt sigmaA : ℚ) : Matrix (Fin 4) (Fin 4) ℚ :=
  sigmaA • !![dt ^ 3 / 3, dt ^ 2 / 2, 0, 0; dt ^ 2 / 2, dt, 0, 0;
    0, 0, dt ^ 3 / 3, dt ^ 2 / 2; 0, 0, dt ^ 2 / 2, dt]

def hPos : Matrix (Fin 2) (Fin 4) ℚ := !![1, 0, 0, 0; 0, 0, 1, 0]
def hVel : Matrix (Fin 2) (Fin 4) ℚ := !![0, 1, 0, 0; 0, 0, 0, 1]

def inv2 (s : Matrix (Fin 2) (Fin 2) ℚ) : Matrix (Fin 2) (Fin 2) ℚ :=
  (1 / (s 0 0 * s 1 1 - s 0 1 * s 1 0)) • !![s 1 1, -s 0 1; -s 1 0, s 0 0]

def symmetrize (P : Matrix (Fin n) (Fin n) ℚ) : Matrix (Fin n) (Fin n) ℚ := (1 / 2 : ℚ) • (P + Pᵀ)

structure Correction where
  x : Fin 4 → ℚ
  P : Matrix (Fin 4) (Fin 4) ℚ
  innovation : Fin 2 → ℚ
  S : Matrix (Fin 2) (Fin 2) ℚ

/-- One measurement update, with the covariance in Joseph form. -/
def kfCorrect (x : Fin 4 → ℚ) (P : Matrix (Fin 4) (Fin 4) ℚ) (z : Fin 2 → ℚ)
    (h : Matrix (Fin 2) (Fin 4) ℚ) (r : Matrix (Fin 2) (Fin 2) ℚ) : Correction :=
  let y := z - h *ᵥ x
  let s := h * P * hᵀ + r
  let k := P * hᵀ * inv2 s
  let iKh := 1 - k * h
  { x := x + k *ᵥ y
    P := symmetrize (iKh * P * iKhᵀ + k * r * kᵀ)
    innovation := y
    S := s }

def basePosSigmaM (result : Solve) (adsbHex : Option String) : ℚ :=
  if result.nNodes ≠ 2 ∨ adsbHex.any Solver.isTransponderHex then env.kf.defaultPosSigmaM
  else env.kf.n2PosSigmaM

/-- The formal covariance, when it is one, inflated and added to the floor; then
the whole scaled back into the band of plausible sigmas. -/
def measurementR (result : Solve) (adsbHex : Option String) : Matrix (Fin 2) (Fin 2) ℚ :=
  let base := basePosSigmaM env result adsbHex ^ 2 • (1 : Matrix (Fin 2) (Fin 2) ℚ)
  let r := match result.covEnKm2 with
    | none => base
    | some cov =>
        let arr := symmetrize ((1000000 : ℚ) • !![cov.ee, cov.en; cov.ne, cov.nn])
        if 0 < arr 0 0 ∧ 0 < arr 1 1 ∧ 0 ≤ arr 0 0 * arr 1 1 - arr 0 1 * arr 1 0
        then env.kf.rInflate ^ 2 • arr + base
        else base
  let s := env.libm.sqrt (1 / 2 * (r 0 0 + r 1 1))
  if s < kfMinPosSigmaM then (kfMinPosSigmaM / s) ^ 2 • r
  else if kfMaxPosSigmaM < s then (kfMaxPosSigmaM / s) ^ 2 • r
  else r

/-- A live transponder's velocity, unless its fix is too old for the solve. A
stamp of zero counts as no stamp, as it does in the source. -/
def adsbVelocity (fix : Option AdsbFix) (nowMs : ℤ) : Option (ℚ × ℚ) :=
  match fix with
  | none => none
  | some fix =>
      let stamp := ((fix.timestampMs.filter fun t => decide (t ≠ 0)).or fix.lastSeenMs).getD 0
      if stamp ≠ 0 ∧ adsbVelMaxAgeS < (nowMs - stamp) / 1000 then none
      else
        let v := fix.gs * (514444 / 1000000)
        some (v * env.libm.sinDeg fix.track, v * env.libm.cosDeg fix.track)

def initEntry (result : Solve) (adsbVel : Option (ℚ × ℚ)) (r : Matrix (Fin 2) (Fin 2) ℚ) : TrackKF :=
  let (ve, vn) := adsbVel.getD (result.velEast.getD 0, result.velNorth.getD 0)
  let pVel := if adsbVel.isSome then kfVelSigmaAdsbMs ^ 2 else env.kf.velSigmaSolveMs ^ 2
  { refLat := result.lat
    refLon := result.lon
    x := ![0, ve, 0, vn]
    P := !![r 0 0, 0, r 0 1, 0; 0, pVel, 0, 0; r 1 0, 0, r 1 1, 0; 0, 0, 0, pVel]
    lastTsS := result.tsS }

structure Update where
  x : Fin 4 → ℚ
  P : Matrix (Fin 4) (Fin 4) ℚ
  d2 : ℚ
  innovM : ℚ

def predictUpdate (entry : TrackKF) (dt : ℚ) (z : Fin 2 → ℚ) (r : Matrix (Fin 2) (Fin 2) ℚ)
    (sigmaA : ℚ) : Update :=
  let f := transitionF dt
  let c := kfCorrect (f *ᵥ entry.x) (symmetrize (f * entry.P * fᵀ + processQ dt sigmaA)) z hPos r
  { x := c.x
    P := c.P
    d2 := c.innovation ⬝ᵥ (inv2 c.S *ᵥ c.innovation)
    innovM := env.libm.hypot (c.innovation 0) (c.innovation 1) }

/-- The filter's position: its anchor displaced by the state. -/
def posterior (entry : TrackKF) : ℚ × ℚ :=
  env.geodesy.offsetLatlonM entry.refLat entry.refLon (entry.x 0) (entry.x 2)

/-- The filter's position for another epoch: its state carried there at its velocity. -/
def posteriorAt (entry : TrackKF) (tsS : ℚ) : ℚ × ℚ :=
  env.geodesy.offsetLatlonM entry.refLat entry.refLon (entry.x 0 + entry.x 1 * (tsS - entry.lastTsS))
    (entry.x 2 + entry.x 3 * (tsS - entry.lastTsS))

def posSigmaM (entry : TrackKF) : ℚ :=
  env.libm.sqrt (max 0 (1 / 2 * (entry.P 0 0 + entry.P 2 2)))

/-- A solve's fields at the filter's position. -/
def atPosterior (result : Solve) (entry : TrackKF) : Solve :=
  { result with
    lat := roundTo 6 (posterior env entry).1
    lon := roundTo 6 (posterior env entry).2
    smoother := some "kf"
    kfPosSigmaM := some (roundTo 1 (posSigmaM env entry)) }

def stamp (result : Solve) (action : KfAction) (d2 innovM : Option ℚ) : Solve :=
  { result with kfAction := some action, kfD2 := d2.map (roundTo 2), kfInnovM := innovM.map (roundTo 1) }

def holdPosition (result : Solve) (entry : TrackKF) : Solve :=
  stamp (atPosterior env result entry) .passthroughHeld none none

/-- The update that an innovation is answered with: an ordinary one, one at the
manoeuvre's process noise, or none when neither explains it. -/
def gatedUpdate (entry : TrackKF) (dt : ℚ) (z : Fin 2 → ℚ) (r : Matrix (Fin 2) (Fin 2) ℚ) :
    Update × Option (KfAction × Update) :=
  let first := predictUpdate env entry dt z r (entrySigmaA env entry)
  if first.d2 ≤ kfGateChi2 then (first, some (.smoothed, first))
  else
    let again := predictUpdate env entry dt z r env.kf.sigmaAManoeuvre
    if again.d2 ≤ kfGateChi2 ∧ env.kf.sigmaA < env.kf.sigmaAManoeuvre
    then (first, some (.manoeuvreRescued, again))
    else (first, none)

/-- What one solve does to its key's filter, if it has one. -/
def kfStep (result : Solve) (adsbHex : Option String) (fix : Option AdsbFix) (held : Option TrackKF) :
    Solve × TrackKF :=
  let adsbVel := adsbVelocity env fix result.timestampMs
  let r := measurementR env result adsbHex
  let fresh := initEntry env result adsbVel r
  match held with
  | none => (stamp result .init none none, fresh)
  | some entry =>
      let dt := result.tsS - entry.lastTsS
      if dt ≤ 0 then (holdPosition env result entry, entry)
      else if kfMaxGapS < dt then (stamp result .init none none, fresh)
      else
        let z := enuOffsetM env entry.refLat entry.refLon result.lat result.lon
        match gatedUpdate env entry dt ![z.1, z.2] r with
        | (first, none) => (stamp result .reanchored (some first.d2) (some first.innovM), fresh)
        | (first, some (action, taken)) =>
            let (x, P) := match adsbVel with
              | none => (taken.x, taken.P)
              | some (ve, vn) =>
                  let c := kfCorrect taken.x taken.P ![ve, vn] hVel (kfVelSigmaAdsbMs ^ 2 • 1)
                  (c.x, c.P)
            let updated : TrackKF :=
              { entry with x, P, lastTsS := result.tsS, manoeuvre := updateManoeuvre env entry dt first.d2 }
            (stamp (atPosterior env result updated) action (some first.d2) (some first.innovM), updated)

def smoothKf (store : KfStore) (result : Solve) (trackKey : String) (adsbHex : Option String)
    (fix : Option AdsbFix) : Solve × KfStore :=
  let swept := sweep result.tsS store
  let (smoothed, entry) := kfStep env result adsbHex fix (swept.tracks.get? trackKey)
  (smoothed, { swept with tracks := swept.tracks.insert trackKey entry })

end

def KfStore.dropKey (store : KfStore) (trackKey : String) : KfStore :=
  { store with tracks := store.tracks.erase trackKey }

/-- The state's velocity, as the dead reckoning reads it. -/
def KfStore.learnedVelocity (store : KfStore) (trackKey : String) : Option (ℚ × ℚ) :=
  (store.tracks.get? trackKey).map fun entry => (entry.x 1, entry.x 3)

def KfStore.manoeuvreLevel (store : KfStore) (trackKey : String) : Option ℚ :=
  (store.tracks.get? trackKey).map TrackKF.manoeuvre

/-! ### What one solve leaves -/

section
variable (env : SmootherEnv)

theorem posterior_initEntry (anchored : env.geodesy.Anchored) (result : Solve)
    (adsbVel : Option (ℚ × ℚ)) (r : Matrix (Fin 2) (Fin 2) ℚ) :
    posterior env (initEntry env result adsbVel r) = (result.lat, result.lon) :=
  anchored result.lat result.lon

/-- The position is the filter's own, to the six decimals the feed carries where
the filter moved it. -/
def AtPosterior (lat lon : ℚ) (entry : TrackKF) : Prop :=
  (lat, lon) = posterior env entry ∨
    (lat = roundTo 6 (posterior env entry).1 ∧ lon = roundTo 6 (posterior env entry).2)

/-- The published position is the filter's to half a microdegree. -/
theorem atPosterior_near (stands : AtPosterior env lat lon entry) :
    |lat - (posterior env entry).1| ≤ 1 / 2 / 10 ^ 6 ∧ |lon - (posterior env entry).2| ≤ 1 / 2 / 10 ^ 6 := by
  rcases stands with exactly | ⟨north, east⟩
  · rw [← exactly, sub_self, sub_self, abs_zero]
    norm_num
  · rw [north, east]
    exact ⟨abs_roundTo_sub_le 6 _, abs_roundTo_sub_le 6 _⟩

/-- The filter moves a solve and stamps it, and leaves the rest. -/
theorem kfStep_writes (result : Solve) (adsbHex : Option String) (fix : Option AdsbFix) (held : Option TrackKF) :
    ∃ lat lon smoother kfPosSigmaM kfAction kfD2 kfInnovM, (kfStep env result adsbHex fix held).1 =
      { result with lat, lon, smoother, kfPosSigmaM, kfAction, kfD2, kfInnovM } := by
  cases held with
  | none => exact ⟨_, _, _, _, _, _, _, rfl⟩
  | some entry =>
    simp only [kfStep]
    split
    · exact ⟨_, _, _, _, _, _, _, rfl⟩
    · split
      · exact ⟨_, _, _, _, _, _, _, rfl⟩
      · split
        · exact ⟨_, _, _, _, _, _, _, rfl⟩
        · exact ⟨_, _, _, _, _, _, _, rfl⟩

/-- What a solve leaves behind: its own epoch, the filter's position, and either
a filter updated to that epoch or the one it found, when that one was ahead. -/
theorem kfStep_spec (anchored : env.geodesy.Anchored) (result : Solve) (adsbHex : Option String)
    (fix : Option AdsbFix) (held : Option TrackKF) :
    (kfStep env result adsbHex fix held).1.timestampMs = result.timestampMs ∧
    AtPosterior env (kfStep env result adsbHex fix held).1.lat (kfStep env result adsbHex fix held).1.lon
      (kfStep env result adsbHex fix held).2 ∧
    ((∀ entry ∈ held, entry.lastTsS < result.tsS) ∧ (kfStep env result adsbHex fix held).2.lastTsS = result.tsS ∨
      ∃ entry, held = some entry ∧ result.tsS ≤ entry.lastTsS ∧
        (kfStep env result adsbHex fix held).2 = entry) := by
  have raw := posterior_initEntry env anchored result (adsbVelocity env fix result.timestampMs)
    (measurementR env result adsbHex)
  simp only [kfStep]
  cases held with
  | none => exact ⟨rfl, .inl raw.symm, .inl ⟨by simp, rfl⟩⟩
  | some entry =>
    by_cases late : result.tsS - entry.lastTsS ≤ 0
    · simp only [late, if_true]
      exact ⟨rfl, .inr ⟨rfl, rfl⟩, .inr ⟨entry, rfl, sub_nonpos.mp late, rfl⟩⟩
    · have newer : ∀ e ∈ some entry, e.lastTsS < result.tsS := by
        intro e same
        obtain rfl := Option.some.inj same
        exact sub_pos.mp (not_le.mp late)
      simp only [late, if_false]
      split
      · exact ⟨rfl, .inl raw.symm, .inl ⟨newer, rfl⟩⟩
      · split
        · exact ⟨rfl, .inl raw.symm, .inl ⟨newer, rfl⟩⟩
        · exact ⟨rfl, .inr ⟨rfl, rfl⟩, .inl ⟨newer, rfl⟩⟩

end

end Retina.Multinode
