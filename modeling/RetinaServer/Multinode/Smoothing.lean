import RetinaServer.Multinode.TrackFilter

/-! The smoother a publish goes through: the filter, the averaging of
dead-reckoned past positions, or nothing. -/
namespace Retina.Multinode
open Rounding

structure PosSample where
  lat : ℚ
  lon : ℚ
  tsS : ℚ
deriving DecidableEq, Repr

def mnHistoryK : Nat := 3
def mnDrMaxAgeS : ℚ := 160
def mnHistoryTtlS : ℚ := 600

structure PosHistory where
  samples : Dict String (List PosSample)
  lastSweep : ℚ

def sweepMnHistory (nowS : ℚ) (history : PosHistory) : PosHistory :=
  if nowS - history.lastSweep < mnHistoryTtlS / 10 then history
  else ⟨history.samples.filter fun _ dq => dq.getLast?.any fun newest => decide (nowS - newest.tsS ≤ mnHistoryTtlS),
    nowS⟩

section
variable (env : SmootherEnv)

/-- The past positions that are neither stale nor from the future, each moved to
the solve's epoch. -/
def deadReckoned (vel : ℚ × ℚ) (tsS : ℚ) (hist : List PosSample) : List (ℚ × ℚ) :=
  hist.filterMap fun prev =>
    let dt := tsS - prev.tsS
    if dt ≤ 0 ∨ mnDrMaxAgeS < dt then none
    else some (env.geodesy.offsetLatlonM prev.lat prev.lon (vel.1 * dt) (vel.2 * dt))

def ewmaSmoothTrack (history : PosHistory) (result : Solve) (trackKey : String) (fix : Option AdsbFix) :
    Solve × PosHistory :=
  let vel := (adsbVelocity env fix result.timestampMs).getD (result.velEast.getD 0, result.velNorth.getD 0)
  let swept := sweepMnHistory result.tsS history
  let hist := (swept.samples.get? trackKey).getD []
  let positions := (result.lat, result.lon) :: deadReckoned env vel result.tsS hist
  let pushed := hist ++ [⟨result.lat, result.lon, result.tsS⟩]
  let kept := pushed.drop (pushed.length - mnHistoryK)
  let smoothed := if positions.length < 2 then result
    else { result with
      lat := roundTo 6 ((positions.map Prod.fst).sum / positions.length)
      lon := roundTo 6 ((positions.map Prod.snd).sum / positions.length) }
  (smoothed, { swept with samples := swept.samples.insert trackKey kept })

/-- The state a smoother keeps between solves. -/
structure Memory where
  filters : KfStore
  history : PosHistory

def smoothSolve (memory : Memory) (result : Solve) (trackKey : String) (adsbHex : Option String)
    (fix : Option AdsbFix) : Solve × Memory :=
  match env.trackSmoother with
  | .off => (result, memory)
  | .ewma =>
      let (smoothed, history) := ewmaSmoothTrack env memory.history result trackKey fix
      (smoothed, { memory with history })
  | .kf =>
      let (smoothed, filters) := smoothKf env memory.filters result trackKey adsbHex fix
      (smoothed, { memory with filters })

/-- A smoother moves a solve and stamps it, and leaves the rest. -/
theorem smoothSolve_writes (memory : Memory) (result : Solve) (trackKey : String) (adsbHex : Option String)
    (fix : Option AdsbFix) :
    ∃ lat lon smoother kfPosSigmaM kfAction kfD2 kfInnovM, (smoothSolve env memory result trackKey adsbHex fix).1 =
      { result with lat, lon, smoother, kfPosSigmaM, kfAction, kfD2, kfInnovM } := by
  unfold smoothSolve
  cases env.trackSmoother with
  | off => exact ⟨_, _, _, _, _, _, _, rfl⟩
  | ewma =>
    simp only [ewmaSmoothTrack]
    split
    · exact ⟨_, _, _, _, _, _, _, rfl⟩
    · exact ⟨_, _, _, _, _, _, _, rfl⟩
  | kf => exact kfStep_writes env result adsbHex fix _

theorem smoothSolve_timestampMs (memory : Memory) (result : Solve) (trackKey : String) (adsbHex : Option String)
    (fix : Option AdsbFix) : (smoothSolve env memory result trackKey adsbHex fix).1.timestampMs = result.timestampMs := by
  obtain ⟨lat, lon, smoother, sigma, action, d2, innov, same⟩ := smoothSolve_writes env memory result trackKey adsbHex fix
  rw [same]

end

/-- The key has neither a filter nor a position history. -/
def Memory.Forgets (memory : Memory) (key : String) : Prop :=
  memory.filters.tracks.get? key = none ∧ memory.history.samples.get? key = none

instance (memory : Memory) (key : String) : Decidable (memory.Forgets key) :=
  inferInstanceAs (Decidable (_ ∧ _))

def Memory.drop (memory : Memory) (key : String) : Memory :=
  ⟨memory.filters.dropKey key, { memory.history with samples := memory.history.samples.erase key }⟩

theorem sweep_none (nowS : ℚ) (absent : store.tracks.get? key = none) :
    (sweep nowS store).tracks.get? key = none := by
  simp only [sweep]
  split
  · exact absent
  · exact Dict.get?_filter_none _ _ absent

theorem sweep_some (found : (sweep nowS store).tracks.get? key = some entry) :
    store.tracks.get? key = some entry := by
  simp only [sweep] at found
  split at found
  · exact found
  · exact (Dict.get?_filter_some found).1

/-- A filter that is not behind the sweep's clock survives it. -/
theorem sweep_keeps (found : store.tracks.get? key = some entry) (ahead : nowS ≤ entry.lastTsS) :
    (sweep nowS store).tracks.get? key = some entry := by
  have recent : nowS - entry.lastTsS ≤ kfTtlS :=
    le_trans (sub_nonpos.mpr ahead) (by norm_num [kfTtlS])
  simp only [sweep]
  split
  · exact found
  · rw [Dict.get?_filter, found, Option.filter_some, if_pos (decide_eq_true recent)]

theorem sweepMnHistory_none (nowS : ℚ) (absent : history.samples.get? key = none) :
    (sweepMnHistory nowS history).samples.get? key = none := by
  simp only [sweepMnHistory]
  split
  · exact absent
  · exact Dict.get?_filter_none _ _ absent

/-- Smoothing a solve gives memory to its own key and to no other. -/
theorem smoothSolve_forgets (env : SmootherEnv) (memory : Memory) (result : Solve)
    (adsbHex : Option String) (fix : Option AdsbFix) (other : trackKey ≠ key) (forgets : memory.Forgets key) :
    (smoothSolve env memory result trackKey adsbHex fix).2.Forgets key := by
  simp only [smoothSolve]
  cases env.trackSmoother with
  | off => exact forgets
  | ewma =>
    refine ⟨forgets.1, ?_⟩
    simp only [ewmaSmoothTrack]
    rw [Dict.get?_insert_ne _ _ other]
    exact sweepMnHistory_none _ forgets.2
  | kf =>
    refine ⟨?_, forgets.2⟩
    simp only [smoothKf]
    rw [Dict.get?_insert_ne _ _ other]
    exact sweep_none _ forgets.1

theorem drop_forgets (memory : Memory) (key : String) : (memory.drop key).Forgets key :=
  ⟨Dict.get?_erase_self _ key, Dict.get?_erase_self _ key⟩

theorem drop_forgets_of (forgets : Memory.Forgets memory key) (dropped : String) :
    (memory.drop dropped).Forgets key :=
  ⟨Dict.get?_filter_none _ _ forgets.1, Dict.get?_filter_none _ _ forgets.2⟩

/-- A key the filter does not know starts a fresh one at the solve itself. -/
theorem smoothSolve_fresh (env : SmootherEnv) (memory : Memory) (result : Solve) (trackKey : String)
    (adsbHex : Option String) (fix : Option AdsbFix) (kf : env.trackSmoother = .kf)
    (absent : memory.filters.tracks.get? trackKey = none) :
    (smoothSolve env memory result trackKey adsbHex fix).1 = stamp result .init none none ∧
    (smoothSolve env memory result trackKey adsbHex fix).2.filters.tracks.get? trackKey =
      some (initEntry env result (adsbVelocity env fix result.timestampMs) (measurementR env result adsbHex)) := by
  simp only [smoothSolve, kf, smoothKf, sweep_none result.tsS absent, Dict.get?_insert_self]
  exact ⟨rfl, rfl⟩

end Retina.Multinode
