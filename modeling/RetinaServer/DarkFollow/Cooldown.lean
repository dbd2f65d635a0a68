import RetinaServer.DarkFollow.Targets
import RetinaServer.KnownLane.ClaimSelection
import RetinaServer.Solver.Input

/-! The pass over the claims of the followed keys, which builds the inputs of their
solves. Claims outlive the target list: the pass goes by the claims a key has and by
when it was solved last. -/
namespace Retina.DarkFollow
open Frames Known KnownLane Runs
open Solver (SolverInput Measurement InitialGuess)

def attemptTtlS : ℤ := 600

/-- The stores of the lane beside the list of targets. -/
structure FollowLane extends Follower where
  knownClaims : Dict String (List KnownClaim)
  lastFollowMono : Dict String ℚ
  lastFollowTsMs : Dict String ℤ

def FollowLane.start : FollowLane := { Follower.start with knownClaims := .empty, lastFollowMono := .empty, lastFollowTsMs := .empty }

/-- What one pass reads once, at its beginning. -/
structure Pass (γ : Type) where
  mode : LaneMode
  nowMs : ℤ
  nowMono : ℚ
  nodeCfgs : Dict String γ

section
variable (S : FollowSettings) (offsetLatlonM : (lat lon eastM northM : ℚ) → ℚ × ℚ)

def measurementOf (item : String × KnownClaim) : Measurement where
  nodeId := item.1
  delayUs := item.2.delayUs
  dopplerHz := some item.2.dopplerHz
  snr := some 0
  tS := some (item.2.tsMs / 1000)

def newestClaim (claims : Dict String KnownClaim) : Option KnownClaim :=
  Selection.firstMin (fun c => -c.tsMs) claims.values

/-- The prediction of the newest claim is carried on to the claim's own epoch. -/
def buildFollowSolverInput (key : String) (claims : Dict String KnownClaim) : Option SolverInput := do
  let newest ← newestClaim claims
  match newest.carried with
  | .adsb _ => none
  | .follow fix =>
    let dtS : ℚ := (newest.tsMs - fix.fixTsMs) / 1000
    let guess := offsetLatlonM fix.lat fix.lon (fix.velEast * dtS) (fix.velNorth * dtS)
    some {
      measurements := (claims.items.insertionSort fun a b => a.1 ≤ b.1).map measurementOf
      nNodes := claims.size
      timestampMs := some newest.tsMs
      trackIds := []
      trackIdsByNode := .empty
      initialGuess := some ⟨some guess.1, some guess.2, some fix.altKm⟩
      initialVelocity := some (fix.velEast, some fix.velNorth)
      adsbHex := none
      anchorKey := some key
      poolNNodes := none
      poolMeasurements := [] }

variable {γ : Type}

/-- The claims a key could be solved from: selected, and by nodes that are placed. -/
def placedClaims (p : Pass γ) (s : FollowLane) (key : String) : Dict String KnownClaim :=
  (selectClaims p.nowMs true ((s.knownClaims.get? key).getD [])).filter fun nodeId _ => (p.nodeCfgs.get? nodeId).isSome

def newestTs (claims : Dict String KnownClaim) : ℤ := ((claims.values.map KnownClaim.tsMs).max?).getD 0

def FollowLane.stamp (s : FollowLane) (p : Pass γ) (key : String) (ts : ℤ) : FollowLane :=
  { s with lastFollowMono := s.lastFollowMono.insert key p.nowMono, lastFollowTsMs := s.lastFollowTsMs.insert key ts }

/-- The key's turn in a pass. -/
def visitKey (p : Pass γ) (s : FollowLane) (key : String) : FollowLane × Option SolverInput :=
  if p.mode = .off then (s, none)
  else if !key.startsWith Multinode.darkPrefix then (s, none)
  else if (s.lastFollowMono.get? key).any fun last => decide (p.nowMono - last < S.intervalS) then (s, none)
  else
    let claims := placedClaims p s key
    if claims.size < 2 then (s, none)
    else if newestTs claims ≤ (s.lastFollowTsMs.get? key).getD (-1) then (s, none)
    else if claims.size = 2 && !S.n2Admit then (s.stamp p key (newestTs claims), none)
    else match buildFollowSolverInput offsetLatlonM key claims with
      | none => (s, none)
      | some sIn => (s.stamp p key (newestTs claims), some sIn)

def outdated (p : Pass γ) (s : FollowLane) (key : String) : Bool :=
  (s.lastFollowTsMs.get? key).any fun ts => decide (ts < p.nowMs - attemptTtlS * 1000)

/-- The sweep at the end of a pass. -/
def sweepStamps (p : Pass γ) (s : FollowLane) : FollowLane :=
  { s with
    lastFollowMono := s.lastFollowMono.filter fun key _ => !outdated p s key
    lastFollowTsMs := s.lastFollowTsMs.filter fun key _ => !outdated p s key }

def takeTurn (p : Pass γ) (acc : FollowLane × List SolverInput) (key : String) : FollowLane × List SolverInput :=
  let (s, sIn) := visitKey S offsetLatlonM p acc.1 key
  (s, acc.2 ++ sIn.toList)

/-- A pass that nothing interrupts, with the inputs it produces. -/
def runDarkFollowPass (p : Pass γ) (s : FollowLane) : FollowLane × List SolverInput :=
  if p.mode = .off ∨ s.knownClaims.size = 0 then (s, [])
  else
    let (s, inputs) := s.knownClaims.keys.foldl (takeTurn S offsetLatlonM p) (s, [])
    (sweepStamps p s, inputs)

/-- Targets and outcomes are the follower's; claims and prunings leave another registry. The
keys of a pass take turns, and between these the other threads go on. -/
inductive LaneEvent (γ : Type) where
  | follow (e : FollowEvent)
  | registry (knownClaims : Dict String (List KnownClaim))
  | visit (p : Pass γ) (key : String)
  | sweep (p : Pass γ)

def FollowLane.step (s : FollowLane) : LaneEvent γ → FollowLane
  | .follow e => { s with toFollower := s.toFollower.step S e }
  | .registry knownClaims => { s with knownClaims }
  | .visit p key => (visitKey S offsetLatlonM p s key).1
  | .sweep p => if p.mode = .off ∨ s.knownClaims.size = 0 then s else sweepStamps p s

def passEvents (p : Pass γ) (s : FollowLane) : List (LaneEvent γ) := s.knownClaims.keys.map (.visit p ·) ++ [.sweep p]

/-- A turn builds no input for a key that is in cooldown. -/
def NotInCooldown (s : FollowLane) : LaneEvent γ → Prop
  | .visit p key => inCooldown s.guard key p.nowMono = true → (visitKey S offsetLatlonM p s key).2 = none
  | _ => True

/-- What holds a key back at its turn, for other reasons than a cooldown. -/
inductive HeldBack (p : Pass γ) (s : FollowLane) (key : String) : Prop where
  | off (off : p.mode = .off)
  | notDark (other : key.startsWith Multinode.darkPrefix = false)
  | spaced (last : ℚ) (stamped : s.lastFollowMono.get? key = some last) (soon : p.nowMono - last < S.intervalS)
  | few (few : (placedClaims p s key).size < if S.n2Admit then 2 else 3)
  | noNewer (old : newestTs (placedClaims p s key) ≤ (s.lastFollowTsMs.get? key).getD (-1))
  | unpredicted (newest : KnownClaim) (found : newestClaim (placedClaims p s key) = some newest) (fix : Fix)
      (carried : newest.carried = .adsb fix)

/-- A key that comes to its turn in cooldown is held back by something else. -/
def HeldInCooldown (s : FollowLane) : LaneEvent γ → Prop
  | .visit p key => inCooldown s.guard key p.nowMono = true → HeldBack S p s key
  | _ => True

variable {S offsetLatlonM}

/-! ### The turn of a key -/

theorem newestClaim_of_size {claims : Dict String KnownClaim} (two : 2 ≤ claims.size) :
    ∃ newest, newestClaim claims = some newest := by
  refine Option.ne_none_iff_exists'.mp fun nothing => ?_
  rw [newestClaim, Selection.firstMin_eq_none_iff, Dict.values, List.map_eq_nil_iff] at nothing
  simp [Dict.size, nothing] at two

theorem heldBack_of_none {p : Pass γ} {s : FollowLane} (built : (visitKey S offsetLatlonM p s key).2 = none) :
    HeldBack S p s key := by
  by_cases off : p.mode = .off
  · exact .off off
  cases dark : key.startsWith Multinode.darkPrefix with
  | false => exact .notDark dark
  | true =>
    by_cases soon : (s.lastFollowMono.get? key).any (fun last => decide (p.nowMono - last < S.intervalS)) = true
    · cases stamped : s.lastFollowMono.get? key with
      | none => simp [stamped] at soon
      | some last => exact .spaced last stamped (by simpa [stamped] using soon)
    by_cases few : (placedClaims p s key).size < if S.n2Admit then 2 else 3
    · exact .few few
    have two : ¬ (placedClaims p s key).size < 2 := by
      split at few
      · exact few
      · omega
    have admitted : ((placedClaims p s key).size = 2 && !S.n2Admit) = false := by
      cases admits : S.n2Admit with
      | true => simp
      | false =>
        simp only [admits, Bool.false_eq_true, if_false] at few
        simp
        omega
    by_cases old : newestTs (placedClaims p s key) ≤ (s.lastFollowTsMs.get? key).getD (-1)
    · exact .noNewer old
    obtain ⟨newest, found⟩ := newestClaim_of_size (not_lt.mp two)
    cases carried : newest.carried with
    | adsb fix => exact .unpredicted newest found fix carried
    | follow fix =>
      simp [visitKey, off, dark, soon, two, old, admitted, buildFollowSolverInput, found, carried] at built

theorem none_of_heldBack {p : Pass γ} {s : FollowLane} (held : HeldBack S p s key) :
    (visitKey S offsetLatlonM p s key).2 = none := by
  cases built : (visitKey S offsetLatlonM p s key).2 with
  | none => rfl
  | some sIn =>
    unfold visitKey at built
    split at built
    · cases built
    rename_i on
    split at built
    · cases built
    rename_i dark
    split at built
    · cases built
    rename_i apart
    dsimp only at built
    split at built
    · cases built
    rename_i two
    split at built
    · cases built
    rename_i newer
    split at built
    · cases built
    rename_i admitted
    cases held with
    | off off => exact absurd off on
    | notDark other => simp [other] at dark
    | spaced last stamped soon => simp [stamped, soon] at apart
    | few few =>
      cases admits : S.n2Admit with
      | true => exact absurd (by simpa [admits] using few) two
      | false =>
        simp only [admits, Bool.false_eq_true, if_false] at few
        simp only [admits, Bool.not_false, Bool.and_true, decide_eq_true_eq] at admitted
        omega
    | noNewer old => exact absurd old newer
    | unpredicted newest found fix carried => simp [buildFollowSolverInput, found, carried] at built

theorem visitKey_eq_none_iff (p : Pass γ) (s : FollowLane) (key : String) :
    (visitKey S offsetLatlonM p s key).2 = none ↔ HeldBack S p s key :=
  ⟨heldBack_of_none, none_of_heldBack⟩

theorem HeldBack.with_guard {p : Pass γ} {s : FollowLane} (held : HeldBack S p s key) (guard : Guard) :
    HeldBack S p { s with guard } key := by
  cases held with
  | off off => exact .off off
  | notDark other => exact .notDark other
  | spaced last stamped soon => exact .spaced last stamped soon
  | few few => exact .few few
  | noNewer old => exact .noNewer old
  | unpredicted newest found fix carried => exact .unpredicted newest found fix carried

/-- A turn goes by the claims and the stamps alone: the guard neither holds a key back nor lets it through. -/
theorem visitKey_none_of_guard (p : Pass γ) (s : FollowLane) (guard : Guard) (key : String) :
    (visitKey S offsetLatlonM p { s with guard } key).2 = none ↔ (visitKey S offsetLatlonM p s key).2 = none := by
  rw [visitKey_eq_none_iff, visitKey_eq_none_iff]
  exact ⟨fun held => held.with_guard s.guard, fun held => held.with_guard guard⟩

/-! ### Passes and runs -/

theorem visitKey_knownClaims (p : Pass γ) (s : FollowLane) (key : String) :
    (visitKey S offsetLatlonM p s key).1.knownClaims = s.knownClaims := by
  unfold visitKey
  split
  · rfl
  split
  · rfl
  split
  · rfl
  dsimp only
  split
  · rfl
  split
  · rfl
  split
  · rfl
  split
  · rfl
  · rfl

theorem visitKey_off {p : Pass γ} (off : p.mode = .off) (s : FollowLane) (key : String) :
    visitKey S offsetLatlonM p s key = (s, none) := by
  rw [visitKey, if_pos off]

variable (S offsetLatlonM) in
theorem run_visits (p : Pass γ) (keys : List String) (acc : FollowLane × List SolverInput) :
    run (FollowLane.step S offsetLatlonM) acc.1 (keys.map (.visit p ·)) = (keys.foldl (takeTurn S offsetLatlonM p) acc).1 ∧
      (keys.foldl (takeTurn S offsetLatlonM p) acc).1.knownClaims = acc.1.knownClaims ∧
        (p.mode = .off → (keys.foldl (takeTurn S offsetLatlonM p) acc).1 = acc.1) := by
  induction keys generalizing acc with
  | nil => exact ⟨rfl, rfl, fun _ => rfl⟩
  | cons key rest ih =>
    obtain ⟨same, registry, off⟩ := ih (takeTurn S offsetLatlonM p acc key)
    refine ⟨same, registry.trans (visitKey_knownClaims p acc.1 key), fun quiet => (off quiet).trans ?_⟩
    rw [takeTurn, visitKey_off quiet]

/-- An uninterrupted pass is the run of its turns and its sweep. -/
theorem runDarkFollowPass_eq_run (p : Pass γ) (s : FollowLane) :
    (runDarkFollowPass S offsetLatlonM p s).1 = run (FollowLane.step S offsetLatlonM) s (passEvents p s) := by
  obtain ⟨turns, registry, off⟩ := run_visits S offsetLatlonM p s.knownClaims.keys (s, [])
  rw [passEvents, run_append, turns, run_cons, run_nil, FollowLane.step, registry, runDarkFollowPass]
  by_cases idle : p.mode = .off ∨ s.knownClaims.size = 0
  · rw [if_pos idle, if_pos idle]
    rcases idle with quiet | empty
    · exact (off quiet).symm
    · have none_listed : s.knownClaims.keys = [] := List.map_eq_nil_iff.mpr (List.length_eq_zero_iff.mp empty)
      rw [none_listed]
      rfl
  · rw [if_neg idle, if_neg idle]

/-- In every run, no turn builds an input for a key in cooldown exactly when every key that comes to
its turn in cooldown is held back by something else: the mode, the interval since its last solve,
too few claims of placed nodes that can be solved together, none of them newer than the last
solve's, or a newest claim without a prediction. -/
theorem no_input_in_cooldown_iff (S : FollowSettings) (offsetLatlonM : (lat lon eastM northM : ℚ) → ℚ × ℚ) (s : FollowLane)
    (events : List (LaneEvent γ)) :
    Along (FollowLane.step S offsetLatlonM) (NotInCooldown S offsetLatlonM) s events ↔
      Along (FollowLane.step S offsetLatlonM) (HeldInCooldown S) s events := by
  refine along_congr (I := fun _ => True) (fun _ _ _ => trivial) (fun s e _ => ?_) trivial events
  cases e with
  | follow e => exact Iff.rfl
  | registry knownClaims => exact Iff.rfl
  | sweep p => exact Iff.rfl
  | visit p key => exact imp_congr_right fun _ => visitKey_eq_none_iff p s key

/-! ### A run on fixed inputs -/

def followClaim (nodeId : String) (tsMs : ℤ) : KnownClaim :=
  ⟨nodeId, 10, 0, 10, 0, tsMs, .follow ⟨50, 14, 3, 0, 0, tsMs⟩, false, none, false, true⟩

/-- Three nodes claim a followed key, two of its solves are rejected, and a second later it has its turn. -/
def rejectedTwice : List (LaneEvent Unit) :=
  [.registry (Dict.empty.insert "mn-dark-1" [followClaim "north" 0, followClaim "south" 0, followClaim "west" 0]),
    .follow (.outcome "mn-dark-1" false 10), .follow (.outcome "mn-dark-1" false 10),
    .visit ⟨.binding, 1000, 11, ((Dict.empty.insert "north" ()).insert "south" ()).insert "west" ()⟩ "mn-dark-1"]

theorem solved_in_cooldown :
    ¬ Along (FollowLane.step {} fun lat lon _ _ => (lat, lon)) (NotInCooldown {} fun lat lon _ _ => (lat, lon)) .start
      rejectedTwice := by
  intro safe
  have cooling : inCooldown (run (FollowLane.step {} fun lat lon _ _ => (lat, lon)) .start (rejectedTwice.take 3)).guard
      "mn-dark-1" 11 = true := by decide +kernel
  have built := safe.2.2.2.1 cooling
  revert built
  decide +kernel

end

end Retina.DarkFollow
