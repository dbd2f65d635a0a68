import RetinaServer.Sites.NodeSites
import RetinaServer.Library.Runs
import Mathlib.Order.WithBot

/-! Re-anchoring of the known lane. A solve that lands far from a position that the
lane has predicted itself is a ghost, unless the ghosts of the aircraft agree often
enough in a row; then it is the prediction that has moved. -/
namespace Retina.KnownLane
open Runs

inductive SeedSource where
  | fix
  | kf
deriving DecidableEq

structure LaneSettings where
  geodesy : Sites.Geodesy
  maxDisplacementKm : ℚ := 2
  reanchorStreak : ℤ := 2
  publishMaxRmsDelayUs : ℚ
  publishMaxDelayDopKmPerUs : ℚ

structure LaneSolve where
  lat : ℚ
  lon : ℚ
  rmsDelay : Option ℚ

/-- What an attempt has to go on: the aligned input, the dilution at its guess (infinite
for parallel loci), and the solve where there was one that converged. -/
structure Attempt where
  hexn : String
  seedSource : SeedSource
  guessLat : ℚ
  guessLon : ℚ
  timestampMs : ℤ
  delayDop : Option (WithTop ℚ)
  solve : Option LaneSolve
  binding : Bool := true

/-- The last ghost of an aircraft, and how many have come in a row. -/
structure Mark where
  lat : ℚ
  lon : ℚ
  tsMs : ℤ
  streak : Nat

abbrev ReanchorMem := Dict String Mark

inductive Label where
  | noConverge
  | truthMatch
  | ghost
  | reanchored
deriving DecidableEq

inductive PublishGate where
  | weakGeometry
  | rmsDelay
deriving DecidableEq

structure AttemptRecord where
  label : Label
  displacementKm : Option ℚ := none
  published : Bool := false
  publishGate : Option PublishGate := none

variable (S : LaneSettings)

def reanchorTtlS : ℚ := 60

/-- The ghost is near the one that left the mark, in place and in time. -/
def continues (prev : Mark) (rawLat rawLon : ℚ) (tsMs : ℤ) : Bool :=
  decide (0 ≤ (tsMs / 1000 : ℚ) - prev.tsMs / 1000) && decide ((tsMs / 1000 : ℚ) - prev.tsMs / 1000 ≤ reanchorTtlS) &&
    decide (S.geodesy.haversineKm prev.lat prev.lon rawLat rawLon ≤ S.maxDisplacementKm)

def streakOf (prev : Option Mark) (rawLat rawLon : ℚ) (tsMs : ℤ) : Nat :=
  match prev with
  | some prev => if continues S prev rawLat rawLon tsMs then prev.streak + 1 else 1
  | none => 1

def reanchor (reanchorMem : ReanchorMem) (hexn : String) (rawLat rawLon : ℚ) (tsMs : ℤ) : ReanchorMem × Bool :=
  if S.reanchorStreak ≤ 0 then (reanchorMem, false)
  else
    let swept := reanchorMem.filter fun _ m => decide (|(tsMs / 1000 : ℚ) - m.tsMs / 1000| ≤ reanchorTtlS)
    let streak := streakOf S (swept.get? hexn) rawLat rawLon tsMs
    if S.reanchorStreak ≤ streak then (swept.erase hexn, true)
    else (swept.insert hexn ⟨rawLat, rawLon, tsMs, streak⟩, false)

def geometryOk (delayDop : Option (WithTop ℚ)) : Bool :=
  match delayDop with
  | none => true
  | some dop => decide (S.publishMaxDelayDopKmPerUs ≤ 0) || decide (dop ≤ (S.publishMaxDelayDopKmPerUs : WithTop ℚ))

def displacement (a : Attempt) (result : LaneSolve) : ℚ :=
  S.geodesy.haversineKm a.guessLat a.guessLon result.lat result.lon

/-- A solve that converged too far from the lane's own prediction. -/
def filterGhost (a : Attempt) : Bool :=
  a.seedSource == .kf && a.solve.any fun result => decide (S.maxDisplacementKm < displacement S a result)

/-- The ghosts that re-anchoring is asked about. -/
def counted (a : Attempt) : Bool := filterGhost S a && geometryOk S a.delayDop

def attempt (reanchorMem : ReanchorMem) (a : Attempt) : ReanchorMem × AttemptRecord :=
  match a.solve with
  | none => (reanchorMem, { label := .noConverge })
  | some result =>
    let errKm := displacement S a result
    let asked := if counted S a then reanchor S reanchorMem a.hexn result.lat result.lon a.timestampMs else (reanchorMem, false)
    let label := if errKm ≤ S.maxDisplacementKm then Label.truthMatch else if asked.2 then .reanchored else .ghost
    let rmsOk := decide (result.rmsDelay.getD 0 ≤ S.publishMaxRmsDelayUs)
    let publishable := a.binding && (label == .truthMatch || label == .reanchored)
    (asked.1,
      { label, displacementKm := some errKm, published := publishable && geometryOk S a.delayDop && rmsOk,
        publishGate :=
          if publishable && !geometryOk S a.delayDop then some .weakGeometry
          else if publishable && !rmsOk then some .rmsDelay else none })

/-! ### Runs of attempts -/

/-- The memory, with every attempt that was made so far, the last one first. -/
structure Lane where
  reanchorMem : ReanchorMem
  attempts : List Attempt

def Lane.start : Lane := ⟨.empty, []⟩

def Lane.step (s : Lane) (a : Attempt) : Lane := ⟨(attempt S s.reanchorMem a).1, a :: s.attempts⟩

def Lane.attemptsOf (s : Lane) (hexn : String) : List Attempt := s.attempts.filter fun a => decide (a.hexn = hexn)

/-- The later of two attempts landed where the earlier one did. -/
def agrees (later earlier : Attempt) : Bool :=
  earlier.solve.any fun x => later.solve.any fun y =>
    decide (S.geodesy.haversineKm x.lat x.lon y.lat y.lon ≤ S.maxDisplacementKm)

/-- The last `n` attempts of an aircraft are ghosts against the lane's predictions, and agree with one another. -/
structure AgreeingGhosts (attempts : List Attempt) (n : Nat) : Prop where
  enough : n ≤ attempts.length
  ghosts : ∀ a ∈ attempts.take n, filterGhost S a = true
  agree : (attempts.take n).Pairwise fun later earlier => agrees S later earlier = true

/-- An attempt that re-anchors the lane ends a streak of the demanded length. -/
def Earned (s : Lane) (a : Attempt) : Prop :=
  (attempt S s.reanchorMem a).2.label = .reanchored →
    AgreeingGhosts S ((s.step S a).attemptsOf a.hexn) S.reanchorStreak.toNat

/-- The mark that a ghost continues. -/
def continued (reanchorMem : ReanchorMem) (a : Attempt) : Option Mark :=
  a.solve.bind fun result => (reanchorMem.get? a.hexn).filter fun m =>
    counted S a && continues S m result.lat result.lon a.timestampMs

/-- A ghost continues the mark of its aircraft only if the attempt before it was a ghost that counted as
well, and it agrees with every attempt of the streak. -/
def ContinuesTheLast (s : Lane) (a : Attempt) : Prop :=
  ∀ m ∈ continued S s.reanchorMem a,
    (s.attemptsOf a.hexn).head?.any (counted S) = true ∧ ∀ earlier ∈ (s.attemptsOf a.hexn).take m.streak, agrees S a earlier = true

instance (s : Lane) (a : Attempt) : Decidable (ContinuesTheLast S s a) := inferInstanceAs (Decidable (∀ _ ∈ _, _ ∧ _))

variable {S}

/-! ### Streaks -/

theorem AgreeingGhosts.single (ghost : filterGhost S a = true) : AgreeingGhosts S (a :: attempts) 1 := by
  refine ⟨Nat.succ_le_succ (Nat.zero_le _), ?_, ?_⟩
  · simpa using ghost
  · simp

theorem AgreeingGhosts.cons (streak : AgreeingGhosts S attempts n) (ghost : filterGhost S a = true)
    (agree : ∀ earlier ∈ attempts.take n, agrees S a earlier = true) : AgreeingGhosts S (a :: attempts) (n + 1) := by
  refine ⟨Nat.succ_le_succ streak.enough, ?_, ?_⟩
  · rw [List.take_succ_cons]
    exact List.forall_mem_cons.mpr ⟨ghost, streak.ghosts⟩
  · rw [List.take_succ_cons]
    exact List.pairwise_cons.mpr ⟨agree, streak.agree⟩

/-- The end of a streak is a streak. -/
theorem AgreeingGhosts.mono (streak : AgreeingGhosts S attempts n) (fewer : k ≤ n) : AgreeingGhosts S attempts k := by
  have part : (attempts.take k).Sublist (attempts.take n) := by
    rw [← min_eq_left fewer, ← List.take_take]
    exact List.take_sublist k _
  exact ⟨fewer.trans streak.enough, fun a member => streak.ghosts a (part.subset member), streak.agree.sublist part⟩

/-! ### What an attempt does to the memory -/

/-- A mark that is too old for the sweep is not one that a ghost continues. -/
theorem streakOf_swept (reanchorMem : ReanchorMem) (hexn : String) (rawLat rawLon : ℚ) (tsMs : ℤ) :
    streakOf S ((reanchorMem.filter fun _ m => decide (|(tsMs / 1000 : ℚ) - m.tsMs / 1000| ≤ reanchorTtlS)).get? hexn)
      rawLat rawLon tsMs = streakOf S (reanchorMem.get? hexn) rawLat rawLon tsMs := by
  rw [Dict.get?_filter]
  cases reanchorMem.get? hexn with
  | none => rfl
  | some m =>
    rw [Option.filter_some]
    split
    · rfl
    · rename_i stale
      have apart : continues S m rawLat rawLon tsMs = false := by
        by_contra near
        simp only [continues, Bool.not_eq_false, Bool.and_eq_true, decide_eq_true_eq] at near
        refine stale (decide_eq_true ?_)
        rw [abs_of_nonneg near.1.1]
        exact near.1.2
      simp [streakOf, apart]

theorem attempt_of_counted (active : 0 < S.reanchorStreak) (solved : a.solve = some result) (asked : counted S a = true)
    (reanchorMem : ReanchorMem) :
    let streak := streakOf S (reanchorMem.get? a.hexn) result.lat result.lon a.timestampMs
    let swept := reanchorMem.filter fun _ m => decide (|(a.timestampMs / 1000 : ℚ) - m.tsMs / 1000| ≤ reanchorTtlS)
    (S.reanchorStreak ≤ streak ∧ (attempt S reanchorMem a).1 = swept.erase a.hexn) ∨
      (streak < S.reanchorStreak ∧ (attempt S reanchorMem a).2.label = .ghost ∧
        (attempt S reanchorMem a).1 = swept.insert a.hexn ⟨result.lat, result.lon, a.timestampMs, streak⟩) := by
  have far : ¬ displacement S a result ≤ S.maxDisplacementKm := by
    have ghost := (Bool.and_eq_true_iff.mp asked).1
    simp only [filterGhost, solved, Option.any_some, Bool.and_eq_true, decide_eq_true_eq] at ghost
    exact not_le.mpr ghost.2
  simp only [attempt, solved, asked, if_true, reanchor, not_le.mpr active, if_false, streakOf_swept, far]
  by_cases reached : S.reanchorStreak ≤ streakOf S (reanchorMem.get? a.hexn) result.lat result.lon a.timestampMs
  · simp [reached]
  · simp [reached, not_le.mp reached]

/-- An attempt that re-anchoring is not asked about leaves the memory alone. -/
theorem attempt_of_uncounted (unasked : counted S a = false) (reanchorMem : ReanchorMem) :
    (attempt S reanchorMem a).1 = reanchorMem ∧ (attempt S reanchorMem a).2.label ≠ .reanchored := by
  unfold attempt
  cases a.solve with
  | none => simp
  | some result =>
    simp only [unasked, Bool.false_eq_true, if_false]
    split <;> simp

theorem attemptsOf_step (s : Lane) (a : Attempt) (hexn : String) :
    (s.step S a).attemptsOf hexn = if a.hexn = hexn then a :: s.attemptsOf hexn else s.attemptsOf hexn := by
  simp only [Lane.step, Lane.attemptsOf, List.filter_cons, decide_eq_true_eq]

/-- A mark whose ghost was the last attempt of its aircraft counts agreeing ghosts. -/
def Backed (S : LaneSettings) (s : Lane) : Prop :=
  ∀ hexn m, s.reanchorMem.get? hexn = some m → (s.attemptsOf hexn).head?.any (counted S) = true →
    AgreeingGhosts S (s.attemptsOf hexn) m.streak

/-- The streak that a ghost is given is one of agreeing ghosts, where it continues the last attempt only. -/
theorem agreeing_of_streakOf (backed : Backed S s) (last : ContinuesTheLast S s a) (solved : a.solve = some result)
    (asked : counted S a = true) :
    AgreeingGhosts S (a :: s.attemptsOf a.hexn)
      (streakOf S (s.reanchorMem.get? a.hexn) result.lat result.lon a.timestampMs) := by
  have ghost : filterGhost S a = true := (Bool.and_eq_true_iff.mp asked).1
  cases held : s.reanchorMem.get? a.hexn with
  | none => exact .single ghost
  | some m =>
    rw [streakOf]
    split
    · rename_i near
      have on : m ∈ continued S s.reanchorMem a := by simp [continued, solved, held, asked, near]
      obtain ⟨head, agree⟩ := last m on
      exact (backed a.hexn m held head).cons ghost agree
    · exact .single ghost

theorem backed_step (active : 0 < S.reanchorStreak) (backed : Backed S s) (last : ContinuesTheLast S s a) :
    Backed S (s.step S a) := by
  intro hexn m held head
  rw [attemptsOf_step] at head ⊢
  cases asked : counted S a with
  | false =>
    have same : (s.step S a).reanchorMem = s.reanchorMem := (attempt_of_uncounted asked s.reanchorMem).1
    rw [same] at held
    split at head
    · simp [asked] at head
    · rename_i other
      rw [if_neg other]
      exact backed hexn m held head
  | true =>
    cases solved : a.solve with
    | none => simp [counted, filterGhost, solved] at asked
    | some result =>
      have memory := attempt_of_counted active solved asked s.reanchorMem
      by_cases here : a.hexn = hexn
      · subst here
        rw [if_pos rfl]
        obtain ⟨-, erased⟩ | ⟨-, -, marked⟩ := memory
        · rw [Lane.step, erased, Dict.get?_erase, if_pos rfl] at held
          cases held
        · rw [Lane.step, marked, Dict.get?_insert, if_pos rfl] at held
          obtain rfl := Option.some.inj held
          exact agreeing_of_streakOf backed last solved asked
      · rw [if_neg here] at head ⊢
        obtain ⟨-, erased⟩ | ⟨-, -, marked⟩ := memory
        · rw [Lane.step, erased, Dict.get?_erase_ne _ here] at held
          exact backed hexn m (Dict.get?_filter_some held).1 head
        · rw [Lane.step, marked, Dict.get?_insert_ne _ _ here] at held
          exact backed hexn m (Dict.get?_filter_some held).1 head

theorem earned_of_backed (active : 0 < S.reanchorStreak) (backed : Backed S s) (last : ContinuesTheLast S s a) :
    Earned S s a := by
  intro moved
  rw [attemptsOf_step, if_pos rfl]
  cases asked : counted S a with
  | false => exact absurd moved (attempt_of_uncounted asked s.reanchorMem).2
  | true =>
    cases solved : a.solve with
    | none => simp [counted, filterGhost, solved] at asked
    | some result =>
      obtain ⟨reached, -⟩ | ⟨-, kept, -⟩ := attempt_of_counted active solved asked s.reanchorMem
      · exact (agreeing_of_streakOf backed last solved asked).mono (Int.toNat_le.mpr reached)
      · rw [kept] at moved
        cases moved

/-- Without a streak to reach nothing re-anchors. -/
theorem earned_of_inactive (inactive : S.reanchorStreak ≤ 0) (s : Lane) (a : Attempt) : Earned S s a := by
  intro moved
  cases asked : counted S a with
  | false => exact absurd moved (attempt_of_uncounted asked s.reanchorMem).2
  | true =>
    unfold attempt at moved
    cases solved : a.solve with
    | none => simp [solved] at moved
    | some result =>
      simp only [solved, asked, if_true, reanchor, inactive, Bool.false_eq_true, if_false] at moved
      split at moved
      · cases moved
      · cases moved

/-- Where each ghost that continues a streak comes directly after the streak, and agrees with
all of it, an aircraft is re-anchored only by as many agreeing ghosts in a row as are demanded. -/
theorem reanchored_after_streak (S : LaneSettings) (attempts : List Attempt)
    (direct : Along (Lane.step S) (ContinuesTheLast S) .start attempts) : Along (Lane.step S) (Earned S) .start attempts := by
  by_cases active : 0 < S.reanchorStreak
  · have initial : Backed S .start := fun hexn m held _ => by cases held
    exact along_of_invariant (fun _ _ => backed_step active) (fun _ _ => earned_of_backed active) initial direct
  · have always : ∀ s a, True → Earned S s a := fun s a _ => earned_of_inactive (not_lt.mp active) s a
    exact along_of_always (fun _ _ _ => trivial) always trivial attempts

/-! ### Runs on fixed inputs -/

/-- A degree of latitude is 111 km; longitudes count for nothing. -/
def meridian : LaneSettings where
  geodesy := ⟨111, fun lat _ lat' _ => 111 * |lat - lat'|, fun lat lon _ _ => (lat, lon)⟩
  publishMaxRmsDelayUs := 3
  publishMaxDelayDopKmPerUs := 4

/-- An attempt that is seeded at latitude 50 and converges. -/
def attemptAt (timestampMs : ℤ) (lat : ℚ) : Attempt := ⟨"4ca7b1", .kf, 50, 14, timestampMs, none, some ⟨lat, 14, none⟩, true⟩

theorem two_ghosts_reanchor :
    Along (Lane.step meridian) (Earned meridian) .start [attemptAt 0 51, attemptAt 10000 51] :=
  reanchored_after_streak meridian [attemptAt 0 51, attemptAt 10000 51] (by decide +kernel)

/-- A solve that matches the prediction lies between the ghosts. -/
theorem truth_match_between :
    ¬ Along (Lane.step meridian) (Earned meridian) .start [attemptAt 0 51, attemptAt 10000 50, attemptAt 20000 51] := by
  intro earned
  have moved : (attempt meridian (run (Lane.step meridian) .start [attemptAt 0 51, attemptAt 10000 50]).reanchorMem
      (attemptAt 20000 51)).2.label = .reanchored := by decide +kernel
  have streak := (earned.2.2.1 moved).ghosts (attemptAt 10000 50) (by simp [Lane.step, Lane.attemptsOf, attemptAt, meridian])
  revert streak
  decide +kernel

end Retina.KnownLane
