import Mathlib.Data.List.Basic
import Mathlib.Data.List.Induction

/-! Runs of a step function over a list of events. A property of single steps
holds along a run when it holds of each event in the state that meets it; an
invariant that every admitted step restores holds in every state reached. -/
namespace Runs

variable {σ : Type u} {ε : Type v}

def run (step : σ → ε → σ) (s : σ) (events : List ε) : σ := events.foldl step s

/-- `Q` holds of every event of the run, in the state in which it happens. -/
def Along (step : σ → ε → σ) (Q : σ → ε → Prop) : σ → List ε → Prop
  | _, [] => True
  | s, e :: rest => Q s e ∧ Along step Q (step s e) rest

instance decidableAlong (step : σ → ε → σ) (Q : σ → ε → Prop) [∀ s e, Decidable (Q s e)] :
    ∀ s events, Decidable (Along step Q s events)
  | _, [] => inferInstanceAs (Decidable True)
  | s, e :: rest =>
      haveI := decidableAlong step Q (step s e) rest
      inferInstanceAs (Decidable (Q s e ∧ Along step Q (step s e) rest))

variable {step : σ → ε → σ} {Q guard : σ → ε → Prop} {I : σ → Prop}

@[simp] theorem run_nil (step : σ → ε → σ) (s : σ) : run step s [] = s := rfl

@[simp] theorem run_cons (step : σ → ε → σ) (s : σ) (e : ε) (rest : List ε) :
    run step s (e :: rest) = run step (step s e) rest := rfl

theorem run_append (step : σ → ε → σ) (s : σ) (first second : List ε) :
    run step s (first ++ second) = run step (run step s first) second :=
  List.foldl_append

theorem along_append (step : σ → ε → σ) (Q : σ → ε → Prop) (s : σ) (first second : List ε) :
    Along step Q s (first ++ second) ↔ Along step Q s first ∧ Along step Q (run step s first) second := by
  induction first generalizing s with
  | nil => simp [Along]
  | cons e rest ih => simp [Along, ih, and_assoc]

theorem along_and (step : σ → ε → σ) (P Q : σ → ε → Prop) (s : σ) (events : List ε) :
    Along step (fun s e => P s e ∧ Q s e) s events ↔ Along step P s events ∧ Along step Q s events := by
  induction events generalizing s with
  | nil => simp [Along]
  | cons e rest ih =>
    simp only [Along, ih]
    exact and_and_and_comm

/-- What is seen of a machine runs as a machine of its own. -/
theorem map_run {τ : Type w} {step' : τ → ε → τ} (view : σ → τ) (commutes : ∀ s e, view (step s e) = step' (view s) e)
    (s : σ) (events : List ε) : view (run step s events) = run step' (view s) events := by
  induction events generalizing s with
  | nil => rfl
  | cons e rest ih => rw [run_cons, run_cons, ih, commutes]

theorem along_map {τ : Type w} {step' : τ → ε → τ} (view : σ → τ) (commutes : ∀ s e, view (step s e) = step' (view s) e)
    (Q : τ → ε → Prop) (s : σ) (events : List ε) :
    Along step' Q (view s) events ↔ Along step (fun s e => Q (view s) e) s events := by
  induction events generalizing s with
  | nil => exact Iff.rfl
  | cons e rest ih => rw [Along, Along, ← commutes, ih]

/-- The run rule: an invariant that each admitted step restores survives the run. -/
theorem invariant (preserved : ∀ s e, I s → guard s e → I (step s e))
    (initial : I s) (admitted : Along step guard s events) : I (run step s events) := by
  induction events generalizing s with
  | nil => exact initial
  | cons e rest ih => exact ih (preserved s e initial admitted.1) admitted.2

theorem invariant_always (preserved : ∀ s e, I s → I (step s e)) (initial : I s) (events : List ε) :
    I (run step s events) := by
  induction events generalizing s with
  | nil => exact initial
  | cons e rest ih => exact ih (preserved s e initial)

/-- The step rule: what holds of every admitted step taken from the invariant
holds along the run. -/
theorem along_of_invariant (preserved : ∀ s e, I s → guard s e → I (step s e))
    (holds : ∀ s e, I s → guard s e → Q s e)
    (initial : I s) (admitted : Along step guard s events) : Along step Q s events := by
  induction events generalizing s with
  | nil => trivial
  | cons e rest ih =>
    exact ⟨holds s e initial admitted.1, ih (preserved s e initial admitted.1) admitted.2⟩

/-- What holds of every step taken from an invariant that every step keeps holds along every run. -/
theorem along_of_always (preserved : ∀ s e, I s → I (step s e)) (holds : ∀ s e, I s → Q s e) (initial : I s)
    (events : List ε) : Along step Q s events := by
  induction events generalizing s with
  | nil => trivial
  | cons e rest ih => exact ⟨holds s e initial, ih (preserved s e initial)⟩

/-- Two properties of steps that agree wherever the invariant holds agree along every run. -/
theorem along_congr {R : σ → ε → Prop} (preserved : ∀ s e, I s → I (step s e))
    (agree : ∀ s e, I s → (Q s e ↔ R s e)) (initial : I s) (events : List ε) :
    Along step Q s events ↔ Along step R s events := by
  induction events generalizing s with
  | nil => exact Iff.rfl
  | cons e rest ih => exact and_congr (agree s e initial) (ih (preserved s e initial))

/-- The run rule for an invariant that also speaks of the events so far. -/
theorem invariant_of_history {J : List ε → σ → Prop}
    (preserved : ∀ before s e, J before s → guard s e → J (before ++ [e]) (step s e))
    (initial : J before s) (admitted : Along step guard s events) :
    J (before ++ events) (run step s events) := by
  induction events generalizing before s with
  | nil => simpa using initial
  | cons e rest ih =>
    have next := ih (preserved before s e initial admitted.1) admitted.2
    simpa using next

theorem along_iff_split (step : σ → ε → σ) (Q : σ → ε → Prop) (s : σ) (events : List ε) :
    Along step Q s events ↔
      ∀ before e after, events = before ++ e :: after → Q (run step s before) e := by
  induction events generalizing s with
  | nil => simp [Along]
  | cons e₀ rest ih =>
    simp only [Along, ih]
    constructor
    · rintro ⟨here, later⟩ before e after split
      cases before with
      | nil =>
        obtain ⟨rfl, -⟩ := List.cons.inj split
        exact here
      | cons first before =>
        obtain ⟨rfl, tail⟩ := List.cons.inj split
        exact later before e after tail
    · intro all
      exact ⟨all [] e₀ rest rfl, fun before e after split => all (e₀ :: before) e after (split ▸ rfl)⟩

/-- Where a step keeps the invariant exactly when it is admitted, so does a run. -/
theorem along_iff_invariant (exact_ : ∀ s e, I s → (guard s e ↔ I (step s e))) (initial : I s) (events : List ε) :
    Along step guard s events ↔ ∀ before after, events = before ++ after → I (run step s before) := by
  constructor
  · intro admitted before after split
    subst split
    exact invariant (fun s e held allowed => (exact_ s e held).mp allowed) initial
      ((along_append step guard s before after).mp admitted).1
  · intro kept
    induction events generalizing s with
    | nil => trivial
    | cons e rest ih =>
      have next : I (step s e) := kept [e] rest rfl
      exact ⟨(exact_ s e initial).mpr next, ih next fun before after split => kept (e :: before) after (split ▸ rfl)⟩

/-- What holds in the end and did not at first was brought about by an event, and has held ever since. -/
theorem exists_turn {P : σ → Prop} (off : ¬ P s) (on : P (run step s events)) :
    ∃ before e after, events = before ++ e :: after ∧ ¬ P (run step s before) ∧
      ∀ between rest, after = between ++ rest → P (run step s (before ++ e :: between)) := by
  induction events using List.reverseRecOn with
  | nil => exact absurd on off
  | append_singleton events last ih =>
    by_cases already : P (run step s events)
    · obtain ⟨before, e, after, rfl, turned, since⟩ := ih already
      refine ⟨before, e, after ++ [last], by simp, turned, fun between rest split => ?_⟩
      rcases List.eq_nil_or_concat rest with rfl | ⟨rest, last', rfl⟩
      · rw [List.append_nil] at split
        subst split
        simpa using on
      · rw [List.concat_eq_append, ← List.append_assoc] at split
        exact since between rest (List.append_inj_left' split rfl)
    · refine ⟨events, last, [], rfl, already, fun between rest split => ?_⟩
      obtain ⟨rfl, rfl⟩ := List.append_eq_nil_iff.mp split.symm
      exact on

/-- The first event of a kind, where there is one. -/
theorem exists_first {P : ε → Prop} [DecidablePred P] (chosen : ∃ e ∈ events, P e) :
    ∃ before e after, events = before ++ e :: after ∧ (∀ earlier ∈ before, ¬ P earlier) ∧ P e := by
  obtain ⟨e, member, holds⟩ := chosen
  have found : (events.find? fun e => decide (P e)).isSome := List.find?_isSome.mpr ⟨e, member, decide_eq_true holds⟩
  obtain ⟨first, equal⟩ := Option.isSome_iff_exists.mp found
  obtain ⟨here, before, after, split, earlier⟩ := List.find?_eq_some_iff_append.mp equal
  exact ⟨before, first, after, split, fun other listed => by simpa using earlier other listed, by simpa using here⟩

end Runs

/-! Two runs that differ in one party's events. Where that party's steps keep to a
relation between states, and a step of anybody else keeps it when both sides take
it, runs with the same remaining events end in related states. -/
namespace Noninterference
open Runs

variable {σ : Type u} {ε : Type v} {step : σ → ε → σ} {own : ε → Bool} {guard : σ → ε → Prop} {R : σ → σ → Prop}

/-- The events of everybody else. -/
def rest (own : ε → Bool) (events : List ε) : List ε := events.filter fun e => !own e

/-- The party's own events change nothing that the relation sees. -/
theorem absorb (keeps : ∀ s s' e, R s s' → own e = true → guard s' e → R s (step s' e))
    (related : R s s') (admitted : Along step guard s' events) (all_own : ∀ e ∈ events, own e = true) :
    R s (run step s' events) := by
  induction events generalizing s' with
  | nil => exact related
  | cons e later ih =>
    have here := keeps s s' e related (all_own e List.mem_cons_self) admitted.1
    exact ih here admitted.2 fun e' listed => all_own e' (List.mem_cons_of_mem e listed)

/-- The unwinding rule. -/
theorem related_of_same_rest (symm : ∀ s s', R s s' → R s' s)
    (keeps : ∀ s s' e, R s s' → own e = true → guard s' e → R s (step s' e))
    (together : ∀ s s' e, R s s' → own e = false → guard s e → guard s' e → R (step s e) (step s' e))
    (related : R s s') (admitted : Along step guard s events) (admitted' : Along step guard s' events')
    (same : rest own events = rest own events') : R (run step s events) (run step s' events') := by
  induction events generalizing s s' events' with
  | nil =>
    refine absorb keeps related admitted' fun e listed => ?_
    have none_left : events'.filter (fun e => !own e) = [] := same.symm
    simpa using List.filter_eq_nil_iff.mp none_left e listed
  | cons e later ih =>
    by_cases mine : own e = true
    · have here := symm _ _ (keeps s' s e (symm _ _ related) mine admitted.1)
      refine ih here admitted.2 admitted' ?_
      rw [← same, rest, rest, List.filter_cons_of_neg (by simp [mine])]
    · -- The other run has the same event, after some of the party's own.
      rw [Bool.not_eq_true] at mine
      rw [rest, List.filter_cons_of_pos (by simp [mine])] at same
      obtain ⟨before, after, rfl, all_own, -, same_after⟩ := List.filter_eq_cons_iff.mp same.symm
      obtain ⟨admitted_before, admitted_after⟩ := (along_append step guard s' before (e :: after)).mp admitted'
      have reached := absorb keeps related admitted_before fun e' listed => by simpa using all_own e' listed
      have met := together s (run step s' before) e reached mine admitted.1 admitted_after.1
      rw [run_append, run_cons, run_cons]
      exact ih met admitted.2 admitted_after.2 same_after.symm

end Noninterference
