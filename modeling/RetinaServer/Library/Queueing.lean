import RetinaServer.Library.Runs
import Mathlib.Data.List.Nodup

/-! A queue that is served from the front. A step takes the first few, lets some of
the rest withdraw and lets new ones join at the back. What is in the queue keeps its
place, and is out of it once as many turns have been taken as it has before it. -/
namespace Queueing
open Runs

variable {κ : Type u} {σ : Type v} {ε : Type w}

/-- `served` are taken from the front, those that do not stay withdraw, and the new ones go last. -/
def Moves (served : Nat) (queue queue' : List κ) : Prop :=
  ∃ stays : κ → Bool, ∃ joined, queue' = (queue.drop served).filter stays ++ joined ∧ ∀ n ∈ joined, n ∉ queue

theorem Moves.of_drop (served : Nat) (queue : List κ) : Moves served queue (queue.drop served) :=
  ⟨fun _ => true, [], by simp, by simp⟩

theorem Moves.refl (queue : List κ) : Moves 0 queue queue := Moves.of_drop 0 queue

variable [DecidableEq κ] {n : κ}

/-- What is in both stands in the same order, ahead of what is new. -/
def Keeps (queue queue' : List κ) : Prop :=
  ∃ joined, queue' = queue.filter (fun n => decide (n ∈ queue')) ++ joined ∧ ∀ n ∈ joined, n ∉ queue

theorem Keeps.moves {queue queue' : List κ} (keeps : Keeps queue queue') : Moves 0 queue queue' := by
  obtain ⟨joined, order, new⟩ := keeps
  exact ⟨_, joined, order, new⟩

theorem Keeps.refl (queue : List κ) : Keeps queue queue := by
  refine ⟨[], ?_, by simp⟩
  rw [List.append_nil, List.filter_eq_self.mpr fun n member => decide_eq_true member]

theorem Keeps.filter (queue : List κ) (p : κ → Bool) : Keeps queue (queue.filter p) := by
  refine ⟨[], ?_, by simp⟩
  rw [List.append_nil]
  refine List.filter_congr fun n member => ?_
  cases kept : p n with
  | false => simp [List.mem_filter, kept]
  | true => simp [List.mem_filter, kept, member]

theorem Keeps.append (queue : List κ) (new : n ∉ queue) : Keeps queue (queue ++ [n]) := by
  refine ⟨[n], ?_, by simpa using new⟩
  rw [List.filter_eq_self.mpr fun m member => by simp [member]]

/-- Order is kept over two steps where nothing is out between them that is in before and after. -/
theorem Keeps.trans {first second third : List κ} (one : Keeps first second) (two : Keeps second third)
    (between : ∀ n ∈ first, n ∈ third → n ∈ second) : Keeps first third := by
  obtain ⟨joined, order, new⟩ := one
  obtain ⟨joined', order', new'⟩ := two
  refine ⟨joined.filter (fun n => decide (n ∈ third)) ++ joined', ?_, ?_⟩
  · have kept : (first.filter fun n => decide (n ∈ second)).filter (fun n => decide (n ∈ third)) =
        first.filter fun n => decide (n ∈ third) := by
      rw [List.filter_filter]
      refine List.filter_congr fun n member => ?_
      by_cases still : n ∈ third
      · simp [still, between n member still]
      · simp [still]
    calc third = second.filter (fun n => decide (n ∈ third)) ++ joined' := order'
      _ = (first.filter (fun n => decide (n ∈ third)) ++ joined.filter (fun n => decide (n ∈ third))) ++ joined' := by
        rw [← kept, ← List.filter_append, ← order]
      _ = _ := List.append_assoc ..
  · intro n joins member
    rcases List.mem_append.mp joins with early | late
    · exact new n (List.mem_of_mem_filter early) member
    · have still : n ∈ third := order' ▸ List.mem_append_right _ late
      exact new' n late (between n member still)

theorem idxOf_filter_le (stays : κ → Bool) (queue : List κ) (kept : stays n = true) :
    (queue.filter stays).idxOf n ≤ queue.idxOf n := by
  induction queue with
  | nil => simp
  | cons first rest ih =>
    by_cases here : first = n
    · subst here
      simp [kept]
    · rw [List.idxOf_cons_ne _ here, List.filter_cons]
      split
      · rw [List.idxOf_cons_ne _ here]
        exact Nat.succ_le_succ ih
      · omega

/-- What a step leaves in the queue has moved up by what was served, at least. -/
theorem Moves.idxOf_le {queue queue' : List κ} (moves : Moves served queue queue') (distinct : queue.Nodup) (here : n ∈ queue)
    (still : n ∈ queue') : queue'.idxOf n + served ≤ queue.idxOf n := by
  obtain ⟨stays, joined, rfl, new⟩ := moves
  have remains : n ∈ (queue.drop served).filter stays :=
    (List.mem_append.mp still).resolve_right fun joins => new n joins here
  obtain ⟨left, kept⟩ := List.mem_filter.mp remains
  have untaken : n ∉ queue.take served := fun taken =>
    List.disjoint_take_drop distinct (Nat.le_refl _) taken left
  have enough : served ≤ queue.length := by
    rcases Nat.le_total served queue.length with enough | short
    · exact enough
    · rw [List.drop_eq_nil_of_le short] at left
      cases left
  have split : queue.idxOf n = served + (queue.drop served).idxOf n := by
    conv_lhs => rw [← List.take_append_drop served queue]
    rw [List.idxOf_append_of_notMem untaken, List.length_take, Nat.min_eq_left enough]
  rw [List.idxOf_append_of_mem remains, split]
  have up := idxOf_filter_le stays (queue.drop served) kept
  omega

section
variable {step : σ → ε → σ}

/-- The turns taken along a run. -/
def turns (step : σ → ε → σ) (serves : σ → ε → Nat) : σ → List ε → Nat
  | _, [] => 0
  | s, e :: rest => serves s e + turns step serves (step s e) rest

/-- An event of the run takes it out of the queue. -/
def LeavesWithin (step : σ → ε → σ) (queue : σ → List κ) (s : σ) (events : List ε) (n : κ) : Prop :=
  ∃ before e after, events = before ++ e :: after ∧ n ∈ queue (run step s before) ∧ n ∉ queue (step (run step s before) e)

/-- As many turns as there are places up to its own take it out, whatever else happens. -/
theorem leaves_of_turns {I : σ → Prop} (queue : σ → List κ) {serves : σ → ε → Nat}
    (keeps : ∀ s e, I s → I (step s e)) (distinct : ∀ s, I s → (queue s).Nodup)
    (moves : ∀ s e, I s → Moves (serves s e) (queue s) (queue (step s e))) (held : I s) (here : n ∈ queue s)
    (events : List ε) (enough : (queue s).idxOf n < turns step serves s events) :
    LeavesWithin step queue s events n := by
  induction events generalizing s with
  | nil => exact absurd enough (Nat.not_lt_zero _)
  | cons e rest ih =>
    by_cases still : n ∈ queue (step s e)
    · have up := (moves s e held).idxOf_le (distinct s held) here still
      have later : (queue (step s e)).idxOf n < turns step serves (step s e) rest := by
        rw [turns] at enough
        omega
      obtain ⟨before, e', after, rfl, there, gone⟩ := ih (keeps s e held) still later
      exact ⟨e :: before, e', after, rfl, there, gone⟩
    · exact ⟨[], e, rest, rfl, here, still⟩

/-- Turns of at least so many for each event of a kind. -/
theorem mul_countP_le_turns {guard : σ → ε → Prop} {serves : σ → ε → Nat} {counted : ε → Bool}
    (least : ∀ s e, guard s e → counted e = true → k ≤ serves s e) {events : List ε}
    (admitted : Along step guard s events) : k * events.countP counted ≤ turns step serves s events := by
  induction events generalizing s with
  | nil => simp [turns]
  | cons e rest ih =>
    have later := ih admitted.2
    rw [turns]
    by_cases drawn : counted e = true
    · have here := least s e admitted.1 drawn
      rw [List.countP_cons_of_pos drawn, Nat.mul_succ]
      omega
    · rw [List.countP_cons_of_neg drawn]
      omega

end

end Queueing
