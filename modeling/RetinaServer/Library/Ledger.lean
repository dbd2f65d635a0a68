import Mathlib.Data.List.Basic
import Mathlib.Data.List.Infix
import Mathlib.Logic.Function.Basic

/-! The account of a buffer whose front is settled from time to time: of each
item that went in it is known whether it was written out or given up, or it is
still there. What has been written may run ahead of the settlement by a front
part of the buffer. -/
namespace Ledger

variable {α : Type u}

inductive Fate where
  | written
  | dropped
deriving DecidableEq, Repr

def withFate (fate : Fate) (fates : List (α × Fate)) : List α :=
  (fates.filter fun item => decide (item.2 = fate)).map Prod.fst

/-- The intake is settled item by item, in order, up to the buffer. -/
def Balanced (intake buffer ahead written : List α) (dropped : Nat) : Prop :=
  ∃ fates : List (α × Fate), intake = fates.map Prod.fst ++ buffer ∧
    written = withFate .written fates ++ ahead ∧ dropped = (withFate .dropped fates).length

theorem withFate_append (fate : Fate) (first second : List (α × Fate)) :
    withFate fate (first ++ second) = withFate fate first ++ withFate fate second := by
  simp [withFate]

theorem withFate_all (fate given : Fate) (items : List α) :
    withFate fate (items.map fun x => (x, given)) = if given = fate then items else [] := by
  induction items with
  | nil => simp [withFate]
  | cons x rest ih =>
    by_cases same : given = fate
    · simpa [withFate, same] using ih
    · simp [withFate, same]

theorem balanced_empty : Balanced ([] : List α) [] [] [] 0 := ⟨[], rfl, rfl, rfl⟩

theorem Balanced.take_in (balanced : Balanced intake buffer ahead written dropped) (x : α) :
    Balanced (intake ++ [x]) (buffer ++ [x]) ahead written dropped := by
  obtain ⟨fates, settled, out, lost⟩ := balanced
  exact ⟨fates, by simp [settled], out, lost⟩

theorem Balanced.write (balanced : Balanced intake buffer [] written dropped) (items : List α) :
    Balanced intake buffer items (written ++ items) dropped := by
  obtain ⟨fates, settled, out, lost⟩ := balanced
  exact ⟨fates, settled, by simp [out], lost⟩

theorem Balanced.settle {items rest : List α} (balanced : Balanced intake (items ++ rest) items written dropped) :
    Balanced intake rest [] written dropped := by
  obtain ⟨fates, settled, out, lost⟩ := balanced
  refine ⟨fates ++ items.map fun x => (x, .written), ?_, ?_, ?_⟩
  · simp [settled, Function.comp_def]
  · simp [withFate_append, withFate_all, out]
  · simp [withFate_append, withFate_all, lost]

theorem Balanced.give_up {items rest : List α} (balanced : Balanced intake (items ++ rest) [] written dropped) :
    Balanced intake rest [] written (dropped + items.length) := by
  obtain ⟨fates, settled, out, lost⟩ := balanced
  refine ⟨fates ++ items.map fun x => (x, .dropped), ?_, ?_, ?_⟩
  · simp [settled, Function.comp_def]
  · simp [withFate_append, withFate_all, out]
  · simp [withFate_append, withFate_all, lost]

end Ledger

/-! First-in first-out lanes behind one router. Every item has a lane of its own
choosing, goes in at that lane's tail and leaves from its head, so what a lane
has taken in is what it has given out and what it still holds, in that order. -/
namespace RoutedFifo

variable {ι : Type u} {α : Type v} [DecidableEq ι] (route : α → ι)

def enqueue (lanes : ι → List α) (x : α) : ι → List α :=
  Function.update lanes (route x) (lanes (route x) ++ [x])

/-- Each lane's intake is its output followed by its content. -/
def Balanced (lanes : ι → List α) (accepted taken : List α) : Prop :=
  ∀ i, accepted.filter (fun x => decide (route x = i)) = taken.filter (fun x => decide (route x = i)) ++ lanes i

variable {route}

theorem balanced_empty : Balanced route (fun _ => []) [] [] := fun _ => rfl

theorem Balanced.mem_lane {lanes : ι → List α} (balanced : Balanced route lanes accepted taken)
    (member : x ∈ lanes i) : route x = i := by
  have listed : x ∈ accepted.filter (fun x => decide (route x = i)) := by
    rw [balanced i]
    exact List.mem_append_right _ member
  exact of_decide_eq_true (List.mem_filter.mp listed).2

theorem Balanced.enqueue {lanes : ι → List α} (balanced : Balanced route lanes accepted taken) (x : α) :
    Balanced route (enqueue route lanes x) (accepted ++ [x]) taken := by
  intro i
  rw [List.filter_append, balanced i]
  by_cases same : route x = i
  · subst same
    simp [RoutedFifo.enqueue]
  · simp [RoutedFifo.enqueue, same, Function.update_of_ne (Ne.symm same)]

theorem Balanced.dequeue {lanes : ι → List α} (balanced : Balanced route lanes accepted taken)
    (head : lanes i = x :: rest) :
    Balanced route (Function.update lanes i rest) accepted (taken ++ [x]) := by
  have lane : route x = i := balanced.mem_lane (head ▸ List.mem_cons_self)
  intro j
  rw [balanced j, List.filter_append]
  by_cases same : j = i
  · subst same
    simp [head, lane]
  · simp [lane, Ne.symm same, Function.update_of_ne same]

/-- What the router does for its lanes it does for any finer division of the items. -/
theorem Balanced.finer {lanes : ι → List α} (balanced : Balanced route lanes accepted taken)
    (p : α → Bool) (within : ∀ x, p x = true → route x = i) :
    accepted.filter p = taken.filter p ++ (lanes i).filter p := by
  have narrowed (items : List α) : (items.filter (fun x => decide (route x = i))).filter p = items.filter p := by
    rw [List.filter_filter]
    apply List.filter_congr
    intro x _
    cases chosen : p x
    · rfl
    · simp [within x chosen]
  rw [← narrowed accepted, ← narrowed taken, balanced i, List.filter_append]

theorem Balanced.served_in_order {lanes : ι → List α} (balanced : Balanced route lanes accepted taken)
    (p : α → Bool) (within : ∀ x, p x = true → route x = i) :
    taken.filter p <+: accepted.filter p :=
  ⟨(lanes i).filter p, (balanced.finer p within).symm⟩

end RoutedFifo
