import Mathlib.Order.Lattice
import Mathlib.Data.List.Basic
import Mathlib.Order.Defs.LinearOrder
import Mathlib.Data.Nat.Order.Lemmas

/-! Selection of the best item by one pass. The held item is replaced only by a
strictly smaller score, so of several equal scores the earliest one is kept. -/
namespace Selection

variable {α : Type u} {β : Type v} [LinearOrder β]

def better (score : α → β) (held : Option α) (x : α) : Option α :=
  match held with
  | none => some x
  | some y => if score x < score y then some x else some y

/-- The first item of least score. -/
def firstMin (score : α → β) (items : List α) : Option α := items.foldl (better score) none

/-- `x` stands in `items` before every item of its score and none scores less. -/
def IsFirstMin (score : α → β) (items : List α) (x : α) : Prop :=
  ∃ before after, items = before ++ x :: after ∧
    (∀ y ∈ before, score x < score y) ∧ ∀ y ∈ after, score x ≤ score y

theorem foldl_better_some (score : α → β) (items : List α) (held : α) :
    ∃ x, items.foldl (better score) (some held) = some x ∧ IsFirstMin score (held :: items) x := by
  induction items generalizing held with
  | nil => exact ⟨held, rfl, [], [], rfl, by simp, by simp⟩
  | cons y rest ih =>
    by_cases smaller : score y < score held
    · obtain ⟨x, selected, before, after, split, strict, least⟩ := ih y
      refine ⟨x, by simpa [better, smaller] using selected, held :: before, after, by simp [split], ?_, least⟩
      have bound : score x ≤ score y := by
        cases before with
        | nil =>
          obtain ⟨rfl, -⟩ := List.cons.inj split
          exact le_refl _
        | cons first before =>
          obtain ⟨rfl, -⟩ := List.cons.inj split
          exact (strict y (by simp)).le
      simpa using ⟨lt_of_le_of_lt bound smaller, strict⟩
    · obtain ⟨x, selected, before, after, split, strict, least⟩ := ih held
      refine ⟨x, by simpa [better, smaller] using selected, ?_⟩
      cases before with
      | nil =>
        obtain ⟨rfl, rfl⟩ := List.cons.inj split
        refine ⟨[], y :: rest, rfl, by simp, ?_⟩
        simpa using ⟨not_lt.mp smaller, least⟩
      | cons first before =>
        obtain ⟨rfl, rfl⟩ := List.cons.inj split
        have below : score x < score held := strict held (by simp)
        refine ⟨held :: y :: before, after, by simp, ?_, least⟩
        have beyond : score x < score y := lt_of_lt_of_le below (not_lt.mp smaller)
        simpa using ⟨below, beyond, fun z member => strict z (List.mem_cons_of_mem _ member)⟩

theorem isFirstMin_unique {score : α → β} {items : List α}
    (first : IsFirstMin score items a) (second : IsFirstMin score items b) : a = b := by
  obtain ⟨before₁, after₁, split₁, strict₁, least₁⟩ := first
  obtain ⟨before₂, after₂, split₂, strict₂, least₂⟩ := second
  rw [split₁] at split₂
  rcases List.append_eq_append_iff.mp split₂ with ⟨between, rfl, tail⟩ | ⟨between, rfl, tail⟩
  · cases between with
    | nil => exact (List.cons.inj tail).1
    | cons head between =>
      obtain ⟨rfl, rfl⟩ := List.cons.inj tail
      exact absurd (strict₂ a (by simp)) (not_lt.mpr (least₁ b (by simp)))
  · cases between with
    | nil => exact (List.cons.inj tail).1.symm
    | cons head between =>
      obtain ⟨rfl, rfl⟩ := List.cons.inj tail
      exact absurd (strict₁ b (by simp)) (not_lt.mpr (least₂ a (by simp)))

@[simp] theorem firstMin_nil (score : α → β) : firstMin score [] = none := rfl

theorem firstMin_eq_none_iff (score : α → β) (items : List α) : firstMin score items = none ↔ items = [] := by
  cases items with
  | nil => simp
  | cons y rest =>
    obtain ⟨x, selected, -⟩ := foldl_better_some score rest y
    simp [firstMin, better, selected]

theorem firstMin_eq_some_iff (score : α → β) (items : List α) (x : α) :
    firstMin score items = some x ↔ IsFirstMin score items x := by
  cases items with
  | nil => simp [IsFirstMin]
  | cons y rest =>
    obtain ⟨best, selected, least⟩ := foldl_better_some score rest y
    have found : firstMin score (y :: rest) = some best := selected
    constructor
    · intro chosen
      rwa [← Option.some.inj (found.symm.trans chosen)]
    · intro chosen
      rw [found, isFirstMin_unique least chosen]

theorem IsFirstMin.mem {score : α → β} {items : List α} (first : IsFirstMin score items x) : x ∈ items := by
  obtain ⟨before, after, rfl, -⟩ := first
  simp

theorem IsFirstMin.le {score : α → β} {items : List α} (first : IsFirstMin score items x) :
    ∀ y ∈ items, score x ≤ score y := by
  obtain ⟨before, after, rfl, strict, least⟩ := first
  intro y member
  rcases List.mem_append.mp member with earlier | later
  · exact (strict y earlier).le
  · rcases List.mem_cons.mp later with rfl | later
    · exact le_refl _
    · exact least y later

theorem firstMin_mem {score : α → β} {items : List α} (found : firstMin score items = some x) : x ∈ items :=
  ((firstMin_eq_some_iff score items x).mp found).mem

/-- Without ties the selected item does not depend on the order. -/
theorem firstMin_perm {score : α → β} {items items' : List α} (perm : items.Perm items')
    (untied : ∀ a ∈ items, ∀ b ∈ items, score a = score b → a = b) : firstMin score items = firstMin score items' := by
  cases found : firstMin score items with
  | none =>
    obtain rfl := (firstMin_eq_none_iff score items).mp found
    rw [List.nil_perm.mp perm, firstMin_nil]
  | some x =>
    have least := (firstMin_eq_some_iff score items x).mp found
    cases found' : firstMin score items' with
    | none =>
      rw [(firstMin_eq_none_iff score items').mp found', List.perm_nil] at perm
      subst perm
      cases found
    | some y =>
      have least' := (firstMin_eq_some_iff score items' y).mp found'
      have here := perm.mem_iff.mpr least'.mem
      have same := le_antisymm (least.le y here) (least'.le x (perm.mem_iff.mp least.mem))
      rw [untied x least.mem y here same]

/-- The first item of all. -/
def keepFirst (held : Option α) (x : α) : Option α := held.or (some x)

theorem foldl_keepFirst (items : List α) (held : Option α) :
    items.foldl keepFirst held = held.or items.head? := by
  induction items generalizing held with
  | nil => simp
  | cons x rest ih =>
    rw [List.foldl_cons, ih, keepFirst]
    cases held <;> simp

/-- An accumulator that a pass changes at some of the items only ends as if it
had made a pass over those items by itself. -/
theorem accumulator_eq {σ : Type w} {δ : Type z} {field : σ → δ} {step : σ → α → σ} {p : α → Bool}
    {f : δ → α → δ} (stepped : ∀ s x, field (step s x) = if p x then f (field s) x else field s)
    (items : List α) (s : σ) : field (items.foldl step s) = (items.filter p).foldl f (field s) := by
  induction items generalizing s with
  | nil => rfl
  | cons x rest ih =>
    rw [List.foldl_cons, ih, stepped]
    by_cases taken : p x = true
    · rw [List.filter_cons_of_pos taken, List.foldl_cons, if_pos taken]
    · rw [List.filter_cons_of_neg taken, if_neg taken]

end Selection

/-! High-water marks: the largest of a list of counts, zero for none. -/
namespace HighWater

variable {α : Type u}

def peak (counts : List Nat) : Nat := counts.foldr max 0

@[simp] theorem peak_nil : peak [] = 0 := rfl

@[simp] theorem peak_cons (count : Nat) (counts : List Nat) : peak (count :: counts) = max count (peak counts) := rfl

@[simp] theorem peak_append (first second : List Nat) : peak (first ++ second) = max (peak first) (peak second) := by
  induction first with
  | nil => simp
  | cons count rest ih => simp [ih, max_assoc]

theorem le_peak (member : count ∈ counts) : count ≤ peak counts := by
  induction counts with
  | nil => simp at member
  | cons first rest ih =>
    rcases List.mem_cons.mp member with rfl | later
    · exact le_max_left _ _
    · exact le_trans (ih later) (le_max_right _ _)

theorem peak_le (bounded : ∀ count ∈ counts, count ≤ bound) : peak counts ≤ bound := by
  induction counts with
  | nil => exact Nat.zero_le _
  | cons first rest ih =>
    obtain ⟨here, later⟩ := List.forall_mem_cons.mp bounded
    exact max_le here (ih later)

/-- The mark of a union of lists is the mark of their marks. -/
theorem peak_flatMap (f : α → List Nat) (items : List α) :
    peak (items.flatMap f) = peak (items.map fun item => peak (f item)) := by
  induction items with
  | nil => rfl
  | cons item rest ih => simp [ih]

end HighWater
