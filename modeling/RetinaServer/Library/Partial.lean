import Mathlib.Data.List.Forall2
import Mathlib.Data.List.Basic

/-! Traversals that may fail: a list goes through when each of its items does, and
comes out item by item. -/
namespace Partial

variable {α : Type u} {β : Type v} {γ : Type w}

theorem mapM_eq_some_iff (f : α → Option β) (items : List α) (out : List β) :
    items.mapM f = some out ↔ List.Forall₂ (fun a b => f a = some b) items out := by
  induction items generalizing out with
  | nil =>
    rw [List.mapM_nil, Option.pure_def, Option.some.injEq, List.forall₂_nil_left_iff]
    exact eq_comm
  | cons a rest ih =>
    simp only [List.mapM_cons, Option.bind_eq_bind, Option.bind_eq_some_iff, Option.pure_def, Option.some.injEq,
      List.forall₂_cons_left_iff, ih]
    constructor
    · rintro ⟨b, first, later, through, rfl⟩
      exact ⟨b, later, first, through, rfl⟩
    · rintro ⟨b, later, first, through, rfl⟩
      exact ⟨b, first, later, through, rfl⟩

theorem mapM_isSome_iff (f : α → Option β) (items : List α) :
    (items.mapM f).isSome ↔ ∀ a ∈ items, (f a).isSome := by
  induction items with
  | nil => simp
  | cons a rest ih =>
    rw [List.forall_mem_cons, ← ih, List.mapM_cons]
    cases f a with
    | none => simp
    | some b => cases rest.mapM f <;> simp

theorem mapM_flatten (f : α → Option β) (lists : List (List α)) :
    lists.flatten.mapM f = (lists.mapM fun items : List α => items.mapM f).map List.flatten := by
  induction lists with
  | nil => rfl
  | cons items rest ih =>
    rw [List.flatten_cons, List.mapM_append, ih, List.mapM_cons]
    cases items.mapM f with
    | none => rfl
    | some first => cases rest.mapM fun items : List α => items.mapM f <;> rfl

theorem mapM_bind (f : α → Option β) (g : β → Option γ) (items : List α) :
    ((items.mapM f).bind fun between : List β => between.mapM g) = items.mapM fun a => (f a).bind g := by
  induction items with
  | nil => rfl
  | cons a rest ih =>
    rw [List.mapM_cons, List.mapM_cons, ← ih]
    cases f a with
    | none => rfl
    | some b =>
      cases rest.mapM f with
      | none => cases found : g b <;> simp [found]
      | some between =>
        simp only [Option.bind_eq_bind, Option.bind_some, Option.pure_def, List.mapM_cons]

theorem getElem?_mapM {f : α → Option β} {items : List α} {out : List β} (done : items.mapM f = some out) (i : Nat) :
    out[i]? = (items[i]?).bind f := by
  have related := (mapM_eq_some_iff f items out).mp done
  clear done
  induction related generalizing i with
  | nil => rfl
  | cons here _ ih =>
    cases i with
    | zero => exact here.symm
    | succ i => exact ih i

theorem length_mapM {f : α → Option β} {items : List α} {out : List β} (done : items.mapM f = some out) :
    out.length = items.length :=
  ((mapM_eq_some_iff f items out).mp done).length_eq.symm

theorem eq_map_of_mapM {f : α → Option β} {items : List α} {out : List β} (done : items.mapM f = some out) (b : β) :
    out = items.map fun a => (f a).getD b := by
  have related := (mapM_eq_some_iff f items out).mp done
  clear done
  induction related with
  | nil => rfl
  | cons here _ ih => rw [List.map_cons, ← ih, here, Option.getD_some]

theorem filterMap_of_mapM {f : α → Option β} {items : List α} {out : List β} (done : items.mapM f = some out) :
    items.filterMap f = out := by
  have related := (mapM_eq_some_iff f items out).mp done
  clear done
  induction related with
  | nil => rfl
  | cons here _ ih => rw [List.filterMap_cons_some here, ih]

/-- What is asked of each item and what came of it. -/
theorem forall₂_iff_of_map_some {R : α → β → Prop} {g : α → Option β} {items : List α} {out : List β}
    (same : out.map some = items.map g) :
    List.Forall₂ R items out ↔ ∀ a ∈ items, ∀ b, g a = some b → R a b := by
  induction items generalizing out with
  | nil =>
    obtain rfl : out = [] := List.map_eq_nil_iff.mp same
    simp
  | cons a rest ih =>
    cases out with
    | nil => exact nomatch same
    | cons b later =>
      obtain ⟨here, same⟩ := List.cons.inj same
      rw [List.forall₂_cons, List.forall_mem_cons, ih same, ← here]
      simp

end Partial

/-! Loops that collect entries from a list under a state. Nothing guards the loop, so
it ends with the first item that fails; an item that names what an earlier one named
is passed over. -/
namespace Collecting

variable {σ : Type u} {α : Type v} {β : Type w} {κ : Type x}

/-- An item comes to a failure, or to an entry or none. -/
def collect (f : σ → α → σ × Option (Option β)) : σ → List α → σ × Option (List β)
  | s, [] => (s, some [])
  | s, a :: rest =>
      let here := f s a
      match here.2 with
      | none => (here.1, none)
      | some entry =>
          let later := collect f here.1 rest
          (later.1, later.2.map fun entries => entry.toList ++ entries)

/-- The loop fails exactly when one of its items does, where no item fails or not by what came before it. -/
theorem collect_fails_iff {f : σ → α → σ × Option (Option β)} {fails : α → Prop}
    (exact_ : ∀ s a, (f s a).2 = none ↔ fails a) (s : σ) (items : List α) :
    (collect f s items).2 = none ↔ ∃ a ∈ items, fails a := by
  induction items generalizing s with
  | nil => simp [collect]
  | cons a rest ih =>
    rw [List.exists_mem_cons_iff, ← exact_ s a, ← ih (f s a).1]
    cases found : (f s a).2 with
    | none => simp [collect, found]
    | some entry => simp [collect, found]

/-! ### Loops that leave only their state -/

/-- The loop gets through exactly when every item would at its start, where an item leaves what the others ask for as it was. -/
theorem foldlM_ok_iff {ε : Type w} {step : σ → α → Except ε σ} {fits : σ → α → Prop} (name : α → κ)
    (exact_ : ∀ s a, (∃ s', step s a = .ok s') ↔ fits s a)
    (frame : ∀ s a s' b, step s a = .ok s' → name a ≠ name b → (fits s' b ↔ fits s b)) (items : List α) (s : σ)
    (distinct : (items.map name).Nodup) : (∃ s', items.foldlM step s = .ok s') ↔ ∀ a ∈ items, fits s a := by
  induction items generalizing s with
  | nil => exact ⟨fun _ _ mem => absurd mem List.not_mem_nil, fun _ => ⟨s, rfl⟩⟩
  | cons a rest ih =>
    obtain ⟨fresh, distinct⟩ := List.nodup_cons.mp distinct
    rw [List.forall_mem_cons, ← exact_ s a, List.foldlM_cons]
    cases here : step s a with
    | error e =>
      constructor
      · rintro ⟨_, through⟩
        cases through
      · rintro ⟨⟨_, through⟩, _⟩
        cases through
    | ok s₁ =>
      have later := ih s₁ distinct
      have same : (∀ b ∈ rest, fits s₁ b) ↔ ∀ b ∈ rest, fits s b := by
        apply forall₂_congr
        intro b mem
        apply frame s a s₁ b here
        intro equal
        exact fresh (equal ▸ List.mem_map_of_mem mem)
      rw [← same]
      exact later.trans ⟨fun fits => ⟨⟨s₁, rfl⟩, fits⟩, fun fits => fits.2⟩

/-- Items may be replaced by others that do the same wherever the loop gets by. -/
theorem foldlM_map_of_ok {ε : Type w} {step : σ → α → Except ε σ} {g : α → α}
    (same : ∀ s a s', step s a = .ok s' → step s (g a) = .ok s') {items : List α} {s s' : σ}
    (through : items.foldlM step s = .ok s') : (items.map g).foldlM step s = .ok s' := by
  induction items generalizing s with
  | nil => exact through
  | cons a rest ih =>
    rw [List.foldlM_cons] at through
    rw [List.map_cons, List.foldlM_cons]
    cases here : step s a with
    | error e =>
      rw [here] at through
      cases through
    | ok s₁ =>
      rw [here] at through
      rw [same s a s₁ here]
      exact ih through

variable [DecidableEq κ]

/-- The items whose name is not among those seen before. -/
def firsts (name : α → κ) : List κ → List α → List α
  | _, [] => []
  | seen, a :: rest =>
      if name a ∈ seen then firsts name seen rest else a :: firsts name (name a :: seen) rest

/-- Items that would be passed over may be missing. -/
theorem firsts_filter {name : α → κ} {p : α → Bool} {seen : List κ} {items : List α}
    (kept : ∀ a ∈ firsts name seen items, p a = true) : firsts name seen (items.filter p) = firsts name seen items := by
  induction items generalizing seen with
  | nil => rfl
  | cons a rest ih =>
    by_cases again : name a ∈ seen
    · simp only [firsts, again, if_true] at kept ⊢
      cases here : p a with
      | false => rw [List.filter_cons_of_neg (by simp [here]), ih kept]
      | true =>
        rw [List.filter_cons_of_pos here]
        simp only [firsts, again, if_true, ih kept]
    · simp only [firsts, again, if_false, List.mem_cons, forall_eq_or_imp] at kept ⊢
      rw [List.filter_cons_of_pos kept.1]
      simp only [firsts, again, if_false, ih kept.2]

end Collecting
