import Mathlib.Data.List.Nodup
import Mathlib.Data.List.NodupEquivFin
import Mathlib.Order.Defs.LinearOrder

/-! One-to-one assignment from a cost matrix. A solver pairs rows with columns; a
cell that costs the bound or more stands for a pair that is out of the question,
and a solver that takes such a cell has assigned nothing there. -/
namespace Assignment

/-- Cells of a matrix, no two in one row and no two in one column. -/
structure Matching (m n : Nat) where
  cells : List (Fin m × Fin n)
  rows : (cells.map Prod.fst).Nodup
  cols : (cells.map Prod.snd).Nodup

/-- A solver matches the rows and the columns of any matrix of costs. -/
abbrev Solver (C : Type w) := (m n : Nat) → (Fin m → Fin n → C) → Matching m n

/-- The matching along the diagonal, which is the only full one of a single cell. -/
def Matching.diagonal (m n : Nat) : Matching m n where
  cells := (List.finRange (min m n)).map fun i => (i.castLE (min_le_left m n), i.castLE (min_le_right m n))
  rows := by
    rw [List.map_map]
    exact (List.nodup_finRange _).map (Fin.castLE_injective (min_le_left m n))
  cols := by
    rw [List.map_map]
    exact (List.nodup_finRange _).map (Fin.castLE_injective (min_le_right m n))

theorem nodup_map_getElem {xs : List α} {f : α → β} (distinct : (xs.map f).Nodup) {places : List (Fin xs.length)}
    (once : places.Nodup) : (places.map fun i => f xs[i]).Nodup := by
  refine once.map fun i j same => Fin.ext ?_
  have first : i.val < (xs.map f).length := by simp
  have second : j.val < (xs.map f).length := by simp
  have equal : (xs.map f)[i.val] = (xs.map f)[j.val] := by simpa using same
  exact distinct.getElem_inj_iff.mp equal

section
variable {ρ : Type u} {γ : Type v} {C : Type w} [LinearOrder C]

/-- What a solver assigns of two lists: the pairs it makes that cost less than the bound. -/
def assigned (solve : Solver C) (cost : ρ → γ → C) (infeasible : C) (rows : List ρ) (cols : List γ) : List (ρ × γ) :=
  ((solve rows.length cols.length fun r c => cost rows[r] cols[c]).cells.filter fun cell =>
    !decide (infeasible ≤ cost rows[cell.1] cols[cell.2])).map fun cell => (rows[cell.1], cols[cell.2])

variable {solve : Solver C} {cost : ρ → γ → C} {infeasible : C} {rows : List ρ} {cols : List γ}

theorem mem_assigned (member : pair ∈ assigned solve cost infeasible rows cols) :
    pair.1 ∈ rows ∧ pair.2 ∈ cols ∧ cost pair.1 pair.2 < infeasible := by
  obtain ⟨cell, kept, rfl⟩ := List.mem_map.mp member
  have cheap := (List.mem_filter.mp kept).2
  exact ⟨List.getElem_mem _, List.getElem_mem _, by simpa using cheap⟩

/-- No row is assigned twice, by whatever name the rows are told apart. -/
theorem nodup_rows_assigned {name : ρ → β} (distinct : (rows.map name).Nodup) :
    ((assigned solve cost infeasible rows cols).map fun pair => name pair.1).Nodup := by
  rw [assigned, List.map_map]
  have once := (solve rows.length cols.length fun r c => cost rows[r] cols[c]).rows
  have kept := once.sublist ((List.filter_sublist (p := fun cell : Fin rows.length × Fin cols.length =>
    !decide (infeasible ≤ cost rows[cell.1] cols[cell.2]))).map Prod.fst)
  have named := nodup_map_getElem distinct kept
  rwa [List.map_map] at named

theorem nodup_cols_assigned {name : γ → β} (distinct : (cols.map name).Nodup) :
    ((assigned solve cost infeasible rows cols).map fun pair => name pair.2).Nodup := by
  rw [assigned, List.map_map]
  have once := (solve rows.length cols.length fun r c => cost rows[r] cols[c]).cols
  have kept := once.sublist ((List.filter_sublist (p := fun cell : Fin rows.length × Fin cols.length =>
    !decide (infeasible ≤ cost rows[cell.1] cols[cell.2]))).map Prod.snd)
  have named := nodup_map_getElem distinct kept
  rwa [List.map_map] at named

end

/-! ### Allocations in stages -/

/-- Items that take their places and their names from what is open to them, each at most once. -/
structure Allocates (place : α → ι) (name : α → ν) (free : ι → Prop) (vacant : ν → Prop) (items : List α) : Prop where
  places : (items.map place).Nodup
  names : (items.map name).Nodup
  fromFree : ∀ x ∈ items, free (place x)
  fromVacant : ∀ x ∈ items, vacant (name x)

section
variable {place : α → ι} {name : α → ν} {free : ι → Prop} {vacant : ν → Prop}

theorem Allocates.nil : Allocates place name free vacant [] :=
  ⟨List.nodup_nil, List.nodup_nil, fun _ member => absurd member List.not_mem_nil,
    fun _ member => absurd member List.not_mem_nil⟩

/-- A stage may draw on what the one before it left. -/
theorem Allocates.append (first : Allocates place name free vacant xs)
    (second : Allocates place name (fun i => free i ∧ i ∉ xs.map place) (fun n => vacant n ∧ n ∉ xs.map name) ys) :
    Allocates place name free vacant (xs ++ ys) where
  places := by
    rw [List.map_append, List.nodup_append]
    refine ⟨first.places, second.places, ?_⟩
    intro i taken j later same
    obtain ⟨y, member, rfl⟩ := List.mem_map.mp later
    exact (second.fromFree y member).2 (same ▸ taken)
  names := by
    rw [List.map_append, List.nodup_append]
    refine ⟨first.names, second.names, ?_⟩
    intro n taken n' later same
    obtain ⟨y, member, rfl⟩ := List.mem_map.mp later
    exact (second.fromVacant y member).2 (same ▸ taken)
  fromFree x member := (List.mem_append.mp member).elim (first.fromFree x) fun later => (second.fromFree x later).1
  fromVacant x member := (List.mem_append.mp member).elim (first.fromVacant x) fun later => (second.fromVacant x later).1

/-- Dropping items and dressing up the others leaves an allocation. -/
theorem Allocates.filterMap (allocated : Allocates place name free vacant xs) {f : α → Option β} {place' : β → ι}
    {name' : β → ν} (placed : ∀ x y, f x = some y → place' y = place x) (named : ∀ x y, f x = some y → name' y = name x) :
    Allocates place' name' free vacant (xs.filterMap f) where
  places := by
    refine List.pairwise_map.mpr (List.Pairwise.filterMap f ?_ (List.pairwise_map.mp allocated.places))
    intro x x' different y first y' second same
    exact different ((placed x y first).symm.trans (same.trans (placed x' y' second)))
  names := by
    refine List.pairwise_map.mpr (List.Pairwise.filterMap f ?_ (List.pairwise_map.mp allocated.names))
    intro x x' different y first y' second same
    exact different ((named x y first).symm.trans (same.trans (named x' y' second)))
  fromFree y member := by
    obtain ⟨x, listed, made⟩ := List.mem_filterMap.mp member
    exact placed x y made ▸ allocated.fromFree x listed
  fromVacant y member := by
    obtain ⟨x, listed, made⟩ := List.mem_filterMap.mp member
    exact named x y made ▸ allocated.fromVacant x listed

theorem Allocates.mono {free' : ι → Prop} {vacant' : ν → Prop} (allocated : Allocates place name free vacant xs)
    (places : ∀ i, free i → free' i) (names : ∀ n, vacant n → vacant' n) : Allocates place name free' vacant' xs :=
  ⟨allocated.places, allocated.names, fun x member => places _ (allocated.fromFree x member),
    fun x member => names _ (allocated.fromVacant x member)⟩

end

/-- What a solver assigns takes each row and each column once. -/
theorem allocates_assigned {ρ : Type u} {γ : Type v} {C : Type w} [LinearOrder C] {solve : Solver C}
    {cost : ρ → γ → C} {infeasible : C} {rows : List ρ} {cols : List γ} {place : ρ → ι} {name : γ → ν}
    (places : (rows.map place).Nodup) (names : (cols.map name).Nodup) :
    Allocates (fun pair : ρ × γ => place pair.1) (fun pair => name pair.2) (· ∈ rows.map place) (· ∈ cols.map name)
      (assigned solve cost infeasible rows cols) where
  places := nodup_rows_assigned places
  names := nodup_cols_assigned names
  fromFree _ member := List.mem_map_of_mem (mem_assigned member).1
  fromVacant _ member := List.mem_map_of_mem (mem_assigned member).2.1

end Assignment
