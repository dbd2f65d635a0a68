import RetinaServer.Library.Selection
import Mathlib.Data.List.Nodup
import Mathlib.Data.List.Induction

/-! Pairing rows with columns by how close they are. Taking the closest of the pairs that are left, again and again, leaves no
pair that blocks, and an assignment that no pair blocks can be made so. Rows that are served in turn, each with the closest
column that is left, come to one of these or to none, as their order has it. -/
namespace ClosestFirst

/-- Pairs, no two in one row and no two in one column. -/
structure OneToOne (pairs : List (ρ × γ)) : Prop where
  rows : (pairs.map Prod.fst).Nodup
  cols : (pairs.map Prod.snd).Nodup

theorem OneToOne.col_unique {pairs : List (ρ × γ)} (once : OneToOne pairs) (here : (r, c) ∈ pairs) (there : (r, c') ∈ pairs) : c = c' :=
  congrArg Prod.snd (List.inj_on_of_nodup_map once.rows here there rfl)

theorem OneToOne.row_unique {pairs : List (ρ × γ)} (once : OneToOne pairs) (here : (r, c) ∈ pairs) (there : (r', c) ∈ pairs) : r = r' :=
  congrArg Prod.fst (List.inj_on_of_nodup_map once.cols here there rfl)

theorem OneToOne.of_perm {pairs pairs' : List (ρ × γ)} (once : OneToOne pairs) (perm : pairs.Perm pairs') : OneToOne pairs' :=
  ⟨(perm.map Prod.fst).nodup_iff.mp once.rows, (perm.map Prod.snd).nodup_iff.mp once.cols⟩

variable {ρ : Type u} {γ : Type v} {K : Type w} [LinearOrder K]

/-! ### Assignments that no pair blocks -/

/-- The pair is closer than what either of the two has. -/
structure Blocks (fits : ρ → γ → Prop) (cost : ρ → γ → K) (pairs : List (ρ × γ)) (r : ρ) (c : γ) : Prop where
  fits : fits r c
  row : ∀ c', (r, c') ∈ pairs → cost r c < cost r c'
  col : ∀ r', (r', c) ∈ pairs → cost r c < cost r' c

def Stable (fits : ρ → γ → Prop) (cost : ρ → γ → K) (pairs : List (ρ × γ)) : Prop := ∀ r c, ¬ Blocks fits cost pairs r c

theorem Stable.congr {fits : ρ → γ → Prop} {cost : ρ → γ → K} {pairs pairs' : List (ρ × γ)} (stable : Stable fits cost pairs)
    (same : ∀ pair, pair ∈ pairs ↔ pair ∈ pairs') : Stable fits cost pairs' := by
  intro r c blocks
  apply stable r c
  exact ⟨blocks.fits, fun c' held => blocks.row c' ((same _).mp held), fun r' held => blocks.col r' ((same _).mp held)⟩

/-- The closest of the pairs that are left is taken, until none is. -/
inductive Made (cost : ρ → γ → K) : (ρ → γ → Prop) → List (ρ × γ) → Prop
  | done {fits : ρ → γ → Prop} (none_left : ∀ r c, ¬ fits r c) : Made cost fits []
  | take {fits : ρ → γ → Prop} (left : fits r c) (closest : ∀ r' c', fits r' c' → cost r c ≤ cost r' c')
      (rest : Made cost (fun r' c' => fits r' c' ∧ r' ≠ r ∧ c' ≠ c) pairs) : Made cost fits ((r, c) :: pairs)

theorem Made.fits {cost : ρ → γ → K} {fits : ρ → γ → Prop} {pairs : List (ρ × γ)} (made : Made cost fits pairs) :
    ∀ pair ∈ pairs, fits pair.1 pair.2 := by
  induction made with
  | done _ =>
    intro pair absent
    cases absent
  | take left _ _ ih =>
    intro pair held
    rcases List.mem_cons.mp held with rfl | held
    · exact left
    · exact (ih pair held).1

theorem Made.oneToOne {cost : ρ → γ → K} {fits : ρ → γ → Prop} {pairs : List (ρ × γ)} (made : Made cost fits pairs) : OneToOne pairs := by
  induction made with
  | done _ => exact ⟨List.nodup_nil, List.nodup_nil⟩
  | take _ _ rest ih =>
    constructor
    · refine List.nodup_cons.mpr ⟨fun again => ?_, ih.rows⟩
      obtain ⟨pair, held, same⟩ := List.mem_map.mp again
      exact (rest.fits pair held).2.1 same
    · refine List.nodup_cons.mpr ⟨fun again => ?_, ih.cols⟩
      obtain ⟨pair, held, same⟩ := List.mem_map.mp again
      exact (rest.fits pair held).2.2 same

theorem Made.stable {cost : ρ → γ → K} {fits : ρ → γ → Prop} {pairs : List (ρ × γ)} (made : Made cost fits pairs) :
    Stable fits cost pairs := by
  induction made with
  | done none_left => exact fun r c blocks => none_left r c blocks.fits
  | take _ closest _ ih =>
    intro r' c' blocks
    have near := closest r' c' blocks.fits
    apply ih r' c'
    refine ⟨⟨blocks.fits, ?_, ?_⟩, fun own held => blocks.row own (List.mem_cons_of_mem _ held),
      fun own held => blocks.col own (List.mem_cons_of_mem _ held)⟩
    · rintro rfl
      exact absurd near (not_le_of_gt (blocks.row _ List.mem_cons_self))
    · rintro rfl
      exact absurd near (not_le_of_gt (blocks.col _ List.mem_cons_self))

/-- The closest pair of an assignment that no pair blocks is the closest of all. -/
theorem Stable.closest {cost : ρ → γ → K} {fits : ρ → γ → Prop} {pairs : List (ρ × γ)} (stable : Stable fits cost pairs)
    {pair : ρ × γ} (least : ∀ other ∈ pairs, cost pair.1 pair.2 ≤ cost other.1 other.2) :
    ∀ r c, fits r c → cost pair.1 pair.2 ≤ cost r c := by
  intro r c left
  by_contra closer
  rw [not_le] at closer
  apply stable r c
  exact ⟨left, fun c' held => closer.trans_le (least _ held), fun r' held => closer.trans_le (least _ held)⟩

theorem Stable.exists_made {cost : ρ → γ → K} {fits : ρ → γ → Prop} {pairs : List (ρ × γ)} (once : OneToOne pairs)
    (within : ∀ pair ∈ pairs, fits pair.1 pair.2) (stable : Stable fits cost pairs) :
    ∃ made, made.Perm pairs ∧ Made cost fits made := by
  induction size : pairs.length generalizing pairs fits with
  | zero =>
    obtain rfl := List.length_eq_zero_iff.mp size
    refine ⟨[], .nil, .done fun r c left => stable r c ⟨left, ?_, ?_⟩⟩
    · intro _ absent
      cases absent
    · intro _ absent
      cases absent
  | succ n ih =>
    cases found : Selection.firstMin (fun pair : ρ × γ => cost pair.1 pair.2) pairs with
    | none =>
      rw [(Selection.firstMin_eq_none_iff _ _).mp found] at size
      cases size
    | some pair =>
      have first := (Selection.firstMin_eq_some_iff _ _ _).mp found
      have closest := stable.closest first.le
      obtain ⟨before, after, rfl, -⟩ := first
      have perm : (before ++ pair :: after).Perm (pair :: (before ++ after)) := List.perm_middle
      have split := once.of_perm perm
      obtain ⟨row, rows⟩ := List.nodup_cons.mp split.rows
      obtain ⟨col, cols⟩ := List.nodup_cons.mp split.cols
      have earlier : ∀ other ∈ before ++ after, other ∈ before ++ pair :: after := fun other held =>
        perm.mem_iff.mpr (List.mem_cons_of_mem _ held)
      suffices rest : ∃ made, made.Perm (before ++ after) ∧ Made cost (fun r c => fits r c ∧ r ≠ pair.1 ∧ c ≠ pair.2) made by
        obtain ⟨made, same, rest⟩ := rest
        exact ⟨pair :: made, (same.cons pair).trans perm.symm, .take (within pair (by simp)) closest rest⟩
      apply ih ⟨rows, cols⟩
      · intro other held
        refine ⟨within other (earlier other held), ?_, ?_⟩
        · intro same
          exact row (same ▸ List.mem_map_of_mem held)
        · intro same
          exact col (same ▸ List.mem_map_of_mem held)
      · rintro r c ⟨⟨left, otherRow, otherCol⟩, byRow, byCol⟩
        apply stable r c
        refine ⟨left, fun c' held => ?_, fun r' held => ?_⟩
        · rcases List.mem_cons.mp (perm.mem_iff.mp held) with rfl | held
          · exact absurd rfl otherRow
          · exact byRow c' held
        · rcases List.mem_cons.mp (perm.mem_iff.mp held) with rfl | held
          · exact absurd rfl otherCol
          · exact byCol r' held
      · rw [List.length_append, List.length_cons] at size
        rw [List.length_append]
        omega

/-! ### Rows served in turn -/

theorem mem_of_before {before after : List α} (distinct : (before ++ a :: after).Nodup)
    (earlier : [b, a].Sublist (before ++ a :: after)) : b ∈ before := by
  induction before with
  | nil =>
    obtain ⟨fresh, -⟩ := List.nodup_cons.mp distinct
    cases earlier with
    | cons _ later => exact absurd (later.subset (List.mem_cons_of_mem _ List.mem_cons_self)) fresh
    | cons_cons _ later => exact absurd (List.singleton_sublist.mp later) fresh
  | cons x before ih =>
    cases earlier with
    | cons _ later => exact List.mem_cons_of_mem _ (ih (List.nodup_cons.mp distinct).2 later)
    | cons_cons _ _ => exact List.mem_cons_self

theorem before_or_before {l : List α} (here : a ∈ l) (there : b ∈ l) (other : a ≠ b) : [a, b].Sublist l ∨ [b, a].Sublist l := by
  induction l with
  | nil => cases here
  | cons x rest ih =>
    rcases List.mem_cons.mp here with rfl | here
    · left
      apply List.Sublist.cons_cons
      exact List.singleton_sublist.mpr ((List.mem_cons.mp there).resolve_left other.symm)
    · rcases List.mem_cons.mp there with same | there
      · right
        exact same ▸ (List.singleton_sublist.mpr here).cons_cons x
      · exact (ih here there).imp (List.Sublist.cons x) (List.Sublist.cons x)

section
variable [DecidableEq γ] (fits : ρ → γ → Bool) (cost : ρ → γ → K) (cols : List γ)

/-- Every row takes the first of the closest columns that are left to it. -/
def serve : List γ → List ρ → List (ρ × γ)
  | _, [] => []
  | taken, r :: rest =>
      match Selection.firstMin (cost r) (cols.filter fun c => fits r c && decide (c ∉ taken)) with
      | none => serve taken rest
      | some c => (r, c) :: serve (c :: taken) rest

/-- The row is closer to the column than to its own, or as close and the column stands before its own. -/
def Prefers (pairs : List (ρ × γ)) (r : ρ) (c : γ) : Prop :=
  ∀ own, (r, own) ∈ pairs → cost r c < cost r own ∨ cost r c = cost r own ∧ [c, own].Sublist cols

/-- A column that a row prefers goes to a row before it. -/
def InTurn (rows : List ρ) (pairs : List (ρ × γ)) : Prop :=
  ∀ r ∈ rows, ∀ c ∈ cols, fits r c = true → Prefers cost cols pairs r c → ∃ r', (r', c) ∈ pairs ∧ [r', r].Sublist rows

variable {fits cost cols}

theorem mem_left {taken : List γ} {r : ρ} {c : γ} :
    c ∈ cols.filter (fun c => fits r c && decide (c ∉ taken)) ↔ c ∈ cols ∧ fits r c = true ∧ c ∉ taken := by
  rw [List.mem_filter, Bool.and_eq_true, decide_eq_true_eq]

theorem serve_mem {taken : List γ} {rows : List ρ} (held : (r, c) ∈ serve fits cost cols taken rows) :
    r ∈ rows ∧ c ∈ cols ∧ fits r c = true ∧ c ∉ taken := by
  induction rows generalizing taken with
  | nil => cases held
  | cons first rest ih =>
    rw [serve] at held
    cases found : Selection.firstMin (cost first) (cols.filter fun c => fits first c && decide (c ∉ taken)) with
    | none =>
      rw [found] at held
      exact ⟨List.mem_cons_of_mem _ (ih held).1, (ih held).2⟩
    | some own =>
      rw [found] at held
      rcases List.mem_cons.mp held with same | held
      · obtain ⟨rfl, rfl⟩ := Prod.mk.inj same
        exact ⟨List.mem_cons_self, mem_left.mp (Selection.firstMin_mem found)⟩
      · obtain ⟨row, col, fit, free⟩ := ih held
        exact ⟨List.mem_cons_of_mem _ row, col, fit, fun already => free (List.mem_cons_of_mem _ already)⟩

theorem serve_oneToOne {taken : List γ} {rows : List ρ} (distinct : rows.Nodup) : OneToOne (serve fits cost cols taken rows) := by
  induction rows generalizing taken with
  | nil => exact ⟨List.nodup_nil, List.nodup_nil⟩
  | cons first rest ih =>
    obtain ⟨fresh, distinct⟩ := List.nodup_cons.mp distinct
    rw [serve]
    split
    · exact ih distinct
    · next own _ =>
      constructor
      · refine List.nodup_cons.mpr ⟨fun again => ?_, (ih distinct).rows⟩
        obtain ⟨pair, held, rfl⟩ := List.mem_map.mp again
        exact fresh (serve_mem held).1
      · refine List.nodup_cons.mpr ⟨fun again => ?_, (ih distinct).cols⟩
        obtain ⟨pair, held, rfl⟩ := List.mem_map.mp again
        exact (serve_mem held).2.2.2 List.mem_cons_self

/-- Of the columns left to a row none is preferred to the one it takes. -/
theorem taken_of_prefers {taken : List γ} {r : ρ} {c own : γ} (distinct : cols.Nodup) (listed : c ∈ cols) (fit : fits r c = true)
    (found : Selection.firstMin (cost r) (cols.filter fun c => fits r c && decide (c ∉ taken)) = some own)
    (preferred : cost r c < cost r own ∨ cost r c = cost r own ∧ [c, own].Sublist cols) : c ∈ taken := by
  by_contra free
  have first := (Selection.firstMin_eq_some_iff _ _ _).mp found
  rcases preferred with closer | ⟨same, earlier⟩
  · exact absurd (first.le c (mem_left.mpr ⟨listed, fit, free⟩)) (not_le_of_gt closer)
  · obtain ⟨-, fit', free'⟩ := mem_left.mp first.mem
    have within := earlier.filter fun c => fits r c && decide (c ∉ taken)
    simp only [List.filter_cons, List.filter_nil, fit, free, fit', free', not_false_eq_true, decide_true, Bool.and_true, if_true] at within
    obtain ⟨before, after, split, strict, -⟩ := first
    have once := distinct.filter fun c => fits r c && decide (c ∉ taken)
    rw [split] at within once
    exact absurd same (ne_of_gt (strict c (mem_of_before once within)))

theorem serve_prefers {taken : List γ} {rows : List ρ} (distinct : cols.Nodup) (member : r ∈ rows) (listed : c ∈ cols)
    (fit : fits r c = true) (preferred : Prefers cost cols (serve fits cost cols taken rows) r c) :
    c ∈ taken ∨ ∃ r', (r', c) ∈ serve fits cost cols taken rows ∧ [r', r].Sublist rows := by
  induction rows generalizing taken with
  | nil => cases member
  | cons first rest ih =>
    rw [serve] at preferred ⊢
    cases found : Selection.firstMin (cost first) (cols.filter fun c => fits first c && decide (c ∉ taken)) with
    | none =>
      rw [found] at preferred
      rcases List.mem_cons.mp member with rfl | later
      · left
        by_contra free
        have empty := (Selection.firstMin_eq_none_iff _ _).mp found
        have left := mem_left.mpr ⟨listed, fit, free⟩
        rw [empty] at left
        cases left
      · refine (ih later preferred).imp_right ?_
        rintro ⟨r', held, before⟩
        exact ⟨r', held, before.cons first⟩
    | some own =>
      rw [found] at preferred
      rcases List.mem_cons.mp member with rfl | later
      · left
        exact taken_of_prefers distinct listed fit found (preferred own List.mem_cons_self)
      · rcases ih later fun own' held => preferred own' (List.mem_cons_of_mem _ held) with already | ⟨r', held, before⟩
        · rcases List.mem_cons.mp already with rfl | already
          · right
            exact ⟨first, List.mem_cons_self, (List.singleton_sublist.mpr later).cons_cons first⟩
          · left
            exact already
        · right
          exact ⟨r', List.mem_cons_of_mem _ held, before.cons first⟩

theorem serve_inTurn (distinct : cols.Nodup) (rows : List ρ) : InTurn fits cost cols rows (serve fits cost cols [] rows) := by
  intro r member c listed fit preferred
  exact (serve_prefers distinct member listed fit preferred).resolve_left List.not_mem_nil

/-- Pairs of the rows with columns that fit them, no two in one row and no two in one column. -/
structure Assigned (fits : ρ → γ → Bool) (allCols : List γ) (allRows : List ρ) (pairs : List (ρ × γ)) : Prop extends OneToOne pairs where
  within : ∀ pair ∈ pairs, pair.1 ∈ allRows ∧ pair.2 ∈ allCols ∧ fits pair.1 pair.2 = true

theorem serve_assigned {rows : List ρ} (rowsOnce : rows.Nodup) : Assigned fits cols rows (serve fits cost cols [] rows) where
  toOneToOne := serve_oneToOne rowsOnce
  within := by
    intro pair held
    obtain ⟨row, col, fit, -⟩ := serve_mem held
    exact ⟨row, col, fit⟩

omit [DecidableEq γ] in
/-- Where the rows before one have the same columns in both assignments, a column it has in the first is its own in the second. -/
theorem InTurn.same_own {rows before after : List ρ} {pairs pairs' : List (ρ × γ)} (rowsOnce : rows.Nodup)
    (split : rows = before ++ r :: after) (assigned : Assigned fits cols rows pairs) (assigned' : Assigned fits cols rows pairs')
    (turn : InTurn fits cost cols rows pairs) (turn' : InTurn fits cost cols rows pairs')
    (same : ∀ r' ∈ before, ∀ c, (r', c) ∈ pairs ↔ (r', c) ∈ pairs') (held : (r, c) ∈ pairs) : (r, c) ∈ pairs' := by
  have fresh : r ∉ before := by
    intro earlier
    rw [split] at rowsOnce
    exact (List.nodup_append.mp rowsOnce).2.2 r earlier r List.mem_cons_self rfl
  have early : ∀ r', [r', r].Sublist rows → r' ∈ before := by
    intro r' earlier
    rw [split] at rowsOnce earlier
    exact mem_of_before rowsOnce earlier
  by_contra other
  obtain ⟨row, col, fit⟩ := assigned.within _ held
  by_cases preferred : Prefers cost cols pairs' r c
  · obtain ⟨r', taken, earlier⟩ := turn' r row c col fit preferred
    have before := early r' earlier
    obtain rfl := assigned.row_unique held ((same r' before c).mpr taken)
    exact fresh before
  · -- its own in the second assignment is one that it prefers
    simp only [Prefers, not_forall, not_or, not_and] at preferred
    obtain ⟨own, held', notCloser, notEarlier⟩ := preferred
    obtain ⟨-, col', fit'⟩ := assigned'.within _ held'
    have different : c ≠ own := by
      rintro rfl
      exact other held'
    have preferred' : Prefers cost cols pairs r own := by
      intro mine holds
      obtain rfl := assigned.col_unique held holds
      rcases lt_or_eq_of_le (not_lt.mp notCloser) with closer | equal
      · left
        exact closer
      · right
        exact ⟨equal, (before_or_before col col' different).resolve_left (notEarlier equal.symm)⟩
    obtain ⟨r', taken, earlier⟩ := turn r row own col' fit' preferred'
    have before := early r' earlier
    obtain rfl := assigned'.row_unique held' ((same r' before own).mp taken)
    exact fresh before

omit [DecidableEq γ] in
/-- Only one assignment goes by the order of the rows. -/
theorem InTurn.unique {rows : List ρ} {pairs pairs' : List (ρ × γ)} (rowsOnce : rows.Nodup) (assigned : Assigned fits cols rows pairs)
    (assigned' : Assigned fits cols rows pairs') (turn : InTurn fits cost cols rows pairs) (turn' : InTurn fits cost cols rows pairs')
    (pair : ρ × γ) : pair ∈ pairs ↔ pair ∈ pairs' := by
  have along : ∀ before after, rows = before ++ after → ∀ r ∈ before, ∀ c, (r, c) ∈ pairs ↔ (r, c) ∈ pairs' := by
    intro before
    induction before using List.reverseRecOn with
    | nil =>
      intro _ _ r absent
      cases absent
    | append_singleton before a ih =>
      intro after split r member c
      rw [List.append_assoc, List.singleton_append] at split
      have same := ih (a :: after) split
      rcases List.mem_append.mp member with earlier | last
      · exact same r earlier c
      · obtain rfl := List.mem_singleton.mp last
        exact ⟨turn.same_own rowsOnce split assigned assigned' turn' same,
          turn'.same_own rowsOnce split assigned' assigned turn fun r' earlier c => (same r' earlier c).symm⟩
  constructor
  · intro held
    exact (along rows [] (List.append_nil _).symm pair.1 (assigned.within pair held).1 pair.2).mp held
  · intro held
    exact (along rows [] (List.append_nil _).symm pair.1 (assigned'.within pair held).1 pair.2).mpr held

/-- Serving the rows in turn leaves no pair that blocks exactly when some assignment made closest first goes by their order. -/
theorem stable_serve_iff {rows : List ρ} (rowsOnce : rows.Nodup) (colsOnce : cols.Nodup) :
    Stable (fun r c => r ∈ rows ∧ c ∈ cols ∧ fits r c = true) cost (serve fits cost cols [] rows) ↔
      ∃ pairs, Made cost (fun r c => r ∈ rows ∧ c ∈ cols ∧ fits r c = true) pairs ∧ InTurn fits cost cols rows pairs := by
  have assigned : Assigned fits cols rows (serve fits cost cols [] rows) := serve_assigned rowsOnce
  have turn : InTurn fits cost cols rows (serve fits cost cols [] rows) := serve_inTurn colsOnce rows
  constructor
  · intro stable
    obtain ⟨made, perm, closestFirst⟩ := stable.exists_made assigned.toOneToOne assigned.within
    refine ⟨made, closestFirst, ?_⟩
    intro r row c col fit preferred
    obtain ⟨r', held, before⟩ := turn r row c col fit fun own held => preferred own (perm.mem_iff.mpr held)
    exact ⟨r', perm.mem_iff.mpr held, before⟩
  · rintro ⟨pairs, made, turn'⟩
    exact made.stable.congr (turn'.unique rowsOnce ⟨made.oneToOne, made.fits⟩ assigned turn)

end

end ClosestFirst
