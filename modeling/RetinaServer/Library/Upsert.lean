import RetinaServer.Library.Dict

/-! Batches of keyed rows written to a store that checks every statement: the rows
that exist are updated, then the rest are inserted. A batch that goes through
leaves each of its rows written once, over what was there when it began. -/
namespace Upsert
open OrderedDict

/-- A store that may refuse an assignment, and changes no other key by one it takes. -/
structure Store (σ : Type u) (κ : Type v) (β : Type w) [DecidableEq κ] where
  get : σ → κ → Option β
  set : σ → κ → β → Option σ
  get_set : ∀ {s s' : σ} {k k' : κ} {b : β}, set s k b = some s' →
    get s' k' = if k = k' then some b else get s k'

variable {σ : Type u} {κ : Type v} {β : Type w} {α : Type x} [DecidableEq κ]
variable (store : Store σ κ β) (write : κ → Option β → α → β)

/-- One row of a statement that speaks of the rows that are there, or of those that are not. -/
def statement (present : Bool) (s : σ) (row : κ × α) : Option σ :=
  if (store.get s row.1).isSome = present then store.set s row.1 (write row.1 (store.get s row.1) row.2)
  else some s

def executemany (present : Bool) (s : σ) (rows : List (κ × α)) : Option σ :=
  rows.foldlM (statement store write present) s

def upsert (s : σ) (rows : List (κ × α)) : Option σ :=
  (executemany store write true s rows).bind fun updated => executemany store write false updated rows

def upsertAll (s : σ) (batches : List (List (κ × α))) : Option σ := batches.foldlM (upsert store write) s

variable {store write}

theorem lookup_none_of_disjoint {first second : List (κ × α)}
    (distinct : ((first ++ second).map Prod.fst).Nodup) (found : lookup k first = some v) : lookup k second = none := by
  rw [List.map_append] at distinct
  refine (lookup_eq_none_iff k second).mpr fun later => ?_
  have member : k ∈ first.map Prod.fst := by
    by_contra absent
    rw [(lookup_eq_none_iff k first).mpr absent] at found
    exact nomatch found
  exact (List.nodup_append.mp distinct).2.2 k member k later rfl

theorem get_statement {row : κ × α} (done : statement store write present s row = some s') (k : κ) :
    store.get s' k =
      if row.1 = k ∧ (store.get s k).isSome = present then some (write k (store.get s k) row.2) else store.get s k := by
  rw [statement] at done
  split at done
  · rename_i applies
    rw [store.get_set done]
    by_cases here : row.1 = k
    · subst here
      rw [if_pos rfl, if_pos ⟨rfl, applies⟩]
    · rw [if_neg here, if_neg fun both => here both.1]
  · rename_i passes
    obtain rfl := Option.some.inj done
    rw [if_neg]
    rintro ⟨rfl, applies⟩
    exact passes applies

theorem get_executemany {rows : List (κ × α)} (distinct : (rows.map Prod.fst).Nodup)
    (done : executemany store write present s rows = some s') (k : κ) :
    store.get s' k = (lookup k rows).elim (store.get s k) fun v =>
      if (store.get s k).isSome = present then some (write k (store.get s k) v) else store.get s k := by
  induction rows generalizing s with
  | nil =>
    obtain rfl := Option.some.inj done
    rfl
  | cons row rest ih =>
    obtain ⟨unlisted, distinct⟩ := List.nodup_cons.mp distinct
    obtain ⟨middle, first, later⟩ := Option.bind_eq_some_iff.mp done
    rw [ih distinct later, get_statement first]
    by_cases here : row.1 = k
    · subst here
      have once : lookup row.1 rest = none := (lookup_eq_none_iff row.1 rest).mpr unlisted
      simp [lookup, once]
    · simp [lookup, here]

theorem get_upsert {rows : List (κ × α)} (distinct : (rows.map Prod.fst).Nodup)
    (done : upsert store write s rows = some s') (k : κ) :
    store.get s' k = (lookup k rows).elim (store.get s k) fun v => some (write k (store.get s k) v) := by
  obtain ⟨updated, first, second⟩ := Option.bind_eq_some_iff.mp done
  rw [get_executemany distinct second, get_executemany distinct first]
  cases lookup k rows with
  | none => rfl
  | some v => cases held : store.get s k <;> simp

/-- Batches of distinct keys write each row once, whatever the batch it came in. -/
theorem get_upsertAll {batches : List (List (κ × α))} (distinct : (batches.flatten.map Prod.fst).Nodup)
    (done : upsertAll store write s batches = some s') (k : κ) :
    store.get s' k =
      (lookup k batches.flatten).elim (store.get s k) fun v => some (write k (store.get s k) v) := by
  induction batches generalizing s with
  | nil =>
    obtain rfl := Option.some.inj done
    rfl
  | cons rows rest ih =>
    rw [List.flatten_cons] at distinct ⊢
    obtain ⟨middle, first, later⟩ := Option.bind_eq_some_iff.mp done
    have apart := distinct
    rw [List.map_append] at apart
    rw [ih (List.nodup_append.mp apart).2.1 later, get_upsert (List.nodup_append.mp apart).1 first, lookup_append]
    cases found : lookup k rows with
    | none => rfl
    | some v =>
      rw [lookup_none_of_disjoint distinct found]
      rfl

/-- What every assignment keeps, the batches keep. -/
theorem upsertAll_invariant {I : σ → Prop} (kept : ∀ {s s' k b}, I s → store.set s k b = some s' → I s')
    {batches : List (List (κ × α))} (held : I s) (done : upsertAll store write s batches = some s') : I s' := by
  have many {present : Bool} {rows : List (κ × α)} : ∀ {s s' : σ}, I s →
      executemany store write present s rows = some s' → I s' := by
    induction rows with
    | nil =>
      intro s s' held done
      exact Option.some.inj done ▸ held
    | cons row rest ih =>
      intro s s' held done
      obtain ⟨middle, first, later⟩ := Option.bind_eq_some_iff.mp done
      refine ih ?_ later
      rw [statement] at first
      split at first
      · exact kept held first
      · exact Option.some.inj first ▸ held
  induction batches generalizing s with
  | nil => exact Option.some.inj done ▸ held
  | cons rows rest ih =>
    obtain ⟨middle, first, later⟩ := Option.bind_eq_some_iff.mp done
    obtain ⟨updated, changed, added⟩ := Option.bind_eq_some_iff.mp first
    exact ih (many (many held changed) added) later

/-- Where the writing of `rows` over `s₀` may have got to: each key is as it was,
or as its row leaves it. -/
def Partly (store : Store σ κ β) (write : κ → Option β → α → β) (s₀ : σ) (rows : List (κ × α)) (s : σ) : Prop :=
  ∀ k, store.get s k = store.get s₀ k ∨ ∃ v, (k, v) ∈ rows ∧ store.get s k = some (write k (store.get s₀ k) v)

section Progress
variable {s₀ : σ} {rows : List (κ × α)}
  (accepts : ∀ s, Partly store write s₀ rows s → ∀ row ∈ rows, store.get s row.1 = store.get s₀ row.1 →
    (store.set s row.1 (write row.1 (store.get s₀ row.1) row.2)).isSome)
include accepts

theorem executemany_progress (present : Bool) {todo : List (κ × α)} (part : todo ⊆ rows) (distinct : (todo.map Prod.fst).Nodup)
    (so_far : Partly store write s₀ rows s)
    (fresh : ∀ row ∈ todo, (store.get s row.1).isSome = present → store.get s row.1 = store.get s₀ row.1) :
    ∃ s', executemany store write present s todo = some s' ∧ Partly store write s₀ rows s' := by
  induction todo generalizing s with
  | nil => exact ⟨s, rfl, so_far⟩
  | cons row rest ih =>
    obtain ⟨unlisted, distinct⟩ := List.nodup_cons.mp distinct
    have member : row ∈ rows := part List.mem_cons_self
    have later : rest ⊆ rows := fun _ listed => part (List.mem_cons_of_mem row listed)
    by_cases applies : (store.get s row.1).isSome = present
    · have same := fresh row List.mem_cons_self applies
      obtain ⟨next, taken⟩ := Option.isSome_iff_exists.mp (accepts s so_far row member same)
      have first : statement store write present s row = some next := by
        rw [statement, if_pos applies, same, taken]
      have onward : Partly store write s₀ rows next := by
        intro k
        rw [store.get_set taken]
        split
        · rename_i here
          subst here
          exact .inr ⟨row.2, member, rfl⟩
        · exact so_far k
      obtain ⟨s', done, partly⟩ := ih later distinct onward (by
        intro other listed
        have apart : row.1 ≠ other.1 := fun same => unlisted (same ▸ List.mem_map_of_mem listed)
        rw [store.get_set taken, if_neg apart]
        exact fresh other (List.mem_cons_of_mem row listed))
      exact ⟨s', Option.bind_eq_some_iff.mpr ⟨next, first, done⟩, partly⟩
    · obtain ⟨s', done, partly⟩ := ih later distinct so_far fun other listed =>
        fresh other (List.mem_cons_of_mem row listed)
      exact ⟨s', Option.bind_eq_some_iff.mpr ⟨s, by rw [statement, if_neg applies], done⟩, partly⟩

theorem upsert_progress {todo : List (κ × α)} (part : todo ⊆ rows) (distinct : (todo.map Prod.fst).Nodup)
    (so_far : Partly store write s₀ rows s)
    (untouched : ∀ row ∈ todo, store.get s row.1 = store.get s₀ row.1) :
    ∃ s', upsert store write s todo = some s' ∧ Partly store write s₀ rows s' := by
  obtain ⟨updated, first, middle⟩ := executemany_progress accepts true part distinct so_far
    fun row listed _ => untouched row listed
  obtain ⟨s', second, partly⟩ := executemany_progress accepts false part distinct middle (by
    intro row listed absent
    rcases middle row.1 with same | ⟨v, -, written⟩
    · exact same
    · rw [written] at absent
      exact nomatch absent)
  exact ⟨s', Option.bind_eq_some_iff.mpr ⟨updated, first, second⟩, partly⟩

theorem upsertAll_progress {batches : List (List (κ × α))} (part : batches.flatten ⊆ rows)
    (distinct : (batches.flatten.map Prod.fst).Nodup) (so_far : Partly store write s₀ rows s)
    (untouched : ∀ row ∈ batches.flatten, store.get s row.1 = store.get s₀ row.1) :
    ∃ s', upsertAll store write s batches = some s' ∧ Partly store write s₀ rows s' := by
  induction batches generalizing s with
  | nil => exact ⟨s, rfl, so_far⟩
  | cons batch rest ih =>
    rw [List.flatten_cons] at part distinct untouched
    have apart := distinct
    rw [List.map_append] at apart
    obtain ⟨ours, theirs, -⟩ := List.nodup_append.mp apart
    obtain ⟨next, first, onward⟩ := upsert_progress accepts
      (fun _ listed => part (List.mem_append_left _ listed)) ours so_far
      (fun row listed => untouched row (List.mem_append_left _ listed))
    obtain ⟨s', done, partly⟩ := ih (fun _ listed => part (List.mem_append_right _ listed)) theirs onward (by
      intro row listed
      have outside : lookup row.1 batch = none := by
        by_contra found
        obtain ⟨v, found⟩ := Option.ne_none_iff_exists'.mp found
        have absent := lookup_none_of_disjoint distinct found
        exact (lookup_eq_none_iff row.1 _).mp absent (List.mem_map_of_mem listed)
      rw [get_upsert ours first, outside]
      exact untouched row (List.mem_append_right _ listed))
    exact ⟨s', Option.bind_eq_some_iff.mpr ⟨next, first, done⟩, partly⟩

end Progress

/-- Every row of the batches can be written when no state on the way refuses one. -/
theorem upsertAll_isSome {s : σ} {batches : List (List (κ × α))} (distinct : (batches.flatten.map Prod.fst).Nodup)
    (accepts : ∀ s', Partly store write s batches.flatten s' → ∀ row ∈ batches.flatten,
      store.get s' row.1 = store.get s row.1 →
      (store.set s' row.1 (write row.1 (store.get s row.1) row.2)).isSome) :
    (upsertAll store write s batches).isSome := by
  obtain ⟨s', done, -⟩ := upsertAll_progress accepts (fun _ listed => listed) distinct (fun _ => .inl rfl)
    (fun _ _ => rfl)
  rw [done]
  rfl

end Upsert
