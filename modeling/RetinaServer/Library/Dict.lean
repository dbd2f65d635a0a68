import Mathlib.Data.List.Nodup
import Mathlib.Data.List.Perm.Subperm
import Mathlib.Data.Option.Basic

/-! Insertion-ordered dictionaries. Assigning to a key that is present keeps its
place, a new key goes last, and removing a key leaves the order of the others.
The distinctness of the keys is a field, so a dictionary with two values under
one key cannot be built. -/
namespace OrderedDict

variable {κ : Type u} {α : Type v} [DecidableEq κ]

def lookup (k : κ) : List (κ × α) → Option α
  | [] => none
  | (k', a) :: rest => if k' = k then some a else lookup k rest

def put (k : κ) (a : α) : List (κ × α) → List (κ × α)
  | [] => [(k, a)]
  | (k', a') :: rest => if k' = k then (k, a) :: rest else (k', a') :: put k a rest

theorem lookup_eq_none_iff (k : κ) (items : List (κ × α)) :
    lookup k items = none ↔ k ∉ items.map Prod.fst := by
  induction items with
  | nil => simp [lookup]
  | cons item rest ih =>
    obtain ⟨k', a'⟩ := item
    by_cases same : k' = k
    · simp [lookup, same]
    · simp [lookup, same, ih, Ne.symm same]

theorem lookup_put (k k' : κ) (a : α) (items : List (κ × α)) :
    lookup k' (put k a items) = if k = k' then some a else lookup k' items := by
  induction items with
  | nil => simp [put, lookup]
  | cons item rest ih =>
    obtain ⟨k₀, a₀⟩ := item
    by_cases here : k₀ = k
    · by_cases same : k = k' <;> simp [put, lookup, here, same]
    · by_cases same : k₀ = k'
      · simp [put, lookup, same, show ¬ k' = k from same ▸ here, show ¬ k = k' from fun h => here (same.trans h.symm)]
      · simp [put, lookup, here, same, ih]

theorem keys_put (k : κ) (a : α) (items : List (κ × α)) :
    (put k a items).map Prod.fst =
      if k ∈ items.map Prod.fst then items.map Prod.fst else items.map Prod.fst ++ [k] := by
  induction items with
  | nil => simp [put]
  | cons item rest ih =>
    obtain ⟨k₀, a₀⟩ := item
    by_cases here : k₀ = k
    · simp [put, here]
    · by_cases later : k ∈ rest.map Prod.fst
      · simp only [put, if_neg here, List.map_cons, ih, List.mem_cons, later, or_true, if_true]
      · simp only [put, if_neg here, List.map_cons, ih, List.mem_cons, Ne.symm here, later, or_self,
          if_false, List.cons_append]

theorem put_of_absent (a : α) {items : List (κ × α)} (absent : lookup k items = none) :
    put k a items = items ++ [(k, a)] := by
  induction items with
  | nil => rfl
  | cons item rest ih =>
    by_cases here : item.1 = k
    · simp [lookup, here] at absent
    · simp only [lookup, if_neg here] at absent
      simp only [put, if_neg here, ih absent, List.cons_append]

theorem put_of_lookup {items : List (κ × α)} (held : lookup k items = some a) : put k a items = items := by
  induction items with
  | nil => cases held
  | cons item rest ih =>
    obtain ⟨k', a'⟩ := item
    by_cases here : k' = k
    · simp only [lookup, if_pos here, Option.some.injEq] at held
      simp only [put, here, held, if_true]
    · simp only [lookup, if_neg here] at held
      simp only [put, if_neg here, ih held]

theorem lookup_filter (p : κ × α → Bool) (k : κ) (items : List (κ × α))
    (distinct : (items.map Prod.fst).Nodup) :
    lookup k (items.filter p) = (lookup k items).filter (fun a => p (k, a)) := by
  induction items with
  | nil => rfl
  | cons item rest ih =>
    obtain ⟨k₀, a₀⟩ := item
    simp only [List.map_cons, List.nodup_cons] at distinct
    have tail := ih distinct.2
    by_cases here : k₀ = k
    · subst here
      have absent : lookup k₀ rest = none := (lookup_eq_none_iff _ _).mpr distinct.1
      by_cases kept : p (k₀, a₀) = true
      · simp [lookup, kept, Option.filter]
      · simp [lookup, kept, tail, absent, Option.filter]
    · by_cases kept : p (k₀, a₀) = true <;> simp [lookup, kept, here, tail]

theorem lookup_append (k : κ) (items later : List (κ × α)) :
    lookup k (items ++ later) = (lookup k items).or (lookup k later) := by
  induction items with
  | nil => rfl
  | cons item rest ih =>
    obtain ⟨k', a⟩ := item
    rw [List.cons_append, lookup, lookup, ih]
    split
    · rfl
    · rfl

theorem lookup_map {β : Type w} (f : α → β) (k : κ) (items : List (κ × α)) :
    lookup k (items.map fun item => (item.1, f item.2)) = (lookup k items).map f := by
  induction items with
  | nil => rfl
  | cons item rest ih =>
    by_cases here : item.1 = k
    · simp [lookup, here]
    · simp [lookup, here, ih]

theorem lookup_eq_some_iff (k : κ) (a : α) (items : List (κ × α))
    (distinct : (items.map Prod.fst).Nodup) :
    lookup k items = some a ↔ (k, a) ∈ items := by
  induction items with
  | nil => simp [lookup]
  | cons item rest ih =>
    obtain ⟨k₀, a₀⟩ := item
    simp only [List.map_cons, List.nodup_cons] at distinct
    by_cases here : k₀ = k
    · subst here
      have unlisted : (k₀, a) ∉ rest := fun member => distinct.1 (List.mem_map_of_mem member)
      simp [lookup, unlisted, eq_comm]
    · simp [lookup, here, Ne.symm here, ih distinct.2]

theorem filter_put (a : α) (items : List (κ × α)) (other : k ≠ k') :
    (put k a items).filter (fun item => decide (item.1 ≠ k')) = put k a (items.filter fun item => decide (item.1 ≠ k')) := by
  induction items with
  | nil => simp [put, other]
  | cons item rest ih =>
    obtain ⟨k₀, a₀⟩ := item
    simp only [ne_eq, decide_not] at ih ⊢
    by_cases here : k₀ = k
    · simp [put, here, other]
    · by_cases gone : k₀ = k'
      · subst gone
        simp [put, here, ih]
      · simp [put, here, gone, ih]

theorem countP_filter_ne (p : α → Bool) (k : κ) (items : List (κ × α)) (distinct : (items.map Prod.fst).Nodup) :
    ((items.filter fun item => decide (item.1 ≠ k)).map Prod.snd).countP p +
      (if (lookup k items).any p then 1 else 0) = (items.map Prod.snd).countP p := by
  induction items with
  | nil => rfl
  | cons item rest ih =>
    obtain ⟨k₀, a₀⟩ := item
    simp only [List.map_cons, List.nodup_cons] at distinct
    have tail := ih distinct.2
    by_cases here : k₀ = k
    · subst here
      rw [(lookup_eq_none_iff _ _).mpr distinct.1] at tail
      simp only [List.filter_cons, lookup, if_true, Option.any_some, List.map_cons, List.countP_cons, ne_eq,
        not_true_eq_false, decide_false, Bool.false_eq_true, if_false]
      rw [← tail]
      simp
    · simp only [List.filter_cons, lookup, here, if_false, ne_eq, not_false_eq_true, decide_true, if_true, List.map_cons,
        List.countP_cons, ← tail]
      omega

theorem put_append (a : α) {items : List (κ × α)} (rest : List (κ × α)) (held : lookup k items ≠ none) :
    put k a (items ++ rest) = put k a items ++ rest := by
  induction items with
  | nil => exact absurd rfl held
  | cons item more ih =>
    by_cases here : item.1 = k
    · simp only [List.cons_append, put, if_pos here]
    · simp only [lookup, if_neg here] at held
      simp only [List.cons_append, put, if_neg here, ih held]

theorem findSome?_put {β : Type w} (f : α → Option β) (k : κ) (a : α) (items : List (κ × α))
    (blank : ∀ b ∈ items.map Prod.snd, f b = none) : ((put k a items).map Prod.snd).findSome? f = f a := by
  induction items with
  | nil => cases found : f a <;> simp [put, found]
  | cons item rest ih =>
    obtain ⟨first, later⟩ := List.forall_mem_cons.mp blank
    simp only [put]
    split
    · have none_later := List.findSome?_eq_none_iff.mpr later
      simp only [List.map_cons, List.findSome?_cons, none_later]
      cases f a <;> rfl
    · simp only [List.map_cons, List.findSome?_cons, first, ih later]

/-- Two lists of assignments that tell the same story go on doing so. -/
theorem forall₂_put {β : Type w} {R : κ × α → κ × β → Prop} (keyed : ∀ x y, R x y → x.1 = y.1)
    {items : List (κ × α)} {items' : List (κ × β)} {b : β} (related : List.Forall₂ R items items')
    (new : R (k, a) (k, b)) : List.Forall₂ R (put k a items) (put k b items') := by
  induction related with
  | nil => exact .cons new .nil
  | @cons x y rest rest' here later ih =>
    obtain ⟨k₀, a₀⟩ := x
    obtain ⟨k₁, b₀⟩ := y
    obtain rfl : k₀ = k₁ := keyed _ _ here
    simp only [put]
    split
    · exact .cons new later
    · exact .cons here ih

end OrderedDict

/-- A dictionary is its list of items, in insertion order, with distinct keys. -/
structure Dict (κ : Type u) (α : Type v) where
  items : List (κ × α)
  nodup : (items.map Prod.fst).Nodup
deriving DecidableEq

namespace Dict
open OrderedDict

variable {κ : Type u} {α : Type v} {β : Type w}

def empty : Dict κ α := ⟨[], List.nodup_nil⟩

def keys (d : Dict κ α) : List κ := d.items.map Prod.fst

def values (d : Dict κ α) : List α := d.items.map Prod.snd

def size (d : Dict κ α) : Nat := d.items.length

/-- The same keys in the same order, with every value changed. -/
def mapValues (f : α → β) (d : Dict κ α) : Dict κ β where
  items := d.items.map fun item => (item.1, f item.2)
  nodup := by simpa [Function.comp_def] using d.nodup

variable [DecidableEq κ]

def get? (d : Dict κ α) (k : κ) : Option α := lookup k d.items

def insert (d : Dict κ α) (k : κ) (a : α) : Dict κ α where
  items := put k a d.items
  nodup := by
    rw [keys_put]
    split
    · exact d.nodup
    · rename_i absent
      refine List.nodup_append.mpr ⟨d.nodup, List.nodup_singleton k, ?_⟩
      intro k' member k'' last same
      rw [List.mem_singleton] at last
      exact absent (last ▸ same ▸ member)

def filter (d : Dict κ α) (p : κ → α → Bool) : Dict κ α where
  items := d.items.filter (fun item => p item.1 item.2)
  nodup := d.nodup.sublist (List.filter_sublist.map Prod.fst)

def erase (d : Dict κ α) (k : κ) : Dict κ α := d.filter (fun k' _ => decide (k' ≠ k))

@[simp] theorem get?_empty (k : κ) : (empty : Dict κ α).get? k = none := rfl

theorem get?_insert (d : Dict κ α) (k k' : κ) (a : α) :
    (d.insert k a).get? k' = if k = k' then some a else d.get? k' :=
  lookup_put k k' a d.items

@[simp] theorem get?_insert_self (d : Dict κ α) (k : κ) (a : α) : (d.insert k a).get? k = some a := by
  rw [get?_insert, if_pos rfl]

theorem items_insert_new {d : Dict κ α} (a : α) (absent : d.get? k = none) :
    (d.insert k a).items = d.items ++ [(k, a)] :=
  put_of_absent a absent

theorem get?_insert_ne (d : Dict κ α) (a : α) (other : k ≠ k') :
    (d.insert k a).get? k' = d.get? k' := by
  rw [get?_insert, if_neg other]

theorem get?_filter (d : Dict κ α) (p : κ → α → Bool) (k : κ) :
    (d.filter p).get? k = (d.get? k).filter (p k) :=
  lookup_filter (fun item => p item.1 item.2) k d.items d.nodup

theorem get?_erase (d : Dict κ α) (k k' : κ) :
    (d.erase k).get? k' = if k = k' then none else d.get? k' := by
  rw [erase, get?_filter]
  by_cases same : k = k'
  · subst same
    cases d.get? k <;> simp
  · cases d.get? k' <;> simp [same, Ne.symm same]

@[simp] theorem get?_erase_self (d : Dict κ α) (k : κ) : (d.erase k).get? k = none := by
  rw [get?_erase, if_pos rfl]

theorem get?_erase_ne (d : Dict κ α) (other : k ≠ k') : (d.erase k).get? k' = d.get? k' := by
  rw [get?_erase, if_neg other]

omit [DecidableEq κ] in
theorem eq_of_items {d d' : Dict κ α} (same : d.items = d'.items) : d = d' := by
  obtain ⟨items, nodup⟩ := d
  obtain rfl : items = d'.items := same
  rfl

omit [DecidableEq κ] in
theorem filter_eq_self {d : Dict κ α} {p : κ → α → Bool} (all : ∀ k a, (k, a) ∈ d.items → p k a = true) : d.filter p = d :=
  eq_of_items (List.filter_eq_self.mpr fun item member => all item.1 item.2 member)

theorem erase_of_absent {d : Dict κ α} (absent : d.get? k = none) : d.erase k = d := by
  refine filter_eq_self fun k' a member => ?_
  have missing := (OrderedDict.lookup_eq_none_iff k d.items).mp absent
  rw [decide_eq_true_eq]
  rintro rfl
  exact missing (List.mem_map_of_mem member)

theorem erase_comm (d : Dict κ α) (k k' : κ) : (d.erase k).erase k' = (d.erase k').erase k :=
  eq_of_items (List.filter_comm _ _ d.items)

/-- Writing one key and removing another may change places. -/
theorem erase_insert_ne (d : Dict κ α) (a : α) (other : k ≠ k') :
    (d.insert k a).erase k' = (d.erase k').insert k a :=
  eq_of_items (filter_put a d.items other)

theorem countP_insert_new {d : Dict κ α} (p : α → Bool) (a : α) (absent : d.get? k = none) :
    (d.insert k a).values.countP p = d.values.countP p + if p a then 1 else 0 := by
  simp [values, items_insert_new a absent, List.countP_append, List.countP_cons]

theorem countP_erase (d : Dict κ α) (p : α → Bool) (k : κ) :
    (d.erase k).values.countP p + (if (d.get? k).any p then 1 else 0) = d.values.countP p :=
  countP_filter_ne p k d.items d.nodup

theorem size_erase (d : Dict κ α) (k : κ) : (d.erase k).size + (if (d.get? k).isSome then 1 else 0) = d.size := by
  have counted := d.countP_erase (fun _ => true) k
  cases found : d.get? k with
  | none => simpa [size, values, found] using counted
  | some a => simpa [size, values, found] using counted

/-- Removing or sweeping never brings a key in. -/
theorem get?_filter_none (d : Dict κ α) (p : κ → α → Bool) (absent : d.get? k = none) :
    (d.filter p).get? k = none := by
  rw [get?_filter, absent]
  rfl

theorem get?_filter_some {d : Dict κ α} {p : κ → α → Bool} (found : (d.filter p).get? k = some a) :
    d.get? k = some a ∧ p k a = true := by
  rw [get?_filter, Option.filter_eq_some_iff] at found
  exact found

theorem get?_mapValues (f : α → β) (d : Dict κ α) (k : κ) : (d.mapValues f).get? k = (d.get? k).map f :=
  lookup_map f k d.items

theorem get?_eq_some_iff (d : Dict κ α) (k : κ) (a : α) : d.get? k = some a ↔ (k, a) ∈ d.items :=
  lookup_eq_some_iff k a d.items d.nodup

omit [DecidableEq κ] in
/-- What is made of the items of a dictionary is told apart by their keys. -/
theorem nodup_filterMap (d : Dict κ α) {f : κ × α → Option β} (name : β → κ)
    (keyed : ∀ item b, f item = some b → name b = item.1) : ((d.items.filterMap f).map name).Nodup := by
  refine List.pairwise_map.mpr (List.Pairwise.filterMap f ?_ (List.pairwise_map.mp d.nodup))
  intro item item' different b first b' second same
  exact different ((keyed item b first).symm.trans (same.trans (keyed item' b' second)))

theorem get?_eq_none_iff (d : Dict κ α) (k : κ) : d.get? k = none ↔ k ∉ d.keys :=
  lookup_eq_none_iff k d.items

omit [DecidableEq κ] in
theorem keys_filter_subset (d : Dict κ α) (p : κ → α → Bool) : (d.filter p).keys ⊆ d.keys :=
  (List.filter_sublist.map Prod.fst).subset

omit [DecidableEq κ] in
theorem size_filter_le (d : Dict κ α) (p : κ → α → Bool) : (d.filter p).size ≤ d.size :=
  List.length_filter_le _ d.items

/-- A dictionary whose keys are listed is no larger than the list. -/
theorem size_le_of_keys {d : Dict κ α} {names : List κ} (listed : ∀ k, d.get? k ≠ none → k ∈ names) :
    d.size ≤ names.length := by
  have within : d.keys ⊆ names := fun k member => listed k fun absent => (get?_eq_none_iff d k).mp absent member
  have shorter := (List.subperm_of_subset d.nodup within).length_le
  rwa [List.length_map] at shorter

theorem keys_insert (d : Dict κ α) (k : κ) (a : α) :
    (d.insert k a).keys = if k ∈ d.keys then d.keys else d.keys ++ [k] :=
  keys_put k a d.items

theorem mem_keys_insert (d : Dict κ α) (a : α) : k' ∈ (d.insert k a).keys ↔ k' = k ∨ k' ∈ d.keys := by
  rw [keys_insert]
  split
  · rename_i present
    exact ⟨.inr, fun either => either.elim (fun same => same ▸ present) id⟩
  · simp [or_comm]

theorem keys_insert_of_mem {d : Dict κ α} (a : α) (present : k ∈ d.keys) : (d.insert k a).keys = d.keys := by
  rw [keys_insert, if_pos present]

theorem keys_insert_of_notMem {d : Dict κ α} (a : α) (absent : k ∉ d.keys) : (d.insert k a).keys = d.keys ++ [k] := by
  rw [keys_insert, if_neg absent]

theorem keys_erase (d : Dict κ α) (k : κ) : (d.erase k).keys = d.keys.filter fun k' => decide (k' ≠ k) := by
  rw [keys, keys, erase, filter, List.filter_map]
  rfl

/-- Erasing the first key leaves the rest of the items as they are. -/
theorem items_erase_first {d : Dict κ α} (first : d.items = (k, a) :: rest) : (d.erase k).items = rest := by
  have distinct := d.nodup
  rw [first, List.map_cons, List.nodup_cons] at distinct
  show d.items.filter _ = rest
  rw [first, List.filter_cons_of_neg (by simp), List.filter_eq_self]
  intro item member
  rw [decide_eq_true_eq]
  rintro rfl
  exact distinct.1 (List.mem_map.mpr ⟨item, member, rfl⟩)

/-- `d.setdefault(k, a)`. -/
def setDefault (d : Dict κ α) (k : κ) (a : α) : Dict κ α := if (d.get? k).isSome then d else d.insert k a

theorem keys_setDefault (d : Dict κ α) (k : κ) (a : α) :
    (d.setDefault k a).keys = if k ∈ d.keys then d.keys else d.keys ++ [k] := by
  rw [setDefault]
  split
  · rename_i held
    rw [if_pos (not_not.mp fun absent => by simp [(get?_eq_none_iff d k).mpr absent] at held)]
  · exact keys_insert d k a

theorem get?_setDefault_of_mem {d : Dict κ α} (a : α) (present : k ∈ d.keys) (k' : κ) :
    (d.setDefault k a).get? k' = d.get? k' := by
  have held : (d.get? k).isSome = true :=
    Option.isSome_iff_ne_none.mpr fun absent => (get?_eq_none_iff d k).mp absent present
  rw [setDefault, if_pos held]

theorem get?_setDefault_ne (d : Dict κ α) (a : α) (other : k ≠ k') : (d.setDefault k a).get? k' = d.get? k' := by
  rw [setDefault]
  split
  · rfl
  · exact get?_insert_ne d a other

/-- A key that is there keeps its place before one that comes in. -/
theorem insert_insert_of_held {d : Dict κ α} (a a' : α) (held : d.get? k ≠ none) (absent : d.get? k' = none) :
    (d.insert k' a').insert k a = (d.insert k a).insert k' a' := by
  have other : k ≠ k' := by
    rintro rfl
    exact held absent
  have absent' : (d.insert k a).get? k' = none := by rw [get?_insert_ne _ _ other, absent]
  refine eq_of_items ?_
  show put k a (d.insert k' a').items = _
  rw [items_insert_new a' absent, items_insert_new a' absent', put_append a [(k', a')] held]
  rfl

theorem findSome?_insert_new {d : Dict κ α} (f : α → Option β) (a : α) (absent : d.get? k = none) :
    (d.insert k a).values.findSome? f = (d.values.findSome? f).or (f a) := by
  rw [values, items_insert_new a absent, List.map_append, List.findSome?_append, values]
  cases found : f a <;> simp [found]

theorem findSome?_insert (f : α → Option β) (d : Dict κ α) (k : κ) (a : α) (blank : ∀ b ∈ d.values, f b = none) :
    (d.insert k a).values.findSome? f = f a :=
  findSome?_put f k a d.items blank

theorem mem_values_erase (d : Dict κ α) (k : κ) (member : a ∈ (d.erase k).values) : a ∈ d.values :=
  (List.filter_sublist.map Prod.snd).subset member

theorem get?_foldl_insert_const (ks : List κ) (a : α) (d : Dict κ α) (k : κ) :
    (ks.foldl (fun d k' => d.insert k' a) d).get? k = if k ∈ ks then some a else d.get? k := by
  induction ks generalizing d with
  | nil => rfl
  | cons k' rest ih =>
    rw [List.foldl_cons, ih, get?_insert]
    by_cases later : k ∈ rest
    · simp [later]
    · by_cases here : k' = k
      · simp [here]
      · simp [later, here, Ne.symm here]

/-- Reordered items are a dictionary again, with the same entries. -/
def reorder (d : Dict κ α) (items : List (κ × α)) (perm : d.items.Perm items) : Dict κ α :=
  ⟨items, (perm.map Prod.fst).nodup_iff.mp d.nodup⟩

theorem get?_of_perm {d d' : Dict κ α} (perm : d.items.Perm d'.items) (k : κ) : d.get? k = d'.get? k := by
  refine Option.ext fun a => ?_
  rw [get?_eq_some_iff, get?_eq_some_iff, perm.mem_iff]

/-- The dictionary of a list of assignments, in order. -/
def ofList (assignments : List (κ × α)) : Dict κ α := assignments.foldl (fun d item => d.insert item.1 item.2) empty

theorem get?_foldl_insert (assignments : List (κ × α)) (d : Dict κ α) (k : κ)
    (distinct : (assignments.map Prod.fst).Nodup) :
    (assignments.foldl (fun d item => d.insert item.1 item.2) d).get? k =
      (lookup k assignments).or (d.get? k) := by
  induction assignments generalizing d with
  | nil => rfl
  | cons item rest ih =>
    obtain ⟨k₀, a₀⟩ := item
    obtain ⟨unlisted, distinct⟩ := List.nodup_cons.mp distinct
    rw [List.foldl_cons, ih _ distinct, get?_insert, lookup]
    by_cases here : k₀ = k
    · subst here
      rw [if_pos rfl, if_pos rfl, (lookup_eq_none_iff k₀ rest).mpr unlisted]
      rfl
    · rw [if_neg here, if_neg here]

theorem get?_ofList_eq_some_iff (assignments : List (κ × α)) (distinct : (assignments.map Prod.fst).Nodup) :
    (ofList assignments).get? k = some a ↔ (k, a) ∈ assignments := by
  rw [ofList, get?_foldl_insert assignments empty k distinct, get?_empty, Option.or_none,
    lookup_eq_some_iff k a assignments distinct]

/-- A dictionary of at least two entries has entries under two keys. -/
theorem two_le_size_iff (d : Dict κ α) :
    2 ≤ d.size ↔ ∃ k a k' a', k ≠ k' ∧ d.get? k = some a ∧ d.get? k' = some a' := by
  constructor
  · intro two
    match shape : d.items, two with
    | (k, a) :: (k', a') :: rest, _ =>
      have distinct := d.nodup
      simp only [shape, List.map_cons, List.nodup_cons, List.mem_cons, not_or] at distinct
      refine ⟨k, a, k', a', distinct.1.1, (get?_eq_some_iff d k a).mpr ?_, (get?_eq_some_iff d k' a').mpr ?_⟩
      · simp [shape]
      · simp [shape]
    | [item], two => simp [size, shape] at two
    | [], two => simp [size, shape] at two
  · rintro ⟨k, a, k', a', other, here, there⟩
    have listed : [(k, a), (k', a')] ⊆ d.items := by
      simpa using ⟨(get?_eq_some_iff d k a).mp here, (get?_eq_some_iff d k' a').mp there⟩
    have distinct : [(k, a), (k', a')].Nodup := by simp [other]
    exact (List.subperm_of_subset distinct listed).length_le

end Dict
