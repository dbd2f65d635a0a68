import RetinaServer.Library.Dict
import Mathlib.Algebra.BigOperators.Group.List.Basic
import Mathlib.Algebra.GroupWithZero.Nat

/-! Items filed under their keys, in the order in which they come: each item is in
one group, and the groups together hold as many items as there were. -/
namespace Grouping
open OrderedDict

variable {κ : Type u} {α : Type v} [DecidableEq κ]

/-- `groups.setdefault(key, []).append(item)`. -/
def file (groups : Dict κ (List α)) (item : κ × α) : Dict κ (List α) :=
  groups.insert item.1 ((groups.get? item.1).getD [] ++ [item.2])

def group (items : List (κ × α)) : Dict κ (List α) := items.foldl file Dict.empty

def total (groups : Dict κ (List α)) : Nat := (groups.items.map fun entry => entry.2.length).sum

theorem sum_put (weigh : κ × α → Nat) (k : κ) (a : α) (items : List (κ × α)) :
    ((put k a items).map weigh).sum + ((lookup k items).map fun old => weigh (k, old)).getD 0 =
      (items.map weigh).sum + weigh (k, a) := by
  induction items with
  | nil => simp [put, lookup]
  | cons item rest ih =>
    obtain ⟨k', a'⟩ := item
    by_cases here : k' = k
    · subst here
      simp only [put, lookup, if_true, List.map_cons, List.sum_cons, Option.map_some, Option.getD_some]
      omega
    · simp only [put, lookup, if_neg here, List.map_cons, List.sum_cons]
      omega

theorem total_file (groups : Dict κ (List α)) (item : κ × α) : total (file groups item) = total groups + 1 := by
  have summed := sum_put (fun entry : κ × List α => entry.2.length) item.1
    ((groups.get? item.1).getD [] ++ [item.2]) groups.items
  have old : ((lookup item.1 groups.items).map fun old => old.length).getD 0 = ((groups.get? item.1).getD []).length := by
    rw [Dict.get?]
    cases lookup item.1 groups.items <;> rfl
  simp only [List.length_append, List.length_cons, List.length_nil] at summed
  simp only [total, file, Dict.insert]
  omega

theorem total_foldl_file (items : List (κ × α)) (groups : Dict κ (List α)) :
    total (items.foldl file groups) = total groups + items.length := by
  induction items generalizing groups with
  | nil => rfl
  | cons item rest ih =>
    rw [List.foldl_cons, ih, total_file, List.length_cons]
    omega

theorem total_group (items : List (κ × α)) : total (group items) = items.length := by
  rw [group, total_foldl_file]
  exact Nat.zero_add _

/-- A group is what came under its key, in order. -/
theorem get?_foldl_file (items : List (κ × α)) (groups : Dict κ (List α)) (k : κ) :
    ((items.foldl file groups).get? k).getD [] =
      (groups.get? k).getD [] ++ (items.filter fun item => decide (item.1 = k)).map Prod.snd := by
  induction items generalizing groups with
  | nil => simp
  | cons item rest ih =>
    rw [List.foldl_cons, ih, file, Dict.get?_insert]
    by_cases here : item.1 = k
    · simp [here]
    · simp [here]

theorem get?_group (items : List (κ × α)) (k : κ) :
    ((group items).get? k).getD [] = (items.filter fun item => decide (item.1 = k)).map Prod.snd := by
  rw [group, get?_foldl_file]
  rfl

theorem get?_group_eq_some {items : List (κ × α)} (found : (group items).get? k = some filed) :
    filed = (items.filter fun item => decide (item.1 = k)).map Prod.snd := by
  have whole := get?_group items k
  rw [found] at whole
  exact whole

theorem mem_group (items : List (κ × α)) (a : α) : a ∈ (group items).values.flatten ↔ ∃ k, (k, a) ∈ items := by
  simp only [Dict.values, List.mem_flatten, List.mem_map]
  constructor
  · rintro ⟨filed, ⟨entry, member, rfl⟩, listed⟩
    rw [get?_group_eq_some (((group items).get?_eq_some_iff entry.1 entry.2).mpr member)] at listed
    obtain ⟨item, chosen, rfl⟩ := List.mem_map.mp listed
    exact ⟨item.1, (List.mem_filter.mp chosen).1⟩
  · rintro ⟨k, member⟩
    have whole := get?_group items k
    cases found : (group items).get? k with
    | none =>
      rw [found] at whole
      have listed : a ∈ (items.filter fun item => decide (item.1 = k)).map Prod.snd :=
        List.mem_map.mpr ⟨(k, a), List.mem_filter.mpr ⟨member, by simp⟩, rfl⟩
      rw [← whole] at listed
      exact absurd listed List.not_mem_nil
    | some filed =>
      refine ⟨filed, ⟨(k, filed), ((group items).get?_eq_some_iff k filed).mp found, rfl⟩, ?_⟩
      rw [get?_group_eq_some found]
      exact List.mem_map.mpr ⟨(k, a), List.mem_filter.mpr ⟨member, by simp⟩, rfl⟩

omit [DecidableEq κ] in
/-- Filing keyed rows under a name of each parts them without doubling any. -/
theorem nodup_group {ν : Type w} [DecidableEq ν] (name : κ × α → ν) {rows : List (κ × α)}
    (distinct : (rows.map Prod.fst).Nodup) :
    ((group (rows.map fun row => (name row, row))).values.flatten.map Prod.fst).Nodup := by
  have filed : ∀ n group', (group (rows.map fun row => (name row, row))).get? n = some group' →
      group' = rows.filter fun row => decide (name row = n) := by
    intro n group' found
    rw [get?_group_eq_some found, List.filter_map, List.map_map]
    exact List.map_id _
  rw [List.map_flatten, List.nodup_flatten]
  constructor
  · intro keys member
    obtain ⟨group', listed, rfl⟩ := List.mem_map.mp member
    obtain ⟨entry, here, rfl⟩ := List.mem_map.mp listed
    rw [filed entry.1 entry.2 ((Dict.get?_eq_some_iff _ entry.1 entry.2).mpr here)]
    exact distinct.sublist (List.filter_sublist.map Prod.fst)
  · rw [List.pairwise_map, Dict.values, List.pairwise_map]
    refine (List.pairwise_map.mp (Dict.nodup _)).imp_of_mem ?_
    intro entry other first second apart k here there
    rw [filed entry.1 entry.2 ((Dict.get?_eq_some_iff _ entry.1 entry.2).mpr first)] at here
    rw [filed other.1 other.2 ((Dict.get?_eq_some_iff _ other.1 other.2).mpr second)] at there
    obtain ⟨row, mine, rfl⟩ := List.mem_map.mp here
    obtain ⟨row', yours, same⟩ := List.mem_map.mp there
    simp only [List.mem_filter, decide_eq_true_eq] at mine yours
    have equal : row' = row := List.inj_on_of_nodup_map distinct yours.1 mine.1 same
    exact apart (mine.2.symm.trans (equal ▸ yours.2))

theorem lookup_group {ν : Type w} [DecidableEq ν] (name : κ × α → ν) {rows : List (κ × α)}
    (distinct : (rows.map Prod.fst).Nodup) (k : κ) :
    lookup k (group (rows.map fun row => (name row, row))).values.flatten = lookup k rows := by
  refine Option.ext fun a => ?_
  rw [lookup_eq_some_iff k a _ (nodup_group name distinct), lookup_eq_some_iff k a rows distinct, mem_group]
  simp

end Grouping
