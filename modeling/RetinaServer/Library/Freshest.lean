import RetinaServer.Library.Dict
import Mathlib.Data.List.Induction
import Mathlib.Order.MinMax
import Mathlib.Data.List.MinMax

/-! The latest item of each name, by one pass over items that come in any order. Of
several with one stamp the earliest is kept. -/
namespace Latest

variable {α : Type u} {κ : Type v} {τ : Type w} [DecidableEq κ] [LinearOrder τ]

def keepLatest (name : α → κ) (stamp : α → τ) (d : Dict κ α) (a : α) : Dict κ α :=
  match d.get? (name a) with
  | none => d.insert (name a) a
  | some cur => if stamp cur < stamp a then d.insert (name a) a else d

def latest (name : α → κ) (stamp : α → τ) (items : List α) : Dict κ α := items.foldl (keepLatest name stamp) Dict.empty

/-- The item is one of the items of its name, and none of them is later. -/
structure IsLatest (name : α → κ) (stamp : α → τ) (items : List α) (k : κ) (a : α) : Prop where
  mem : a ∈ items
  named : name a = k
  le : ∀ b ∈ items, name b = k → stamp b ≤ stamp a

variable {name : α → κ} {stamp : α → τ} {items : List α}

omit [DecidableEq κ] in
theorem IsLatest.concat {before : List α} (was : IsLatest name stamp before k a) (later : name x = k → stamp x ≤ stamp a) :
    IsLatest name stamp (before ++ [x]) k a := by
  refine ⟨List.mem_append_left _ was.mem, was.named, fun b member same => ?_⟩
  rcases List.mem_append.mp member with old | new
  · exact was.le b old same
  · obtain rfl := List.mem_singleton.mp new
    exact later same

omit [DecidableEq κ] in
theorem isLatest_concat_self {before : List α} (none_later : ∀ b ∈ before, name b = name x → stamp b ≤ stamp x) :
    IsLatest name stamp (before ++ [x]) (name x) x := by
  refine ⟨by simp, rfl, fun b member same => ?_⟩
  rcases List.mem_append.mp member with old | new
  · exact none_later b old same
  · rw [List.mem_singleton.mp new]

/-- The dictionary has the latest of the items, of every name that they have. -/
structure HoldsLatest (name : α → κ) (stamp : α → τ) (before : List α) (d : Dict κ α) : Prop where
  held : ∀ k a, d.get? k = some a → IsLatest name stamp before k a
  complete : ∀ a ∈ before, d.get? (name a) ≠ none

variable {before : List α} {d : Dict κ α}

theorem holdsLatest_nil : HoldsLatest name stamp [] (Dict.empty : Dict κ α) :=
  ⟨fun _ _ found => (by cases found), fun _ member => (by cases member)⟩

theorem HoldsLatest.insert (holds : HoldsLatest name stamp before d)
    (none_later : ∀ b ∈ before, name b = name x → stamp b ≤ stamp x) :
    HoldsLatest name stamp (before ++ [x]) (d.insert (name x) x) where
  held k a found := by
    rw [Dict.get?_insert] at found
    split at found
    · rename_i same
      rw [← same, ← Option.some.inj found]
      exact isLatest_concat_self none_later
    · rename_i other
      exact (holds.held k a found).concat fun same => absurd same other
  complete a member := by
    rw [Dict.get?_insert]
    split
    · exact Option.some_ne_none x
    · rename_i other
      rcases List.mem_append.mp member with old | new
      · exact holds.complete a old
      · exact absurd (congrArg name (List.mem_singleton.mp new)).symm other

theorem HoldsLatest.keepLatest (holds : HoldsLatest name stamp before d) (x : α) :
    HoldsLatest name stamp (before ++ [x]) (keepLatest name stamp d x) := by
  cases cur : d.get? (name x) with
  | none =>
    rw [Latest.keepLatest, cur]
    exact holds.insert fun b member same => absurd (same ▸ cur) (holds.complete b member)
  | some y =>
    by_cases newer : stamp y < stamp x
    · simp only [Latest.keepLatest, cur, newer, if_true]
      exact holds.insert fun b member same => ((holds.held (name x) y cur).le b member same).trans newer.le
    · simp only [Latest.keepLatest, cur, newer, if_false]
      refine ⟨fun k a found => (holds.held k a found).concat fun same => ?_, fun a member => ?_⟩
      · subst same
        rw [cur] at found
        exact Option.some.inj found ▸ not_lt.mp newer
      · rcases List.mem_append.mp member with old | new
        · exact holds.complete a old
        · rw [List.mem_singleton.mp new, cur]
          exact Option.some_ne_none y

/-- A pass that starts with the latest of the items before it ends with the latest of all. -/
theorem HoldsLatest.foldl (holds : HoldsLatest name stamp before d) (items : List α) :
    HoldsLatest name stamp (before ++ items) (items.foldl (Latest.keepLatest name stamp) d) := by
  induction items generalizing before d with
  | nil => simpa using holds
  | cons x rest ih =>
    rw [← List.concat_append, List.concat_eq_append, List.foldl_cons]
    exact ih (holds.keepLatest x)

theorem holdsLatest_latest (name : α → κ) (stamp : α → τ) (items : List α) : HoldsLatest name stamp items (latest name stamp items) :=
  holdsLatest_nil.foldl items

theorem isLatest_of_latest (found : (latest name stamp items).get? k = some a) : IsLatest name stamp items k a :=
  (holdsLatest_latest name stamp items).held k a found

theorem exists_latest (member : a ∈ items) : ∃ b, (latest name stamp items).get? (name a) = some b ∧ stamp a ≤ stamp b := by
  obtain ⟨b, found⟩ := Option.ne_none_iff_exists'.mp ((holdsLatest_latest name stamp items).complete a member)
  exact ⟨b, found, (isLatest_of_latest found).le a member rfl⟩

end Latest

/-! The newest item of each name as a record, among items heard in any order: an item takes the place of a record
that is no newer, a record below a rising floor is dropped, and none below it is taken. -/
namespace Freshest

variable {α : Type u} {β : Type v} {κ : Type w} {τ : Type x} [DecidableEq κ] [LinearOrder τ]

/-- The newest of its name; of several with one stamp, the one heard last. -/
def IsNewest (name : α → κ) (stamp : α → τ) (heard : List α) (k : κ) (a : α) : Prop :=
  ∃ before after, heard = before ++ a :: after ∧ name a = k ∧ (∀ b ∈ before, name b = k → stamp b ≤ stamp a) ∧
    ∀ b ∈ after, name b = k → stamp b < stamp a

/-- How items are kept: `make` may fail, and `low` is the stamp of a name that has no record. -/
structure Register (α : Type u) (β : Type v) (κ : Type w) (τ : Type x) where
  name : α → κ
  stamp : α → τ
  make : α → Option β
  stamped : β → τ
  low : τ
  stamped_make : ∀ a b, make a = some b → stamped b = stamp a

namespace Register
variable (reg : Register α β κ τ)

/-- None of the items of its name is newer. -/
def Leads (heard : List α) (a : α) : Prop := ∀ b ∈ heard, reg.name b = reg.name a → reg.stamp b ≤ reg.stamp a

def take (floor : τ) (d : Dict κ β) (a : α) : Option (Dict κ β) :=
  if max floor ((d.get? (reg.name a)).elim reg.low reg.stamped) ≤ reg.stamp a then (reg.make a).map (d.insert (reg.name a))
  else some d

def prune (floor : τ) (d : Dict κ β) : Dict κ β := d.filter fun _ b => decide (floor ≤ reg.stamped b)

/-- The records are those of the newest items, as far as these are not below the floor. -/
structure Holds (floor : τ) (heard : List α) (d : Dict κ β) : Prop where
  held : ∀ k b, d.get? k = some b → ∃ a, IsNewest reg.name reg.stamp heard k a ∧ floor ≤ reg.stamp a ∧ reg.make a = some b
  complete : ∀ k a, IsNewest reg.name reg.stamp heard k a → floor ≤ reg.stamp a → d.get? k ≠ none

end Register

section newest
variable {name : α → κ} {stamp : α → τ} {heard : List α}

omit [DecidableEq κ] in
theorem IsNewest.mem (newest : IsNewest name stamp heard k a) : a ∈ heard := by
  obtain ⟨before, after, rfl, -⟩ := newest
  simp

omit [DecidableEq κ] in
theorem IsNewest.named (newest : IsNewest name stamp heard k a) : name a = k := newest.choose_spec.choose_spec.2.1

omit [DecidableEq κ] in
theorem IsNewest.le (newest : IsNewest name stamp heard k a) (member : b ∈ heard) (named : name b = k) : stamp b ≤ stamp a := by
  obtain ⟨before, after, rfl, -, earlier, later⟩ := newest
  rcases List.mem_append.mp member with old | rest
  · exact earlier b old named
  · rcases List.mem_cons.mp rest with rfl | new
    · exact le_rfl
    · exact (later b new named).le

omit [DecidableEq κ] in
theorem isNewest_concat_iff : IsNewest name stamp (heard ++ [x]) k a ↔
    (a = x ∧ name x = k ∧ ∀ b ∈ heard, name b = k → stamp b ≤ stamp x) ∨
      (IsNewest name stamp heard k a ∧ (name x = k → stamp x < stamp a)) := by
  constructor
  · rintro ⟨before, after, split, named, earlier, later⟩
    rcases List.eq_nil_or_concat after with rfl | ⟨after, y, rfl⟩
    · obtain ⟨rfl, last⟩ := List.append_inj' split rfl
      obtain rfl := List.singleton_inj.mp last
      exact .inl ⟨rfl, named, earlier⟩
    · rw [List.concat_eq_append, ← List.cons_append, ← List.append_assoc] at split
      obtain ⟨rfl, last⟩ := List.append_inj' split rfl
      obtain rfl := List.singleton_inj.mp last
      refine .inr ⟨⟨before, after, rfl, named, earlier, fun b member => later b ?_⟩, later x ?_⟩ <;> simp [*]
  · rintro (⟨rfl, named, earlier⟩ | ⟨⟨before, after, rfl, named, earlier, later⟩, older⟩)
    · exact ⟨heard, [], rfl, named, earlier, by simp⟩
    · refine ⟨before, after ++ [x], by simp, named, earlier, fun b member same => ?_⟩
      rcases List.mem_append.mp member with old | new
      · exact later b old same
      · obtain rfl := List.mem_singleton.mp new
        exact older same

omit [DecidableEq κ] in
theorem exists_isNewest (member : b ∈ heard) (named : name b = k) : ∃ a, IsNewest name stamp heard k a := by
  induction heard using List.reverseRecOn generalizing b with
  | nil => exact nomatch member
  | append_singleton heard x ih =>
    by_cases leads : name x = k ∧ ∀ c ∈ heard, name c = k → stamp c ≤ stamp x
    · exact ⟨x, isNewest_concat_iff.mpr (.inl ⟨rfl, leads⟩)⟩
    · obtain ⟨c, old, same, newer⟩ : ∃ c ∈ heard, name c = k ∧ (name x = k → stamp x < stamp c) := by
        rcases List.mem_append.mp member with old | new
        · by_cases here : name x = k
          · push Not at leads
            obtain ⟨c, old, same, newer⟩ := leads here
            exact ⟨c, old, same, fun _ => newer⟩
          · exact ⟨b, old, named, fun same => absurd same here⟩
        · rw [List.mem_singleton.mp new] at named
          push Not at leads
          obtain ⟨c, old, same, newer⟩ := leads named
          exact ⟨c, old, same, fun _ => newer⟩
      obtain ⟨a, newest⟩ := ih old same
      exact ⟨a, isNewest_concat_iff.mpr (.inr ⟨newest, fun here => (newer here).trans_le (newest.le old same)⟩)⟩

end newest

namespace Register
variable {reg : Register α β κ τ} {d : Dict κ β} {heard : List α}

theorem holds_nil (floor : τ) : reg.Holds floor [] Dict.empty :=
  ⟨fun _ _ found => (nomatch found), fun _ _ newest _ => nomatch newest.mem⟩

/-- The floor rises. -/
theorem Holds.prune (holds : reg.Holds floor heard d) (rises : floor ≤ floor') : reg.Holds floor' heard (reg.prune floor' d) where
  held k b found := by
    obtain ⟨found, above⟩ := Dict.get?_filter_some found
    obtain ⟨a, newest, -, made⟩ := holds.held k b found
    exact ⟨a, newest, (of_decide_eq_true above).trans_eq (reg.stamped_make a b made), made⟩
  complete k a newest above := by
    obtain ⟨b, found⟩ := Option.ne_none_iff_exists'.mp (holds.complete k a newest (rises.trans above))
    obtain ⟨a', newest', -, made⟩ := holds.held k b found
    have stamp_le : reg.stamp a ≤ reg.stamp a' := newest'.le newest.mem newest.named
    have stays : floor' ≤ reg.stamped b := by
      rw [reg.stamped_make a' b made]
      exact above.trans stamp_le
    rw [Register.prune, Dict.get?_filter, found, Option.filter_some, if_pos (decide_eq_true stays)]
    exact Option.some_ne_none b

theorem Holds.take (holds : reg.Holds floor heard d) (x : α)
    (makes : floor ≤ reg.stamp x → reg.Leads heard x → reg.low ≤ reg.stamp x ∧ reg.make x ≠ none) :
    ∃ d', reg.take floor d x = some d' ∧ reg.Holds floor (heard ++ [x]) d' := by
  by_cases taken : max floor ((d.get? (reg.name x)).elim reg.low reg.stamped) ≤ reg.stamp x
  · obtain ⟨above, past⟩ := max_le_iff.mp taken
    have leads : reg.Leads heard x := by
      intro b member named
      obtain ⟨a, newest⟩ : ∃ a, IsNewest reg.name reg.stamp heard (reg.name x) a := exists_isNewest member named
      refine (newest.le member named).trans ?_
      by_cases low : floor ≤ reg.stamp a
      · obtain ⟨c, found⟩ := Option.ne_none_iff_exists'.mp (holds.complete _ a newest low)
        obtain ⟨a', newest', -, made⟩ := holds.held _ c found
        rw [found, Option.elim_some, reg.stamped_make a' c made] at past
        exact (newest'.le newest.mem newest.named).trans past
      · exact (not_le.mp low).le.trans above
    obtain ⟨b, made⟩ := Option.ne_none_iff_exists'.mp (makes above leads).2
    refine ⟨d.insert (reg.name x) b, by rw [Register.take, if_pos taken, made, Option.map_some], fun k c found => ?_,
      fun k a newest high => ?_⟩
    · rw [Dict.get?_insert] at found
      split at found
      · rename_i same
        obtain rfl := Option.some.inj found
        exact ⟨x, isNewest_concat_iff.mpr (.inl ⟨rfl, same, same ▸ leads⟩), above, made⟩
      · rename_i other
        obtain ⟨a, newest, rest⟩ := holds.held k c found
        exact ⟨a, isNewest_concat_iff.mpr (.inr ⟨newest, fun same => absurd same other⟩), rest⟩
    · rw [Dict.get?_insert]
      split
      · exact Option.some_ne_none b
      · rename_i other
        rcases isNewest_concat_iff.mp newest with ⟨-, same, -⟩ | ⟨old, -⟩
        · exact absurd same other
        · exact holds.complete k a old high
  · have older : ∀ k a, IsNewest reg.name reg.stamp heard k a → floor ≤ reg.stamp a → reg.name x = k → reg.stamp x < reg.stamp a := by
      rintro k a newest high rfl
      by_contra newer
      refine taken (max_le (high.trans (not_lt.mp newer)) ?_)
      obtain ⟨c, found⟩ := Option.ne_none_iff_exists'.mp (holds.complete _ a newest high)
      obtain ⟨a', newest', -, made⟩ := holds.held _ c found
      rw [found, Option.elim_some, reg.stamped_make a' c made]
      exact (newest.le newest'.mem newest'.named).trans (not_lt.mp newer)
    refine ⟨d, by rw [Register.take, if_neg taken], fun k c found => ?_, fun k a newest high => ?_⟩
    · obtain ⟨a, newest, high, made⟩ := holds.held k c found
      exact ⟨a, isNewest_concat_iff.mpr (.inr ⟨newest, older k a newest high⟩), high, made⟩
    · rcases isNewest_concat_iff.mp newest with ⟨rfl, rfl, leads⟩ | ⟨old, -⟩
      · intro absent
        rw [absent] at taken
        exact taken (max_le high (makes high leads).1)
      · exact holds.complete k a old high

/-- Of the items heard now, each that leads when its turn comes is one that `P` holds of. -/
def EachLeader (P : α → Prop) (heard items : List α) : Prop :=
  ∀ before x after, items = before ++ x :: after → reg.Leads (heard ++ before) x → P x

theorem Holds.foldlM (holds : reg.Holds floor heard d) (items : List α)
    (makes : reg.EachLeader (fun x => floor ≤ reg.stamp x → reg.low ≤ reg.stamp x ∧ reg.make x ≠ none) heard items) :
    ∃ d', items.foldlM (reg.take floor) d = some d' ∧ reg.Holds floor (heard ++ items) d' := by
  induction items generalizing heard d with
  | nil => exact ⟨d, rfl, by simpa using holds⟩
  | cons x rest ih =>
    obtain ⟨d', taken, next⟩ := holds.take x fun high leads => makes [] x rest rfl (by simpa using leads) high
    obtain ⟨d'', went, last⟩ := ih next fun before y after split leads =>
      makes (x :: before) y after (by rw [split]; rfl) (by simpa using leads)
    refine ⟨d'', ?_, by simpa using last⟩
    rw [List.foldlM_cons, taken]
    exact went

end Register

end Freshest
