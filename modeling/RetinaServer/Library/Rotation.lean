import Mathlib.Data.List.Infix
import Mathlib.Data.List.Basic

/-! Rounds over a list of items, each from where the one before left off. A round asks the items in their order, from
its start and around the end, and may be cut short; one that was cut is followed by one that starts with the first
item it left, a whole one by one from the top. -/
namespace Rotation

variable {α : Type u}

/-! ### Stretches without an item -/

/-- No stretch without `x` is longer than `bound`. -/
def Spaced (bound : Nat) (x : α) (asked : List α) : Prop := ∀ mid, mid <:+: asked → x ∉ mid → mid.length ≤ bound

/-- The last asks without `x` are at most `k`. -/
def Trailing (k : Nat) (x : α) (asked : List α) : Prop := ∀ tail, tail <:+ asked → x ∉ tail → tail.length ≤ k

theorem Trailing.mono (trailing : Trailing k x asked) (le : k ≤ l) : Trailing l x asked :=
  fun tail ends absent => (trailing tail ends absent).trans le

theorem Trailing.append (trailing : Trailing k x asked) (later : List α) : Trailing (k + later.length) x (asked ++ later) := by
  intro tail ends absent
  rcases List.suffix_or_suffix_of_suffix ends (List.suffix_append asked later) with inside | ⟨front, rfl⟩
  · have := inside.length_le
    omega
  · have short := trailing front (List.suffix_append_self_iff.mp ends) fun member => absent (List.mem_append_left _ member)
    rw [List.length_append]
    omega

theorem trailing_append_cons (asked later : List α) : Trailing later.length x (asked ++ x :: later) := by
  intro tail ends absent
  rcases List.suffix_or_suffix_of_suffix ends (List.suffix_append asked (x :: later)) with inside | ⟨front, rfl⟩
  · rcases List.suffix_cons_iff.mp inside with rfl | inside
    · exact absurd List.mem_cons_self absent
    · exact inside.length_le
  · exact absurd (List.mem_append_right _ List.mem_cons_self) absent

theorem Spaced.append (spaced : Spaced bound x asked) (trailing : Trailing k x asked) (within : k + later.length ≤ bound) :
    Spaced bound x (asked ++ later) := by
  intro mid inside absent
  rcases List.infix_append_iff.mp inside with before | after | ⟨front, back, rfl, ends, starts⟩
  · exact spaced mid before absent
  · have := after.length_le
    omega
  · have short := trailing front ends fun member => absent (List.mem_append_left _ member)
    have := starts.length_le
    rw [List.length_append]
    omega

theorem Spaced.append_cons (spaced : Spaced bound x asked) (within : later.length ≤ bound) :
    Spaced bound x (asked ++ x :: later) := by
  intro mid inside absent
  rcases List.infix_append_iff.mp inside with before | after | ⟨front, back, rfl, ends, starts⟩
  · exact spaced mid before absent
  · rcases List.infix_cons_iff.mp after with starts | after
    · rcases List.prefix_cons_iff.mp starts with rfl | ⟨rest, rfl, -⟩
      · exact Nat.zero_le _
      · exact absurd List.mem_cons_self absent
    · exact after.length_le.trans within
  · rcases List.prefix_cons_iff.mp starts with rfl | ⟨rest, rfl, -⟩
    · rw [List.append_nil] at absent ⊢
      exact spaced front ends.isInfix absent
    · exact absurd (List.mem_append_right _ List.mem_cons_self) absent

/-! ### Rounds -/

def order (items : List α) (start : Nat) : List α := items.drop start ++ items.take start

/-- Where the round after one of `count` asks starts. -/
def next (n start count : Nat) : Nat := if count < n then (start + count) % n else 0

/-- What rounds of these many asks come to. -/
def rounds (items : List α) : Nat → List Nat → List α
  | _, [] => []
  | start, count :: rest => (order items start).take count ++ rounds items (next items.length start count) rest

@[simp] theorem length_order (items : List α) (start : Nat) : (order items start).length = items.length := by
  rw [order, List.length_append, List.length_drop, List.length_take]
  omega

/-- What a round that is cut after `count` asks leaves first. -/
theorem getElem?_order (items : List α) (started : start < items.length) (cut : count < items.length) :
    (order items start)[count]? = items[next items.length start count]? := by
  rw [order, next, if_pos cut, List.getElem?_append, List.length_drop]
  by_cases wraps : start + count < items.length
  · rw [if_pos (by omega), Nat.mod_eq_of_lt wraps, List.getElem?_drop]
  · rw [if_neg (by omega), Nat.mod_eq_sub_mod (not_lt.mp wraps), Nat.mod_eq_of_lt (by omega), List.getElem?_take_of_lt (by omega)]
    congr 1
    omega

theorem next_lt (start count : Nat) (inhabited : 0 < n) : next n start count < n := by
  rw [next]
  split
  · exact Nat.mod_lt _ inhabited
  · exact inhabited

/-- How many asks a round from `start` makes ahead of the item at `place`. -/
def ahead (n start place : Nat) : Nat := if start ≤ place then place - start else n - start + place

theorem ahead_lt (started : start < n) (placed : place < n) : ahead n start place < n := by
  rw [ahead]
  split <;> omega

theorem order_split (before after : List α) (x : α) (started : start < (before ++ x :: after).length) :
    ∃ front back, order (before ++ x :: after) start = front ++ x :: back ∧
      front.length = ahead (before ++ x :: after).length start before.length := by
  by_cases passed : start ≤ before.length
  · refine ⟨before.drop start, after ++ before.take start, ?_, ?_⟩
    · rw [order, List.drop_append_of_le_length passed, List.take_append_of_le_length passed]
      simp
    · rw [ahead, if_pos passed, List.length_drop]
  · obtain ⟨k, rfl⟩ : ∃ k, start = before.length + (k + 1) := ⟨start - before.length - 1, by omega⟩
    refine ⟨after.drop k ++ before, after.take k, ?_, ?_⟩
    · rw [order, List.drop_append, List.take_append]
      simp [List.drop_eq_nil_of_le, List.take_of_length_le]
    · rw [ahead, if_neg passed]
      simp only [List.length_append, List.length_drop, List.length_cons] at started ⊢
      omega

/-- What is known of the asks so far, the next round being from `start`. -/
structure Fair (bound n place : Nat) (x : α) (asked : List α) (start : Nat) : Prop where
  spaced : Spaced bound x asked
  owed : ∃ k, Trailing k x asked ∧ k + ahead n start place ≤ bound

theorem ahead_next_of_le (started : start < n) (placed : place < n) (short : count ≤ ahead n start place) :
    count + ahead n (next n start count) place = ahead n start place := by
  have cut : count < n := short.trans_lt (ahead_lt started placed)
  rw [next, if_pos cut]
  unfold ahead at short ⊢
  by_cases wraps : start + count < n
  · rw [Nat.mod_eq_of_lt wraps]
    split_ifs at short ⊢ <;> omega
  · rw [Nat.mod_eq_sub_mod (not_lt.mp wraps), Nat.mod_eq_of_lt (by omega)]
    split_ifs at short ⊢ <;> omega

theorem ahead_next_of_lt (started : start < n) (placed : place < n) (asked : ahead n start place < count) (cut : count < n) :
    count - ahead n start place - 1 + ahead n (next n start count) place = n - 1 := by
  rw [next, if_pos cut]
  unfold ahead at asked ⊢
  by_cases wraps : start + count < n
  · rw [Nat.mod_eq_of_lt wraps]
    split_ifs at asked ⊢ <;> omega
  · rw [Nat.mod_eq_sub_mod (not_lt.mp wraps), Nat.mod_eq_of_lt (by omega)]
    split_ifs at asked ⊢ <;> omega

variable {items : List α}

/-- A round keeps the books: short of `x` it uses up what is ahead of it, past `x` the wait begins again. -/
theorem Fair.round (split : items = before ++ x :: after) (started : start < items.length)
    (fair : Fair (2 * items.length - 2) items.length before.length x asked start) (count : Nat) :
    Fair (2 * items.length - 2) items.length before.length x (asked ++ (order items start).take count)
      (next items.length start count) := by
  obtain ⟨k, trailing, owed⟩ := fair.owed
  have placed : before.length < items.length := by simp [split]
  obtain ⟨front, back, ordered, reach⟩ := order_split before after x (split ▸ started)
  rw [← split] at ordered reach
  have whole : front.length + (back.length + 1) = items.length := by
    rw [← length_order items start, ordered, List.length_append, List.length_cons]
  by_cases short : count ≤ front.length
  · have left := ahead_next_of_le started placed (reach ▸ short)
    have taken : ((order items start).take count).length = count := by
      rw [List.length_take, length_order]
      omega
    refine ⟨fair.spaced.append trailing ?_, k + ((order items start).take count).length, trailing.append _, ?_⟩ <;> omega
  · have passes : (order items start).take count = front ++ x :: back.take (count - front.length - 1) := by
      rw [ordered, List.take_append, List.take_of_length_le (by omega)]
      obtain ⟨m, more⟩ : ∃ m, count - front.length = m + 1 := ⟨count - front.length - 1, by omega⟩
      rw [more, List.take_succ_cons, Nat.add_sub_cancel]
    have rest : (back.take (count - front.length - 1)).length ≤ back.length := List.length_take_le' _ _
    have rest' : (back.take (count - front.length - 1)).length ≤ count - front.length - 1 := List.length_take_le _ _
    rw [passes, ← List.append_assoc]
    refine ⟨(fair.spaced.append trailing (by omega)).append_cons (by omega), _, trailing_append_cons _ _, ?_⟩
    by_cases cut : count < items.length
    · have left := ahead_next_of_lt started placed (by omega) cut
      omega
    · have again := ahead_lt (next_lt start count (by omega)) placed
      omega

theorem Fair.rounds (split : items = before ++ x :: after) (counts : List Nat) (started : start < items.length)
    (fair : Fair (2 * items.length - 2) items.length before.length x asked start) :
    Spaced (2 * items.length - 2) x (asked ++ rounds items start counts) := by
  induction counts generalizing asked start with
  | nil =>
    rw [Rotation.rounds, List.append_nil]
    exact fair.spaced
  | cons count rest ih =>
    rw [Rotation.rounds, ← List.append_assoc]
    exact ih (next_lt start count (by omega)) (fair.round split started count)

/-- Of `n` items none waits for more than `2n - 2` asks of others, however the rounds are cut. -/
theorem spaced_rounds (member : x ∈ items) (started : start < items.length) (counts : List Nat) :
    Spaced (2 * items.length - 2) x (rounds items start counts) := by
  obtain ⟨before, after, split⟩ := List.append_of_mem member
  have placed : before.length < items.length := by simp [split]
  have reach := ahead_lt started placed
  have fair : Fair (2 * items.length - 2) items.length before.length x [] start := by
    refine ⟨fun mid inside _ => ?_, 0, fun tail ends _ => ?_, by omega⟩
    · exact (List.infix_nil.mp inside) ▸ Nat.zero_le _
    · exact (List.suffix_nil.mp ends) ▸ Nat.le_refl _
  exact fair.rounds split counts started

end Rotation
