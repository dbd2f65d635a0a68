import Mathlib.Data.List.Basic
import Mathlib.Data.List.TakeWhile
import Mathlib.Algebra.Order.Group.Defs
import Mathlib.Data.List.Induction
import Mathlib.Order.Lattice

/-! The newest items of a sequence: what a deque of bounded length keeps. -/
namespace Window

variable {α : Type u} {β : Type v}

/-- The last `n` items, or all of fewer. -/
def newest (n : Nat) (items : List α) : List α := items.drop (items.length - n)

theorem length_newest (n : Nat) (items : List α) : (newest n items).length = min n items.length := by
  simp only [newest, List.length_drop]
  omega

theorem newest_of_length_le (items : List α) (short : items.length ≤ n) : newest n items = items := by
  have none_dropped : items.length - n = 0 := by omega
  rw [newest, none_dropped, List.drop_zero]

theorem newest_newest (k n : Nat) (items : List α) : newest k (newest n items) = newest (min k n) items := by
  simp only [newest, List.drop_drop, List.length_drop]
  congr 1
  omega

theorem newest_append_right (first second : List α) (within : n ≤ second.length) :
    newest n (first ++ second) = newest n second := by
  have beyond : (first ++ second).length - n = first.length + (second.length - n) := by
    rw [List.length_append]
    omega
  rw [newest, beyond, ← List.drop_drop, List.drop_left, newest]

/-- Appending to a bounded deque is appending to the whole sequence. -/
theorem newest_push (n : Nat) (items : List α) (x : α) :
    newest n (newest n items ++ [x]) = newest n (items ++ [x]) := by
  have kept : items ++ [x] = items.take (items.length - n) ++ (newest n items ++ [x]) := by
    rw [newest, ← List.append_assoc, List.take_append_drop]
  by_cases full : n ≤ (newest n items ++ [x]).length
  · rw [kept, newest_append_right _ _ full]
  · have short : items.length ≤ n := by
      rw [List.length_append, List.length_singleton, length_newest] at full
      omega
    rw [newest_of_length_le items short]

theorem newest_map (f : α → β) (n : Nat) (items : List α) : newest n (items.map f) = (newest n items).map f := by
  simp [newest]

/-! ### Since the newest item of a kind -/

/-- The items after the last one that satisfies `p`. -/
def since (p : α → Bool) (items : List α) : List α := (items.reverse.takeWhile fun x => !p x).reverse

theorem since_append_singleton (p : α → Bool) (items : List α) (x : α) :
    since p (items ++ [x]) = if p x then [] else since p items ++ [x] := by
  cases chosen : p x <;> simp [since, chosen]

theorem since_suffix (p : α → Bool) (items : List α) : since p items <:+ items := by
  have initial := List.takeWhile_prefix (fun x => !p x) (l := items.reverse)
  simpa [since] using List.reverse_suffix.mpr initial

theorem not_of_mem_since {p : α → Bool} {items : List α} (member : x ∈ since p items) : p x = false := by
  have kept := List.mem_takeWhile_imp (List.mem_reverse.mp member)
  simpa using kept

/-- The newest of a deque, as many as came since, are the newest of those. -/
theorem newest_since (p : α → Bool) (n : Nat) (items : List α) :
    newest (since p items).length (newest n items) = newest n (since p items) := by
  obtain ⟨before, split⟩ := since_suffix p items
  calc newest (since p items).length (newest n items)
      = newest (min (since p items).length n) (before ++ since p items) := by rw [newest_newest, split]
    _ = newest (min (since p items).length n) (since p items) :=
        newest_append_right _ _ (Nat.min_le_left _ _)
    _ = newest n (since p items) := by
        rw [Nat.min_comm, ← newest_newest, newest_of_length_le (since p items) le_rfl]

end Window

/-! Sliding windows: what is let through only while fewer than a limit lie within the window before it
keeps to the limit in every window. -/
namespace SlidingWindow

variable {α : Type u} [AddCommGroup α] [LinearOrder α] [IsOrderedAddMonoid α] {w : α} {limit : ℕ} {ts : List α}

/-- Those of the times that lie within the window before `now`. -/
def recent (w now : α) (ts : List α) : List α := ts.filter fun t => decide (now - t < w)

/-- The times that lie in the window from `start`, which its end is not part of. -/
def within (w start : α) (ts : List α) : List α := ts.filter fun t => decide (start ≤ t ∧ t < start + w)

/-- Each time comes when fewer than the limit are recent. -/
def Limited (w : α) (limit : ℕ) (ts : List α) : Prop :=
  ∀ before t after, ts = before ++ t :: after → (recent w t before).length < limit

omit [IsOrderedAddMonoid α] in
theorem limited_nil (w : α) (limit : ℕ) : Limited w limit [] := by
  intro before t after split
  cases before <;> cases split

omit [IsOrderedAddMonoid α] in
theorem Limited.concat (limited : Limited w limit ts) (room : (recent w t ts).length < limit) : Limited w limit (ts ++ [t]) := by
  intro before t' after split
  rcases List.eq_nil_or_concat after with rfl | ⟨middle, last, rfl⟩
  · obtain ⟨rfl, same⟩ := List.append_inj' split rfl
    obtain rfl := List.singleton_inj.mp same
    exact room
  · rw [List.concat_eq_append, ← List.cons_append, ← List.append_assoc] at split
    obtain ⟨rfl, -⟩ := List.append_inj' split rfl
    exact limited before t' middle rfl

/-- What was recent later was recent earlier. -/
theorem recent_recent (later : now ≤ now') (ts : List α) : recent w now' (recent w now ts) = recent w now' ts := by
  rw [recent, recent, recent, List.filter_filter]
  refine List.filter_congr fun t _ => ?_
  by_cases young : now' - t < w
  · have younger : now - t < w := (sub_le_sub_right later t).trans_lt young
    simp [young, younger]
  · simp [young]

omit [IsOrderedAddMonoid α] in
theorem Limited.of_concat (limited : Limited w limit (ts ++ [t])) : Limited w limit ts ∧ (recent w t ts).length < limit := by
  refine ⟨fun before t' after split => ?_, limited ts t [] rfl⟩
  refine limited before t' (after ++ [t]) ?_
  rw [split, List.append_assoc, List.cons_append]

/-- No window holds more than the limit. -/
theorem Limited.within_le (limited : Limited w limit ts) (start : α) : (within w start ts).length ≤ limit := by
  induction ts using List.reverseRecOn with
  | nil => exact Nat.zero_le _
  | append_singleton ts t ih =>
    obtain ⟨earlier, room⟩ := limited.of_concat
    by_cases inside : start ≤ t ∧ t < start + w
    · have alone : [t].filter (fun t => decide (start ≤ t ∧ t < start + w)) = [t] := List.filter_cons_of_pos (decide_eq_true inside)
      have counted : (within w start ts).length ≤ (recent w t ts).length := by
        refine (List.monotone_filter_right ts fun t' member => ?_).length_le
        have inside' := of_decide_eq_true member
        refine decide_eq_true (sub_lt_iff_lt_add'.mpr ?_)
        exact inside.2.trans_le (add_le_add_left inside'.1 w)
      rw [within, List.filter_append, List.length_append, alone]
      exact Nat.succ_le_of_lt (counted.trans_lt room)
    · have none : [t].filter (fun t => decide (start ≤ t ∧ t < start + w)) = [] :=
        List.filter_cons_of_neg (fun member => inside (of_decide_eq_true member))
      rw [within, List.filter_append, none, List.append_nil]
      exact ih earlier

end SlidingWindow
