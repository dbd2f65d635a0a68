import Mathlib.Data.Nat.Digits.Defs
import Mathlib.Data.Nat.Digits.Lemmas
import Mathlib.Data.List.Basic

/-! Numerals: numbers written in a base of up to sixteen without leading zeros, read back; and numbers cut
into a fixed count of places. -/
namespace Numerals

abbrev Text := List Char

def isDecimal (c : Char) : Bool := decide ('0' ≤ c) && decide (c ≤ '9')

def isHex (c : Char) : Bool := isDecimal c || (decide ('a' ≤ c) && decide (c ≤ 'f')) || (decide ('A' ≤ c) && decide (c ≤ 'F'))

def digitValue (c : Char) : ℕ :=
  if isDecimal c then c.toNat - '0'.toNat else if 'a' ≤ c then c.toNat - 'a'.toNat + 10 else c.toNat - 'A'.toNat + 10

def read (b : ℕ) (text : Text) : ℕ := Nat.ofDigits b (text.map digitValue).reverse

/-- The number without leading zeros, its letters in lower case. -/
def write (b n : ℕ) : Text := if n = 0 then ['0'] else ((Nat.digits b n).map Nat.digitChar).reverse

theorem decimal_digitChar : ∀ d < 10, isDecimal (Nat.digitChar d) = true := by decide

theorem hex_digitChar : ∀ d < 16, isHex (Nat.digitChar d) = true := by decide

theorem digitValue_digitChar : ∀ d < 16, digitValue (Nat.digitChar d) = d := by decide

theorem digitChar_ne_zero : ∀ d < 16, d ≠ 0 → Nat.digitChar d ≠ '0' := by decide

theorem write_zero (b : ℕ) : write b 0 = ['0'] := if_pos rfl

theorem mem_write (many : 1 < b) (listed : c ∈ write b n) : ∃ d < b, Nat.digitChar d = c := by
  rw [write] at listed
  split at listed
  · exact ⟨0, by omega, (List.mem_singleton.mp listed).symm⟩
  · obtain ⟨d, member, rfl⟩ := List.mem_map.mp (List.mem_reverse.mp listed)
    exact ⟨d, Nat.digits_lt_base many member, rfl⟩

theorem write_ne_nil (b n : ℕ) : write b n ≠ [] := by
  rw [write]
  split
  · exact List.cons_ne_nil _ _
  · rename_i positive
    simpa using Nat.digits_ne_nil_iff_ne_zero.mpr positive

/-- A numeral reads as its number. -/
theorem read_write (many : 1 < b) (few : b ≤ 16) (n : ℕ) : read b (write b n) = n := by
  by_cases zero : n = 0
  · subst zero
    rw [write_zero]
    simp [read, digitValue, isDecimal]
  · rw [write, if_neg zero, read, List.map_reverse, List.reverse_reverse, List.map_map]
    have same : (Nat.digits b n).map (digitValue ∘ Nat.digitChar) = Nat.digits b n :=
      (List.map_congr_left fun d member =>
        digitValue_digitChar d ((Nat.digits_lt_base many member).trans_le few)).trans (List.map_id _)
    rw [same, Nat.ofDigits_digits]

theorem write_head (many : 1 < b) (few : b ≤ 16) (positive : n ≠ 0) : (write b n).head? ≠ some '0' := by
  have nonempty := Nat.digits_ne_nil_iff_ne_zero (b := b).mpr positive
  rw [write, if_neg positive, List.head?_reverse, List.getLast?_map, List.getLast?_eq_some_getLast nonempty, Option.map_some]
  have last := Nat.getLast_digit_ne_zero b positive
  have small := (Nat.digits_lt_base many (List.getLast_mem nonempty)).trans_le few
  exact fun same => digitChar_ne_zero _ small last (Option.some.inj same)

theorem length_write_le (many : 1 < b) (bound : n < b ^ k) (some_place : 0 < k) : (write b n).length ≤ k := by
  rw [write]
  split
  · exact some_place
  · rw [List.length_reverse, List.length_map]
    exact (Nat.digits_length_le_iff many n).mpr bound

/-- A decimal text without a leading zero is the numeral of what it reads as. -/
theorem write_read (nonempty : text ≠ []) (digits : ∀ c ∈ text, isDecimal c = true)
    (leading : text = ['0'] ∨ text.head? ≠ some '0') : write 10 (read 10 text) = text := by
  have back (c : Char) (digit : isDecimal c = true) : Nat.digitChar (digitValue c) = c := by
    obtain ⟨low, high⟩ := Bool.and_eq_true_iff.mp digit
    have low' : 48 ≤ c.toNat := of_decide_eq_true low
    have high' : c.toNat ≤ 57 := of_decide_eq_true high
    have named : ∀ k, 48 ≤ k → k ≤ 57 → Nat.digitChar (k - '0'.toNat) = Char.ofNat k := by decide
    rw [digitValue, if_pos digit, named _ low' high', Char.ofNat_toNat]
  rcases leading with rfl | leading
  · decide
  · have small : ∀ d ∈ (text.map digitValue).reverse, d < 10 := by
      intro d member
      obtain ⟨c, listed, rfl⟩ := List.mem_map.mp (List.mem_reverse.mp member)
      obtain ⟨low, high⟩ := Bool.and_eq_true_iff.mp (digits c listed)
      have high' : c.toNat ≤ 57 := of_decide_eq_true high
      rw [digitValue, if_pos (digits c listed)]
      have zero : '0'.toNat = 48 := rfl
      omega
    obtain ⟨first, rest, rfl⟩ := List.exists_cons_of_ne_nil nonempty
    have top : (((first :: rest).map digitValue).reverse).getLast (by simp) ≠ 0 := by
      simp only [List.map_cons, List.reverse_cons, List.getLast_append_singleton]
      intro zero
      have same := back first (digits first List.mem_cons_self)
      rw [zero] at same
      exact leading (congrArg some same.symm)
    have digits_read := Nat.digits_ofDigits 10 (by decide) _ small fun _ => top
    have positive : read 10 (first :: rest) ≠ 0 := by
      intro zero
      rw [read] at zero
      rw [zero, Nat.digits_zero] at digits_read
      simp at digits_read
    rw [write, if_neg positive, read, digits_read, List.map_reverse, List.reverse_reverse, List.map_map]
    exact (List.map_congr_left fun c member => back c (digits c member)).trans (List.map_id _)

/-! ### Places -/

/-- The `k` low places of a number in base `b`, the highest first. -/
def places (b : ℕ) : ℕ → ℕ → List ℕ
  | 0, _ => []
  | k + 1, n => places b k (n / b) ++ [n % b]

def ofPlaces (b : ℕ) (ds : List ℕ) : ℕ := ds.foldl (fun n d => n * b + d) 0

theorem length_places (b k n : ℕ) : (places b k n).length = k := by
  induction k generalizing n with
  | zero => rfl
  | succ k ih => rw [places, List.length_append, ih]; rfl

theorem lt_of_mem_places (positive : 0 < b) (listed : d ∈ places b k n) : d < b := by
  induction k generalizing n with
  | zero => cases listed
  | succ k ih =>
    rcases List.mem_append.mp listed with high | low
    · exact ih high
    · rw [List.mem_singleton.mp low]
      exact Nat.mod_lt _ positive

theorem ofPlaces_concat (b : ℕ) (ds : List ℕ) (d : ℕ) : ofPlaces b (ds ++ [d]) = ofPlaces b ds * b + d := by
  rw [ofPlaces, List.foldl_append]
  rfl

theorem ofPlaces_places (bound : n < b ^ k) : ofPlaces b (places b k n) = n := by
  induction k generalizing n with
  | zero =>
    rw [pow_zero, Nat.lt_one_iff] at bound
    rw [bound]
    rfl
  | succ k ih =>
    have high : n / b < b ^ k := Nat.div_lt_of_lt_mul (by rwa [pow_succ'] at bound)
    rw [places, ofPlaces_concat, ih high, Nat.mul_comm, Nat.div_add_mod]

theorem ofPlaces_lt (small : ∀ d ∈ ds, d < b) : ofPlaces b ds < b ^ ds.length := by
  induction ds using List.reverseRecOn with
  | nil => simp [ofPlaces]
  | append_singleton ds d ih =>
    have rest := ih fun x listed => small x (List.mem_append_left _ listed)
    have last := small d (by simp)
    rw [ofPlaces_concat, List.length_append, List.length_singleton, pow_succ]
    calc ofPlaces b ds * b + d < ofPlaces b ds * b + b := by omega
      _ = (ofPlaces b ds + 1) * b := by ring
      _ ≤ b ^ ds.length * b := Nat.mul_le_mul_right b rest

theorem places_ofPlaces (small : ∀ d ∈ ds, d < b) : places b ds.length (ofPlaces b ds) = ds := by
  induction ds using List.reverseRecOn with
  | nil => rfl
  | append_singleton ds d ih =>
    have last := small d (by simp)
    have positive : 0 < b := by omega
    rw [List.length_append, List.length_singleton, places, ofPlaces_concat, Nat.add_comm (_ * b),
      Nat.add_mul_div_right _ _ positive, Nat.div_eq_of_lt last, Nat.zero_add, Nat.add_mul_mod_self_right, Nat.mod_eq_of_lt last,
      ih fun x listed => small x (List.mem_append_left _ listed)]

end Numerals
