import Mathlib.Algebra.Order.Floor.Semifield
import Mathlib.Data.Rat.Floor
import Mathlib.Tactic.Linarith
import Mathlib.Tactic.Positivity

/-! Rounding to the nearest integer with ties to even, rounding to a number of
decimals, and the fixed-point rendering of a rounded number. -/
namespace Rounding

def roundHalfEven (q : ℚ) : ℤ :=
  let below := ⌊q⌋
  let excess := q - below
  if excess < 1 / 2 then below
  else if 1 / 2 < excess then below + 1
  else if below % 2 = 0 then below
  else below + 1

def roundTo (decimals : Nat) (q : ℚ) : ℚ := (roundHalfEven (q * 10 ^ decimals) : ℚ) / 10 ^ decimals

/-- The decimal point goes `decimals` places from the right. -/
def fixedPoint (decimals : Nat) (digits : Nat) : String :=
  toString (digits / 10 ^ decimals) ++ "." ++
    ((toString (10 ^ decimals + digits % 10 ^ decimals)).drop 1).toString

/-- A negative number keeps its sign when it rounds to zero. -/
def formatFixed (decimals : Nat) (q : ℚ) : String :=
  (if q < 0 then "-" else "") ++ fixedPoint decimals (roundHalfEven (q * 10 ^ decimals)).natAbs

theorem abs_roundHalfEven_sub_le (q : ℚ) : |(roundHalfEven q : ℚ) - q| ≤ 1 / 2 := by
  have lower : (⌊q⌋ : ℚ) ≤ q := Int.floor_le q
  have upper : q < ⌊q⌋ + 1 := Int.lt_floor_add_one q
  simp only [roundHalfEven]
  split
  · rw [abs_le]
    constructor <;> linarith
  · split
    · rw [abs_le]
      push_cast
      constructor <;> linarith
    · split
      · rw [abs_le]
        constructor <;> linarith
      · rw [abs_le]
        push_cast
        constructor <;> linarith

/-- Rounding moves a number by at most half a unit of the last decimal kept. -/
theorem abs_roundTo_sub_le (decimals : Nat) (q : ℚ) :
    |roundTo decimals q - q| ≤ 1 / 2 / 10 ^ decimals := by
  have scale : (0 : ℚ) < 10 ^ decimals := by positivity
  have exact_quotient : roundTo decimals q - q =
      ((roundHalfEven (q * 10 ^ decimals) : ℚ) - q * 10 ^ decimals) / 10 ^ decimals := by
    rw [sub_div, mul_div_cancel_right₀ q scale.ne']
    rfl
  rw [exact_quotient, abs_div, abs_of_pos scale]
  exact div_le_div_of_nonneg_right (abs_roundHalfEven_sub_le _) scale.le

/-! ### Boundaries -/

/-- `q` rounds past the boundary between `k` and `k + 1`. A number on a boundary goes to its even side. -/
def Beyond (k : ℤ) (q : ℚ) : Prop := k + 1 / 2 < q ∨ (q = k + 1 / 2 ∧ k % 2 = 1)

instance (k : ℤ) (q : ℚ) : Decidable (Beyond k q) := inferInstanceAs (Decidable (_ ∨ _))

theorem lt_roundHalfEven_iff (k : ℤ) (q : ℚ) : k < roundHalfEven q ↔ Beyond k q := by
  have lower : (⌊q⌋ : ℚ) ≤ q := Int.floor_le q
  have upper : q < ⌊q⌋ + 1 := Int.lt_floor_add_one q
  simp only [roundHalfEven, Beyond]
  rcases lt_trichotomy k ⌊q⌋ with below | rfl | above
  · have next : (k : ℚ) + 1 ≤ ⌊q⌋ := by exact_mod_cast below
    have past : (k : ℚ) + 1 / 2 < q := by linarith
    have rounded : k < ⌊q⌋ + 1 := by omega
    simp only [past, true_or, iff_true]
    split
    · exact below
    · split
      · exact rounded
      · split
        · exact below
        · exact rounded
  · rcases lt_trichotomy (q - ⌊q⌋) (1 / 2) with less | half | more
    · have short : ¬ ((⌊q⌋ : ℚ) + 1 / 2 < q) := by linarith
      have off : ¬ (q = (⌊q⌋ : ℚ) + 1 / 2) := fun same => by linarith
      rw [if_pos less]
      simp only [short, off, false_and, or_self, lt_self_iff_false]
    · have tie : q = (⌊q⌋ : ℚ) + 1 / 2 := by linarith
      have short : ¬ ((⌊q⌋ : ℚ) + 1 / 2 < q) := by linarith
      rw [if_neg (by linarith), if_neg (by linarith)]
      rcases Int.emod_two_eq_zero_or_one ⌊q⌋ with even | odd
      · rw [if_pos even]
        simp only [short, even, zero_ne_one, and_false, or_self, lt_self_iff_false]
      · rw [if_neg (by omega)]
        exact ⟨fun _ => .inr ⟨tie, odd⟩, fun _ => by omega⟩
    · have past : (⌊q⌋ : ℚ) + 1 / 2 < q := by linarith
      rw [if_neg (by linarith), if_pos more]
      exact ⟨fun _ => .inl past, fun _ => by omega⟩
  · have next : (⌊q⌋ : ℚ) + 1 ≤ k := by exact_mod_cast above
    have short : ¬ ((k : ℚ) + 1 / 2 < q) := by linarith
    have off : ¬ (q = (k : ℚ) + 1 / 2) := fun same => by linarith
    simp only [short, off, false_and, or_self, iff_false, not_lt]
    split
    · omega
    · split
      · omega
      · split <;> omega

/-- Two numbers round to one integer when no boundary separates them. -/
theorem roundHalfEven_eq_iff (x y : ℚ) : roundHalfEven x = roundHalfEven y ↔ ∀ k, Beyond k x ↔ Beyond k y := by
  simp only [← lt_roundHalfEven_iff]
  constructor
  · intro same k
    rw [same]
  · exact fun sides => eq_of_forall_lt_iff sides

theorem roundTo_eq_iff (decimals : Nat) (x y : ℚ) : roundTo decimals x = roundTo decimals y ↔
    ∀ k, Beyond k (x * 10 ^ decimals) ↔ Beyond k (y * 10 ^ decimals) := by
  have scale : (10 : ℚ) ^ decimals ≠ 0 := by positivity
  rw [← roundHalfEven_eq_iff, roundTo, roundTo, div_left_inj' scale, Int.cast_inj]

end Rounding
