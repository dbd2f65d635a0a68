import Mathlib.Analysis.SpecialFunctions.Trigonometric.Inverse

/-! Angles between two points of a sphere, and the meridians that a disc around a point meets. -/
namespace Sphere
open Real

noncomputable def radians (x : ℝ) : ℝ := x * (π / 180.0)

noncomputable def degrees (x : ℝ) : ℝ := x * (180.0 / π)

theorem radians_eq (x : ℝ) : radians x = x * (π / 180) := by
  rw [radians]
  norm_num

theorem degrees_eq (x : ℝ) : degrees x = x * (180 / π) := by
  rw [degrees]
  norm_num

theorem degrees_radians (x : ℝ) : degrees (radians x) = x := by
  rw [degrees_eq, radians_eq, mul_assoc, div_mul_div_cancel₀ (by norm_num), div_self pi_ne_zero, mul_one]

theorem radians_degrees (x : ℝ) : radians (degrees x) = x := by
  rw [degrees_eq, radians_eq, mul_assoc, div_mul_div_cancel₀ pi_ne_zero, div_self (by norm_num), mul_one]

theorem radians_sub (x y : ℝ) : radians (x - y) = radians x - radians y := sub_mul _ _ _

theorem radians_add (x y : ℝ) : radians (x + y) = radians x + radians y := add_mul _ _ _

theorem degrees_add (x y : ℝ) : degrees (x + y) = degrees x + degrees y := add_mul _ _ _

theorem degrees_nonneg (nonneg : 0 ≤ x) : 0 ≤ degrees x := mul_nonneg nonneg (by positivity)

theorem radians_le : radians x ≤ radians y ↔ x ≤ y := mul_le_mul_iff_of_pos_right (by positivity)

theorem radians_lt : radians x < radians y ↔ x < y := mul_lt_mul_iff_of_pos_right (by positivity)

theorem degrees_le : degrees x ≤ degrees y ↔ x ≤ y := mul_le_mul_iff_of_pos_right (by positivity)

theorem abs_radians (x : ℝ) : |radians x| = radians |x| := by
  rw [radians, radians, abs_mul, abs_of_pos (by positivity : (0 : ℝ) < π / 180.0)]

theorem radians_quarter : radians 90 = π / 2 := by
  rw [radians_eq]
  ring

theorem radians_half : radians 180 = π := by
  rw [radians_eq]
  ring

theorem radians_turns (k : ℤ) : radians (360 * k) = k * (2 * π) := by
  rw [radians_eq]
  ring

/-- The angle between two points, by the spherical law of cosines. -/
noncomputable def angle (lat lon lat' lon' : ℝ) : ℝ :=
  arccos (sin lat * sin lat' + cos lat * cos lat' * cos (lon' - lon))

/-- A latitude is the arcsine of its sine. -/
def IsLat (lat : ℝ) : Prop := arcsin (sin lat) = lat

theorem isLat_iff (lat : ℝ) : IsLat lat ↔ |lat| ≤ π / 2 := by
  rw [abs_le]
  constructor
  · intro valid
    exact valid ▸ ⟨neg_pi_div_two_le_arcsin _, arcsin_le_pi_div_two _⟩
  · intro within
    exact arcsin_sin within.1 within.2

theorem IsLat.quarter (valid : IsLat lat) : |lat| ≤ π / 2 := (isLat_iff lat).mp valid

theorem IsLat.cos_nonneg (valid : IsLat lat) : 0 ≤ cos lat :=
  cos_nonneg_of_neg_pi_div_two_le_of_le (abs_le.mp valid.quarter).1 (abs_le.mp valid.quarter).2

theorem isLat_arcsin (x : ℝ) : IsLat (arcsin x) :=
  (isLat_iff _).mpr (abs_le.mpr ⟨neg_pi_div_two_le_arcsin _, arcsin_le_pi_div_two _⟩)

theorem isLat_radians_iff (lat : ℝ) : IsLat (radians lat) ↔ -90 ≤ lat ∧ lat ≤ 90 := by
  rw [isLat_iff, abs_radians, ← radians_quarter, radians_le, abs_le]

/-- Two unit rows, one of them turned. -/
theorem abs_law_le_one (lat lon lat' lon' : ℝ) :
    |sin lat * sin lat' + cos lat * cos lat' * cos (lon' - lon)| ≤ 1 := by
  have unit := sin_sq_add_cos_sq lat
  have unit' := sin_sq_add_cos_sq lat'
  have turn : cos (lon' - lon) ^ 2 ≤ 1 := cos_sq_le_one _
  have turned : (cos lat' * cos (lon' - lon)) ^ 2 ≤ cos lat' ^ 2 := by
    rw [mul_pow]
    exact mul_le_of_le_one_right (sq_nonneg _) turn
  rw [← sq_le_one_iff_abs_le_one]
  calc (sin lat * sin lat' + cos lat * cos lat' * cos (lon' - lon)) ^ 2
      ≤ (sin lat ^ 2 + cos lat ^ 2) * (sin lat' ^ 2 + (cos lat' * cos (lon' - lon)) ^ 2) := by
        nlinarith only [sq_nonneg (sin lat * (cos lat' * cos (lon' - lon)) - cos lat * sin lat')]
    _ ≤ 1 := by
        rw [unit, one_mul]
        linarith

theorem cos_angle (lat lon lat' lon' : ℝ) :
    cos (angle lat lon lat' lon') = sin lat * sin lat' + cos lat * cos lat' * cos (lon' - lon) :=
  cos_arccos (abs_le.mp (abs_law_le_one lat lon lat' lon')).1 (abs_le.mp (abs_law_le_one lat lon lat' lon')).2

theorem angle_nonneg (lat lon lat' lon' : ℝ) : 0 ≤ angle lat lon lat' lon' := arccos_nonneg _

theorem angle_le_pi (lat lon lat' lon' : ℝ) : angle lat lon lat' lon' ≤ π := arccos_le_pi _

theorem angle_le_iff (nonneg : 0 ≤ r) (small : r ≤ π) :
    angle lat lon lat' lon' ≤ r ↔ cos r ≤ sin lat * sin lat' + cos lat * cos lat' * cos (lon' - lon) := by
  rw [← cos_angle]
  exact (strictAntiOn_cos.le_iff_ge ⟨nonneg, small⟩ ⟨angle_nonneg _ _ _ _, angle_le_pi _ _ _ _⟩).symm

/-- Two points are no nearer than their latitudes. -/
theorem abs_sub_le_angle (valid : IsLat lat) (valid' : IsLat lat') : |lat' - lat| ≤ angle lat lon lat' lon' := by
  have apart : |lat' - lat| ≤ π := by
    have north := abs_le.mp valid.quarter
    have north' := abs_le.mp valid'.quarter
    rw [abs_le]
    constructor <;> linarith
  refine (strictAntiOn_cos.le_iff_ge ⟨angle_nonneg _ _ _ _, angle_le_pi _ _ _ _⟩ ⟨abs_nonneg _, apart⟩).mp ?_
  rw [cos_angle, cos_abs, cos_sub lat' lat]
  have cosines : 0 ≤ cos lat * cos lat' := mul_nonneg valid.cos_nonneg valid'.cos_nonneg
  have turned := mul_le_mul_of_nonneg_left (cos_le_one (lon' - lon)) cosines
  linarith

/-! ### The disc of an angle around a point -/

/-- A disc that stays short of the poles lies on one side, between the two meridians that touch it. -/
theorem disc_within (valid : IsLat lat) (valid' : IsLat lat') (nonneg : 0 ≤ r) (short : |lat| + r < π / 2)
    (inside : angle lat lon lat' lon' ≤ r) : 0 < cos (lon' - lon) ∧ cos lat * |sin (lon' - lon)| ≤ sin r := by
  have small : r ≤ π := by linarith [abs_nonneg lat, pi_pos]
  rw [angle_le_iff nonneg small] at inside
  have acute : 0 ≤ cos r := cos_nonneg_of_neg_pi_div_two_le_of_le (by linarith [pi_pos]) (by linarith [abs_nonneg lat])
  constructor
  · by_contra behind
    have turned : cos lat * cos lat' * cos (lon' - lon) ≤ 0 :=
      mul_nonpos_of_nonneg_of_nonpos (mul_nonneg valid.cos_nonneg valid'.cos_nonneg) (not_lt.mp behind)
    have sines : sin lat * sin lat' ≤ |sin lat| := by
      calc sin lat * sin lat' ≤ |sin lat * sin lat'| := le_abs_self _
        _ = |sin lat| * |sin lat'| := abs_mul _ _
        _ ≤ |sin lat| := mul_le_of_le_one_right (abs_nonneg _) (abs_sin_le_one _)
    have beyond : |sin lat| < cos r := by
      rw [abs_sin_eq_sin_abs_of_abs_le_pi (valid.quarter.trans (by linarith [pi_pos])), ← sin_pi_div_two_sub]
      exact sin_lt_sin_of_lt_of_le_pi_div_two (by linarith [abs_nonneg lat, pi_pos]) (by linarith) (by linarith)
    linarith
  · -- Cauchy's inequality for the row (sin lat, cos lat * cos δ) and the unit row of the other latitude.
    have cauchy : (sin lat * sin lat' + cos lat * cos lat' * cos (lon' - lon)) ^ 2 ≤
        sin lat ^ 2 + (cos lat * cos (lon' - lon)) ^ 2 := by
      have unit := sin_sq_add_cos_sq lat'
      nlinarith [sq_nonneg (sin lat * cos lat' - cos lat * cos (lon' - lon) * sin lat')]
    have squares : cos r ^ 2 ≤ sin lat ^ 2 + (cos lat * cos (lon' - lon)) ^ 2 := (pow_le_pow_left₀ acute inside 2).trans cauchy
    have reach : (cos lat * sin (lon' - lon)) ^ 2 ≤ sin r ^ 2 := by
      have unit := sin_sq_add_cos_sq lat
      have unit_r := sin_sq_add_cos_sq r
      have unit_turn := sin_sq_add_cos_sq (lon' - lon)
      nlinarith
    have sine_nonneg : 0 ≤ sin r := sin_nonneg_of_nonneg_of_le_pi nonneg small
    have bounded := abs_le_of_sq_le_sq reach sine_nonneg
    rwa [abs_mul, abs_of_nonneg valid.cos_nonneg] at bounded

/-- Every meridian between the two is met by the disc. -/
theorem exists_within (lat lon : ℝ) (valid : IsLat lat) (nonneg : 0 ≤ r) (acute : r < π / 2) (front : 0 ≤ cos turn)
    (reach : cos lat * |sin turn| ≤ sin r) : ∃ lat', IsLat lat' ∧ angle lat lon lat' (lon + turn) ≤ r := by
  have squares : (cos lat * sin turn) ^ 2 ≤ sin r ^ 2 := by
    rw [← sq_abs, abs_mul, abs_of_nonneg valid.cos_nonneg]
    exact pow_le_pow_left₀ (mul_nonneg valid.cos_nonneg (abs_nonneg _)) reach 2
  have cos_pos : 0 < cos r := cos_pos_of_mem_Ioo ⟨by linarith [pi_pos], acute⟩
  set m := √(sin lat ^ 2 + (cos lat * cos turn) ^ 2) with m_eq
  have m_sq : m ^ 2 = sin lat ^ 2 + (cos lat * cos turn) ^ 2 := sq_sqrt (by positivity)
  have cos_le : cos r ≤ m := by
    refine le_sqrt_of_sq_le ?_
    have unit := sin_sq_add_cos_sq lat
    have unit_r := sin_sq_add_cos_sq r
    have unit_turn := sin_sq_add_cos_sq turn
    nlinarith
  have m_pos : 0 < m := cos_pos.trans_le cos_le
  have sine : |sin lat / m| ≤ 1 := by
    rw [abs_div, abs_of_pos m_pos, div_le_one m_pos]
    refine abs_le_of_sq_le_sq ?_ m_pos.le
    rw [m_sq]
    exact le_add_of_nonneg_right (sq_nonneg _)
  refine ⟨arcsin (sin lat / m), isLat_arcsin _, ?_⟩
  rw [angle_le_iff nonneg (by linarith [pi_pos]), sin_arcsin (abs_le.mp sine).1 (abs_le.mp sine).2, cos_arcsin]
  have cosine : √(1 - (sin lat / m) ^ 2) = cos lat * cos turn / m := by
    rw [sqrt_eq_iff_eq_sq (by linarith [(sq_le_one_iff_abs_le_one _).mpr sine])
      (div_nonneg (mul_nonneg valid.cos_nonneg front) m_pos.le), div_pow, div_pow, eq_div_iff (pow_pos m_pos 2).ne', sub_mul,
      div_mul_cancel₀ _ (pow_pos m_pos 2).ne', m_sq]
    ring
  rw [cosine, add_sub_cancel_left]
  calc cos r ≤ m := cos_le
    _ = m ^ 2 / m := by field_simp
    _ = sin lat * (sin lat / m) + cos lat * (cos lat * cos turn / m) * cos turn := by rw [m_sq]; ring

/-- A turn to the front is within the angle whose sine bounds its own. -/
theorem abs_le_arcsin (half : |turn| ≤ π / 2) (bound : |sin turn| ≤ y) : |turn| ≤ arcsin y := by
  rw [abs_sin_eq_sin_abs_of_abs_le_pi (half.trans (by linarith [pi_pos]))] at bound
  calc |turn| = arcsin (sin |turn|) := (arcsin_sin (by linarith [abs_nonneg turn, pi_pos]) half).symm
    _ ≤ arcsin y := monotone_arcsin bound

end Sphere
