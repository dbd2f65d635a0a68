import RetinaServer.Library.Sphere
import Mathlib.Analysis.InnerProductSpace.PiL2
import Mathlib.Geometry.Euclidean.Angle.Unoriented.TriangleInequality
import Mathlib.Analysis.Calculus.Deriv.MeanValue
import Mathlib.Analysis.SpecialFunctions.Trigonometric.ArctanDeriv
import Mathlib.Analysis.SpecialFunctions.Trigonometric.InverseDeriv

/-! The great circle through two points: distances along it add up, and a map of one scale of
longitude that is short enough for the whole of it does not make it longer. -/
namespace Sphere
open Real

/-! ### The angle is a distance -/

noncomputable def point (lat lon : ℝ) : EuclideanSpace ℝ (Fin 3) :=
  (EuclideanSpace.equiv (Fin 3) ℝ).symm ![cos lat * cos lon, cos lat * sin lon, sin lat]

theorem inner_point (lat lon lat' lon' : ℝ) :
    inner ℝ (point lat lon) (point lat' lon') = sin lat * sin lat' + cos lat * cos lat' * cos (lon' - lon) := by
  rw [cos_sub lon' lon]
  simp only [point, PiLp.inner_apply, Fin.sum_univ_three]
  simp
  ring

theorem norm_point (lat lon : ℝ) : ‖point lat lon‖ = 1 := by
  have square : ‖point lat lon‖ ^ 2 = 1 := by
    rw [← real_inner_self_eq_norm_sq, inner_point, sub_self, cos_zero, mul_one, ← sq, ← sq, sin_sq_add_cos_sq]
  exact (pow_eq_one_iff_of_nonneg (norm_nonneg _) two_ne_zero).mp square

theorem angle_eq (lat lon lat' lon' : ℝ) :
    angle lat lon lat' lon' = InnerProductGeometry.angle (point lat lon) (point lat' lon') := by
  rw [InnerProductGeometry.angle, norm_point, norm_point, inner_point, ← cos_angle, mul_one, div_one,
    arccos_cos (angle_nonneg _ _ _ _) (angle_le_pi _ _ _ _)]

theorem angle_comm (lat lon lat' lon' : ℝ) : angle lat lon lat' lon' = angle lat' lon' lat lon := by
  rw [angle_eq, angle_eq, InnerProductGeometry.angle_comm]

theorem angle_triangle (lat lon lat' lon' lat'' lon'' : ℝ) :
    angle lat lon lat'' lon'' ≤ angle lat lon lat' lon' + angle lat' lon' lat'' lon'' := by
  rw [angle_eq, angle_eq, angle_eq]
  exact InnerProductGeometry.angle_le_angle_add_angle _ _ _

/-- A whole turn leads back. -/
theorem angle_turns (lat lon lat' lon' : ℝ) (k : ℤ) : angle lat lon lat' (lon' + k * (2 * π)) = angle lat lon lat' lon' := by
  refine injOn_cos ⟨angle_nonneg _ _ _ _, angle_le_pi _ _ _ _⟩ ⟨angle_nonneg _ _ _ _, angle_le_pi _ _ _ _⟩ ?_
  rw [cos_angle, cos_angle, add_sub_right_comm, cos_add_int_mul_two_pi]

/-- Points on one meridian are no farther than their latitudes. -/
theorem angle_meridian_le (lat lat' lon : ℝ) : angle lat lon lat' lon ≤ |lat' - lat| := by
  by_cases small : |lat' - lat| ≤ π
  · rw [angle_le_iff (abs_nonneg _) small, cos_abs, cos_sub lat' lat, sub_self, cos_zero, mul_one, add_comm, mul_comm (cos lat'),
      mul_comm (sin lat')]
  · exact (angle_le_pi _ _ _ _).trans (not_le.mp small).le

/-- Points on opposite meridians are no farther than their ways to the pole. -/
theorem angle_over_pole_le (lat lon lat' lon' : ℝ) (opposite : cos (lon' - lon) = -1) :
    angle lat lon lat' lon' ≤ |π - (lat + lat')| := by
  by_cases small : |π - (lat + lat')| ≤ π
  · rw [angle_le_iff (abs_nonneg _) small, cos_abs, cos_pi_sub, cos_add, opposite]
    linarith
  · exact (angle_le_pi _ _ _ _).trans (not_le.mp small).le

/-! ### A course along a great circle

A course leaves a point at `lat` in the direction with the parts `north` and `east`. After the
angle `t` it is at the place with these three coordinates; `forward` is along the meridian it left. -/

noncomputable def height (lat north t : ℝ) : ℝ := cos t * sin lat + north * sin t * cos lat

noncomputable def forward (lat north t : ℝ) : ℝ := cos t * cos lat - north * sin t * sin lat

noncomputable def aside (east t : ℝ) : ℝ := east * sin t

noncomputable def courseLat (lat north t : ℝ) : ℝ := arcsin (height lat north t)

noncomputable def courseTurn (lat north east t : ℝ) : ℝ := arctan (aside east t / forward lat north t)

theorem coordinates_unit (lat t : ℝ) (unit : north ^ 2 + east ^ 2 = 1) :
    height lat north t ^ 2 + (forward lat north t ^ 2 + aside east t ^ 2) = 1 := by
  have at_lat := sin_sq_add_cos_sq lat
  have at_t := sin_sq_add_cos_sq t
  calc height lat north t ^ 2 + (forward lat north t ^ 2 + aside east t ^ 2)
      = (cos t ^ 2 + north ^ 2 * sin t ^ 2) * (sin lat ^ 2 + cos lat ^ 2) + east ^ 2 * sin t ^ 2 := by
        rw [height, forward, aside]
        ring
    _ = cos t ^ 2 + (north ^ 2 + east ^ 2) * sin t ^ 2 := by
        rw [at_lat]
        ring
    _ = 1 := by rw [unit, one_mul, add_comm, at_t]

variable {lat lon lat' lon' north east t : ℝ}

theorem abs_north_le_one (unit : north ^ 2 + east ^ 2 = 1) : |north| ≤ 1 := by
  rw [← sq_le_one_iff_abs_le_one, ← unit]
  exact le_add_of_nonneg_right (sq_nonneg _)

section
variable (valid : IsLat lat) (unit : north ^ 2 + east ^ 2 = 1) (nonneg : 0 ≤ t) (short : |lat| + t < π / 2)

include valid unit nonneg short

/-- A course that stays short of the poles is no higher than one straight for the nearer. -/
theorem abs_height_le : |height lat north t| ≤ sin (|lat| + t) := by
  have ahead : 0 ≤ cos t := cos_nonneg_of_neg_pi_div_two_le_of_le (by linarith [pi_pos]) (by linarith [abs_nonneg lat])
  have turned : 0 ≤ sin t := sin_nonneg_of_nonneg_of_le_pi nonneg (by linarith [abs_nonneg lat, pi_pos])
  rw [sin_add, cos_abs, ← abs_sin_eq_sin_abs_of_abs_le_pi (valid.quarter.trans (by linarith [pi_pos]))]
  calc |height lat north t| ≤ |cos t * sin lat| + |north * sin t * cos lat| := abs_add_le _ _
    _ = |sin lat| * cos t + cos lat * (|north| * sin t) := by
      rw [abs_mul, abs_mul, abs_mul, abs_of_nonneg ahead, abs_of_nonneg turned, abs_of_nonneg valid.cos_nonneg]
      ring
    _ ≤ |sin lat| * cos t + cos lat * sin t := by
      have part := mul_le_of_le_one_left turned (abs_north_le_one unit)
      exact add_le_add_right (mul_le_mul_of_nonneg_left part valid.cos_nonneg) _

theorem forward_pos : 0 < forward lat north t := by
  have turned : 0 ≤ sin t := sin_nonneg_of_nonneg_of_le_pi nonneg (by linarith [abs_nonneg lat, pi_pos])
  have least : cos (|lat| + t) ≤ forward lat north t := by
    rw [cos_add, cos_abs, ← abs_sin_eq_sin_abs_of_abs_le_pi (valid.quarter.trans (by linarith [pi_pos])), forward]
    have part : north * sin t * sin lat ≤ |sin lat| * sin t := by
      calc north * sin t * sin lat ≤ |north * sin t * sin lat| := le_abs_self _
        _ = |north| * (|sin lat| * sin t) := by
          rw [abs_mul, abs_mul, abs_of_nonneg turned]
          ring
        _ ≤ |sin lat| * sin t := mul_le_of_le_one_left (mul_nonneg (abs_nonneg _) turned) (abs_north_le_one unit)
    linarith [mul_comm (cos t) (cos lat)]
  exact (cos_pos_of_mem_Ioo ⟨by linarith [abs_nonneg lat, pi_pos], short⟩).trans_le least

/-- Nowhere on the course is a parallel shorter than at its end straight ahead. -/
theorem cos_le_parallel : cos (|lat| + t) ^ 2 ≤ 1 - height lat north t ^ 2 := by
  have high := abs_height_le valid unit nonneg short
  have squares := sq_le_sq' (by linarith [neg_abs_le (height lat north t)]) ((le_abs_self _).trans high)
  linarith [sin_sq_add_cos_sq (|lat| + t)]

theorem hasDerivAt_courseLat : HasDerivAt (courseLat lat north)
    ((north * cos t * cos lat - sin t * sin lat) / √(1 - height lat north t ^ 2)) t := by
  have away : 0 < 1 - height lat north t ^ 2 :=
    (pow_pos (cos_pos_of_mem_Ioo ⟨by linarith [abs_nonneg lat, pi_pos], short⟩) 2).trans_le
      (cos_le_parallel valid unit nonneg short)
  have low : height lat north t ≠ -1 := by
    intro pole
    norm_num [pole] at away
  have high : height lat north t ≠ 1 := by
    intro pole
    norm_num [pole] at away
  have rise : HasDerivAt (height lat north) (-sin t * sin lat + north * cos t * cos lat) t :=
    ((hasDerivAt_cos t).mul_const _).add (((hasDerivAt_sin t).const_mul north).mul_const _)
  refine ((hasDerivAt_arcsin low high).comp t rise).congr_deriv ?_
  ring

theorem hasDerivAt_courseTurn : HasDerivAt (courseTurn lat north east)
    (east * cos lat / (1 - height lat north t ^ 2)) t := by
  have front := forward_pos valid unit nonneg short
  have advance : HasDerivAt (forward lat north) (-sin t * cos lat - north * cos t * sin lat) t :=
    ((hasDerivAt_cos t).mul_const _).sub (((hasDerivAt_sin t).const_mul north).mul_const _)
  have drift : HasDerivAt (aside east) (east * cos t) t := (hasDerivAt_sin t).const_mul east
  refine ((drift.div advance front.ne').arctan).congr_deriv ?_
  have parallel : 1 - height lat north t ^ 2 = forward lat north t ^ 2 + aside east t ^ 2 := by
    linarith [coordinates_unit lat t unit]
  have square : 0 < forward lat north t ^ 2 + aside east t ^ 2 := add_pos_of_pos_of_nonneg (pow_pos front 2) (sq_nonneg _)
  have wedge : east * cos t * forward lat north t - aside east t * (-sin t * cos lat - north * cos t * sin lat) =
      east * cos lat := by
    calc east * cos t * forward lat north t - aside east t * (-sin t * cos lat - north * cos t * sin lat)
        = east * cos lat * (sin t ^ 2 + cos t ^ 2) := by
          rw [forward, aside]
          ring
      _ = east * cos lat := by rw [sin_sq_add_cos_sq, mul_one]
  rw [Pi.div_apply, wedge, parallel]
  field_simp

end

/-- Some course leads from one point to another. -/
theorem exists_course (inner : 0 < cos lat) (apart : 0 < sin (angle lat lon lat' lon')) : ∃ north east : ℝ,
    north ^ 2 + east ^ 2 = 1 ∧
      height lat north (angle lat lon lat' lon') = sin lat' ∧
      forward lat north (angle lat lon lat' lon') = cos lat' * cos (lon' - lon) ∧
      aside east (angle lat lon lat' lon') = cos lat' * sin (lon' - lon) := by
  have law := cos_angle lat lon lat' lon'
  generalize angle lat lon lat' lon' = d at apart law ⊢
  have at_lat := sin_sq_add_cos_sq lat
  have at_d := sin_sq_add_cos_sq d
  refine ⟨(sin lat' - cos d * sin lat) / (cos lat * sin d), cos lat' * sin (lon' - lon) / sin d, ?_, ?_, ?_, ?_⟩
  · have numerators : (sin lat' - cos d * sin lat) ^ 2 + (cos lat' * sin (lon' - lon) * cos lat) ^ 2 =
        (cos lat * sin d) ^ 2 := by
      have at_lat' := sin_sq_add_cos_sq lat'
      have at_turn := sin_sq_add_cos_sq (lon' - lon)
      have part : (cos lat * cos lat' * cos (lon' - lon)) ^ 2 = (cos d - sin lat * sin lat') ^ 2 := by rw [law]; ring
      calc (sin lat' - cos d * sin lat) ^ 2 + (cos lat' * sin (lon' - lon) * cos lat) ^ 2
          = (sin lat' - cos d * sin lat) ^ 2 + (cos lat * cos lat') ^ 2 * (sin (lon' - lon) ^ 2 + cos (lon' - lon) ^ 2) -
              (cos lat * cos lat' * cos (lon' - lon)) ^ 2 := by ring
        _ = (1 - sin lat ^ 2) * sin lat' ^ 2 + cos lat ^ 2 * cos lat' ^ 2 - cos d ^ 2 * (1 - sin lat ^ 2) := by
            rw [part, at_turn]
            ring
        _ = cos lat ^ 2 * (sin lat' ^ 2 + cos lat' ^ 2) - cos d ^ 2 * cos lat ^ 2 := by
            rw [← cos_sq']
            ring
        _ = (cos lat * sin d) ^ 2 := by
            rw [at_lat', ← at_d]
            ring
    rw [← mul_div_mul_right (cos lat' * sin (lon' - lon)) _ inner.ne', mul_comm (sin d), div_pow, div_pow, ← add_div, numerators,
      div_self (pow_ne_zero 2 (mul_pos inner apart).ne')]
  · rw [height]
    field_simp
    ring
  · rw [forward]
    field_simp
    linarith only [law, congrArg (· * cos d) at_lat]
  · rw [aside, div_mul_cancel₀ _ apart.ne']

/-- A course is run at the speed of one. -/
theorem unit_speed (lat t : ℝ) (unit : north ^ 2 + east ^ 2 = 1) :
    (north * cos t * cos lat - sin t * sin lat) ^ 2 + (east * cos lat) ^ 2 = 1 - height lat north t ^ 2 := by
  have at_lat := sin_sq_add_cos_sq lat
  have at_t := sin_sq_add_cos_sq t
  have total : height lat north t ^ 2 + (north * cos t * cos lat - sin t * sin lat) ^ 2 + (east * cos lat) ^ 2 = 1 := by
    calc height lat north t ^ 2 + (north * cos t * cos lat - sin t * sin lat) ^ 2 + (east * cos lat) ^ 2
        = (sin lat ^ 2 + north ^ 2 * cos lat ^ 2) * (sin t ^ 2 + cos t ^ 2) + east ^ 2 * cos lat ^ 2 := by
          rw [height]
          ring
      _ = sin lat ^ 2 + (north ^ 2 + east ^ 2) * cos lat ^ 2 := by
          rw [at_t]
          ring
      _ = 1 := by rw [unit, one_mul, at_lat]
  linarith

variable {up across : ℝ}

/-- Cauchy's inequality for a direction and a part of a unit row. -/
theorem along_le_one {x y : ℝ} (direction : up ^ 2 + across ^ 2 = 1) (row : x ^ 2 + y ^ 2 ≤ 1) : up * x + across * y ≤ 1 := by
  nlinarith only [direction, row, sq_nonneg (up - x), sq_nonneg (across - y)]

/-- On the flat map whose scale of longitude is no longer than that of any parallel the course meets,
no course is longer than on the sphere. -/
theorem course_gain_le (valid : IsLat lat) (unit : north ^ 2 + east ^ 2 = 1) (nonneg : 0 ≤ d) (short : |lat| + d < π / 2)
    (scale : 0 ≤ c) (least : c ≤ cos (|lat| + d)) (direction : up ^ 2 + across ^ 2 = 1) :
    up * (courseLat lat north d - lat) + across * (c * courseTurn lat north east d) ≤ d := by
  let gain (t : ℝ) := up * courseLat lat north t + across * (c * courseTurn lat north east t)
  have within {t : ℝ} (inside : t ∈ Set.Icc 0 d) : |lat| + t < π / 2 := by linarith [inside.2]
  have derivative {t : ℝ} (inside : t ∈ Set.Icc 0 d) : HasDerivAt gain
      (up * ((north * cos t * cos lat - sin t * sin lat) / √(1 - height lat north t ^ 2)) +
        across * (c * (east * cos lat / (1 - height lat north t ^ 2)))) t :=
    ((hasDerivAt_courseLat valid unit inside.1 (within inside)).const_mul up).add
      (((hasDerivAt_courseTurn valid unit inside.1 (within inside)).const_mul c).const_mul across)
  have slow {t : ℝ} (inside : t ∈ Set.Icc 0 d) :
      up * ((north * cos t * cos lat - sin t * sin lat) / √(1 - height lat north t ^ 2)) +
        across * (c * (east * cos lat / (1 - height lat north t ^ 2))) ≤ 1 := by
    have shortest : c ^ 2 ≤ 1 - height lat north t ^ 2 := by
      have falls : cos (|lat| + d) ≤ cos (|lat| + t) :=
        cos_le_cos_of_nonneg_of_le_pi (by linarith [abs_nonneg lat, inside.1]) (by linarith [pi_pos]) (by linarith [inside.2])
      exact (pow_le_pow_left₀ scale (least.trans falls) 2).trans (cos_le_parallel valid unit inside.1 (within inside))
    have away : 0 < 1 - height lat north t ^ 2 :=
      (pow_pos (cos_pos_of_mem_Ioo ⟨by linarith [abs_nonneg lat, inside.1, pi_pos], within inside⟩) 2).trans_le
        (cos_le_parallel valid unit inside.1 (within inside))
    refine along_le_one direction ?_
    rw [div_pow, sq_sqrt away.le, mul_pow, div_pow]
    calc (north * cos t * cos lat - sin t * sin lat) ^ 2 / (1 - height lat north t ^ 2) +
          c ^ 2 * ((east * cos lat) ^ 2 / (1 - height lat north t ^ 2) ^ 2)
        ≤ (north * cos t * cos lat - sin t * sin lat) ^ 2 / (1 - height lat north t ^ 2) +
          (1 - height lat north t ^ 2) * ((east * cos lat) ^ 2 / (1 - height lat north t ^ 2) ^ 2) :=
          add_le_add_right (mul_le_mul_of_nonneg_right shortest (by positivity)) _
      _ = ((north * cos t * cos lat - sin t * sin lat) ^ 2 + (east * cos lat) ^ 2) / (1 - height lat north t ^ 2) := by
          field_simp
      _ = 1 := by rw [unit_speed lat t unit, div_self away.ne']
  have started : gain 0 = up * lat := by
    have level : courseLat lat north 0 = lat := by
      rw [courseLat, height, cos_zero, sin_zero, one_mul, mul_zero, zero_mul, add_zero]
      exact valid
    have straight : courseTurn lat north east 0 = 0 := by
      rw [courseTurn, aside, sin_zero, mul_zero, zero_div, arctan_zero]
    simp only [gain, level, straight, mul_zero, add_zero]
  have mean := (convex_Icc 0 d).image_sub_le_mul_sub_of_deriv_le
    (fun t inside => (derivative inside).continuousAt.continuousWithinAt)
    (fun t inside => (derivative (interior_subset inside)).differentiableAt.differentiableWithinAt)
    (fun t inside => (derivative (interior_subset inside)).deriv.trans_le (slow (interior_subset inside)))
    0 (Set.left_mem_Icc.mpr nonneg) d (Set.right_mem_Icc.mpr nonneg) nonneg
  rw [started, one_mul, sub_zero] at mean
  linarith

/-- Two points are no farther on such a map than on the sphere. -/
theorem flat_le_angle (valid : IsLat lat) (valid' : IsLat lat') (half : |lon' - lon| ≤ π)
    (short : |lat| + angle lat lon lat' lon' < π / 2) (scale : 0 ≤ c) (least : c ≤ cos (|lat| + angle lat lon lat' lon')) :
    (lat' - lat) ^ 2 + (c * (lon' - lon)) ^ 2 ≤ angle lat lon lat' lon' ^ 2 := by
  have nonneg := angle_nonneg lat lon lat' lon'
  have inner : 0 < cos lat :=
    cos_pos_of_mem_Ioo ⟨by linarith [neg_abs_le lat], by linarith [le_abs_self lat]⟩
  rcases nonneg.eq_or_lt with same | apart
  · have level : lat' = lat := sub_eq_zero.mp (abs_nonpos_iff.mp (same ▸ abs_sub_le_angle valid valid'))
    have law := cos_angle lat lon lat' lon'
    rw [← same, cos_zero, level] at law
    have front : cos (lon' - lon) = 1 := by
      have product : cos lat ^ 2 * (cos (lon' - lon) - 1) = 0 := by linarith only [law, sin_sq_add_cos_sq lat]
      exact sub_eq_zero.mp ((mul_eq_zero.mp product).resolve_left (pow_pos inner 2).ne')
    have straight : lon' - lon = 0 :=
      (cos_eq_one_iff_of_lt_of_lt (by linarith [(abs_le.mp half).1, pi_pos]) (by linarith [(abs_le.mp half).2, pi_pos])).mp front
    rw [← same, level, straight, sub_self, mul_zero]
    norm_num
  · obtain ⟨north, east, unit, high, ahead, side⟩ :=
      exists_course inner (sin_pos_of_pos_of_lt_pi apart (by linarith [abs_nonneg lat, pi_pos]))
    have arrived : courseLat lat north (angle lat lon lat' lon') = lat' := by
      rw [courseLat, high]
      exact valid'
    have front := forward_pos valid unit nonneg short
    rw [ahead] at front
    have facing : 0 < cos (lon' - lon) := pos_of_mul_pos_right front valid'.cos_nonneg
    have quarter : |lon' - lon| < π / 2 := by
      by_contra behind
      rw [← cos_abs] at facing
      exact absurd facing (not_lt.mpr (cos_nonpos_of_pi_div_two_le_of_le (not_lt.mp behind) (by linarith [pi_pos])))
    have turned : courseTurn lat north east (angle lat lon lat' lon') = lon' - lon := by
      rw [courseTurn, ahead, side, mul_div_mul_left _ _ (pos_of_mul_pos_left front facing.le).ne', ← tan_eq_sin_div_cos,
        arctan_tan (abs_lt.mp quarter).1 (abs_lt.mp quarter).2]
    set flat := √((lat' - lat) ^ 2 + (c * (lon' - lon)) ^ 2) with flat_eq
    have square : flat ^ 2 = (lat' - lat) ^ 2 + (c * (lon' - lon)) ^ 2 := sq_sqrt (by positivity)
    rw [← square]
    refine pow_le_pow_left₀ (sqrt_nonneg _) ?_ 2
    rcases (sqrt_nonneg _ : 0 ≤ flat).eq_or_lt with none | some
    · exact none ▸ nonneg
    -- The gain in the direction of the other point is the whole of the distance on the map.
    have direction : ((lat' - lat) / flat) ^ 2 + (c * (lon' - lon) / flat) ^ 2 = 1 := by
      rw [div_pow, div_pow, ← add_div, ← square, div_self (pow_pos some 2).ne']
    have gained := course_gain_le valid unit nonneg short scale least direction
    rw [arrived, turned] at gained
    calc flat = flat ^ 2 / flat := by field_simp
      _ = (lat' - lat) / flat * (lat' - lat) + c * (lon' - lon) / flat * (c * (lon' - lon)) := by
        rw [square]
        ring
      _ ≤ angle lat lon lat' lon' := gained

end Sphere
