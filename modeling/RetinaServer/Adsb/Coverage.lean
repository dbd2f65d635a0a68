import RetinaServer.Adsb.Regions
import RetinaServer.Library.Sphere
import Mathlib.Analysis.Real.Pi.Bounds
import Mathlib.Analysis.SpecialFunctions.Trigonometric.Bounds

/-! Whether the boxes of a region cover the ground within the padding of its members, on the sphere. -/
noncomputable section
namespace Retina.Adsb
open Real
open Sphere (radians degrees)

/-- The module's functions over the reals, with the great-circle distance. -/
def realGeometry (earthKm : ℝ) : Geometry ℝ where
  sin := Real.sin
  cos := Real.cos
  asin := arcsin
  radians := radians
  degrees := degrees
  ceil := Int.ceil
  earthKm := earthKm
  haversineKm lat lon lat' lon' := earthKm * Sphere.angle (radians lat) (radians lon) (radians lat') (radians lon')

variable (earthKm marginKm : ℝ) (members : Members ℝ)

/-- `is_usable`, of every member. -/
structure Usable : Prop where
  in_range : ∀ p ∈ members.positions, (-90 ≤ p.1 ∧ p.1 ≤ 90) ∧ -180 ≤ p.2 ∧ p.2 ≤ 180

/-- The boxes are requests in range, and hold every point of the map within the padding of a member. -/
structure RegionServes (row col : ℤ) : Prop where
  in_range : ∀ box ∈ (regionFromMembers (realGeometry earthKm) marginKm row col members).boxes, box.InRange
  covers : ∀ p ∈ members.positions, ∀ lat lon, -90 ≤ lat → lat ≤ 90 →
    (realGeometry earthKm).haversineKm p.1 p.2 lat lon ≤ marginKm →
    Covered (regionFromMembers (realGeometry earthKm) marginKm row col members).boxes lat lon

/-- From a member at `lat`, how far in longitude the ground within the padding goes. -/
def discHalfWidth (lat : ℝ) : ℝ := degrees (arcsin (Real.sin (marginKm / earthKm) / Real.cos (radians lat)))

/-- Every member's ground fits the padded longitudes. -/
def DiscsFit : Prop :=
  ∀ p ∈ members.positions,
    discHalfWidth earthKm marginKm p.1 ≤ dlonForMargin (realGeometry earthKm) marginKm members.extremeLat + (members.maxLon - p.2) ∧
      discHalfWidth earthKm marginKm p.1 ≤ dlonForMargin (realGeometry earthKm) marginKm members.extremeLat + (p.2 - members.minLon)

/-! ### The extent of the members -/

namespace Members
variable {members} {p : ℝ × ℝ} (member : p ∈ members.positions)
include member

theorem minLat_le : members.minLat ≤ p.1 := List.min_le_of_mem (List.mem_map_of_mem member)
theorem le_maxLat : p.1 ≤ members.maxLat := List.le_max_of_mem (List.mem_map_of_mem member)
theorem minLon_le : members.minLon ≤ p.2 := List.min_le_of_mem (List.mem_map_of_mem member)
theorem le_maxLon : p.2 ≤ members.maxLon := List.le_max_of_mem (List.mem_map_of_mem member)

theorem abs_le_extremeLat : |p.1| ≤ |members.extremeLat| := by
  have south := minLat_le member
  have north := le_maxLat member
  rw [extremeLat]
  split
  · rename_i further
    refine abs_le.mpr ⟨?_, north.trans (le_abs_self _)⟩
    linarith [neg_abs_le members.minLat]
  · rename_i further
    refine abs_le.mpr ⟨(neg_abs_le _).trans south, ?_⟩
    linarith [le_abs_self members.maxLat]

omit member in
theorem extremeLat_usable (usable : Usable members) : -90 ≤ members.extremeLat ∧ members.extremeLat ≤ 90 := by
  rw [extremeLat]
  split
  · obtain ⟨p, member, same⟩ := List.mem_map.mp (List.max_mem (members.map_ne_nil Prod.fst))
    rw [maxLat, ← same]
    exact (usable.in_range p member).1
  · obtain ⟨p, member, same⟩ := List.mem_map.mp (List.min_mem (members.map_ne_nil Prod.fst))
    rw [minLat, ← same]
    exact (usable.in_range p member).1

end Members

/-! ### The padding -/

section Padding
variable {earthKm marginKm} (earth : 0 < earthKm) (padding : 0 ≤ marginKm)
include earth padding

omit earth padding in
theorem marginSurplus_eq : (MARGIN_SURPLUS : ℝ) = 10001 / 10000 := by
  rw [MARGIN_SURPLUS]
  norm_num

omit earth padding in
/-- The padded longitudes over the reals. -/
theorem dlonForMargin_eq (earthKm marginKm lat : ℝ) : dlonForMargin (realGeometry earthKm) marginKm lat =
    if Real.cos (radians lat) < 1 / 10 ^ 12 then 180
    else if 1 ≤ Real.sin (marginKm * MARGIN_SURPLUS / (2 * earthKm)) / Real.cos (radians lat) then 180
    else degrees (2 * arcsin (Real.sin (marginKm * MARGIN_SURPLUS / (2 * earthKm)) / Real.cos (radians lat))) := by
  have two : (2.0 : ℝ) = 2 := by norm_num
  have tiny : (1e-12 : ℝ) = 1 / 10 ^ 12 := by norm_num
  simp only [dlonForMargin, realGeometry, two, tiny]

theorem le_dlatForMargin : degrees (marginKm / earthKm) ≤ dlatForMargin (realGeometry earthKm) marginKm := by
  refine Sphere.degrees_le.mpr (div_le_div_of_nonneg_right ?_ earth.le)
  rw [marginSurplus_eq]
  linarith

theorem dlatForMargin_nonneg : 0 ≤ dlatForMargin (realGeometry earthKm) marginKm := by
  have angle : 0 ≤ marginKm / earthKm := div_nonneg padding earth.le
  exact le_trans (by rw [degrees]; positivity) (le_dlatForMargin earth padding)

/-- With a padding short of a quarter turn, the longitudes are padded outward. -/
theorem dlonForMargin_nonneg (short : dlatForMargin (realGeometry earthKm) marginKm ≤ 90) (lat : ℝ) :
    0 ≤ dlonForMargin (realGeometry earthKm) marginKm lat := by
  rw [dlonForMargin_eq]
  split_ifs with polar saturated
  · norm_num
  · norm_num
  · have cosine : 0 < Real.cos (radians lat) := lt_of_lt_of_le (by norm_num) (not_lt.mp polar)
    have quarter : marginKm * MARGIN_SURPLUS / earthKm ≤ π / 2 := by
      rw [← Sphere.radians_quarter, ← Sphere.radians_degrees (marginKm * MARGIN_SURPLUS / earthKm), Sphere.radians_le]
      exact short
    have surplus : (0 : ℝ) ≤ marginKm * MARGIN_SURPLUS := mul_nonneg padding (by norm_num [marginSurplus_eq])
    have sine : 0 ≤ Real.sin (marginKm * MARGIN_SURPLUS / (2 * earthKm)) := by
      refine sin_nonneg_of_nonneg_of_le_pi (div_nonneg surplus (by positivity)) ?_
      calc marginKm * MARGIN_SURPLUS / (2 * earthKm) = marginKm * MARGIN_SURPLUS / earthKm / 2 := by rw [div_div, mul_comm 2]
        _ ≤ π := by linarith [pi_pos]
    have root : 0 ≤ arcsin (Real.sin (marginKm * MARGIN_SURPLUS / (2 * earthKm)) / Real.cos (radians lat)) :=
      arcsin_nonneg.mpr (div_nonneg sine cosine.le)
    exact mul_nonneg (mul_nonneg zero_le_two root) (by positivity)

variable {members} (usable : Usable members)
include usable

/-- Every member is in the band. -/
theorem around_member (member : p ∈ members.positions) :
    (paddedBand (realGeometry earthKm) marginKm members).Around p.1 p.2 := by
  have south := Members.minLat_le member
  have north := Members.le_maxLat member
  have west := Members.minLon_le member
  have east := Members.le_maxLon member
  have dlat := dlatForMargin_nonneg earth padding
  obtain ⟨lat, lon⟩ := usable.in_range p member
  refine ⟨lat, lon, ⟨?_, ?_⟩, ?_⟩
  · simp only [paddedBand]
    linarith
  · simp only [paddedBand]
    linarith
  · intro polar
    obtain ⟨low, high⟩ := not_or.mp polar
    simp only [paddedBand, not_lt] at low high
    have dlon := dlonForMargin_nonneg earth padding (by linarith) members.extremeLat
    simp only [paddedBand]
    constructor <;> linarith

/-- A member of a band that is not swept is short of the poles by more than the padding. -/
theorem short_of_poles (kept : ¬ (paddedBand (realGeometry earthKm) marginKm members).Sweeps) (member : p ∈ members.positions) :
    |radians p.1| + marginKm / earthKm < π / 2 := by
  obtain ⟨once, -⟩ := not_or.mp kept
  obtain ⟨polar, round⟩ := not_or.mp once
  obtain ⟨low, high⟩ := not_or.mp polar
  simp only [paddedBand, not_lt] at low high
  simp only [paddedBand, not_le] at round
  have south := Members.minLat_le member
  have north := Members.le_maxLat member
  have dlat := le_dlatForMargin earth padding
  have off_pole : |p.1| < 90 := by
    have within : |p.1| ≤ 90 := abs_le.mpr (usable.in_range p member).1
    refine lt_of_le_of_ne within fun at_pole => ?_
    -- A member at a pole is the extreme one, and its longitudes are padded all round.
    have extreme : |members.extremeLat| = 90 := le_antisymm (abs_le.mpr (Members.extremeLat_usable usable))
      (at_pole ▸ Members.abs_le_extremeLat member)
    have cosine : Real.cos (radians members.extremeLat) = 0 := by
      rw [← cos_abs, Sphere.abs_radians, extreme, Sphere.radians_quarter, cos_pi_div_two]
    have saturated : dlonForMargin (realGeometry earthKm) marginKm members.extremeLat = 180 := by
      rw [dlonForMargin_eq, cosine]
      exact if_pos (by norm_num)
    have west := Members.minLon_le member
    have east := Members.le_maxLon member
    linarith
  have padded : |p.1| + dlatForMargin (realGeometry earthKm) marginKm ≤ 90 := by
    rcases abs_cases p.1 with ⟨same, -⟩ | ⟨same, -⟩ <;> linarith
  rw [Sphere.abs_radians, ← Sphere.radians_quarter, ← Sphere.radians_degrees (marginKm / earthKm), ← Sphere.radians_add, Sphere.radians_lt]
  rcases padding.eq_or_lt with none | some
  · rw [← none, zero_div, degrees, zero_mul, add_zero]
    exact off_pole
  · have surplus : degrees (marginKm / earthKm) < dlatForMargin (realGeometry earthKm) marginKm := by
      refine mul_lt_mul_of_pos_right (div_lt_div_of_pos_right ?_ earth) (by positivity)
      rw [marginSurplus_eq]
      linarith
    linarith

/-- The latitudes within the padding of a member are asked for. -/
theorem lat_asked (member : p ∈ members.positions) (low : -90 ≤ lat) (high : lat ≤ 90)
    (within : (realGeometry earthKm).haversineKm p.1 p.2 lat lon ≤ marginKm) :
    (paddedBand (realGeometry earthKm) marginKm members).lamin ≤ lat ∧
      lat ≤ (paddedBand (realGeometry earthKm) marginKm members).lamax := by
  have angle : Sphere.angle (radians p.1) (radians p.2) (radians lat) (radians lon) ≤ marginKm / earthKm :=
    (le_div_iff₀' earth).mpr within
  have apart := (Sphere.abs_sub_le_angle ((Sphere.isLat_radians_iff p.1).mpr (usable.in_range p member).1) ((Sphere.isLat_radians_iff lat).mpr ⟨low, high⟩)).trans angle
  rw [← Sphere.radians_sub, Sphere.abs_radians, ← Sphere.radians_degrees (marginKm / earthKm), Sphere.radians_le] at apart
  have south := Members.minLat_le member
  have north := Members.le_maxLat member
  have dlat := le_dlatForMargin earth padding
  obtain ⟨below, above⟩ := abs_le.mp apart
  constructor
  · refine max_le low ?_
    simp only [paddedBand]
    linarith
  · refine le_min high ?_
    simp only [paddedBand]
    linarith

/-- On the member's turn of the globe, a point within the padding is within the disc's half width. -/
theorem lon_near (kept : ¬ (paddedBand (realGeometry earthKm) marginKm members).Sweeps) (member : p ∈ members.positions)
    (low : -90 ≤ lat) (high : lat ≤ 90) (within : (realGeometry earthKm).haversineKm p.1 p.2 lat lon ≤ marginKm) :
    ∃ k : ℤ, |lon + 360 * k - p.2| ≤ discHalfWidth earthKm marginKm p.1 := by
  have angle : Sphere.angle (radians p.1) (radians p.2) (radians lat) (radians lon) ≤ marginKm / earthKm :=
    (le_div_iff₀' earth).mpr within
  have valid := (Sphere.isLat_radians_iff p.1).mpr (usable.in_range p member).1
  have short := short_of_poles earth padding usable kept member
  obtain ⟨front, reach⟩ := Sphere.disc_within valid ((Sphere.isLat_radians_iff lat).mpr ⟨low, high⟩) (div_nonneg padding earth.le) short angle
  obtain ⟨k, turn_low, turn_high⟩ := Band.exists_turn (lon - p.2)
  rw [sub_add_eq_add_sub] at turn_low turn_high
  have turned : radians (lon + 360 * k - p.2) = radians lon - radians p.2 + k * (2 * π) := by
    rw [Sphere.radians_sub, Sphere.radians_add, Sphere.radians_turns]
    ring
  have half : |radians (lon + 360 * k - p.2)| ≤ π / 2 := by
    by_contra behind
    have around : |radians (lon + 360 * k - p.2)| ≤ π + π / 2 := by
      have turn : |lon + 360 * k - p.2| ≤ 180 := abs_le.mpr ⟨turn_low, turn_high⟩
      rw [← Sphere.radians_le, ← Sphere.abs_radians, Sphere.radians_half] at turn
      linarith [pi_pos]
    have back := cos_nonpos_of_pi_div_two_le_of_le (not_le.mp behind).le around
    rw [cos_abs, turned, cos_add_int_mul_two_pi] at back
    exact absurd front (not_lt.mpr back)
  have cosine : 0 < Real.cos (radians p.1) := by
    have angle_nonneg : 0 ≤ marginKm / earthKm := div_nonneg padding earth.le
    rw [← cos_abs]
    exact cos_pos_of_mem_Ioo ⟨by linarith [abs_nonneg (radians p.1), pi_pos], by linarith⟩
  have sine : |Real.sin (radians (lon + 360 * k - p.2))| ≤ Real.sin (marginKm / earthKm) / Real.cos (radians p.1) := by
    rw [turned, sin_add_int_mul_two_pi, le_div_iff₀ cosine, mul_comm]
    exact reach
  have near := Sphere.abs_le_arcsin half sine
  rw [Sphere.abs_radians, ← Sphere.radians_degrees (arcsin _), Sphere.radians_le] at near
  exact ⟨k, near⟩

/-- Every meridian within the half width meets the ground within the padding. -/
theorem exists_on_meridian (kept : ¬ (paddedBand (realGeometry earthKm) marginKm members).Sweeps) (member : p ∈ members.positions)
    (near : |lon - p.2| ≤ discHalfWidth earthKm marginKm p.1) :
    ∃ lat, (-90 ≤ lat ∧ lat ≤ 90) ∧ (realGeometry earthKm).haversineKm p.1 p.2 lat lon ≤ marginKm := by
  have valid := (Sphere.isLat_radians_iff p.1).mpr (usable.in_range p member).1
  have short := short_of_poles earth padding usable kept member
  have nonneg : 0 ≤ marginKm / earthKm := div_nonneg padding earth.le
  have cosine : 0 < Real.cos (radians p.1) := by
    rw [← cos_abs]
    exact cos_pos_of_mem_Ioo ⟨by linarith [abs_nonneg (radians p.1), pi_pos], by linarith⟩
  have sine_nonneg : 0 ≤ Real.sin (marginKm / earthKm) :=
    sin_nonneg_of_nonneg_of_le_pi nonneg (by linarith [abs_nonneg (radians p.1), pi_pos])
  have ratio_le : Real.sin (marginKm / earthKm) / Real.cos (radians p.1) ≤ 1 := by
    rw [div_le_one cosine, ← cos_abs, ← cos_pi_div_two_sub]
    exact cos_le_cos_of_nonneg_of_le_pi (abs_nonneg _) (by linarith [pi_pos]) (by linarith)
  have turn : |radians (lon - p.2)| ≤ arcsin (Real.sin (marginKm / earthKm) / Real.cos (radians p.1)) := by
    rw [Sphere.abs_radians, ← Sphere.radians_degrees (arcsin _), Sphere.radians_le]
    exact near
  have half : |radians (lon - p.2)| ≤ π / 2 := turn.trans (arcsin_le_pi_div_two _)
  have front : 0 ≤ Real.cos (radians (lon - p.2)) :=
    cos_nonneg_of_neg_pi_div_two_le_of_le (abs_le.mp half).1 (abs_le.mp half).2
  have reach : Real.cos (radians p.1) * |Real.sin (radians (lon - p.2))| ≤ Real.sin (marginKm / earthKm) := by
    rw [abs_sin_eq_sin_abs_of_abs_le_pi (half.trans (by linarith [pi_pos])), mul_comm, ← le_div_iff₀ cosine]
    calc Real.sin |radians (lon - p.2)| ≤ Real.sin (arcsin (Real.sin (marginKm / earthKm) / Real.cos (radians p.1))) :=
          sin_le_sin_of_le_of_le_pi_div_two (by linarith [abs_nonneg (radians (lon - p.2)), pi_pos]) (arcsin_le_pi_div_two _) turn
      _ = Real.sin (marginKm / earthKm) / Real.cos (radians p.1) :=
          sin_arcsin (by linarith [div_nonneg sine_nonneg cosine.le]) ratio_le
  obtain ⟨lat, valid', angle⟩ := Sphere.exists_within (radians p.1) (radians p.2) valid nonneg
    (by linarith [abs_nonneg (radians p.1)]) front reach
  refine ⟨degrees lat, (Sphere.isLat_radians_iff _).mp (by rwa [Sphere.radians_degrees]), ?_⟩
  rw [← Sphere.radians_add, add_sub_cancel] at angle
  simp only [realGeometry, Sphere.radians_degrees]
  exact (le_div_iff₀' earth).mp angle

/-- Where the ground of a member is covered, its meridians have a turn in the band. -/
theorem near_in_band (row col : ℤ) (kept : ¬ (paddedBand (realGeometry earthKm) marginKm members).Sweeps)
    (serves : RegionServes earthKm marginKm members row col) (member : p ∈ members.positions)
    (near : |lon - p.2| ≤ discHalfWidth earthKm marginKm p.1) : ∃ k : ℤ,
      members.minLon - dlonForMargin (realGeometry earthKm) marginKm members.extremeLat ≤ lon + 360 * k ∧
        lon + 360 * k ≤ members.maxLon + dlonForMargin (realGeometry earthKm) marginKm members.extremeLat := by
  obtain ⟨lat, ⟨low, high⟩, within⟩ := exists_on_meridian earth padding usable kept member near
  have around := around_member earth padding usable member
  exact ((around.covered_iff kept lat lon).mp (serves.covers p member lat lon low high within)).2

/-- The band holds its member and does not go all round. -/
theorem band_open (kept : ¬ (paddedBand (realGeometry earthKm) marginKm members).Sweeps) (member : p ∈ members.positions) :
    (members.minLon - dlonForMargin (realGeometry earthKm) marginKm members.extremeLat ≤ p.2 ∧
      p.2 ≤ members.maxLon + dlonForMargin (realGeometry earthKm) marginKm members.extremeLat) ∧
        members.maxLon + dlonForMargin (realGeometry earthKm) marginKm members.extremeLat -
          (members.minLon - dlonForMargin (realGeometry earthKm) marginKm members.extremeLat) < 360 := by
  obtain ⟨polar, round⟩ := not_or.mp (not_or.mp kept).1
  exact ⟨(around_member earth padding usable member).lon_within polar, not_le.mp round⟩

theorem discHalfWidth_le_east (row col : ℤ) (kept : ¬ (paddedBand (realGeometry earthKm) marginKm members).Sweeps)
    (serves : RegionServes earthKm marginKm members row col) (member : p ∈ members.positions) :
    discHalfWidth earthKm marginKm p.1 ≤ dlonForMargin (realGeometry earthKm) marginKm members.extremeLat + (members.maxLon - p.2) := by
  by_contra beyond
  obtain ⟨⟨west, east⟩, gap⟩ := band_open earth padding usable kept member
  -- A meridian past the band's eastern edge, short of its western one and of the disc's.
  obtain ⟨lon, past, short⟩ := exists_between (show
      members.maxLon + dlonForMargin (realGeometry earthKm) marginKm members.extremeLat <
        min (p.2 + discHalfWidth earthKm marginKm p.1)
          (members.minLon - dlonForMargin (realGeometry earthKm) marginKm members.extremeLat + 360) from
    lt_min (by linarith) (by linarith))
  obtain ⟨near, before⟩ := lt_min_iff.mp short
  have inside : |lon - p.2| ≤ discHalfWidth earthKm marginKm p.1 := abs_le.mpr ⟨by linarith, by linarith⟩
  obtain ⟨k, lower, upper⟩ := near_in_band earth padding usable row col kept serves member inside
  rcases le_or_gt 0 k with ahead | behind
  · have turns : (0 : ℝ) ≤ k := Int.cast_nonneg ahead
    linarith
  · have turns : (k : ℝ) ≤ -1 := by exact_mod_cast Int.le_sub_one_of_lt behind
    linarith

theorem discHalfWidth_le_west (row col : ℤ) (kept : ¬ (paddedBand (realGeometry earthKm) marginKm members).Sweeps)
    (serves : RegionServes earthKm marginKm members row col) (member : p ∈ members.positions) :
    discHalfWidth earthKm marginKm p.1 ≤ dlonForMargin (realGeometry earthKm) marginKm members.extremeLat + (p.2 - members.minLon) := by
  by_contra beyond
  obtain ⟨⟨west, east⟩, gap⟩ := band_open earth padding usable kept member
  obtain ⟨lon, past, short⟩ := exists_between (show
      max (p.2 - discHalfWidth earthKm marginKm p.1)
          (members.maxLon + dlonForMargin (realGeometry earthKm) marginKm members.extremeLat - 360) <
        members.minLon - dlonForMargin (realGeometry earthKm) marginKm members.extremeLat from
    max_lt (by linarith) (by linarith))
  obtain ⟨near, before⟩ := max_lt_iff.mp past
  have inside : |lon - p.2| ≤ discHalfWidth earthKm marginKm p.1 := abs_le.mpr ⟨by linarith, by linarith⟩
  obtain ⟨k, lower, upper⟩ := near_in_band earth padding usable row col kept serves member inside
  rcases le_or_gt k 0 with behind | ahead
  · have turns : (k : ℝ) ≤ 0 := Int.cast_nonpos.mpr behind
    linarith
  · have turns : (1 : ℝ) ≤ k := by exact_mod_cast ahead
    linarith

theorem serves_of_fit (row col : ℤ)
    (fits : (paddedBand (realGeometry earthKm) marginKm members).Sweeps ∨ DiscsFit earthKm marginKm members) :
    RegionServes earthKm marginKm members row col := by
  obtain ⟨first, listed⟩ := List.exists_mem_of_ne_nil _ members.inhabited
  refine ⟨(around_member earth padding usable listed).inRange, ?_⟩
  intro p member lat lon low high within
  have lats := lat_asked earth padding usable member low high within
  by_cases swept : (paddedBand (realGeometry earthKm) marginKm members).Sweeps
  · exact Band.covered_of_sweeps swept lats.1 lats.2 lon
  · refine ((around_member earth padding usable member).covered_iff swept lat lon).mpr ⟨lats, ?_⟩
    obtain ⟨k, near⟩ := lon_near earth padding usable swept member low high within
    obtain ⟨fit_east, fit_west⟩ := fits.resolve_left swept p member
    obtain ⟨lower, upper⟩ := abs_le.mp near
    refine ⟨k, ?_, ?_⟩
    · simp only [paddedBand]
      linarith
    · simp only [paddedBand]
      linarith

/-- The region's requests are in range and cover its members' ground exactly when the whole parallel is
asked for or the discs around the members fit the padded longitudes. -/
theorem region_serves_iff (row col : ℤ) : RegionServes earthKm marginKm members row col ↔
    (paddedBand (realGeometry earthKm) marginKm members).Sweeps ∨ DiscsFit earthKm marginKm members := by
  constructor
  · intro serves
    by_cases swept : (paddedBand (realGeometry earthKm) marginKm members).Sweeps
    · exact .inl swept
    · refine .inr fun p member => ⟨?_, ?_⟩
      · exact discHalfWidth_le_east earth padding usable row col swept serves member
      · exact discHalfWidth_le_west earth padding usable row col swept serves member
  · exact serves_of_fit earth padding usable row col

end Padding

/-! ### One receiver at 60 degrees north -/

def northern : Members ℝ := ⟨[(60, 0)], by simp⟩

theorem northern_usable : Usable northern where
  in_range p member := by
    rw [northern, List.mem_singleton] at member
    subst member
    norm_num

theorem cos_sixty : Real.cos (radians 60) = 1 / 2 := by
  rw [Sphere.radians_eq, show (60 : ℝ) * (π / 180) = π / 3 by ring, cos_pi_div_three]

/-- The sine of half the padded longitudes. -/
def northernRatio : ℝ := Real.sin (150.0 * MARGIN_SURPLUS / (2.0 * 6371.0)) / Real.cos (radians 60.0)

theorem northernRatio_eq : northernRatio = Real.sin (150 * (10001 / 10000) / (2 * 6371)) / (1 / 2) := by
  have sixty : (60.0 : ℝ) = 60 := by norm_num
  rw [northernRatio, sixty, cos_sixty, marginSurplus_eq]
  norm_num

theorem northernRatio_nonneg : 0 ≤ northernRatio := by
  rw [northernRatio_eq]
  exact div_nonneg (sin_nonneg_of_nonneg_of_le_pi (by norm_num) (by linarith [pi_gt_three])) (by norm_num)

theorem northernRatio_le : northernRatio ≤ 10001 / 10000 * (150 / 6371) := by
  have sine : Real.sin (150 * (10001 / 10000) / (2 * 6371)) ≤ 150 * (10001 / 10000) / (2 * 6371) := sin_le (by norm_num)
  rw [northernRatio_eq]
  calc Real.sin (150 * (10001 / 10000) / (2 * 6371)) / (1 / 2) ≤ 150 * (10001 / 10000) / (2 * 6371) / (1 / 2) := div_le_div_of_nonneg_right sine (by norm_num)
    _ = 10001 / 10000 * (150 / 6371) := by norm_num

theorem northern_extremeLat : northern.extremeLat = 60 := by
  simp [Members.extremeLat, Members.minLat, Members.maxLat, northern]

theorem northern_dlon : dlonForMargin (realGeometry 6371) 150 northern.extremeLat = degrees (2 * arcsin northernRatio) := by
  have ratio := northernRatio_le
  rw [northern_extremeLat, dlonForMargin_eq, cos_sixty, marginSurplus_eq, ← northernRatio_eq, if_neg (by norm_num),
    if_neg (by linarith)]

theorem northern_half_small : arcsin northernRatio < π / 4 := by
  have nonneg := northernRatio_nonneg
  have ratio := northernRatio_le
  have root : (1 : ℝ) ≤ √2 := one_le_sqrt.mpr one_le_two
  rw [arcsin_lt_iff_lt_sin ⟨by linarith, by linarith⟩ ⟨by linarith [pi_pos], by linarith [pi_pos]⟩, sin_pi_div_four]
  linarith

/-- The chord along the parallel ends before the widest meridian of the disc. -/
theorem northern_chord_short : 2 * arcsin northernRatio < arcsin (Real.sin (150 / 6371) / (1 / 2)) := by
  have nonneg := northernRatio_nonneg
  have ratio := northernRatio_le
  have half := northern_half_small
  rw [lt_arcsin_iff_sin_lt' ⟨by linarith [arcsin_nonneg.mpr nonneg, pi_pos], by linarith⟩, sin_two_mul, sin_arcsin (by linarith) (by linarith),
    cos_arcsin]
  have root : √(1 - northernRatio ^ 2) ≤ 1 - northernRatio ^ 2 / 2 := by
    rw [sqrt_le_iff]
    constructor <;> nlinarith
  have arc : 150 / 6371 - (150 / 6371) ^ 3 / 6 < Real.sin (150 / 6371) := sin_gt_sub_cube (by norm_num)
  calc 2 * northernRatio * √(1 - northernRatio ^ 2) ≤ 2 * northernRatio * (1 - northernRatio ^ 2 / 2) :=
        mul_le_mul_of_nonneg_left root (by linarith)
    _ ≤ 2 * (10001 / 10000 * (150 / 6371)) - (10001 / 10000 * (150 / 6371)) ^ 3 := by
        nlinarith [mul_nonneg (sub_nonneg.mpr ratio) (show (0 : ℝ) ≤ 2 - ((10001 / 10000 * (150 / 6371)) ^ 2 +
          10001 / 10000 * (150 / 6371) * northernRatio + northernRatio ^ 2) by nlinarith)]
    _ < (150 / 6371 - (150 / 6371) ^ 3 / 6) / (1 / 2) := by norm_num
    _ < Real.sin (150 / 6371) / (1 / 2) := div_lt_div_of_pos_right arc (by norm_num)

theorem northern_kept : ¬ (paddedBand (realGeometry 6371) 150 northern).Sweeps := by
  have small : degrees (2 * arcsin northernRatio) < 90 := by
    calc degrees (2 * arcsin northernRatio) < degrees (π / 2) :=
          mul_lt_mul_of_pos_right (by linarith [northern_half_small]) (by positivity)
      _ = 90 := by rw [← Sphere.radians_quarter, Sphere.degrees_radians]
  have dlat : dlatForMargin (realGeometry 6371) 150 < 30 := by
    have angle : 150 * (10001 / 10000) / 6371 < π / 6 := by linarith [pi_gt_three]
    rw [dlatForMargin, marginSurplus_eq]
    calc degrees (150 * (10001 / 10000) / 6371) < degrees (π / 6) := mul_lt_mul_of_pos_right angle (by positivity)
      _ = 30 := by rw [show π / 6 = radians 30 by rw [Sphere.radians_eq]; ring, Sphere.degrees_radians]
  have extent : northern.minLat = 60 ∧ northern.maxLat = 60 ∧ northern.minLon = 0 ∧ northern.maxLon = 0 := by
    simp [Members.minLat, Members.maxLat, Members.minLon, Members.maxLon, northern]
  have positive : 0 ≤ dlatForMargin (realGeometry 6371) 150 := dlatForMargin_nonneg (by norm_num) (by norm_num)
  obtain ⟨min_lat, max_lat, min_lon, max_lon⟩ := extent
  rintro (((polar | polar) | round) | ⟨before | past, -⟩)
  · simp only [paddedBand, min_lat] at polar
    linarith
  · simp only [paddedBand, max_lat] at polar
    linarith
  · simp only [paddedBand, min_lon, max_lon, northern_dlon] at round
    linarith
  · simp only [paddedBand, min_lon, northern_dlon] at before
    linarith
  · simp only [paddedBand, max_lon, northern_dlon] at past
    linarith

/-- Its padded longitudes leave ground within 150 km of the receiver outside. -/
theorem northern_ground_left_out : ¬ RegionServes 6371 150 northern 0 0 := by
  intro serves
  have fits := discHalfWidth_le_east (by norm_num) (by norm_num) northern_usable 0 0 northern_kept serves
    (p := (60, 0)) (by simp [northern])
  have east : northern.maxLon = 0 := by simp [Members.maxLon, northern]
  rw [northern_dlon, east, sub_zero, add_zero, discHalfWidth, Sphere.degrees_le, cos_sixty] at fits
  exact absurd fits (not_le.mpr northern_chord_short)

theorem northern_serves_iff : RegionServes 6371 150 northern 0 0 ↔
    (paddedBand (realGeometry 6371) 150 northern).Sweeps ∨ DiscsFit 6371 150 northern :=
  region_serves_iff (by norm_num) (by norm_num) northern_usable 0 0

end Retina.Adsb
end
