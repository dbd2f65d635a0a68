import Mathlib.Algebra.Order.Star.Basic
import Mathlib.LinearAlgebra.Matrix.PosDef
import Mathlib.Tactic.FieldSimp
import Mathlib.Tactic.LinearCombination
import Mathlib.Tactic.Positivity

/-! Covariances of a linear Kalman filter in exact arithmetic: prediction, the
measurement update in Joseph form and its innovation. Over any ordered field
they stay positive semidefinite, for any gain, where the noises are. -/
namespace Kalman
open Matrix

variable {K : Type*} [Field K] [LinearOrder K] [IsStrictOrderedRing K] [StarRing K] [TrivialStar K]
  {n m : Type*} [Fintype n] [DecidableEq n] [Fintype m] [DecidableEq m]

/-- The covariance `P` carried by the transition `f`, with process noise `q`. -/
def predictCov (f P q : Matrix n n K) : Matrix n n K := f * P * fᵀ + q

/-- The covariance of an innovation: the predicted one and the measurement's own. -/
def innovationCov (h : Matrix m n K) (P : Matrix n n K) (r : Matrix m m K) : Matrix m m K := h * P * hᵀ + r

/-- The updated covariance in Joseph form, for a gain `k`. -/
def joseph (h : Matrix m n K) (P : Matrix n n K) (r : Matrix m m K) (k : Matrix n m K) : Matrix n n K :=
  (1 - k * h) * P * (1 - k * h)ᵀ + k * r * kᵀ

def symmetrize (P : Matrix n n K) : Matrix n n K := (1 / 2 : K) • (P + Pᵀ)

variable {P f q : Matrix n n K} {h : Matrix m n K} {r : Matrix m m K}

omit [LinearOrder K] [IsStrictOrderedRing K] [DecidableEq n] [DecidableEq m] [Fintype n] [Fintype m] in
theorem isSymm_iff_isHermitian {M : Matrix n n K} : M.IsHermitian ↔ M.IsSymm := by
  rw [IsHermitian, IsSymm, conjTranspose_eq_transpose_of_trivial]

omit [IsStrictOrderedRing K] [DecidableEq n] [DecidableEq m] in
theorem congruence_posSemidef (valid : P.PosSemidef) (h : Matrix m n K) : (h * P * hᵀ).PosSemidef := by
  have kept := valid.mul_mul_conjTranspose_same h
  rwa [conjTranspose_eq_transpose_of_trivial] at kept

omit [LinearOrder K] [IsStrictOrderedRing K] [StarRing K] [TrivialStar K] [DecidableEq n] [Fintype n] in
theorem symmetrize_isSymm (P : Matrix n n K) : (symmetrize P).IsSymm := by
  rw [IsSymm, symmetrize, transpose_smul, transpose_add, transpose_transpose, add_comm]

omit [DecidableEq n] [Fintype n] in
theorem symmetrize_eq_self (valid : P.PosSemidef) : symmetrize P = P := by
  have symm : Pᵀ = P := isSymm_iff_isHermitian.mp valid.isHermitian
  rw [symmetrize, symm, ← two_smul K P, smul_smul]
  norm_num

omit [DecidableEq n] in
theorem predictCov_posSemidef (valid : P.PosSemidef) (noise : q.PosSemidef) (f : Matrix n n K) :
    (predictCov f P q).PosSemidef :=
  (congruence_posSemidef valid f).add noise

omit [DecidableEq n] [DecidableEq m] in
/-- An innovation of a definite measurement has a definite covariance. -/
theorem innovationCov_posDef (valid : P.PosSemidef) (noise : r.PosDef) (h : Matrix m n K) :
    (innovationCov h P r).PosDef :=
  noise.posSemidef_add (congruence_posSemidef valid h)

omit [DecidableEq m] in
/-- The Joseph form is a sum of two congruences, so the gain does not matter. -/
theorem joseph_posSemidef (valid : P.PosSemidef) (noise : r.PosSemidef) (h : Matrix m n K) (k : Matrix n m K) :
    (joseph h P r k).PosSemidef :=
  (congruence_posSemidef valid _).add (congruence_posSemidef noise k)

/-! ### Two by two -/

/-- Sylvester's criterion for semidefiniteness. -/
theorem posSemidef_of_two {M : Matrix (Fin 2) (Fin 2) K} (symm : M.IsSymm) (first : 0 < M 0 0)
    (det : 0 ≤ M 0 0 * M 1 1 - M 0 1 * M 1 0) : M.PosSemidef := by
  refine .of_dotProduct_mulVec_nonneg (isSymm_iff_isHermitian.mpr symm) fun x => ?_
  have off : M 1 0 = M 0 1 := symm.apply 0 1
  rw [off] at det
  have form : star x ⬝ᵥ (M *ᵥ x) =
      ((M 0 0 * x 0 + M 0 1 * x 1) ^ 2 + (M 0 0 * M 1 1 - M 0 1 * M 0 1) * x 1 ^ 2) / M 0 0 := by
    simp only [dotProduct, mulVec, Fin.sum_univ_two, Pi.star_apply, star_trivial, off]
    field_simp
    ring
  rw [form]
  positivity

theorem posSemidef_two {a b c : K} (first : 0 < a) (det : 0 ≤ a * c - b * b) :
    (!![a, b; b, c] : Matrix (Fin 2) (Fin 2) K).PosSemidef := by
  refine posSemidef_of_two (.ext fun i j => ?_) first det
  fin_cases i <;> fin_cases j <;> rfl

end Kalman
