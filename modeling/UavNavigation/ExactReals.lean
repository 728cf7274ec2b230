import Mathlib.Algebra.Quaternion
import Mathlib.Analysis.InnerProductSpace.PiL2
import UavNavigation.Floating

/-!
# Computing in exact arithmetic

Every operation on finite values of `ExactReal K` is the operation of the field,
except for a division by zero and a root of a negative number. The lemmas push
the operations of `FloatOps` down to the field, those of `Vec3` down to triples of
field elements and those of quaternions to quadruples. The last section is about the
real numbers.
-/

namespace UavNavigation

set_option autoImplicit false

open FloatOps ExactReal

namespace ExactReal
variable {K : Type} [Field K] [LinearOrder K] [FloorRing K] [SquareRoot K]

variable (x : K) {low high : K} (a b : K)

@[simp] theorem add_finite : (finite a + finite b : ExactReal K) = finite (a + b) := rfl

@[simp] theorem sub_finite : (finite a - finite b : ExactReal K) = finite (a - b) := rfl

@[simp] theorem mul_finite : (finite a * finite b : ExactReal K) = finite (a * b) := rfl

@[simp] theorem neg_finite (a : K) : (-finite a : ExactReal K) = finite (-a) := rfl

theorem div_finite (a : K) {b : K} (hb : b ≠ 0) :
    (finite a / finite b : ExactReal K) = finite (a / b) := if_neg hb

@[simp] theorem lt_finite : (finite a < finite b : Prop) ↔ a < b := Iff.rfl

@[simp] theorem le_finite : (finite a ≤ finite b : Prop) ↔ a ≤ b := Iff.rfl

protected theorem le_trans {x y z : ExactReal K} (hxy : x ≤ y) (hyz : y ≤ z) : x ≤ z := by
  cases x with
  | nonFinite => cases y <;> exact absurd hxy id
  | finite a =>
    cases y with
    | nonFinite => exact absurd hxy id
    | finite b =>
      cases z with
      | nonFinite => exact absurd hyz id
      | finite c => exact (le_finite a c).mpr (((le_finite a b).mp hxy).trans ((le_finite b c).mp hyz))

theorem not_lt_of_le {x y : ExactReal K} (h : x ≤ y) : ¬ y < x := by
  cases x with
  | nonFinite => exact fun hLt => by cases y <;> exact hLt
  | finite a =>
    cases y with
    | nonFinite => exact fun hLt => hLt
    | finite b =>
      exact not_lt.mpr ((le_finite a b).mp h)

@[simp] theorem isFinite_finite (a : K) : isFinite (finite a) = true := rfl

@[simp] theorem abs_finite (a : K) : FloatOps.abs (finite a) = finite |a| := rfl

@[simp] theorem ceil_finite (a : K) : FloatOps.ceil (finite a) = finite (⌈a⌉ : K) := rfl

theorem lit_finite (q : ℚ) : (lit q : ExactReal K) = finite (q : K) := rfl

theorem sqrt_finite {a : K} (ha : 0 ≤ a) :
    FloatOps.sqrt (finite a) = finite (SquareRoot.squareRoot a) := if_neg (not_lt.mpr ha)

@[simp] theorem max_finite : FloatOps.max (finite a) (finite b) = finite (a ⊔ b) := by
  unfold FloatOps.max
  by_cases h : a < b
  · rw [if_pos ((lt_finite a b).mpr h), max_eq_right h.le]
  · rw [if_neg (mt (lt_finite a b).mp h), max_eq_left (not_lt.mp h)]

@[simp] theorem min_finite : FloatOps.min (finite a) (finite b) = finite (a ⊓ b) := by
  unfold FloatOps.min
  by_cases h : b < a
  · rw [if_pos ((lt_finite b a).mpr h), min_eq_right h.le]
  · rw [if_neg (mt (lt_finite b a).mp h), min_eq_left (not_lt.mp h)]

@[simp] theorem equal_finite : equal (finite a) (finite b) = decide (a = b) := by
  unfold equal
  by_cases h : a = b
  · simp [h]
  · rcases lt_or_gt_of_ne h with hlt | hgt
    · simp [h, not_le.mpr hlt]
    · simp [h, not_le.mpr hgt]

theorem clamp_eq (h : low ≤ high) :
    clamp (finite x) (finite low) (finite high) = finite (low ⊔ x ⊓ high) := by
  unfold clamp
  by_cases hLow : x < low
  · rw [if_pos ((lt_finite x low).mpr hLow), inf_eq_left.mpr (hLow.le.trans h),
      sup_eq_left.mpr hLow.le]
  · rw [if_neg (mt (lt_finite x low).mp hLow)]
    by_cases hHigh : high < x
    · rw [if_pos ((lt_finite high x).mpr hHigh), inf_eq_right.mpr hHigh.le, sup_eq_right.mpr h]
    · rw [if_neg (mt (lt_finite high x).mp hHigh), inf_eq_left.mpr (not_lt.mp hHigh),
        sup_eq_right.mpr (not_lt.mp hLow)]

theorem clamp_finite (h : low ≤ high) :
    ∃ y, clamp (finite x) (finite low) (finite high) = finite y ∧ low ≤ y ∧ y ≤ high :=
  ⟨low ⊔ x ⊓ high, clamp_eq x h, le_sup_left, sup_le h inf_le_right⟩

end ExactReal

namespace Vec3

def lift {K : Type} (a : Vec3 K) : Vec3 (ExactReal K) := ⟨.finite a.x, .finite a.y, .finite a.z⟩

def normSquared {K : Type} [Add K] [Mul K] (a : Vec3 K) : K := a.x * a.x + a.y * a.y + a.z * a.z

section Exact
variable {K : Type} [Field K] [LinearOrder K] [FloorRing K] [SquareRoot K]

theorem allFinite_iff {v : Vec3 (ExactReal K)} : v.allFinite = true ↔ ∃ a, v = lift a := by
  constructor
  · intro h
    simp only [allFinite, Bool.and_eq_true] at h
    obtain ⟨⟨hx, hy⟩, hz⟩ := h
    obtain ⟨x, hx⟩ := isFinite_iff.mp hx
    obtain ⟨y, hy⟩ := isFinite_iff.mp hy
    obtain ⟨z, hz⟩ := isFinite_iff.mp hz
    refine ⟨⟨x, y, z⟩, ?_⟩
    cases v
    simp_all [lift]
  · rintro ⟨a, rfl⟩
    rfl

@[simp] theorem allFinite_lift (a : Vec3 K) : (lift a).allFinite = true := rfl

theorem lift_add (a b : Vec3 K) : lift a + lift b = lift ⟨a.x + b.x, a.y + b.y, a.z + b.z⟩ := rfl

theorem lift_sub (a b : Vec3 K) : lift a - lift b = lift ⟨a.x - b.x, a.y - b.y, a.z - b.z⟩ := rfl

theorem scale_lift (k : K) (a : Vec3 K) :
    scale (.finite k) (lift a) = lift ⟨k * a.x, k * a.y, k * a.z⟩ := rfl

theorem zero_lift : (zero : Vec3 (ExactReal K)) = lift ⟨0, 0, 0⟩ := by
  simp [zero, lift, ExactReal.lit_finite]

theorem divide_lift (a : Vec3 K) {k : K} (hk : k ≠ 0) :
    (lift a).divide (.finite k) = lift ⟨a.x / k, a.y / k, a.z / k⟩ := by
  simp only [divide, lift, ExactReal.div_finite _ hk]

theorem squaredNorm_lift (a : Vec3 K) : (lift a).squaredNorm = .finite a.normSquared := rfl

omit [FloorRing K] [SquareRoot K] in
theorem normSquared_nonneg [IsStrictOrderedRing K] (a : Vec3 K) : 0 ≤ a.normSquared := by
  have hx := mul_self_nonneg a.x
  have hy := mul_self_nonneg a.y
  have hz := mul_self_nonneg a.z
  exact add_nonneg (add_nonneg hx hy) hz

theorem norm_lift [IsStrictOrderedRing K] (a : Vec3 K) :
    (lift a).norm = .finite (SquareRoot.squareRoot a.normSquared) := by
  unfold norm
  rw [squaredNorm_lift, ExactReal.sqrt_finite a.normSquared_nonneg]

end Exact

end Vec3

section Quaternions
variable {K : Type}

def Quaternion.lift (q : Quaternion K) : Quaternion (ExactReal K) :=
  ⟨.finite q.x, .finite q.y, .finite q.z, .finite q.w⟩

def Matrix3.lift (a : Matrix3 K) : Matrix3 (ExactReal K) := ⟨a.row0.lift, a.row1.lift, a.row2.lift⟩

variable [Field K] [LinearOrder K] [FloorRing K] [SquareRoot K]

theorem exists_lift_of_allFinite {q : Quaternion (ExactReal K)} (h : q.allFinite = true) :
    ∃ p : Quaternion K, q = p.lift := by
  simp only [Quaternion.allFinite, Bool.and_eq_true] at h
  obtain ⟨⟨⟨hx, hy⟩, hz⟩, hw⟩ := h
  obtain ⟨x, hx⟩ := isFinite_iff.mp hx
  obtain ⟨y, hy⟩ := isFinite_iff.mp hy
  obtain ⟨z, hz⟩ := isFinite_iff.mp hz
  obtain ⟨w, hw⟩ := isFinite_iff.mp hw
  refine ⟨⟨x, y, z, w⟩, ?_⟩
  cases q
  simp_all [Quaternion.lift]

end Quaternions

noncomputable instance : SquareRoot ℝ := ⟨Real.sqrt⟩

namespace Vec3

noncomputable def length (a : Vec3 ℝ) : ℝ := Real.sqrt a.normSquared

theorem norm_real (a : Vec3 ℝ) : (lift a).norm = .finite a.length := norm_lift a

theorem length_nonneg (a : Vec3 ℝ) : 0 ≤ a.length := Real.sqrt_nonneg _

theorem norm_sub_self (a : Vec3 ℝ) : (lift a - lift a).norm = .finite 0 := by
  rw [lift_sub, norm_real]
  simp [length, normSquared]

theorem length_divide (a : Vec3 ℝ) (h : 0 < a.length) :
    length ⟨a.x / a.length, a.y / a.length, a.z / a.length⟩ = 1 := by
  have hSquare : a.length * a.length = a.normSquared := Real.mul_self_sqrt a.normSquared_nonneg
  have hNe : a.length ≠ 0 := h.ne'
  have hUnit : normSquared ⟨a.x / a.length, a.y / a.length, a.z / a.length⟩ = 1 := by
    have hSum : normSquared ⟨a.x / a.length, a.y / a.length, a.z / a.length⟩ =
        a.normSquared / (a.length * a.length) := by
      simp only [normSquared]
      field_simp
    rw [hSum, hSquare]
    exact div_self (by rw [← hSquare]; exact mul_ne_zero hNe hNe)
  rw [length, hUnit, Real.sqrt_one]

theorem length_scale (k : ℝ) (a : Vec3 ℝ) :
    length ⟨k * a.x, k * a.y, k * a.z⟩ = |k| * a.length := by
  have hSquare : normSquared ⟨k * a.x, k * a.y, k * a.z⟩ = k ^ 2 * a.normSquared := by
    simp only [normSquared]
    ring
  rw [length, hSquare, Real.sqrt_mul (sq_nonneg k), Real.sqrt_sq_eq_abs]
  rfl

noncomputable def apart (a b : Vec3 ℝ) : ℝ := length ⟨a.x - b.x, a.y - b.y, a.z - b.z⟩

noncomputable def euclidean (a : Vec3 ℝ) : EuclideanSpace ℝ (Fin 3) := !₂[a.x, a.y, a.z]

theorem length_eq_norm (a : Vec3 ℝ) : a.length = ‖a.euclidean‖ := by
  rw [EuclideanSpace.norm_eq, Fin.sum_univ_three]
  simp [length, normSquared, euclidean, sq]

theorem apart_eq_dist (a b : Vec3 ℝ) : apart a b = dist a.euclidean b.euclidean := by
  rw [EuclideanSpace.dist_eq, Fin.sum_univ_three]
  unfold apart length normSquared euclidean
  congr 1
  simp [Real.dist_eq, sq_abs]
  ring

theorem apart_self (a : Vec3 ℝ) : apart a a = 0 := by
  rw [apart_eq_dist, dist_self]

theorem apart_triangle (a b c : Vec3 ℝ) : apart a c ≤ apart a b + apart b c := by
  simp only [apart_eq_dist]
  exact dist_triangle _ _ _

theorem norm_sub_lift (a b : Vec3 ℝ) : (lift a - lift b).norm = .finite (apart a b) := by
  rw [lift_sub, norm_real]
  rfl

end Vec3

end UavNavigation

/-! ## Rotations in exact arithmetic -/

open scoped Quaternion

namespace UavNavigation

open FloatOps

@[ext] theorem Vec3.ext {K : Type} {a b : Vec3 K} (hx : a.x = b.x) (hy : a.y = b.y)
    (hz : a.z = b.z) : a = b := by
  cases a
  cases b
  simp_all

namespace Vec3

noncomputable instance : Zero (Vec3 ℝ) := ⟨⟨0, 0, 0⟩⟩

noncomputable instance : Add (Vec3 ℝ) := ⟨fun a b => ⟨a.x + b.x, a.y + b.y, a.z + b.z⟩⟩

noncomputable instance : Neg (Vec3 ℝ) := ⟨fun a => ⟨-a.x, -a.y, -a.z⟩⟩

noncomputable instance : Sub (Vec3 ℝ) := ⟨fun a b => ⟨a.x - b.x, a.y - b.y, a.z - b.z⟩⟩

noncomputable instance : AddCommGroup (Vec3 ℝ) where
  nsmul := nsmulRec
  zsmul := zsmulRec
  add_assoc a b c := Vec3.ext (add_assoc ..) (add_assoc ..) (add_assoc ..)
  zero_add a := Vec3.ext (zero_add _) (zero_add _) (zero_add _)
  add_zero a := Vec3.ext (add_zero _) (add_zero _) (add_zero _)
  neg_add_cancel a := Vec3.ext (neg_add_cancel _) (neg_add_cancel _) (neg_add_cancel _)
  sub_eq_add_neg a b := Vec3.ext (sub_eq_add_neg ..) (sub_eq_add_neg ..) (sub_eq_add_neg ..)
  add_comm a b := Vec3.ext (add_comm ..) (add_comm ..) (add_comm ..)

theorem real_zero : (0 : Vec3 ℝ) = ⟨0, 0, 0⟩ := rfl

theorem add_real (a b : Vec3 ℝ) : lift a + lift b = lift (a + b) := rfl

theorem sub_real (a b : Vec3 ℝ) : lift a - lift b = lift (a - b) := rfl

end Vec3

abbrev UnitQuaternion : Type := unitary ℍ[ℝ]

def rotationMatrix (q : ℍ[ℝ]) : Matrix3 ℝ :=
  ⟨⟨1 - 2 * (q.imJ * q.imJ + q.imK * q.imK), 2 * (q.imI * q.imJ - q.imK * q.re),
      2 * (q.imI * q.imK + q.imJ * q.re)⟩,
    ⟨2 * (q.imI * q.imJ + q.imK * q.re), 1 - 2 * (q.imI * q.imI + q.imK * q.imK),
      2 * (q.imJ * q.imK - q.imI * q.re)⟩,
    ⟨2 * (q.imI * q.imK - q.imJ * q.re), 2 * (q.imJ * q.imK + q.imI * q.re),
      1 - 2 * (q.imI * q.imI + q.imJ * q.imJ)⟩⟩

def Matrix3.times (a : Matrix3 ℝ) (v : Vec3 ℝ) : Vec3 ℝ :=
  ⟨a.row0.x * v.x + a.row0.y * v.y + a.row0.z * v.z,
    a.row1.x * v.x + a.row1.y * v.y + a.row1.z * v.z,
    a.row2.x * v.x + a.row2.y * v.y + a.row2.z * v.z⟩

def Matrix3.transposed (a : Matrix3 ℝ) : Matrix3 ℝ :=
  ⟨⟨a.row0.x, a.row1.x, a.row2.x⟩, ⟨a.row0.y, a.row1.y, a.row2.y⟩, ⟨a.row0.z, a.row1.z, a.row2.z⟩⟩

def Matrix3.product (a b : Matrix3 ℝ) : Matrix3 ℝ :=
  ⟨b.transposed.times a.row0, b.transposed.times a.row1, b.transposed.times a.row2⟩

theorem apply_lift (a : Matrix3 ℝ) (v : Vec3 ℝ) : a.lift.apply v.lift = (a.times v).lift := rfl

theorem transpose_lift (a : Matrix3 ℝ) : a.lift.transpose = a.transposed.lift := rfl

theorem mul_lift (a b : Matrix3 ℝ) : a.lift.mul b.lift = (a.product b).lift := rfl

@[ext] theorem Matrix3.ext {K : Type} {a b : Matrix3 K} (h0 : a.row0 = b.row0)
    (h1 : a.row1 = b.row1) (h2 : a.row2 = b.row2) : a = b := by
  cases a
  cases b
  simp_all

namespace UnitQuaternion

theorem sum_sq (q : UnitQuaternion) : q.1.re ^ 2 + q.1.imI ^ 2 + q.1.imJ ^ 2 + q.1.imK ^ 2 = 1 := by
  have hUnit : q.1 * star q.1 = 1 := Unitary.coe_mul_star_self q
  have hNorm : (q.1 * star q.1).re = 1 := by rw [hUnit]; rfl
  rw [← Quaternion.normSq_def, Quaternion.normSq_def'] at hNorm
  exact hNorm

theorem diagonal_eq (q : UnitQuaternion) : 1 - 2 * (q.1.imJ * q.1.imJ + q.1.imK * q.1.imK) =
        q.1.re ^ 2 + q.1.imI ^ 2 - q.1.imJ ^ 2 - q.1.imK ^ 2 ∧
      1 - 2 * (q.1.imI * q.1.imI + q.1.imK * q.1.imK) =
        q.1.re ^ 2 - q.1.imI ^ 2 + q.1.imJ ^ 2 - q.1.imK ^ 2 ∧
      1 - 2 * (q.1.imI * q.1.imI + q.1.imJ * q.1.imJ) =
        q.1.re ^ 2 - q.1.imI ^ 2 - q.1.imJ ^ 2 + q.1.imK ^ 2 := by
  have hSum := q.sum_sq
  refine ⟨?_, ?_, ?_⟩ <;> linear_combination -hSum

theorem rotationMatrix_mul (p q : UnitQuaternion) :
    rotationMatrix (p * q).1 = (rotationMatrix p.1).product (rotationMatrix q.1) := by
  obtain ⟨hp0, hp1, hp2⟩ := p.diagonal_eq
  obtain ⟨hq0, hq1, hq2⟩ := q.diagonal_eq
  obtain ⟨h0, h1, h2⟩ := (p * q).diagonal_eq
  simp only [rotationMatrix, Matrix3.product, Matrix3.times, Matrix3.transposed, hp0, hp1, hp2,
    hq0, hq1, hq2, h0, h1, h2]
  simp only [Submonoid.coe_mul, Quaternion.re_mul, Quaternion.imI_mul, Quaternion.imJ_mul,
    Quaternion.imK_mul]
  ext <;> simp only <;> ring

theorem rotationMatrix_inv (q : UnitQuaternion) :
    rotationMatrix q⁻¹.1 = (rotationMatrix q.1).transposed := by
  have hInv : q⁻¹.1 = star q.1 := rfl
  simp only [hInv, rotationMatrix, Matrix3.transposed, Quaternion.re_star, Quaternion.imI_star,
    Quaternion.imJ_star, Quaternion.imK_star]
  ext <;> simp only <;> ring

theorem rotationMatrix_neg (q : ℍ[ℝ]) : rotationMatrix (-q) = rotationMatrix q := by
  simp only [rotationMatrix, Quaternion.re_neg, Quaternion.imI_neg, Quaternion.imJ_neg,
    Quaternion.imK_neg]
  ext <;> simp only <;> ring

theorem rotationMatrix_one :
    rotationMatrix (1 : UnitQuaternion).1 = ⟨⟨1, 0, 0⟩, ⟨0, 1, 0⟩, ⟨0, 0, 1⟩⟩ := by
  ext <;> simp [rotationMatrix]

noncomputable instance : DistribMulAction UnitQuaternion (Vec3 ℝ) where
  smul q v := (rotationMatrix q.1).times v
  one_smul v := by
    change (rotationMatrix (1 : UnitQuaternion).1).times v = v
    rw [rotationMatrix_one]
    ext <;> simp [Matrix3.times]
  mul_smul p q v := by
    change (rotationMatrix (p * q).1).times v =
      (rotationMatrix p.1).times ((rotationMatrix q.1).times v)
    rw [rotationMatrix_mul]
    ext <;> simp only [Matrix3.product, Matrix3.times, Matrix3.transposed] <;> ring
  smul_zero q := by
    change (rotationMatrix q.1).times ⟨0, 0, 0⟩ = ⟨0, 0, 0⟩
    ext <;> simp [Matrix3.times]
  smul_add q a b := by
    change (rotationMatrix q.1).times ⟨a.x + b.x, a.y + b.y, a.z + b.z⟩ =
      (rotationMatrix q.1).times a + (rotationMatrix q.1).times b
    ext <;> change _ = _ + _ <;> simp only [Matrix3.times] <;> ring

theorem smul_def (q : UnitQuaternion) (v : Vec3 ℝ) : q • v = (rotationMatrix q.1).times v := rfl

def coordinates (q : ℍ[ℝ]) : Quaternion (ExactReal ℝ) :=
  Quaternion.lift ⟨q.imI, q.imJ, q.imK, q.re⟩

theorem toRotationMatrix_coordinates (q : ℍ[ℝ]) :
    (coordinates q).toRotationMatrix = (rotationMatrix q).lift := by
  simp only [coordinates, Quaternion.lift, Quaternion.toRotationMatrix, Matrix3.lift, Vec3.lift,
    rotationMatrix, ExactReal.lit_finite, ExactReal.mul_finite, ExactReal.add_finite,
    ExactReal.sub_finite]
  congr 3 <;> push_cast <;> ring

theorem squaredNorm_coordinates (q : UnitQuaternion) :
    (coordinates q.1).squaredNorm = .finite 1 := by
  have hSum := q.sum_sq
  simp only [coordinates, Quaternion.lift, Quaternion.squaredNorm, ExactReal.mul_finite,
    ExactReal.add_finite, ExactReal.finite.injEq]
  linear_combination hSum

theorem normalized_coordinates (q : UnitQuaternion) :
    (coordinates q.1).normalized = coordinates q.1 := by
  have hPositive : (lit 0 : ExactReal ℝ) < .finite 1 := by
    rw [ExactReal.lit_finite, ExactReal.lt_finite]
    norm_num
  have hRoot : FloatOps.sqrt (.finite 1 : ExactReal ℝ) = .finite 1 := by
    rw [ExactReal.sqrt_finite zero_le_one]
    exact congrArg _ Real.sqrt_one
  simp only [Quaternion.normalized, squaredNorm_coordinates, if_pos hPositive, hRoot]
  simp only [coordinates, Quaternion.lift, Quaternion.divide,
    ExactReal.div_finite _ (one_ne_zero (α := ℝ)), div_one]

/-- One branch of the conversion: `t` is twice the absolute value of a component that is not zero,
and every entry used is four times the product of this component with another one. -/
theorem root_of_component {a c : ℝ} (h : a = 4 * c ^ 2) :
    FloatOps.sqrt (.finite a : ExactReal ℝ) = .finite (2 * |c|) := by
  have hRoot : Real.sqrt (4 * c ^ 2) = 2 * |c| := by
    rw [show 4 * c ^ 2 = (2 * c) ^ 2 by ring, Real.sqrt_sq_eq_abs, abs_mul, abs_two]
  rw [h, ExactReal.sqrt_finite (by positivity)]
  exact congrArg _ hRoot

theorem quotient_of_component {c : ℝ} (hc : c ≠ 0) :
    (lit (1 / 2) / .finite (2 * |c|) : ExactReal ℝ) = .finite (1 / (4 * |c|)) := by
  have hAbs : |c| ≠ 0 := abs_ne_zero.mpr hc
  rw [ExactReal.lit_finite, ExactReal.div_finite _ (mul_ne_zero two_ne_zero hAbs)]
  congr 1
  field_simp
  norm_num

theorem own_of_component {c : ℝ} (hc : c ≠ 0) :
    (lit (1 / 2) * .finite (2 * |c|) : ExactReal ℝ) = .finite (4 * c * (1 / (4 * |c|)) * c) := by
  have hSquare : |c| * |c| = c * c := abs_mul_abs_self c
  rw [ExactReal.lit_finite, ExactReal.mul_finite]
  congr 1
  field_simp
  linear_combination hSquare

def SameUpToSign (r : Quaternion (ExactReal ℝ)) (q : UnitQuaternion) : Prop :=
  r = coordinates q.1 ∨ r = coordinates (-q).1

variable {q : UnitQuaternion} {r : Quaternion (ExactReal ℝ)}

theorem SameUpToSign.normalized (h : SameUpToSign r q) : r.normalized = r := by
  rcases h with rfl | rfl
  · exact normalized_coordinates q
  · exact normalized_coordinates (-q)

theorem SameUpToSign.toRotationMatrix (h : SameUpToSign r q) :
    r.toRotationMatrix = (rotationMatrix q.1).lift := by
  rcases h with rfl | rfl
  · exact toRotationMatrix_coordinates q.1
  · rw [toRotationMatrix_coordinates]
    exact congrArg Matrix3.lift (rotationMatrix_neg q.1)

theorem sameUpToSign_of_component {c i j k r : ℝ} (hc : c ≠ 0)
    (hi : i = 4 * c * (1 / (4 * |c|)) * q.1.imI) (hj : j = 4 * c * (1 / (4 * |c|)) * q.1.imJ)
    (hk : k = 4 * c * (1 / (4 * |c|)) * q.1.imK) (hr : r = 4 * c * (1 / (4 * |c|)) * q.1.re) :
    SameUpToSign ⟨.finite i, .finite j, .finite k, .finite r⟩ q := by
  rcases lt_or_gt_of_ne hc with hNeg | hPos
  · right
    have hSign : 4 * c * (1 / (4 * |c|)) = -1 := by
      rw [abs_of_neg hNeg]
      field_simp
    have hCoe : (-q).1 = -q.1 := rfl
    rw [hi, hj, hk, hr, hSign]
    simp [coordinates, Quaternion.lift, hCoe]
  · left
    have hSign : 4 * c * (1 / (4 * |c|)) = 1 := by
      rw [abs_of_pos hPos]
      field_simp
    rw [hi, hj, hk, hr, hSign]
    simp [coordinates, Quaternion.lift]

theorem ofRotationMatrix_rotationMatrix (q : UnitQuaternion) :
    SameUpToSign (Quaternion.ofRotationMatrix (rotationMatrix q.1).lift) q := by
  have hSum := q.sum_sq
  simp only [Quaternion.ofRotationMatrix, Matrix3.lift, Vec3.lift, rotationMatrix,
    ExactReal.lit_finite 0, ExactReal.lit_finite 1, ExactReal.add_finite, ExactReal.sub_finite,
    ExactReal.lt_finite]
  push_cast
  -- in every branch the chosen component is not zero
  split_ifs with hTrace h01 h12 h02
  · have hc : q.1.re ≠ 0 := fun h => by nlinarith
    rw [root_of_component (c := q.1.re) (by linear_combination -4 * hSum),
      quotient_of_component hc, own_of_component hc]
    exact sameUpToSign_of_component hc (by ring) (by ring) (by ring) rfl
  · have hc : q.1.imK ≠ 0 := fun h => by nlinarith
    rw [root_of_component (c := q.1.imK) (by ring), quotient_of_component hc, own_of_component hc]
    exact sameUpToSign_of_component hc (by ring) (by ring) rfl (by ring)
  · have hc : q.1.imJ ≠ 0 := fun h => by nlinarith
    rw [root_of_component (c := q.1.imJ) (by ring), quotient_of_component hc, own_of_component hc]
    exact sameUpToSign_of_component hc (by ring) rfl (by ring) (by ring)
  · have hc : q.1.imK ≠ 0 := fun h => by nlinarith
    rw [root_of_component (c := q.1.imK) (by ring), quotient_of_component hc, own_of_component hc]
    exact sameUpToSign_of_component hc (by ring) (by ring) rfl (by ring)
  · have hc : q.1.imI ≠ 0 := fun h => by nlinarith
    rw [root_of_component (c := q.1.imI) (by ring), quotient_of_component hc, own_of_component hc]
    exact sameUpToSign_of_component hc rfl (by ring) (by ring) (by ring)

noncomputable instance : Trigonometry (ExactReal ℝ) where
  cos
    | .finite angle => .finite (Real.cos angle)
    | .nonFinite => .nonFinite
  sin
    | .finite angle => .finite (Real.sin angle)
    | .nonFinite => .nonFinite

theorem mem_unitary_of_sum_sq {q : ℍ[ℝ]}
    (h : q.re ^ 2 + q.imI ^ 2 + q.imJ ^ 2 + q.imK ^ 2 = 1) : q ∈ unitary ℍ[ℝ] := by
  have hNorm : Quaternion.normSq q = 1 := by
    rw [Quaternion.normSq_def']
    exact h
  rw [Unitary.mem_iff, Quaternion.star_mul_self, Quaternion.self_mul_star, hNorm]
  exact ⟨rfl, rfl⟩

noncomputable def heading (angle : ℝ) : UnitQuaternion where
  val := ⟨Real.cos (angle / 2), 0, 0, Real.sin (angle / 2)⟩
  property := by
    apply mem_unitary_of_sum_sq
    simp

theorem angleAxisMatrix_heading (angle : ℝ) :
    angleAxisMatrix (.finite angle) ⟨lit 0, lit 0, lit 1⟩ =
      (rotationMatrix (heading angle).1).lift := by
  have hCos : Real.cos angle = 1 - 2 * Real.sin (angle / 2) ^ 2 := by
    have hDouble := Real.cos_two_mul (angle / 2)
    have hSquare := Real.sin_sq_add_cos_sq (angle / 2)
    rw [show 2 * (angle / 2) = angle by ring] at hDouble
    linear_combination hDouble + 2 * hSquare
  have hSin : Real.sin angle = 2 * (Real.sin (angle / 2) * Real.cos (angle / 2)) := by
    have hDouble := Real.sin_two_mul (angle / 2)
    rw [show 2 * (angle / 2) = angle by ring] at hDouble
    linear_combination hDouble
  simp only [angleAxisMatrix, Trigonometry.cos, Trigonometry.sin, Vec3.scale, heading,
    rotationMatrix, Matrix3.lift, Vec3.lift, ExactReal.lit_finite, ExactReal.mul_finite,
    ExactReal.add_finite, ExactReal.sub_finite, hCos, hSin]
  congr 3 <;> push_cast <;> ring

noncomputable def unit (q : Quaternion ℝ) (h : 0 < q.x * q.x + q.y * q.y + q.z * q.z + q.w * q.w) :
    UnitQuaternion :=
  let n := Real.sqrt (q.x * q.x + q.y * q.y + q.z * q.z + q.w * q.w)
  { val := ⟨q.w / n, q.x / n, q.y / n, q.z / n⟩
    property := by
      apply mem_unitary_of_sum_sq
      have hSquare := Real.sq_sqrt h.le
      simp only [div_pow, n, hSquare, ← add_div]
      rw [div_eq_one_iff_eq h.ne']
      ring }

theorem normalized_unit (q : Quaternion ℝ) (h : 0 < q.x * q.x + q.y * q.y + q.z * q.z + q.w * q.w) :
    q.lift.normalized = coordinates (unit q h).1 := by
  have hNorm : q.lift.squaredNorm = .finite (q.x * q.x + q.y * q.y + q.z * q.z + q.w * q.w) := rfl
  have hPositive : (lit 0 : ExactReal ℝ) < q.lift.squaredNorm := by
    rw [hNorm, ExactReal.lit_finite, ExactReal.lt_finite]
    exact_mod_cast h
  have hRoot : FloatOps.sqrt q.lift.squaredNorm =
      .finite (Real.sqrt (q.x * q.x + q.y * q.y + q.z * q.z + q.w * q.w)) := by
    exact ExactReal.sqrt_finite h.le
  have hNe : Real.sqrt (q.x * q.x + q.y * q.y + q.z * q.z + q.w * q.w) ≠ 0 :=
    (Real.sqrt_pos.mpr h).ne'
  simp only [Quaternion.normalized, if_pos hPositive, hRoot]
  simp only [Quaternion.lift, Quaternion.divide, coordinates, unit, ExactReal.div_finite _ hNe]

end UnitQuaternion

end UavNavigation
