import UavNavigation.PieceCurves

/-!
# The distance between a piece and its chord

The sweep of the validator asks for a tube around the chord of each step, with an eighth of
`polynomialAccelerationBoundOverInterval` times the square of the time as its radius.
-/

namespace UavNavigation

set_option autoImplicit false

open FloatOps ExactReal

namespace Piece

open CoefficientLists Finset Polynomial FloatOps ExactReal

section Code
variable {D : Type} [FloatOps D]

/-- `std::pow` with an integer. -/
def power (x : D) : Nat → D
  | 0 => lit 1
  | n + 1 => power x n * x

/-- The inner loop, at the global power `i + k` and with its binomial. -/
def addCoefficients (start : D) (i : Nat) : Nat → D → D → List (Vec3 D) → D
  | _, _, sum, [] => sum
  | k, binomial, sum, column :: rest =>
    let term := ofInt (i + k + 2) * ofInt (i + k + 1) * column.norm * binomial * power start k
    if !isFinite term || !isFinite (sum + term) then infinity
    else addCoefficients start i (k + 1) (binomial * (ofInt (i + k + 1) / ofInt (k + 1)))
      (sum + term) rest

/-- The outer loop, at the local power `i`. -/
def addPowers (start duration : D) : Nat → D → List (Vec3 D) → D
  | _, bound, [] => bound
  | i, bound, column :: rest =>
    let term := addCoefficients start i 0 (lit 1) (lit 0) (column :: rest) * power duration i
    if !isFinite term || !isFinite (bound + term) then infinity
    else addPowers start duration (i + 1) (bound + term) rest

def polynomialAccelerationBoundOverInterval (piece : Piece D) (start finish : D) : D :=
  if !isFinite piece.duration || piece.duration < lit 0 || piece.coeffMat.length < 3 ||
    !piece.coeffMat.all Vec3.allFinite || !isFinite start || !isFinite finish ||
    start < lit 0 || finish < start || piece.duration < finish then infinity
  else if !isFinite (finish - start) || finish - start < lit 0 then infinity
  else addPowers start (finish - start) 0 (lit 0) (piece.coeffMat.reverse.drop 2)

end Code

/-- A sum of powers, expanded around `a`. -/
theorem sum_shifted (w : ℕ → ℝ) (a h : ℝ) (n : ℕ) :
    ∑ i ∈ range n, (∑ k ∈ range (n - i), w (i + k) * (i + k).choose i * a ^ k) * h ^ i =
      ∑ j ∈ range n, w j * (a + h) ^ j := by
  have hPower (j : ℕ) : w j * (a + h) ^ j =
      ∑ i ∈ Ico 0 (j + 1), w j * j.choose i * a ^ (j - i) * h ^ i := by
    rw [add_comm, add_pow, mul_sum, range_eq_Ico]
    exact sum_congr rfl fun i _ => by ring
  simp only [hPower]
  rw [range_eq_Ico, ← sum_Ico_Ico_comm]
  refine sum_congr rfl fun i _ => ?_
  rw [sum_Ico_eq_sum_range, sum_mul]
  simp only [Nat.add_sub_cancel_left]

/-- How far a power lies below its chord. -/
theorem chord_power {a b p q : ℝ} (ha : 0 ≤ a) (hab : a ≤ b) (hp : 0 ≤ p) (hq : 0 ≤ q)
    (hpq : p + q = 1) (j : ℕ) : |(p * a + q * b) ^ j - (p * a ^ j + q * b ^ j)| ≤
      j.descFactorial 2 * b ^ (j - 2) * ((b - a) ^ 2 / 8) := by
  obtain rfl := eq_sub_of_add_eq hpq
  have hb := ha.trans hab
  have hGap := mul_nonneg (mul_nonneg hp hq) (sub_nonneg.mpr hab)
  have hBelow (n : ℕ) : 0 ≤ (1 - q) * a ^ n + q * b ^ n - ((1 - q) * a + q * b) ^ n ∧
      (1 - q) * a ^ n + q * b ^ n - ((1 - q) * a + q * b) ^ n ≤
        n.descFactorial 2 * b ^ (n - 2) * ((1 - q) * q / 2 * (b - a) ^ 2) := by
    induction n with
    | zero => simp
    | succ n ih =>
      have hStep : (1 - q) * a ^ (n + 1) + q * b ^ (n + 1) - ((1 - q) * a + q * b) ^ (n + 1) =
          ((1 - q) * a + q * b) * ((1 - q) * a ^ n + q * b ^ n - ((1 - q) * a + q * b) ^ n) +
            (1 - q) * q * (b - a) * (b ^ n - a ^ n) := by ring
      have hDifference : b ^ n - a ^ n ≤ (b - a) * n * b ^ (n - 1) := by
        have hAbs := (le_abs_self _).trans (abs_pow_sub_pow_le b a n)
        rwa [abs_of_nonneg (sub_nonneg.mpr hab), abs_of_nonneg hb, abs_of_nonneg ha,
          max_eq_left hab] at hAbs
      have hFactor : (n + 1).descFactorial 2 * b ^ (n + 1 - 2) =
          b * (n.descFactorial 2 * b ^ (n - 2)) + 2 * (n * b ^ (n - 1)) := by
        rcases n with _ | _ | n
        · simp
        · simp
        · simp only [Nat.descFactorial_succ, Nat.descFactorial_zero, Nat.add_sub_cancel]
          push_cast [Nat.add_sub_cancel]
          ring
      have hBetween : (1 - q) * a + q * b ≤ b := by nlinarith
      rw [hStep, hFactor]
      constructor
      · have hRises := sub_nonneg.mpr (pow_le_pow_left₀ ha hab n)
        exact add_nonneg (mul_nonneg (by positivity) ih.1) (mul_nonneg hGap hRises)
      · have hFirst := mul_le_mul hBetween ih.2 ih.1 hb
        have hSecond := mul_le_mul_of_nonneg_left hDifference hGap
        linarith
  have hHalf : (1 - q) * q / 2 * (b - a) ^ 2 ≤ (b - a) ^ 2 / 8 := by
    nlinarith [mul_nonneg (sq_nonneg (q - 1 / 2)) (sq_nonneg (b - a))]
  rw [abs_sub_comm, abs_of_nonneg (hBelow j).1]
  exact (hBelow j).2.trans (mul_le_mul_of_nonneg_left hHalf (by positivity))

def column (cs : List (Vec3 ℝ)) (j : ℕ) : Vec3 ℝ := cs.getD j ⟨0, 0, 0⟩

/-- A combination of columns. -/
def combine (φ : ℕ → ℝ) (cs : List (Vec3 ℝ)) : Vec3 ℝ :=
  ⟨∑ j ∈ range cs.length, φ j * (column cs j).x, ∑ j ∈ range cs.length, φ j * (column cs j).y,
    ∑ j ∈ range cs.length, φ j * (column cs j).z⟩

theorem length_combine_le {φ w : ℕ → ℝ} (h : ∀ j, |φ j| ≤ w j) (cs : List (Vec3 ℝ)) :
    (combine φ cs).length ≤ ∑ j ∈ range cs.length, w j * (column cs j).length := by
  have hSum : (combine φ cs).euclidean =
      ∑ j ∈ range cs.length, φ j • (column cs j).euclidean := by
    ext i
    fin_cases i <;> simp [combine, Vec3.euclidean]
  rw [Vec3.length_eq_norm, hSum]
  refine (norm_sum_le _ _).trans (sum_le_sum fun j _ => ?_)
  rw [norm_smul, Real.norm_eq_abs, ← Vec3.length_eq_norm]
  exact mul_le_mul_of_nonneg_right (h j) (Vec3.length_nonneg _)

theorem curveOf_eq_combine (columns : List (Vec3 ℝ)) (k : ℕ) (t : ℝ) :
    curveOf columns k t = combine (fun j => j.descFactorial k * t ^ (j - k)) columns.reverse := by
  have hRow (row : List ℝ) : (derivative^[k] (descending row)).eval t =
      ∑ j ∈ range row.length, j.descFactorial k * t ^ (j - k) * row.reverse.getD j 0 := by
    have hSum : descending row = ∑ j ∈ range row.length, C (row.reverse.getD j 0) * X ^ j := by
      ext i
      simp only [descending, coeff_ascending, finsetSum_coeff, coeff_C_mul, coeff_X_pow, mul_ite,
        mul_one, mul_zero, sum_ite_eq, mem_range]
      split_ifs with hi
      · rfl
      · exact List.getD_eq_default _ _ (by simpa using hi)
    rw [hSum, iterate_derivative_sum, eval_finsetSum]
    refine sum_congr rfl fun j _ => ?_
    rw [iterate_derivative_C_mul, iterate_derivative_X_pow_eq_natCast_mul]
    simp only [eval_mul, eval_C, eval_natCast, eval_pow, eval_X]
    ring
  have hGet (f : Vec3 ℝ → ℝ) (hf : f ⟨0, 0, 0⟩ = 0) (j : ℕ) :
      (columns.reverse.map f).getD j 0 = f (column columns.reverse j) := by
    rw [column, ← List.getD_map _ _ f, hf]
  simp only [curveOf, columnwise, hRow, combine, List.length_map, List.length_reverse,
    ← List.map_reverse, hGet Vec3.x rfl, hGet Vec3.y rfl, hGet Vec3.z rfl]

theorem power_finite (a : ℝ) (k : ℕ) : power (finite a) k = finite (a ^ k) := by
  induction k with
  | zero => simp [power, lit_finite]
  | succ k ih => rw [power, ih, mul_finite, pow_succ]

theorem addCoefficients_finite (a : ℝ) (i k : ℕ) (sum : ℝ) (cs : List (Vec3 ℝ)) :
    addCoefficients (.finite a) i k (.finite ((i + k).choose i)) (.finite sum) (cs.map Vec3.lift) =
      .finite (sum + ∑ m ∈ range cs.length, (i + k + m + 2) * (i + k + m + 1) *
        (column cs m).length * (i + k + m).choose i * a ^ (k + m)) := by
  induction cs generalizing k sum with
  | nil => simp [addCoefficients]
  | cons c cs ih =>
    have hNext : finite ((i + k).choose i : ℝ) * (ofInt (i + k + 1) / ofInt (k + 1)) =
        finite ((i + (k + 1)).choose i : ℝ) := by
      have hChoose := congrArg (Nat.cast (R := ℝ)) (Nat.choose_mul_succ_eq (i + k) i)
      rw [show i + k + 1 - i = k + 1 by omega] at hChoose
      push_cast at hChoose
      change finite _ * (finite _ / finite _) = _
      push_cast
      rw [div_finite _ (by positivity), mul_finite, mul_div_assoc', hChoose,
        mul_div_cancel_right₀ _ (by positivity), add_assoc]
    rw [List.map_cons, addCoefficients]
    simp only [power_finite, Vec3.norm_real, hNext]
    change addCoefficients _ _ _ _ (finite _) _ = _
    rw [ih, List.length_cons, sum_range_succ']
    congr 1
    simp only [column, List.getD_cons_succ, List.getD_cons_zero, ← add_assoc, add_right_comm _ 1]
    push_cast
    ring_nf

theorem addPowers_finite (a h : ℝ) (i : ℕ) (bound : ℝ) (cs : List (Vec3 ℝ)) :
    addPowers (.finite a) (.finite h) i (.finite bound) (cs.map Vec3.lift) =
      .finite (bound + ∑ m ∈ range cs.length, (∑ k ∈ range (cs.length - m),
        (i + m + k + 2) * (i + m + k + 1) * (column cs (m + k)).length * (i + m + k).choose (i + m) *
          a ^ k) * h ^ (i + m)) := by
  induction cs generalizing i bound with
  | nil => simp [addPowers]
  | cons c cs ih =>
    have hInner := addCoefficients_finite a i 0 0 (c :: cs)
    rw [add_zero, Nat.choose_self, Nat.cast_one, List.map_cons] at hInner
    rw [List.map_cons, addPowers]
    simp only [lit_finite, Rat.cast_zero, Rat.cast_one, hInner, power_finite]
    change addPowers _ _ _ (finite (_ + (_ * _))) _ = _
    rw [ih]
    conv_rhs => rw [List.length_cons, sum_range_succ']
    simp only [column, List.length_cons, Nat.add_sub_add_right, Nat.sub_zero, Nat.cast_add,
      Nat.cast_one, Nat.cast_zero, zero_add, add_zero, ← add_assoc, add_right_comm _ 1,
      add_right_comm _ (1 : ℝ), List.getD_cons_succ]
    exact congrArg finite (add_right_comm _ _ _)

/-- For each end of an interval there is one bound, wherever the interval starts: it bounds the
acceleration up to the end, and an eighth of it bounds the distance to the chord. -/
theorem chord_deviation_bounded {piece : Piece (ExactReal ℝ)} (hValid : piece.valid = true)
    (hDegree : 3 ≤ piece.coeffMat.length) {b : ℝ} (hEnd : b ≤ piece.horizon) :
    ∃ bound, (∀ t, 0 ≤ t → t ≤ b → (piece.curve 2 t).length ≤ bound) ∧
      ∀ a, 0 ≤ a → a ≤ b →
        piece.polynomialAccelerationBoundOverInterval (.finite a) (.finite b) = .finite bound ∧
        ∀ p q, 0 ≤ p → 0 ≤ q → p + q = 1 →
          Vec3.apart (piece.curve 0 (p * a + q * b))
              ⟨p * (piece.curve 0 a).x + q * (piece.curve 0 b).x,
                p * (piece.curve 0 a).y + q * (piece.curve 0 b).y,
                p * (piece.curve 0 a).z + q * (piece.curve 0 b).z⟩ ≤
            bound * (b - a) ^ 2 / 8 := by
  obtain ⟨duration, columns, rfl, hDuration, hColumns⟩ := exists_ofReals hValid
  simp only [ofReals, List.length_map] at hDegree
  obtain ⟨n, hn⟩ : ∃ n, columns.length = n + 2 := ⟨columns.length - 2, by omega⟩
  rw [horizon_ofReals] at hEnd
  simp only [curve, columns_ofReals, curveOf_eq_combine]
  refine ⟨∑ j ∈ range columns.reverse.length,
    j.descFactorial 2 * b ^ (j - 2) * (column columns.reverse j).length, ?_, ?_⟩
  · intro t ht htb
    refine length_combine_le (fun j => ?_) _
    rw [abs_of_nonneg (by positivity)]
    exact mul_le_mul_of_nonneg_left (pow_le_pow_left₀ ht htb _) (Nat.cast_nonneg _)
  · intro a ha hab
    constructor
    · have hDrop (j : ℕ) : column (columns.reverse.drop 2) j = column columns.reverse (j + 2) := by
        simp [column, List.getD_eq_getElem?_getD, add_comm]
      have hSum := sum_shifted
        (fun j => (j + 2) * (j + 1) * (column columns.reverse (j + 2)).length) a (b - a) n
      simp only [polynomialAccelerationBoundOverInterval, ofReals, lit_finite, Rat.cast_zero]
      rw [if_neg (by simp [hDegree, hDuration.le, ha, hab, hEnd]), if_neg (by simp [hab]),
        sub_finite, ← List.map_reverse, ← List.map_drop, addPowers_finite]
      simp only [hDrop, List.length_drop, List.length_reverse, hn, Nat.add_sub_cancel,
        Nat.cast_zero, zero_add]
      push_cast at hSum
      rw [hSum, add_sub_cancel, sum_range_succ', sum_range_succ']
      simp only [Nat.descFactorial_succ, Nat.descFactorial_zero, Nat.add_sub_cancel, Nat.sub_zero,
        Nat.zero_sub, Nat.zero_add, Nat.sub_self, Nat.cast_zero, zero_mul, add_zero]
      refine congrArg finite (sum_congr rfl fun j _ => ?_)
      push_cast
      ring
    · intro p q hp hq hpq
      have hDeviation := length_combine_le (chord_power ha hab hp hq hpq) columns.reverse
      rw [mul_div_assoc, sum_mul]
      refine le_trans (le_of_eq ?_) (hDeviation.trans (le_of_eq (sum_congr rfl fun j _ => by ring)))
      simp only [Vec3.apart, combine, mul_sum, ← sum_add_distrib, ← sum_sub_distrib]
      congr 2 <;> exact sum_congr rfl fun j _ => by simp; ring

theorem chord_deviation_accelerating : ∃ bound,
    (accelerating 1 1).polynomialAccelerationBoundOverInterval (.finite (1 / 2)) (.finite 1) =
        .finite bound ∧
      ((accelerating 1 1).curve 2 (3 / 4)).length ≤ bound ∧
      Vec3.apart ((accelerating 1 1).curve 0 (3 / 4)) ⟨5 / 8, 0, 0⟩ ≤ bound * (1 / 2) ^ 2 / 8 := by
  obtain ⟨bound, hRate, h⟩ := chord_deviation_bounded (valid_accelerating one_pos 1) le_rfl le_rfl
  obtain ⟨hBound, hChord⟩ := h (1 / 2) (by norm_num) (show (1 / 2 : ℝ) ≤ 1 by norm_num)
  have hPosition (t : ℝ) : (accelerating 1 1).curve 0 t = ⟨t ^ 2, 0, 0⟩ := by
    unfold curve accelerating
    simp [curveOf, columnwise, descending]
    ring
  have hMiddle := hChord (1 / 2) (1 / 2) (by norm_num) (by norm_num) (by norm_num)
  refine ⟨bound, hBound, hRate _ (by norm_num) (show (3 / 4 : ℝ) ≤ 1 by norm_num), ?_⟩
  have hHorizon : (accelerating 1 1).horizon = 1 := horizon_ofReals _ _
  rw [hHorizon] at hMiddle
  norm_num [hPosition] at hMiddle ⊢
  exact hMiddle

end Piece

end UavNavigation
