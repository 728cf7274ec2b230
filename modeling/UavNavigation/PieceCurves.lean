import UavNavigation.CoefficientLists
import UavNavigation.PolynomialExtrema
import UavNavigation.DynamicLimits
import UavNavigation.ExactReals

/-!
# The curve of a piece

Over the real numbers a valid piece is a polynomial curve with a duration. The
evaluation computes its derivatives, and the normalized matrices are the derivatives
over the unit interval.
-/

namespace UavNavigation

set_option autoImplicit false

open FloatOps Polynomial CoefficientLists ExactReal List

def ExactReal.value : ExactReal ℝ → ℝ
  | .finite x => x
  | .nonFinite => 0

def columnwise {K L : Type} (f : List K → L) (columns : List (Vec3 K)) : Vec3 L :=
  ⟨f (columns.map Vec3.x), f (columns.map Vec3.y), f (columns.map Vec3.z)⟩

/-- The `k`-th derivative of the curve with these columns. -/
noncomputable def curveOf (columns : List (Vec3 ℝ)) (k : ℕ) (t : ℝ) : Vec3 ℝ :=
  columnwise (fun row => (derivative^[k] (descending row)).eval t) columns

namespace Piece

def horizon (piece : Piece (ExactReal ℝ)) : ℝ := piece.duration.value

def columns (piece : Piece (ExactReal ℝ)) : List (Vec3 ℝ) :=
  piece.coeffMat.map fun c => ⟨c.x.value, c.y.value, c.z.value⟩

/-- The `k`-th derivative of the position. -/
noncomputable def curve (piece : Piece (ExactReal ℝ)) (k : ℕ) (t : ℝ) : Vec3 ℝ :=
  curveOf piece.columns k t

def ofReals (duration : ℝ) (columns : List (Vec3 ℝ)) : Piece (ExactReal ℝ) :=
  ⟨.finite duration, columns.map Vec3.lift⟩

section
variable (duration : ℝ) (columns : List (Vec3 ℝ))

@[simp] theorem horizon_ofReals : (ofReals duration columns).horizon = duration := rfl

@[simp] theorem columns_ofReals : (ofReals duration columns).columns = columns := by
  unfold Piece.columns ofReals
  rw [map_map]
  exact map_id columns

theorem valid_ofReals_iff :
    (ofReals duration columns).valid = true ↔ 0 < duration ∧ columns ≠ [] := by
  have hFinite : (columns.map Vec3.lift).all Vec3.allFinite = true := by
    rw [all_map, all_eq_true]
    exact fun c _ => Vec3.allFinite_lift c
  have hPositive : ((lit 0 : ExactReal ℝ) < .finite duration) ↔ 0 < duration := by
    rw [lit_finite, lt_finite, Rat.cast_zero]
  simp [valid, ofReals, hPositive, hFinite]

end

theorem lift_columns {columns : List (Vec3 (ExactReal ℝ))}
    (h : columns.all Vec3.allFinite = true) : ∃ cs : List (Vec3 ℝ), columns = cs.map Vec3.lift := by
  induction columns with
  | nil => exact ⟨[], rfl⟩
  | cons c columns ih =>
    rw [all_cons, Bool.and_eq_true] at h
    obtain ⟨a, rfl⟩ := Vec3.allFinite_iff.mp h.1
    obtain ⟨cs, rfl⟩ := ih h.2
    exact ⟨a :: cs, rfl⟩

theorem exists_ofReals {piece : Piece (ExactReal ℝ)} (h : piece.valid = true) :
    ∃ duration columns, piece = ofReals duration columns ∧ 0 < duration ∧ columns ≠ [] := by
  have hParts := h
  simp only [valid, Bool.and_eq_true] at hParts
  obtain ⟨duration, hDuration⟩ := isFinite_iff.mp hParts.1.1.1
  obtain ⟨columns, hColumns⟩ := lift_columns hParts.2
  have hPiece : piece = ofReals duration columns := by
    cases piece
    simp_all [ofReals]
  rw [hPiece] at h
  exact ⟨duration, columns, hPiece, (valid_ofReals_iff duration columns).mp h⟩

variable {factor : ℕ → ExactReal ℝ → ExactReal ℝ}

theorem addTerms_ofReals {weight : ℕ → ℝ}
    (hFactor : ∀ i x, factor i (.finite x) = .finite (weight i * x)) (t : ℝ) (i : ℕ) (tn : ℝ)
    (sum : Vec3 ℝ) (columns : List (Vec3 ℝ)) :
    addTerms (.finite t) factor i (.finite tn) sum.lift (columns.map Vec3.lift) = Vec3.lift
        ⟨sum.x + tn * (ascending (scaled 1 weight i 1 (columns.map Vec3.x))).eval t,
          sum.y + tn * (ascending (scaled 1 weight i 1 (columns.map Vec3.y))).eval t,
          sum.z + tn * (ascending (scaled 1 weight i 1 (columns.map Vec3.z))).eval t⟩ := by
  induction columns generalizing i tn sum with
  | nil => simp [addTerms, scaled]
  | cons c columns ih =>
    simp only [map_cons, addTerms, hFactor, mul_finite, Vec3.scale_lift,
      Vec3.lift_add, ih, scaled, eval_ascending_cons, one_mul]
    congr 2 <;> ring

theorem evaluate_ofReals {order : ℕ}
    (hFactor : ∀ i x, factor i (.finite x) = .finite (((i + order).descFactorial order : ℝ) * x))
    {duration : ℝ} {columns : List (Vec3 ℝ)} (hDuration : 0 < duration) (hColumns : columns ≠ [])
    (t : ℝ) : (ofReals duration columns).evaluate factor order (.finite t) =
      (curveOf columns order t).lift := by
  have hValid := (valid_ofReals_iff duration columns).mpr ⟨hDuration, hColumns⟩
  have hOne : (lit 1 : ExactReal ℝ) = .finite 1 := by simp [lit_finite]
  simp only [evaluate, hValid, isFinite_finite, Bool.not_true, Bool.or_self,
    Bool.false_eq_true, if_false]
  rw [show (ofReals duration columns).coeffMat.reverse.drop order =
      (columns.reverse.drop order).map Vec3.lift by
    rw [ofReals, ← map_reverse, map_drop], Vec3.zero_lift, hOne]
  rw [addTerms_ofReals hFactor]
  simp only [curveOf, columnwise, descending, ascending_iterate_derivative, zero_add, one_mul,
    map_drop, map_reverse]

section Derivatives
variable {duration : ℝ} {columns : List (Vec3 ℝ)} (hDuration : 0 < duration)
  (hColumns : columns ≠ []) (t : ℝ)
include hDuration hColumns

theorem getPos_ofReals :
    (ofReals duration columns).getPos (.finite t) = (curveOf columns 0 t).lift := by
  apply evaluate_ofReals _ hDuration hColumns
  intro i x
  simp

theorem getVel_ofReals :
    (ofReals duration columns).getVel (.finite t) = (curveOf columns 1 t).lift := by
  apply evaluate_ofReals _ hDuration hColumns
  intro i x
  rw [Nat.descFactorial_one]
  rfl

theorem getAcc_ofReals :
    (ofReals duration columns).getAcc (.finite t) = (curveOf columns 2 t).lift := by
  apply evaluate_ofReals _ hDuration hColumns
  intro i x
  change (finite _ * finite x : ExactReal ℝ) = _
  rw [mul_finite, show (i + 2).descFactorial 2 = (i + 1) * (i + 2) by
    simp [Nat.descFactorial_succ]]
  rfl

theorem getJer_ofReals :
    (ofReals duration columns).getJer (.finite t) = (curveOf columns 3 t).lift := by
  apply evaluate_ofReals _ hDuration hColumns
  intro i x
  change (finite _ * finite x : ExactReal ℝ) = _
  rw [mul_finite, show (i + 3).descFactorial 3 = (i + 1) * (i + 2) * (i + 3) by
    simp [Nat.descFactorial_succ]; ring]
  rfl

end Derivatives

theorem normalizeColumns_ofReals {factor : ℕ → Int} {weight : ℕ → ℝ}
    (hFactor : ∀ i, ((factor i : Int) : ℝ) = weight i) (duration : ℝ) (i : ℕ) (t : ℝ)
    (columns : List (Vec3 ℝ)) :
    ∃ normalized : List (Vec3 ℝ),
      normalizeColumns (.finite duration) factor i (.finite t) (columns.map Vec3.lift) =
        normalized.map Vec3.lift ∧
      normalized.map Vec3.x = scaled duration weight i t (columns.map Vec3.x) ∧
      normalized.map Vec3.y = scaled duration weight i t (columns.map Vec3.y) ∧
      normalized.map Vec3.z = scaled duration weight i t (columns.map Vec3.z) := by
  induction columns generalizing i t with
  | nil => exact ⟨[], rfl, rfl, rfl, rfl⟩
  | cons c columns ih =>
    obtain ⟨rest, hRest, hx, hy, hz⟩ := ih (i + 1) (t * duration)
    refine ⟨⟨t * (weight i * c.x), t * (weight i * c.y), t * (weight i * c.z)⟩ :: rest,
      ?_, ?_, ?_, ?_⟩
    · simp only [map_cons, normalizeColumns, mul_finite, hRest]
      rw [← hFactor i]
      rfl
    · rw [map_cons, map_cons, hx, scaled]
    · rw [map_cons, map_cons, hy, scaled]
    · rw [map_cons, map_cons, hz, scaled]

/-- A row whose polynomial is `factor` times a derivative in the time of the unit interval. -/
theorem eval_normalized_row {row normalized : List ℝ} {order : ℕ} {duration factor : ℝ}
    (h : normalized.reverse =
      scaled duration (fun i => ((i + order).descFactorial order : ℝ)) 0 factor
        (row.reverse.drop order)) (τ : ℝ) :
    (descending normalized).eval τ =
      factor * (derivative^[order] (descending row)).eval (duration * τ) := by
  rw [descending, h, eval_scaled, descending, ascending_iterate_derivative]

end Piece

/-! ## Coefficient rows of real numbers -/

theorem ExactReal.lit_zero : (lit 0 : ExactReal ℝ) = .finite 0 := by
  rw [lit_finite, Rat.cast_zero]

theorem ExactReal.lit_one : (lit 1 : ExactReal ℝ) = .finite 1 := by
  rw [lit_finite, Rat.cast_one]

theorem ExactReal.lit_two : (lit 2 : ExactReal ℝ) = .finite 2 := by
  rw [lit_finite, Rat.cast_ofNat]

def finiteRow (row : List ℝ) : List (ExactReal ℝ) := row.map .finite

@[simp] theorem length_finiteRow (row : List ℝ) : (finiteRow row).length = row.length :=
  length_map _

theorem getD_finiteRow (row : List ℝ) (j : ℕ) :
    (finiteRow row).getD j (lit 0) = .finite (row.getD j 0) := by
  rw [lit_zero, finiteRow, getD_map]

variable {row : List ℝ}

theorem foldl_finite_add (g : ℕ → ℝ) (start count : ℕ) (s : ℝ) :
    (List.range' start count).foldl (fun temp j => temp + finite (g j)) (.finite s) =
      .finite (s + ∑ j ∈ Finset.Ico start (start + count), g j) := by
  induction count generalizing start s with
  | zero => simp
  | succ count ih =>
    rw [range'_succ, foldl_cons, add_finite, ih,
      Finset.sum_eq_sum_Ico_succ_bot (show start < start + (count + 1) by omega),
      show start + 1 + count = start + (count + 1) by omega, add_assoc]

theorem sum_antidiagonal_eq (row : List ℝ) (i : ℕ) :
    ∑ x ∈ Finset.HasAntidiagonal.antidiagonal i, row.getD x.1 0 * row.getD x.2 0 =
      ∑ j ∈ Finset.Ico (i + 1 - row.length) (min row.length (i + 1)),
        row.getD j 0 * row.getD (i - j) 0 := by
  rw [Finset.Nat.sum_antidiagonal_eq_sum_range_succ_mk, Finset.range_eq_Ico]
  symm
  apply Finset.sum_subset
  · intro j hj
    rw [Finset.mem_Ico] at hj ⊢
    omega
  · intro j hj hNot
    rw [Finset.mem_Ico] at hj hNot
    by_cases hRow : row.length ≤ j
    · rw [getD_eq_default row _ hRow, zero_mul]
    · have hOutside : row.length ≤ i - j := by omega
      rw [getD_eq_default row _ hOutside, mul_zero]

theorem sum_antidiagonal_symmetric {i : ℕ} (hi : i < 2 * row.length - 1) :
    ∑ x ∈ Finset.HasAntidiagonal.antidiagonal i, row.getD x.1 0 * row.getD x.2 0 =
      (if (i + 1) % 2 = 1 then row.getD ((i + 1) / 2) 0 * row.getD ((i + 1) / 2) 0 else 0) +
        ∑ j ∈ Finset.Ico (i + 1 - row.length) ((i + 1) / 2),
          2 * row.getD j 0 * row.getD (i - j) 0 := by
  obtain ⟨n, hn⟩ : ∃ n, min row.length (i + 1) = i + 1 - row.length + n :=
    Nat.exists_eq_add_of_le (by omega)
  have hEnds : i + 1 - row.length + (i + 1 - row.length + n) = i + 1 := by omega
  have hSymmetric := sum_symmetric (fun j => row.getD j 0 * row.getD (i - j) 0)
    (i + 1 - row.length) n (by
      intro j hLow hHigh
      rw [hEnds, show i + 1 - 1 - j = i - j by omega, show i - (i - j) = j by omega, mul_comm])
  rw [hEnds] at hSymmetric
  rw [sum_antidiagonal_eq, hn, hSymmetric, Finset.mul_sum]
  congr 1
  · by_cases hOdd : (i + 1) % 2 = 1
    · rw [if_pos hOdd, if_pos hOdd, show i - (i + 1) / 2 = (i + 1) / 2 by omega]
    · rw [if_neg hOdd, if_neg hOdd]
  · exact Finset.sum_congr rfl fun j _ => (mul_assoc _ _ _).symm

theorem polySqr_finiteRow (row : List ℝ) :
    ∃ square : List ℝ, RootFinder.polySqr (finiteRow row) = finiteRow square ∧
      square.length = 2 * row.length - 1 ∧
      descending square = descending row * descending row := by
  refine ⟨(List.range (2 * row.length - 1)).map fun i =>
    ∑ x ∈ Finset.HasAntidiagonal.antidiagonal i, row.getD x.1 0 * row.getD x.2 0, ?_, ?_, ?_⟩
  · unfold RootFinder.polySqr finiteRow
    rw [length_map, map_map]
    apply map_congr_left
    intro i hi
    have hi : i < 2 * row.length - 1 := mem_range.mp hi
    have hSum : Nat.min row.length (i + 1) + (i + 1 - row.length) = i + 1 := by
      change min row.length (i + 1) + (i + 1 - row.length) = i + 1
      omega
    have hStart (condition : Prop) [Decidable condition] (a : ℝ) :
        (if condition then (.finite 0 + .finite a * .finite a : ExactReal ℝ) else .finite 0) =
          .finite (if condition then a * a else 0) := by
      split <;> simp
    have hTwice (j : ℕ) (temp : ExactReal ℝ) :
        temp + lit 2 * (finiteRow row).getD j (lit 0) * (finiteRow row).getD (i - j) (lit 0) =
          temp + .finite (2 * row.getD j 0 * row.getD (i - j) 0) := by
      rw [getD_finiteRow, getD_finiteRow, lit_two, mul_finite, mul_finite]
    dsimp only
    rw [hSum]
    change List.foldl (fun temp j => temp + lit 2 * (finiteRow row).getD j (lit 0) *
      (finiteRow row).getD (i - j) (lit 0)) (if _ then lit 0 + (finiteRow row).getD _ (lit 0) *
        (finiteRow row).getD _ (lit 0) else lit 0) _ = _
    simp only [hTwice]
    rw [getD_finiteRow, lit_zero, hStart, foldl_finite_add]
    rw [Function.comp_apply, sum_antidiagonal_symmetric hi,
      show i + 1 - row.length + ((i + 1) / 2 - (i + 1 - row.length)) = (i + 1) / 2 by omega]
  · simp
  · apply descending_square
    · simp
    · intro i hi
      rw [getD_eq_getElem _ _ hi]
      simp

theorem addPowers_finiteRow (x xn value : ℝ) (row : List ℝ) :
    RootFinder.addPowers (.finite x) (.finite xn) (.finite value) (finiteRow row) =
      .finite (value + xn * (ascending row).eval x) := by
  induction row generalizing xn value with
  | nil => simp [finiteRow, RootFinder.addPowers]
  | cons c row ih =>
    change RootFinder.addPowers (.finite x) (.finite xn * .finite x)
      (.finite value + .finite c * .finite xn) (finiteRow row) = _
    rw [mul_finite, mul_finite, add_finite, ih, eval_ascending_cons]
    congr 1
    ring

theorem foldl_finiteRow (row : List ℝ) (s : ℝ) :
    (finiteRow row).foldl (· + ·) (.finite s) = .finite (s + row.sum) := by
  induction row generalizing s with
  | nil => simp [finiteRow]
  | cons c row ih =>
    change (finiteRow row).foldl (· + ·) (.finite s + .finite c) = _
    rw [add_finite, ih, sum_cons, add_assoc]

/-- `DBL_EPSILON` as a real number. -/
noncomputable def realEpsilon : ℝ := ((1 / 2 ^ 52 : ℚ) : ℝ)

theorem doubleEpsilon_eq : (doubleEpsilon : ExactReal ℝ) = .finite realEpsilon := rfl

theorem realEpsilon_pos : 0 < realEpsilon := by
  rw [realEpsilon, Rat.cast_pos]
  norm_num

theorem realEpsilon_le : realEpsilon ≤ 1 / 16 := by
  unfold realEpsilon
  norm_num

theorem polyVal_finiteRow (row : List ℝ) {x : ℝ} (hx : realEpsilon ≤ |x|) :
    RootFinder.polyVal (finiteRow row) (.finite x) = .finite ((descending row).eval x) := by
  unfold RootFinder.polyVal
  rcases eq_nil_or_concat row with rfl | ⟨start, last, rfl⟩
  · simp [finiteRow, lit_zero]
  · have hLast : (finiteRow (start.concat last)).getLast? = some (.finite last) := by
      simp [finiteRow]
    rw [hLast]
    dsimp only
    rw [doubleEpsilon_eq, abs_finite, if_neg (mt (lt_finite _ _).mp hx.not_gt),
      lit_one, lit_zero, equal_finite]
    by_cases hOne : x = 1
    · rw [if_pos (by simp [hOne]), foldl_finiteRow, zero_add, hOne, eval_one_descending]
    · rw [if_neg (by simp [hOne]), show (finiteRow (start.concat last)).reverse =
        finiteRow (start.concat last).reverse from map_reverse.symm, addPowers_finiteRow,
        zero_add, one_mul, descending]

theorem differentiate_finiteRow (row : List ℝ) :
    ∃ slope : List ℝ, Piece.differentiate (finiteRow row) = finiteRow slope ∧
      descending slope = derivative (descending row) := by
  refine ⟨((List.range row.length).map fun i =>
    row.getD i 0 * ((row.length - 1 - i : ℕ) : ℝ)).dropLast, ?_, ?_⟩
  · have hEntries : ((List.range (finiteRow row).length).map fun i =>
        (finiteRow row).getD i (lit 0) * ofInt ((finiteRow row).length - 1 - i : ℕ)) =
        finiteRow ((List.range row.length).map fun i =>
          row.getD i 0 * ((row.length - 1 - i : ℕ) : ℝ)) := by
      rw [length_finiteRow]
      unfold finiteRow
      rw [map_map]
      apply map_congr_left
      intro i _
      rw [← finiteRow, getD_finiteRow]
      rfl
    unfold Piece.differentiate
    rw [hEntries]
    exact map_dropLast.symm
  · apply descending_derivative
    · simp
    · intro i hi
      rw [getD_eq_getElem _ _ hi]
      simp

theorem squaredNorm_finiteRow (row : List ℝ) :
    Piece.squaredNorm (finiteRow row) = .finite (row.map fun c => c * c).sum := by
  have hFold (s : ℝ) : (finiteRow row).foldl (fun sum c => sum + c * c) (.finite s) =
      .finite (s + (row.map fun c => c * c).sum) := by
    induction row generalizing s with
    | nil => simp [finiteRow]
    | cons c row ih =>
      change (finiteRow row).foldl (fun sum c => sum + c * c) (.finite s + .finite c * .finite c) = _
      rw [mul_finite, add_finite, ih, map_cons, sum_cons, add_assoc]
  rw [Piece.squaredNorm, lit_zero, hFold, zero_add]

theorem subtractLast_finiteRow (hRow : row ≠ []) (amount : ℝ) :
    ∃ shifted : List ℝ, Piece.subtractLast (finiteRow row) (.finite amount) = finiteRow shifted ∧
      ∀ x, (descending shifted).eval x = (descending row).eval x - amount := by
  rcases eq_nil_or_concat row with rfl | ⟨start, last, rfl⟩
  · exact absurd rfl hRow
  · refine ⟨start.concat (last - amount), ?_, ?_⟩
    · simp [Piece.subtractLast, finiteRow]
    · intro x
      simp only [descending, concat_eq_append, reverse_append, reverse_singleton,
        singleton_append, eval_ascending_cons]
      ring

theorem zipWith_finiteRow (a b : List ℝ) :
    List.zipWith (· + ·) (finiteRow a) (finiteRow b) = finiteRow (List.zipWith (· + ·) a b) := by
  unfold finiteRow
  rw [zipWith_map, map_zipWith]
  rfl

theorem sumOfSquares_lift {columns : List (Vec3 ℝ)} (hColumns : columns ≠ []) :
    ∃ sum : List ℝ, Piece.sumOfSquares (columns.map Vec3.lift) = finiteRow sum ∧ sum ≠ [] ∧
      ∀ x, (descending sum).eval x =
        (columnwise (fun row => (descending row).eval x) columns).normSquared := by
  have hRow (f : Vec3 (ExactReal ℝ) → ExactReal ℝ) (g : Vec3 ℝ → ℝ)
      (h : ∀ c, f c.lift = .finite (g c)) :
      (columns.map Vec3.lift).map f = finiteRow (columns.map g) := by
    rw [finiteRow, map_map, map_map]
    exact map_congr_left fun c _ => h c
  have hLength : 0 < columns.length := length_pos_iff.mpr hColumns
  obtain ⟨xs, hxs, hxLength, hx⟩ := polySqr_finiteRow (columns.map Vec3.x)
  obtain ⟨ys, hys, hyLength, hy⟩ := polySqr_finiteRow (columns.map Vec3.y)
  obtain ⟨zs, hzs, hzLength, hz⟩ := polySqr_finiteRow (columns.map Vec3.z)
  rw [length_map] at hxLength hyLength hzLength
  refine ⟨List.zipWith (· + ·) (List.zipWith (· + ·) xs ys) zs, ?_, ?_, ?_⟩
  · unfold Piece.sumOfSquares
    rw [hRow Vec3.x Vec3.x fun _ => rfl, hRow Vec3.y Vec3.y fun _ => rfl,
      hRow Vec3.z Vec3.z fun _ => rfl, hxs, hys, hzs, zipWith_finiteRow, zipWith_finiteRow]
  · apply length_pos_iff.mp
    simp only [length_zipWith]
    omega
  · intro x
    rw [descending_zipWith (by simp only [length_zipWith]; omega),
      descending_zipWith (by omega), hx, hy, hz]
    simp only [columnwise, Vec3.normSquared, eval_add, eval_mul]

theorem moveBound_of_large (next : ExactReal ℝ → ExactReal ℝ) (iterations : ℕ) {bound : ℝ}
    (hBound : realEpsilon ≤ |bound|) (hValue : realEpsilon ≤ |(descending row).eval bound|) :
    Piece.moveBound (finiteRow row) next (iterations + 1) (.finite bound) =
      some (.finite bound) := by
  unfold Piece.moveBound
  rw [polyVal_finiteRow row hBound]
  simp [doubleEpsilon_eq, hValue]

theorem moveBound_finiteRow {next : ExactReal ℝ → ExactReal ℝ} (step : ℝ → ℝ) (Beyond : ℝ → Prop)
    (hNext : ∀ b, next (.finite b) = .finite (step b)) (hStep : ∀ b, Beyond b → Beyond (step b))
    (hLarge : ∀ b, Beyond b → realEpsilon ≤ |b|) {iterations : ℕ} {bound : ℝ}
    {result : ExactReal ℝ} (hBound : Beyond bound)
    (h : Piece.moveBound (finiteRow row) next iterations (.finite bound) = some result) :
    ∃ b, result = .finite b ∧ Beyond b ∧ (descending row).eval b ≠ 0 := by
  induction iterations generalizing bound with
  | zero => exact absurd h (by simp [Piece.moveBound])
  | succ iterations ih =>
    unfold Piece.moveBound at h
    rw [polyVal_finiteRow row (hLarge bound hBound), hNext] at h
    simp only [isFinite_finite, Bool.not_true, Bool.false_eq_true, if_false,
      abs_finite, doubleEpsilon_eq, le_finite] at h
    by_cases hValue : realEpsilon ≤ |(descending row).eval bound|
    · rw [if_pos hValue] at h
      refine ⟨bound, (Option.some.inj h).symm, hBound, ?_⟩
      exact abs_pos.mp (realEpsilon_pos.trans_le hValue)
    · rw [if_neg hValue] at h
      split at h
      · exact absurd h (by simp)
      · exact ih (hStep bound hBound) h

theorem moveRootSearchBoundsAwayFromZeros_finiteRow {left right : ExactReal ℝ}
    (h : Piece.moveRootSearchBoundsAwayFromZeros (finiteRow row) (lit (-1 / 16)) (lit (17 / 16)) = some (left, right)) :
    ∃ l r, left = .finite l ∧ right = .finite r ∧ l < 0 ∧ 1 < r ∧
      (descending row).eval l ≠ 0 ∧ (descending row).eval r ≠ 0 := by
  unfold Piece.moveRootSearchBoundsAwayFromZeros at h
  split at h
  case h_1 leftResult rightResult hLeft hRight =>
    obtain ⟨rfl, rfl⟩ := Prod.mk.inj (Option.some.inj h)
    obtain ⟨l, rfl, hl, hlValue⟩ := moveBound_finiteRow (fun b => 2 * b) (fun b => b ≤ -1 / 16)
      (fun b => by rw [lit_two, mul_finite]) (fun b hb => by linarith)
      (fun b hb => realEpsilon_le.trans (le_abs.mpr (Or.inr (by linarith))))
      (by norm_num) hLeft
    obtain ⟨r, rfl, hr, hrValue⟩ := moveBound_finiteRow
      (fun b => 1 + 2 * (b - 1)) (fun b => 17 / 16 ≤ b)
      (fun b => by
        rw [lit_two, lit_one, sub_finite, mul_finite, add_finite]) (fun b hb => by linarith)
      (fun b hb => realEpsilon_le.trans (le_abs.mpr (Or.inl (by linarith))))
      (by norm_num) hRight
    exact ⟨l, r, rfl, rfl, by linarith, by linarith, hlValue, hrValue⟩
  case h_2 => exact absurd h (by simp)

/-! ## The rate of a piece -/

open FloatOps Polynomial CoefficientLists PolynomialExtrema Set ExactReal List

/-- `solvePolynomial` returns every root in the open interval and `countRoots` their number. Neither
end is a root. -/
structure RootFinder.Exact (finder : RootFinder (ExactReal ℝ)) : Prop where
  roots : ∀ (row : List ℝ) (left right tolerance : ℝ), left < right → 0 < tolerance →
    (descending row).eval left ≠ 0 → (descending row).eval right ≠ 0 →
    ∀ x, left < x → x < right → (descending row).eval x = 0 →
      finite x ∈ finder.solvePolynomial (finiteRow row) (.finite left) (.finite right)
        (.finite tolerance)
  count : ∀ (row : List ℝ) (left right : ℝ), left < right →
    (descending row).eval left ≠ 0 → (descending row).eval right ≠ 0 →
      finder.countRoots (finiteRow row) (.finite left) (.finite right) =
        ({x | left < x ∧ x < right ∧ (descending row).eval x = 0}.ncard : ℤ)

namespace Piece

/-- The norms of the `k`-th derivative over the piece. -/
def rates (piece : Piece (ExactReal ℝ)) (k : ℕ) : Set ℝ :=
  (fun t => (piece.curve k t).length) '' Icc 0 piece.horizon

/-- Where the rate is not searched it is largest at the start, and where it is searched both search
bounds are found. -/
def Searched (order : ℕ) (normalized : List (Vec3 (ExactReal ℝ))) (constant : ExactReal ℝ)
    (piece : Piece (ExactReal ℝ)) : Prop :=
  order ≤ piece.degree →
    let coeff := differentiate (sumOfSquares normalized)
    if squaredNorm coeff < constant then
      ∀ t ∈ Icc 0 piece.horizon, (piece.curve order t).length ≤ (piece.curve order 0).length
    else (moveRootSearchBoundsAwayFromZeros coeff (lit (-1 / 16)) (lit (17 / 16))).isSome = true

theorem foldl_largest_finite (values : List ℝ) (best : ℝ) :
    ∃ m, (finiteRow values).foldl (fun best next => if best < next then next else best)
        (.finite best) = .finite m ∧ IsGreatest {y | y ∈ best :: values} m := by
  induction values generalizing best with
  | nil => exact ⟨best, rfl, by simp, by rintro y hy; simp_all⟩
  | cons next values ih =>
    have hNext : (if finite best < finite next then finite next
        else finite best) = .finite (best ⊔ next) := by
      by_cases h : best < next
      · rw [if_pos ((lt_finite _ _).mpr h), sup_eq_right.mpr h.le]
      · rw [if_neg (mt (lt_finite _ _).mp h), sup_eq_left.mpr (not_lt.mp h)]
    obtain ⟨m, hFold, hMem, hUpper⟩ := ih (best ⊔ next)
    refine ⟨m, ?_, ?_, ?_⟩
    · change (finiteRow values).foldl _ (if finite best < finite next then
        finite next else finite best) = _
      rw [hNext, hFold]
    · rcases mem_cons.mp hMem with rfl | hMem
      · rcases le_total best next with h | h
        · simp [sup_eq_right.mpr h]
        · simp [sup_eq_left.mpr h]
      · simp [hMem]
    · intro y hy
      have hSup := hUpper (show best ⊔ next ∈ {y | y ∈ (best ⊔ next) :: values} by simp)
      rcases mem_cons.mp hy with rfl | hy
      · exact le_sup_left.trans hSup
      · rcases mem_cons.mp hy with rfl | hy
        · exact le_sup_right.trans hSup
        · exact hUpper (mem_cons_of_mem _ hy)

theorem largest_finiteRow {values : List ℝ} (h : values ≠ []) :
    ∃ m, largest (finiteRow values) = some (.finite m) ∧ IsGreatest {y | y ∈ values} m := by
  cases values with
  | nil => exact absurd rfl h
  | cons value values =>
    obtain ⟨m, hFold, hGreatest⟩ := foldl_largest_finite values value
    exact ⟨m, congrArg some hFold, hGreatest⟩

theorem filter_candidates (candidates : List (ExactReal ℝ)) :
    ∃ kept : List ℝ, candidates.filter (fun c => lit 0 ≤ c && c ≤ lit 1) = finiteRow kept ∧
      ∀ x, x ∈ kept ↔ finite x ∈ candidates ∧ x ∈ Icc 0 1 := by
  induction candidates with
  | nil => exact ⟨[], rfl, by simp⟩
  | cons c candidates ih =>
    obtain ⟨kept, hKept, hMem⟩ := ih
    cases c with
    | nonFinite =>
      refine ⟨kept, ?_, ?_⟩
      · rw [filter_cons_of_neg, hKept]
        intro h
        rw [Bool.and_eq_true, decide_eq_true_eq] at h
        exact absurd h.1 id
      · intro x
        simp [hMem x]
    | finite c =>
      rw [lit_zero, lit_one] at hKept ⊢
      by_cases hc : 0 ≤ c ∧ c ≤ 1
      · refine ⟨c :: kept, ?_, ?_⟩
        · rw [filter_cons_of_pos, hKept]
          · rfl
          · simpa using hc
        · intro x
          rw [mem_cons, hMem x, mem_cons, finite.injEq]
          constructor
          · rintro (rfl | ⟨hx, hInside⟩)
            · exact ⟨Or.inl rfl, hc⟩
            · exact ⟨Or.inr hx, hInside⟩
          · rintro ⟨rfl | hx, hInside⟩
            · exact Or.inl rfl
            · exact Or.inr ⟨hx, hInside⟩
      · refine ⟨kept, ?_, ?_⟩
        · rw [filter_cons_of_neg, hKept]
          simpa using hc
        · intro x
          rw [hMem x, mem_cons, finite.injEq]
          constructor
          · rintro ⟨hx, hInside⟩
            exact ⟨Or.inr hx, hInside⟩
          · rintro ⟨rfl | hx, hInside⟩
            · exact absurd hInside hc
            · exact ⟨hx, hInside⟩

section Rates
variable {duration : ℝ} {columns : List (Vec3 ℝ)} (hDuration : 0 < duration)
  (hColumns : columns ≠ [])

theorem degree_ofReals : (ofReals duration columns).degree = columns.length - 1 := by
  simp [degree, ofReals]

include hDuration hColumns

theorem sumOfSquares_normalized {order : ℕ} {factor : ℕ → Int}
    (hFactor : ∀ i, ((factor i : Int) : ℝ) = ((i + order).descFactorial order : ℝ))
    (hDegree : order ≤ (ofReals duration columns).degree) :
    ∃ sum : List ℝ, sumOfSquares ((ofReals duration columns).normalizeCoeffMat order factor
        (.finite (duration ^ order))) = finiteRow sum ∧ sum ≠ [] ∧
      ∀ τ, (descending sum).eval τ =
        (duration ^ order) ^ 2 * (curveOf columns order (duration * τ)).normSquared := by
  have hLength : order < columns.length := by
    rw [degree_ofReals] at hDegree
    have := length_pos_iff.mpr hColumns
    omega
  obtain ⟨normalized, hNormalized, hx, hy, hz⟩ := normalizeColumns_ofReals hFactor duration 0
    (duration ^ order) (columns.reverse.drop order)
  have hReal : (ofReals duration columns).normalizeCoeffMat order factor
      (.finite (duration ^ order)) = normalized.reverse.map Vec3.lift := by
    have hValid := (valid_ofReals_iff duration columns).mpr ⟨hDuration, hColumns⟩
    unfold normalizeCoeffMat
    rw [hValid, if_neg (by simpa using hDegree)]
    change (normalizeColumns (.finite duration) factor 0 (.finite (duration ^ order))
      ((columns.map Vec3.lift).reverse.drop order)).reverse = _
    rw [← map_reverse, ← map_drop, hNormalized, map_reverse]
  have hNonempty : normalized.reverse ≠ [] := by
    have hRows := congrArg List.length hx
    rw [length_scaled, length_map, length_map, length_drop, length_reverse] at hRows
    apply length_pos_iff.mp
    rw [length_reverse]
    omega
  obtain ⟨sum, hSum, hSumNonempty, hValue⟩ := sumOfSquares_lift hNonempty
  refine ⟨sum, by rw [hReal, hSum], hSumNonempty, fun τ => ?_⟩
  have hRow (coordinate : Vec3 ℝ → ℝ) (h : normalized.map coordinate = scaled duration
        (fun i => ((i + order).descFactorial order : ℝ)) 0 (duration ^ order)
        ((columns.reverse.drop order).map coordinate)) :
      (descending (normalized.reverse.map coordinate)).eval τ = duration ^ order *
          (derivative^[order] (descending (columns.map coordinate))).eval (duration * τ) := by
    apply eval_normalized_row
    rw [← map_reverse, reverse_reverse, h, map_drop, map_reverse]
  rw [hValue τ]
  simp only [columnwise, curveOf, Vec3.normSquared, hRow _ hx, hRow _ hy, hRow _ hz]
  ring

section
omit hDuration hColumns

theorem curveOf_eq_zero {order : ℕ} (h : (ofReals duration columns).degree < order) (t : ℝ) :
    curveOf columns order t = ⟨0, 0, 0⟩ := by
  have hRow (row : List ℝ) (hRow : row.length = columns.length) :
      (derivative^[order] (descending row)).eval t = 0 := by
    rw [degree_ofReals] at h
    rw [descending, ascending_iterate_derivative, drop_eq_nil_of_le, scaled, ascending_nil,
      eval_zero]
    rw [length_reverse]
    omega
  simp [curveOf, columnwise, hRow]

theorem rates_ofReals (order : ℕ) : (ofReals duration columns).rates order =
      (fun t => (curveOf columns order t).length) '' Icc 0 duration := by
  unfold rates curve
  rw [columns_ofReals, horizon_ofReals]

theorem isGreatest_rates_iff {order : ℕ} {at_ : ℝ} (hAt : at_ ∈ Icc 0 duration) :
    IsGreatest ((ofReals duration columns).rates order) (curveOf columns order at_).length ↔
      ∀ t ∈ Icc 0 duration,
        (curveOf columns order t).length ≤ (curveOf columns order at_).length := by
  rw [rates_ofReals]
  constructor
  · exact fun h t ht => h.2 ⟨t, ht, rfl⟩
  · intro h
    refine ⟨⟨at_, hAt, rfl⟩, ?_⟩
    rintro _ ⟨t, ht, rfl⟩
    exact h t ht

end

/-! ## The maximum -/

omit hColumns in
theorem largest_of_roots {order : ℕ} {sum : List ℝ} {found : List (ExactReal ℝ)}
    {evaluate : ExactReal ℝ → Vec3 (ExactReal ℝ)}
    (hEvaluate : ∀ t, evaluate (.finite t) = (curveOf columns order t).lift)
    (hValue : ∀ τ, (descending sum).eval τ =
      (duration ^ order) ^ 2 * (curveOf columns order (duration * τ)).normSquared)
    (hFound : ∀ x ∈ Ioo (0 : ℝ) 1, (derivative (descending sum)).eval x = 0 → finite x ∈ found) :
    ∃ x ∈ Icc (0 : ℝ) 1,
      largest (((lit 0 :: lit 1 :: found).filter fun c => lit 0 ≤ c && c ≤ lit 1).map fun c =>
        (evaluate (c * (ofReals duration columns).duration)).squaredNorm) =
          some (.finite (curveOf columns order (x * duration)).normSquared) ∧
      ∀ t ∈ Icc 0 duration,
        (curveOf columns order t).normSquared ≤ (curveOf columns order (x * duration)).normSquared := by
  obtain ⟨kept, hKept, hMem⟩ := filter_candidates (lit 0 :: lit 1 :: found)
  have hZero : 0 ∈ kept := by
    rw [hMem, lit_zero]
    exact ⟨mem_cons_self, by norm_num⟩
  have hOne : 1 ∈ kept := by
    rw [hMem, lit_one]
    exact ⟨mem_cons_of_mem _ mem_cons_self, by norm_num⟩
  let values := kept.map fun x => (curveOf columns order (x * duration)).normSquared
  have hValues : (finiteRow kept).map
      (fun c => (evaluate (c * (ofReals duration columns).duration)).squaredNorm) =
      finiteRow values := by
    unfold finiteRow ofReals
    rw [map_map, map_map]
    apply map_congr_left
    intro x _
    simp only [Function.comp_apply, mul_finite, hEvaluate, Vec3.squaredNorm_lift]
  obtain ⟨m, hLargest, hGreatest, hUpper⟩ :=
    largest_finiteRow (show values ≠ [] from ne_nil_of_mem (mem_map_of_mem hZero))
  obtain ⟨x, hx, rfl⟩ := mem_map.mp hGreatest
  refine ⟨x, ((hMem x).mp hx).2, by rw [hKept, hValues, hLargest], ?_⟩
  obtain ⟨y, hy, hCritical, hMax⟩ := exists_critical_max (descending sum) zero_le_one
  have hCandidate : y ∈ kept := by
    rcases hCritical with rfl | rfl | ⟨hInside, hRoot⟩
    · exact hZero
    · exact hOne
    · rw [hMem]
      exact ⟨mem_cons_of_mem _ (mem_cons_of_mem _ (hFound y hInside hRoot)), hy⟩
  have hBest := hUpper (mem_map_of_mem hCandidate)
  intro t ht
  have hPower : 0 < (duration ^ order) ^ 2 := by positivity
  have hUnit : t / duration ∈ Icc (0 : ℝ) 1 :=
    ⟨div_nonneg ht.1 hDuration.le, (div_le_one hDuration).mpr ht.2⟩
  have hBelow := hMax _ hUnit
  rw [hValue, hValue, mul_div_cancel₀ _ hDuration.ne'] at hBelow
  have hNorm := le_of_mul_le_mul_left hBelow hPower
  rw [mul_comm duration y] at hNorm
  exact hNorm.trans hBest

theorem getMaxRate_exact_iff {finder : RootFinder (ExactReal ℝ)} (hFinder : finder.Exact)
    {order : ℕ} {factor : ℕ → Int} {evaluate : ExactReal ℝ → Vec3 (ExactReal ℝ)}
    (hFactor : ∀ i, ((factor i : Int) : ℝ) = ((i + order).descFactorial order : ℝ))
    (hEvaluate : ∀ t, evaluate (.finite t) = (curveOf columns order t).lift)
    (constant : ExactReal ℝ) {normalized : List (Vec3 (ExactReal ℝ))}
    (hNormalized : normalized = (ofReals duration columns).normalizeCoeffMat order factor
      (.finite (duration ^ order))) :
    (∃ m, (ofReals duration columns).getMaxRate finder order evaluate normalized constant =
        .finite m ∧ IsGreatest ((ofReals duration columns).rates order) m) ↔
      (ofReals duration columns).Searched order normalized constant := by
  have hValid := (valid_ofReals_iff duration columns).mpr ⟨hDuration, hColumns⟩
  have hStart : (evaluate (lit 0)).norm = .finite (curveOf columns order 0).length := by
    rw [lit_zero, hEvaluate, Vec3.norm_real]
  have hZeroIn : (0 : ℝ) ∈ Icc 0 duration := ⟨le_rfl, hDuration.le⟩
  have hAtStart : (∃ m, (evaluate (lit 0)).norm = .finite m ∧
        IsGreatest ((ofReals duration columns).rates order) m) ↔
      ∀ t ∈ Icc 0 duration,
        (curveOf columns order t).length ≤ (curveOf columns order 0).length := by
    rw [← isGreatest_rates_iff hZeroIn, hStart]
    constructor
    · rintro ⟨m, hm, hGreatest⟩
      rw [finite.inj hm]
      exact hGreatest
    · exact fun h => ⟨_, rfl, h⟩
  unfold getMaxRate Searched
  simp only [hValid, Bool.not_true, Bool.false_eq_true, if_false]
  by_cases hDegree : (ofReals duration columns).degree < order
  · rw [if_pos hDegree, hAtStart]
    refine ⟨fun _ h => absurd h (not_le.mpr hDegree), fun _ t _ => ?_⟩
    rw [curveOf_eq_zero hDegree, curveOf_eq_zero hDegree]
  · have hOrder := not_lt.mp hDegree
    obtain ⟨sum, hSum, hNonempty, hValue⟩ :=
      sumOfSquares_normalized hDuration hColumns hFactor hOrder
    rw [← hNormalized] at hSum
    obtain ⟨slope, hSlope, hDerivative⟩ := differentiate_finiteRow sum
    rw [if_neg hDegree, hSum, hSlope]
    simp only [hOrder, true_implies]
    by_cases hConstant : squaredNorm (finiteRow slope) < constant
    · rw [if_pos hConstant, if_pos hConstant, hAtStart]
      unfold curve
      rw [columns_ofReals, horizon_ofReals]
    · rw [if_neg hConstant, if_neg hConstant]
      rcases hBounds : moveRootSearchBoundsAwayFromZeros (finiteRow slope) (lit (-1 / 16))
        (lit (17 / 16)) with _ | ⟨left, right⟩
      · simp only [Option.isSome_none, Bool.false_eq_true, iff_false]
        rintro ⟨m, hm, _⟩
        exact absurd hm (by simp [FloatOps.nan])
      · simp only [Option.isSome_some, iff_true]
        obtain ⟨l, r, rfl, rfl, hl, hr, hlValue, hrValue⟩ :=
          moveRootSearchBoundsAwayFromZeros_finiteRow hBounds
        have hTolerance : (floatEpsilon / (ofReals duration columns).duration : ExactReal ℝ) =
            .finite (((1 / 2 ^ 23 : ℚ) : ℝ) / duration) :=
          div_finite _ hDuration.ne'
        have hFound : ∀ x ∈ Ioo (0 : ℝ) 1, (derivative (descending sum)).eval x = 0 →
            finite x ∈ finder.solvePolynomial (finiteRow slope) (.finite l) (.finite r)
              (floatEpsilon / (ofReals duration columns).duration) := by
          intro x hx hRoot
          rw [hTolerance]
          apply hFinder.roots slope l r _ (by linarith) _ hlValue hrValue x (hl.trans hx.1)
            (hx.2.trans hr) (by rw [hDerivative, hRoot])
          exact div_pos (by norm_num) hDuration
        obtain ⟨x, hx, hLargest, hMax⟩ := largest_of_roots hDuration hEvaluate hValue hFound
        have hInside : x * duration ∈ Icc 0 duration :=
          ⟨mul_nonneg hx.1 hDuration.le, mul_le_of_le_one_left hDuration.le hx.2⟩
        refine ⟨(curveOf columns order (x * duration)).length, ?_,
          (isGreatest_rates_iff hInside).mpr fun t ht => Real.sqrt_le_sqrt (hMax t ht)⟩
        rw [hLargest]
        exact sqrt_finite (Vec3.normSquared_nonneg _)

/-! ## The check against a limit -/

omit hDuration hColumns in
theorem normSquared_lt_iff (a : Vec3 ℝ) {limit : ℝ} (hLimit : 0 < limit) :
    a.normSquared < limit * limit ↔ a.length < limit := by
  rw [← Real.mul_self_sqrt a.normSquared_nonneg]
  exact (mul_self_lt_mul_self_iff (Real.sqrt_nonneg _) hLimit.le).symm

omit hColumns in
theorem countRoots_eq_zero_iff {finder : RootFinder (ExactReal ℝ)} (hFinder : finder.Exact)
    {order : ℕ} {sum : List ℝ} (hNonempty : sum ≠ []) {limit : ℝ}
    (hValue : ∀ τ, (descending sum).eval τ =
      (duration ^ order) ^ 2 * (curveOf columns order (duration * τ)).normSquared)
    (hStart : (curveOf columns order 0).normSquared < limit * limit)
    (hEnd : (curveOf columns order duration).normSquared < limit * limit) :
    finder.countRoots (subtractLast (finiteRow sum)
        (.finite (limit * limit * (duration ^ order) ^ 2))) (.finite 0) (lit 1) = 0 ↔
      ∀ t ∈ Icc 0 duration, (curveOf columns order t).normSquared < limit * limit := by
  obtain ⟨shifted, hShifted, hDifference⟩ :=
    subtractLast_finiteRow hNonempty (limit * limit * (duration ^ order) ^ 2)
  have hPower : 0 < (duration ^ order) ^ 2 := by positivity
  have hEval (τ : ℝ) : (descending shifted).eval τ = (duration ^ order) ^ 2 *
        ((curveOf columns order (duration * τ)).normSquared - limit * limit) := by
    rw [hDifference, hValue]
    ring
  have hRoot (τ : ℝ) : (descending shifted).eval τ = 0 ↔
      (curveOf columns order (duration * τ)).normSquared = limit * limit := by
    rw [hEval, mul_eq_zero, or_iff_right hPower.ne', sub_eq_zero]
  have hLeft : (descending shifted).eval 0 ≠ 0 := by
    rw [Ne, hRoot, mul_zero]
    exact hStart.ne
  have hRight : (descending shifted).eval 1 ≠ 0 := by
    rw [Ne, hRoot, mul_one]
    exact hEnd.ne
  have hFinite : {x | 0 < x ∧ x < 1 ∧ (descending shifted).eval x = 0}.Finite := by
    have hNe : descending shifted ≠ 0 := by
      intro h
      rw [h, eval_zero] at hLeft
      exact hLeft rfl
    apply ((descending shifted).roots.toFinset.finite_toSet).subset
    rintro x ⟨_, _, hx⟩
    rw [Finset.mem_coe, Multiset.mem_toFinset, mem_roots hNe]
    exact hx
  rw [hShifted, lit_one,
    hFinder.count shifted 0 1 one_pos hLeft hRight, Int.natCast_eq_zero, Set.ncard_eq_zero hFinite]
  constructor
  · intro hNone t ht
    have hUnit : t / duration ∈ Icc (0 : ℝ) 1 :=
      ⟨div_nonneg ht.1 hDuration.le, (div_le_one hDuration).mpr ht.2⟩
    have hBelow := lt_of_no_root (p := descending sum) (a := 0) (b := 1)
      (c := limit * limit * (duration ^ order) ^ 2)
      (by rw [hValue, mul_zero]; nlinarith) (by rw [hValue, mul_one]; nlinarith)
      (fun x hx hMeets => by
        have hMember : x ∈ {x | 0 < x ∧ x < 1 ∧ (descending shifted).eval x = 0} := by
          refine ⟨hx.1, hx.2, ?_⟩
          rw [hDifference, hMeets, sub_self]
        rw [hNone] at hMember
        exact hMember) _ hUnit
    rw [hValue, mul_div_cancel₀ _ hDuration.ne', mul_comm] at hBelow
    exact lt_of_mul_lt_mul_right hBelow hPower.le
  · intro hBelow
    rw [Set.eq_empty_iff_forall_notMem]
    rintro x ⟨hLow, hHigh, hx⟩
    have hInside : duration * x ∈ Icc 0 duration :=
      ⟨mul_nonneg hDuration.le hLow.le, mul_le_of_le_one_right hDuration.le hHigh.le⟩
    exact (hBelow _ hInside).ne ((hRoot x).mp hx)

theorem checkMaxRate_iff {finder : RootFinder (ExactReal ℝ)} (hFinder : finder.Exact)
    {order : ℕ} {factor : ℕ → Int} {evaluate : ExactReal ℝ → Vec3 (ExactReal ℝ)}
    (hFactor : ∀ i, ((factor i : Int) : ℝ) = ((i + order).descFactorial order : ℝ))
    (hEvaluate : ∀ t, evaluate (.finite t) = (curveOf columns order t).lift)
    {normalized : List (Vec3 (ExactReal ℝ))}
    (hNormalized : normalized = (ofReals duration columns).normalizeCoeffMat order factor
      (.finite (duration ^ order))) (limit : ℝ) :
    (ofReals duration columns).checkMaxRate finder order evaluate normalized
        (.finite ((duration ^ order) ^ 2)) (.finite limit) = true ↔
      ∀ t ∈ Icc 0 duration, (curveOf columns order t).length < limit := by
  have hValid := (valid_ofReals_iff duration columns).mpr ⟨hDuration, hColumns⟩
  have hZeroIn : (0 : ℝ) ∈ Icc 0 duration := ⟨le_rfl, hDuration.le⟩
  have hEndIn : duration ∈ Icc 0 duration := ⟨hDuration.le, le_rfl⟩
  unfold checkMaxRate
  rw [hValid, isFinite_finite, lit_zero]
  by_cases hLimit : limit ≤ 0
  · rw [if_pos (by simpa using hLimit)]
    refine iff_of_false (by simp) fun h => ?_
    exact absurd (h 0 hZeroIn) (not_lt.mpr (hLimit.trans (Vec3.length_nonneg _)))
  · rw [if_neg (by simpa using hLimit)]
    have hPositive := not_le.mp hLimit
    simp only [mul_finite, isFinite_finite, Bool.not_true, Bool.false_eq_true, if_false, hEvaluate,
      Vec3.norm_real, Vec3.squaredNorm_lift, lt_finite, le_finite]
    by_cases hDegree : (ofReals duration columns).degree < order
    · rw [if_pos hDegree, decide_eq_true_eq]
      refine ⟨fun h t _ => ?_, fun h => h 0 hZeroIn⟩
      rw [curveOf_eq_zero hDegree] at h ⊢
      exact h
    · rw [if_neg hDegree]
      obtain ⟨sum, hSum, hNonempty, hValue⟩ :=
        sumOfSquares_normalized hDuration hColumns hFactor (not_lt.mp hDegree)
      rw [← hNormalized] at hSum
      have hEndEvaluate : (evaluate (ofReals duration columns).duration).squaredNorm =
          .finite (curveOf columns order duration).normSquared := by
        rw [show (ofReals duration columns).duration = .finite duration from rfl, hEvaluate,
          Vec3.squaredNorm_lift]
      simp only [hEndEvaluate, le_finite, hSum]
      by_cases hEnds : limit * limit ≤ (curveOf columns order 0).normSquared ∨
          limit * limit ≤ (curveOf columns order duration).normSquared
      · rw [if_pos (by simpa using hEnds)]
        refine iff_of_false (by simp) fun h => ?_
        rcases hEnds with hStart | hEnd
        · exact hStart.not_gt ((normSquared_lt_iff _ hPositive).mpr (h 0 hZeroIn))
        · exact hEnd.not_gt ((normSquared_lt_iff _ hPositive).mpr (h duration hEndIn))
      · rw [if_neg (by simpa using hEnds)]
        obtain ⟨hStart, hEnd⟩ := not_or.mp hEnds
        rw [decide_eq_true_eq, countRoots_eq_zero_iff hDuration hFinder hNonempty hValue
          (not_le.mp hStart) (not_le.mp hEnd)]
        exact forall₂_congr fun t _ => normSquared_lt_iff _ hPositive

end Rates

/-! ## Certificates from the extrema -/

open FloatOps Polynomial CoefficientLists Set ExactReal

/-- The rates are the extrema of the derivatives, and the checks accept just the limits above
them. -/
structure ExtremaExact (finder : RootFinder (ExactReal ℝ)) (piece : Piece (ExactReal ℝ)) : Prop where
  velocity : ∃ m, piece.getMaxVelRate finder = .finite m ∧ IsGreatest (piece.rates 1) m
  acceleration : ∃ m, piece.getMaxAccRate finder = .finite m ∧ IsGreatest (piece.rates 2) m
  jerk : ∃ m, piece.getMaxJerRate finder = .finite m ∧ IsGreatest (piece.rates 3) m
  velocityLimit : ∀ limit, piece.checkMaxVelRate finder (.finite limit) = true ↔
    ∀ t ∈ Icc 0 piece.horizon, (piece.curve 1 t).length < limit
  accelerationLimit : ∀ limit, piece.checkMaxAccRate finder (.finite limit) = true ↔
    ∀ t ∈ Icc 0 piece.horizon, (piece.curve 2 t).length < limit

/-- Each of the three rates is searched where it has to be. -/
structure RatesSearched (piece : Piece (ExactReal ℝ)) : Prop where
  velocity : piece.Searched 1 piece.normalizeVelCoeffMat (lit (1 / 10 ^ 6))
  acceleration : piece.Searched 2 piece.normalizeAccCoeffMat doubleEpsilon
  jerk : piece.Searched 3 piece.normalizeJerCoeffMat doubleEpsilon

section Rates
variable {duration : ℝ} {columns : List (Vec3 ℝ)}

theorem normalizeVelCoeffMat_ofReals : (ofReals duration columns).normalizeVelCoeffMat =
      (ofReals duration columns).normalizeCoeffMat 1 (fun i => i + 1) (.finite (duration ^ 1)) := by
  rw [pow_one]
  rfl

theorem normalizeAccCoeffMat_ofReals : (ofReals duration columns).normalizeAccCoeffMat =
      (ofReals duration columns).normalizeCoeffMat 2 (fun i => (i + 2) * (i + 1))
        (.finite (duration ^ 2)) := by
  rw [pow_two]
  rfl

theorem normalizeJerCoeffMat_ofReals : (ofReals duration columns).normalizeJerCoeffMat =
      (ofReals duration columns).normalizeCoeffMat 3 (fun i => (i + 3) * (i + 2) * (i + 1))
        (.finite (duration ^ 3)) := by
  rw [pow_succ, pow_two]
  rfl

theorem factor_one (i : ℕ) : (((i + 1 : ℤ) : ℤ) : ℝ) = ((i + 1).descFactorial 1 : ℝ) := by
  simp

theorem factor_two (i : ℕ) :
    ((((i + 2) * (i + 1) : ℤ) : ℤ) : ℝ) = ((i + 2).descFactorial 2 : ℝ) := by
  rw [show (i + 2).descFactorial 2 = (i + 1) * (i + 2) by simp [Nat.descFactorial_succ]]
  push_cast
  ring

theorem factor_three (i : ℕ) :
    ((((i + 3) * (i + 2) * (i + 1) : ℤ) : ℤ) : ℝ) = ((i + 3).descFactorial 3 : ℝ) := by
  rw [show (i + 3).descFactorial 3 = (i + 1) * ((i + 2) * (i + 3)) by
    simp [Nat.descFactorial_succ]]
  push_cast
  ring

end Rates

variable {piece : Piece (ExactReal ℝ)}

theorem extremaExact_iff {finder : RootFinder (ExactReal ℝ)} (hFinder : finder.Exact)
    (hValid : piece.valid = true) : piece.ExtremaExact finder ↔ piece.RatesSearched := by
  obtain ⟨duration, columns, rfl, hDuration, hColumns⟩ := exists_ofReals hValid
  have hVelocity := getMaxRate_exact_iff hDuration hColumns hFinder factor_one
    (getVel_ofReals hDuration hColumns) (lit (1 / 10 ^ 6)) normalizeVelCoeffMat_ofReals
  have hAcceleration := getMaxRate_exact_iff hDuration hColumns hFinder factor_two
    (getAcc_ofReals hDuration hColumns) doubleEpsilon normalizeAccCoeffMat_ofReals
  have hJerk := getMaxRate_exact_iff hDuration hColumns hFinder factor_three
    (getJer_ofReals hDuration hColumns) doubleEpsilon normalizeJerCoeffMat_ofReals
  have hVelocityLimit := checkMaxRate_iff hDuration hColumns hFinder factor_one
    (getVel_ofReals hDuration hColumns) normalizeVelCoeffMat_ofReals
  have hAccelerationLimit := checkMaxRate_iff hDuration hColumns hFinder factor_two
    (getAcc_ofReals hDuration hColumns) normalizeAccCoeffMat_ofReals
  have hCurve : (ofReals duration columns).curve = curveOf columns := by
    funext k t
    rw [curve, columns_ofReals]
  constructor
  · intro h
    exact ⟨hVelocity.mp h.velocity, hAcceleration.mp h.acceleration, hJerk.mp h.jerk⟩
  · intro h
    refine ⟨hVelocity.mpr h.velocity, hAcceleration.mpr h.acceleration, hJerk.mpr h.jerk,
      fun limit => ?_, fun limit => ?_⟩
    · rw [horizon_ofReals, hCurve, ← hVelocityLimit limit,
        show (duration ^ 1) ^ 2 = duration * duration by ring]
      exact Iff.rfl
    · rw [horizon_ofReals, hCurve, ← hAccelerationLimit limit,
        show (duration ^ 2) ^ 2 = duration * duration * (duration * duration) by ring]
      exact Iff.rfl

theorem length_le_of_isGreatest {k : ℕ} {m t : ℝ} (h : IsGreatest (piece.rates k) m)
    (ht : t ∈ Icc 0 piece.horizon) : (piece.curve k t).length ≤ m := h.2 ⟨t, ht, rfl⟩

theorem getState_valid (hValid : piece.valid = true) (t : ℝ) :
    piece.getState (.finite t) = ⟨(piece.curve 0 t).lift, (piece.curve 1 t).lift,
      (piece.curve 2 t).lift, (piece.curve 3 t).lift⟩ := by
  obtain ⟨duration, columns, rfl, hDuration, hColumns⟩ := exists_ofReals hValid
  unfold getState curve
  rw [columns_ofReals, getPos_ofReals hDuration hColumns, getVel_ofReals hDuration hColumns,
    getAcc_ofReals hDuration hColumns, getJer_ofReals hDuration hColumns]

end Piece

namespace PieceTrajectory

/-! ## Trajectories -/

variable {pieces : List (Piece (ExactReal ℝ))}

theorem foldRates_finite {rate : Piece (ExactReal ℝ) → ExactReal ℝ} {best : Option (ExactReal ℝ)}
    {m : ℝ} (hBest : ∀ b, best = some b → ∃ r, b = .finite r)
    (h : foldRates rate best pieces = .finite m) : (∀ r, best = some (.finite r) → r ≤ m) ∧
      ∀ piece ∈ pieces, ∃ r, rate piece = .finite r ∧ r ≤ m := by
  induction pieces generalizing best with
  | nil =>
    refine ⟨fun r hr => ?_, by simp⟩
    rw [hr] at h
    exact (finite.inj h).le
  | cons piece pieces ih =>
    unfold foldRates at h
    split at h
    case isTrue => exact absurd h (by simp [FloatOps.nan])
    case isFalse hAccepted =>
      have hFinite : isFinite (rate piece) = true := by
        by_contra hNot
        exact hAccepted (by simp [hNot])
      obtain ⟨r, hr⟩ := isFinite_iff.mp hFinite
      cases best with
      | none =>
        obtain ⟨hFirst, hRest⟩ := ih (by rintro b ⟨rfl⟩; exact ⟨r, hr⟩) h
        refine ⟨by simp, ?_⟩
        intro other hOther
        rcases List.mem_cons.mp hOther with rfl | hOther
        · exact ⟨r, hr, hFirst r (congrArg some hr)⟩
        · exact hRest other hOther
      | some b =>
        obtain ⟨previous, rfl⟩ := hBest b rfl
        have hNext : (if finite previous < rate piece then rate piece
            else finite previous) = .finite (previous ⊔ r) := by
          rw [hr]
          by_cases hLess : previous < r
          · rw [if_pos ((lt_finite _ _).mpr hLess), sup_eq_right.mpr hLess.le]
          · rw [if_neg (mt (lt_finite _ _).mp hLess), sup_eq_left.mpr (not_lt.mp hLess)]
        dsimp only at h
        rw [hNext] at h
        obtain ⟨hFirst, hRest⟩ := ih (by rintro b ⟨rfl⟩; exact ⟨_, rfl⟩) h
        have hSup := hFirst _ rfl
        refine ⟨?_, ?_⟩
        · rintro q hq
          rw [← finite.inj (Option.some.inj hq)]
          exact le_sup_left.trans hSup
        · intro other hOther
          rcases List.mem_cons.mp hOther with rfl | hOther
          · exact ⟨r, hr, le_sup_right.trans hSup⟩
          · exact hRest other hOther

/-- A junction belongs to the piece before it, and what lies after the last piece is its end. -/
theorem locate_splits (hNonempty : pieces ≠ []) (hValid : ∀ piece ∈ pieces, piece.valid = true)
    {t : ℝ} (ht : 0 ≤ t) : ∃ before piece after, ∃ s ∈ Icc 0 piece.horizon,
      pieces = before ++ piece :: after ∧ locate (.finite t) pieces = some (piece, .finite s) ∧
        ((before.map Piece.horizon).sum + s = t ∨
          after = [] ∧ s = piece.horizon ∧ (before.map Piece.horizon).sum + s < t) ∧
        (before ≠ [] → (before.map Piece.horizon).sum < t) := by
  induction pieces generalizing t with
  | nil => exact absurd rfl hNonempty
  | cons piece pieces ih =>
    have hPiece := hValid piece List.mem_cons_self
    obtain ⟨duration, columns, rfl, hDuration, hColumns⟩ := Piece.exists_ofReals hPiece
    have hReal : (Piece.ofReals duration columns).duration = .finite duration := rfl
    unfold locate
    simp only [hPiece, Bool.not_true, Bool.false_eq_true, if_false, hReal, le_finite, sub_finite]
    by_cases hInside : t ≤ duration
    · rw [if_pos hInside]
      exact ⟨[], .ofReals duration columns, pieces, t, ⟨ht, hInside⟩, rfl, rfl, .inl (by simp),
        absurd rfl⟩
    · rw [if_neg hInside]
      by_cases hLast : pieces = []
      · subst hLast
        exact ⟨[], .ofReals duration columns, [], duration, ⟨hDuration.le, le_rfl⟩, rfl, rfl,
          .inr ⟨rfl, rfl, by simpa using hInside⟩, absurd rfl⟩
      · rw [if_neg (by simpa using hLast)]
        obtain ⟨before, found, after, s, hs, rfl, hLocate, hPlace, hBegun⟩ :=
          ih hLast (fun p hp => hValid p (List.mem_cons_of_mem _ hp)) (t := t - duration) (by linarith)
        refine ⟨.ofReals duration columns :: before, found, after, s, hs, rfl, hLocate, ?_⟩
        simp only [List.map_cons, List.sum_cons, Piece.horizon_ofReals]
        constructor
        · rcases hPlace with hPlace | ⟨hNil, hEnd, hLt⟩
          · exact .inl (by linarith)
          · exact .inr ⟨hNil, hEnd, by linarith⟩
        · intro _
          cases before with
          | nil => simpa using hInside
          | cons => linarith [hBegun (List.cons_ne_nil _ _)]

theorem getState_valid {trajectory : PieceTrajectory (ExactReal ℝ)}
    (hNonempty : trajectory.pieces ≠ [])
    (hValid : ∀ piece ∈ trajectory.pieces, piece.valid = true) {t : ℝ} (ht : 0 ≤ t) :
    ∃ piece ∈ trajectory.pieces, ∃ s ∈ Icc 0 piece.horizon,
      trajectory.getState (.finite t) = ⟨(piece.curve 0 s).lift, (piece.curve 1 s).lift,
        (piece.curve 2 s).lift, (piece.curve 3 s).lift⟩ := by
  obtain ⟨before, piece, after, s, hs, hPieces, hLocate, -⟩ := locate_splits hNonempty hValid ht
  have hPiece : piece ∈ trajectory.pieces := by simp [hPieces]
  refine ⟨piece, hPiece, s, hs, ?_⟩
  have hEmpty : trajectory.empty = false := by simpa [empty] using hNonempty
  unfold getState locatePiece
  rw [hEmpty, isFinite_finite, lit_zero, if_neg (by simpa using ht), hLocate]
  exact Piece.getState_valid (hValid piece hPiece) s

/-- A rate that passes its limit passes it at every instant, up to the margin of the check. -/
structure LimitsRespected (finder : RootFinder (ExactReal ℝ))
    (trajectory : PieceTrajectory (ExactReal ℝ)) : Prop where
  velocity : ∀ limit : ℝ,
    withinNumericalDynamicLimit (trajectory.getMaxVelRate finder) (.finite limit) = true →
    ∀ t, 0 ≤ t → ∃ v, (trajectory.getState (.finite t)).velocity = Vec3.lift v ∧
      v.length ≤ limit + 64 * realEpsilon * (1 ⊔ v.length ⊔ |limit|)
  acceleration : ∀ limit : ℝ,
    withinNumericalDynamicLimit (trajectory.getMaxAccRate finder) (.finite limit) = true →
    ∀ t, 0 ≤ t → ∃ v, (trajectory.getState (.finite t)).acceleration = Vec3.lift v ∧
      v.length ≤ limit + 64 * realEpsilon * (1 ⊔ v.length ⊔ |limit|)
  jerk : ∀ limit : ℝ,
    withinNumericalDynamicLimit (trajectory.getMaxJerRate finder) (.finite limit) = true →
    ∀ t, 0 ≤ t → ∃ v, (trajectory.getState (.finite t)).jerk = Vec3.lift v ∧
      v.length ≤ limit + 64 * realEpsilon * (1 ⊔ v.length ⊔ |limit|)
  yawRate : ∀ limit : ℝ, candidateYawRateWithinLimit finder trajectory (.finite limit) = true →
    ∀ t, 0 ≤ t → ∃ v, (trajectory.getState (.finite t)).velocity = Vec3.lift v ∧
      v.length ≤ limit + ((1 / 10 ^ 6 : ℚ) : ℝ)

theorem within_of_le {value limit : ℝ} {maximum : ExactReal ℝ}
    (h : withinNumericalDynamicLimit maximum (.finite limit) = true) (hNonneg : 0 ≤ value)
    (hBelow : ∀ m, maximum = .finite m → value ≤ m) :
    value ≤ limit + 64 * realEpsilon * (1 ⊔ value ⊔ |limit|) := by
  have hEpsilon := realEpsilon_pos
  have hTiny : 64 * realEpsilon ≤ 1 := by
    unfold realEpsilon
    norm_num
  cases maximum with
  | nonFinite => exact absurd h (by simp [withinNumericalDynamicLimit, isFinite])
  | finite m =>
    have hm := hBelow m rfl
    unfold withinNumericalDynamicLimit at h
    have h64 : (lit 64 : ExactReal ℝ) = .finite 64 := by
      rw [lit_finite, Rat.cast_ofNat]
    simp only [isFinite_finite, abs_finite, lit_one,
      max_finite, doubleEpsilon_eq, h64, mul_finite, add_finite] at h
    split at h
    case isTrue => exact absurd h (by simp)
    case isFalse =>
      have hWithin := (le_finite _ _).mp (of_decide_eq_true h)
      rw [abs_of_nonneg (hNonneg.trans hm)] at hWithin
      have hGrowth : 64 * realEpsilon * (1 ⊔ m ⊔ |limit|) ≤
          64 * realEpsilon * (1 ⊔ value ⊔ |limit|) + (m - value) := by
        have hScale : 1 ⊔ m ⊔ |limit| ≤ (1 ⊔ value ⊔ |limit|) + (m - value) := by
          have h1 : (1 : ℝ) ≤ 1 ⊔ value ⊔ |limit| := le_sup_left.trans le_sup_left
          have h2 : value ≤ 1 ⊔ value ⊔ |limit| := le_sup_right.trans le_sup_left
          have h3 : |limit| ≤ 1 ⊔ value ⊔ |limit| := le_sup_right
          refine sup_le (sup_le ?_ ?_) ?_ <;> linarith
        nlinarith
      linarith

section Respected
variable {finder : RootFinder (ExactReal ℝ)} {trajectory : PieceTrajectory (ExactReal ℝ)}
  {rate : Piece (ExactReal ℝ) → ExactReal ℝ}

theorem nonempty_of_isFinite (h : isFinite (foldRates rate Option.none trajectory.pieces) = true) :
    trajectory.pieces ≠ [] := by
  intro hEmpty
  rw [hEmpty] at h
  exact Bool.false_ne_true h

theorem exists_below_maximum {k : ℕ} (hValid : ∀ piece ∈ trajectory.pieces, piece.valid = true)
    (hRate : ∀ piece ∈ trajectory.pieces, ∃ m, rate piece = .finite m ∧ IsGreatest (piece.rates k) m)
    (hFinite : isFinite (foldRates rate Option.none trajectory.pieces) = true) {t : ℝ}
    (ht : 0 ≤ t) : ∃ (piece : Piece (ExactReal ℝ)) (s : ℝ),
      trajectory.getState (.finite t) = ⟨(piece.curve 0 s).lift, (piece.curve 1 s).lift,
        (piece.curve 2 s).lift, (piece.curve 3 s).lift⟩ ∧
      ∀ m, foldRates rate Option.none trajectory.pieces = .finite m →
        (piece.curve k s).length ≤ m := by
  obtain ⟨piece, hPiece, s, hs, hState⟩ := getState_valid (nonempty_of_isFinite hFinite) hValid ht
  refine ⟨piece, s, hState, fun m hMaximum => ?_⟩
  obtain ⟨r, hr, hBelow⟩ := (foldRates_finite (by simp) hMaximum).2 piece hPiece
  obtain ⟨q, hq, hGreatest⟩ := hRate piece hPiece
  rw [hr] at hq
  obtain rfl := finite.inj hq
  exact (Piece.length_le_of_isGreatest hGreatest hs).trans hBelow

theorem isFinite_of_within {maximum limit : ExactReal ℝ}
    (h : withinNumericalDynamicLimit maximum limit = true) : isFinite maximum = true := by
  by_contra hNot
  simp [withinNumericalDynamicLimit, hNot] at h

theorem limitsRespected (hFinder : finder.Exact)
    (hPieces : ∀ piece ∈ trajectory.pieces, piece.valid = true ∧ piece.RatesSearched) :
    trajectory.LimitsRespected finder := by
  have hValid := fun piece hPiece => (hPieces piece hPiece).1
  have hExact := fun piece hPiece =>
    (Piece.extremaExact_iff hFinder (hPieces piece hPiece).1).mpr (hPieces piece hPiece).2
  refine ⟨?_, ?_, ?_, ?_⟩
  · intro limit h t ht
    obtain ⟨piece, s, hState, hBelow⟩ := exists_below_maximum hValid
      (fun piece hPiece => (hExact piece hPiece).velocity) (isFinite_of_within h) ht
    exact ⟨piece.curve 1 s, by rw [hState], within_of_le h (Vec3.length_nonneg _) hBelow⟩
  · intro limit h t ht
    obtain ⟨piece, s, hState, hBelow⟩ := exists_below_maximum hValid
      (fun piece hPiece => (hExact piece hPiece).acceleration) (isFinite_of_within h) ht
    exact ⟨piece.curve 2 s, by rw [hState], within_of_le h (Vec3.length_nonneg _) hBelow⟩
  · intro limit h t ht
    obtain ⟨piece, s, hState, hBelow⟩ := exists_below_maximum hValid
      (fun piece hPiece => (hExact piece hPiece).jerk) (isFinite_of_within h) ht
    exact ⟨piece.curve 3 s, by rw [hState], within_of_le h (Vec3.length_nonneg _) hBelow⟩
  · intro limit h t ht
    unfold candidateYawRateWithinLimit at h
    split at h
    case isTrue => exact absurd h (by simp)
    case isFalse =>
      rw [Bool.and_eq_true, decide_eq_true_eq] at h
      obtain ⟨piece, s, hState, hBelow⟩ := exists_below_maximum hValid
        (fun piece hPiece => (hExact piece hPiece).velocity) h.1 ht
      obtain ⟨m, hm⟩ := isFinite_iff.mp h.1
      refine ⟨piece.curve 1 s, by rw [hState], (hBelow m hm).trans ?_⟩
      have hLimit := h.2
      rw [hm, lit_finite, add_finite] at hLimit
      exact (le_finite _ _).mp hLimit

end Respected

end PieceTrajectory

/-! ## The exactness -/

noncomputable def exactRoots : RootFinder (ExactReal ℝ) where
  solvePolynomial coeffs left right _ :=
    ((descending (coeffs.map value)).roots.toFinset.toList.filter fun x =>
      left < .finite x && .finite x < right).map .finite
  countRoots coeffs left right :=
    ((descending (coeffs.map value)).roots.toFinset.toList.filter fun x =>
      left < .finite x && .finite x < right).length

theorem exactRoots_exact : exactRoots.Exact := by
  have hRow (row : List ℝ) : (finiteRow row).map value = row := by
    rw [finiteRow, List.map_map]
    exact List.map_id row
  have hNe {p : ℝ[X]} {x : ℝ} (h : p.eval x ≠ 0) : p ≠ 0 := by
    rintro rfl
    exact h eval_zero
  have hMem {row : List ℝ} {left right x : ℝ} (h : (descending row).eval left ≠ 0) :
      x ∈ ((descending row).roots.toFinset.toList.filter fun x =>
        (finite left < .finite x : Bool) && (finite x < .finite right : Bool)) ↔
      left < x ∧ x < right ∧ (descending row).eval x = 0 := by
    rw [List.mem_filter, Finset.mem_toList, Multiset.mem_toFinset, mem_roots (hNe h),
      Bool.and_eq_true, decide_eq_true_eq, decide_eq_true_eq, lt_finite, lt_finite]
    constructor
    · rintro ⟨hRoot, hLow, hHigh⟩
      exact ⟨hLow, hHigh, hRoot⟩
    · rintro ⟨hLow, hHigh, hRoot⟩
      exact ⟨hRoot, hLow, hHigh⟩
  constructor
  · intro row left right tolerance _ _ hLeft _ x hLow hHigh hRoot
    apply List.mem_map_of_mem
    rw [hRow]
    exact (hMem hLeft).mpr ⟨hLow, hHigh, hRoot⟩
  · intro row left right _ hLeft _
    change ((List.length _ : ℕ) : ℤ) = _
    rw [hRow, Nat.cast_inj]
    have hNodup := ((descending row).roots.toFinset.nodup_toList.filter fun x =>
      (finite left < .finite x : Bool) && (finite x < .finite right : Bool))
    rw [← List.toFinset_card_of_nodup hNodup, ← Set.ncard_coe_finset]
    congr 1
    ext x
    rw [Finset.mem_coe, List.mem_toFinset, hMem hLeft]
    rfl

/-- A valid piece reports its extrema exactly when every rate is searched where it has to be. A
trajectory of such pieces respects the limits it passes. -/
theorem dynamic_limit_extrema_exact_iff {finder : RootFinder (ExactReal ℝ)}
    (hFinder : finder.Exact) :
    (∀ piece : Piece (ExactReal ℝ), piece.valid = true →
      (piece.ExtremaExact finder ↔ piece.RatesSearched)) ∧
    ∀ trajectory : PieceTrajectory (ExactReal ℝ),
      (∀ piece ∈ trajectory.pieces, piece.valid = true ∧ piece.RatesSearched) →
      trajectory.LimitsRespected finder := by
  constructor
  · intro piece hValid
    exact Piece.extremaExact_iff hFinder hValid
  · intro trajectory hPieces
    exact PieceTrajectory.limitsRespected hFinder hPieces

/-! Two pieces start from rest. The longer one is searched. -/

namespace Piece

def accelerating (duration half : ℝ) : Piece (ExactReal ℝ) :=
  ofReals duration [⟨half, 0, 0⟩, ⟨0, 0, 0⟩, ⟨0, 0, 0⟩]

section Accelerating
variable {duration : ℝ} (hDuration : 0 < duration) (half : ℝ)

theorem velocity_accelerating (duration half t : ℝ) :
    (accelerating duration half).curve 1 t = ⟨2 * half * t, 0, 0⟩ := by
  unfold curve accelerating
  simp [curveOf, columnwise, descending]
  ring

theorem acceleration_accelerating (duration half t : ℝ) :
    (accelerating duration half).curve 2 t = ⟨2 * half, 0, 0⟩ := by
  unfold curve accelerating
  simp [curveOf, columnwise, descending]
  ring

include hDuration

theorem valid_accelerating : (accelerating duration half).valid = true :=
  (valid_ofReals_iff _ _).mpr ⟨hDuration, by simp⟩

theorem slope_accelerating :
    differentiate (sumOfSquares (accelerating duration half).normalizeVelCoeffMat) =
      finiteRow [2 * (2 * half * duration ^ 2) ^ 2, 0] := by
  have hNormalized : (accelerating duration half).normalizeVelCoeffMat =
      [Vec3.lift ⟨2 * half * duration ^ 2, 0, 0⟩, Vec3.lift ⟨0, 0, 0⟩] := by
    unfold normalizeVelCoeffMat normalizeCoeffMat
    rw [valid_accelerating hDuration, if_neg (by simp [degree, accelerating, ofReals])]
    simp [normalizeColumns, accelerating, ofReals, Vec3.scale, Vec3.lift, ofInt]
    ring
  have hSquare (a : ℝ) : RootFinder.polySqr (finiteRow [a, 0]) = finiteRow [a ^ 2, 0, 0] := by
    simp [RootFinder.polySqr, finiteRow, List.range, List.range.loop, lit_zero, lit_two]
    ring
  rw [hNormalized]
  change differentiate (List.zipWith _ (List.zipWith _ (RootFinder.polySqr (finiteRow [_, 0]))
    (RootFinder.polySqr (finiteRow [0, 0]))) (RootFinder.polySqr (finiteRow [0, 0]))) = _
  rw [hSquare, hSquare, zipWith_finiteRow, zipWith_finiteRow]
  simp [differentiate, finiteRow, List.range, List.range.loop, lit_zero, ofInt]
  ring

theorem slope_acceleration_accelerating :
    differentiate (sumOfSquares (accelerating duration half).normalizeAccCoeffMat) =
      finiteRow [] := by
  apply List.length_eq_zero_iff.mp
  unfold normalizeAccCoeffMat normalizeCoeffMat
  rw [valid_accelerating hDuration, if_neg (by simp [degree, accelerating, ofReals])]
  simp [differentiate, sumOfSquares, normalizeColumns, accelerating, ofReals, RootFinder.polySqr]

end Accelerating

theorem ratesSearched_accelerating : (accelerating 1 1).RatesSearched := by
  refine ⟨fun _ => ?_, fun _ => ?_, fun hDegree => absurd hDegree (by decide)⟩
  · rw [slope_accelerating one_pos]
    dsimp only
    rw [squaredNorm_finiteRow, lit_finite, if_neg (by rw [lt_finite]; norm_num)]
    have hValue (x : ℝ) : (descending [2 * (2 * 1 * 1 ^ 2) ^ 2, 0]).eval x = 8 * x := by
      simp [descending]
      ring
    have hBound {x : ℝ} (hx : 1 / 16 ≤ |x|) : realEpsilon ≤ |x| ∧ realEpsilon ≤ |8 * x| := by
      have := realEpsilon_le
      rw [abs_mul, abs_of_pos (by norm_num : (0 : ℝ) < 8)]
      constructor <;> linarith
    have hLeft := hBound (x := ((-1 / 16 : ℚ) : ℝ)) (by norm_num)
    have hRight := hBound (x := ((17 / 16 : ℚ) : ℝ)) (by norm_num [abs_of_pos])
    unfold moveRootSearchBoundsAwayFromZeros
    rw [lit_finite (-1 / 16), lit_finite (17 / 16),
      moveBound_of_large _ _ hLeft.1 (by rw [hValue]; exact hLeft.2),
      moveBound_of_large _ _ hRight.1 (by rw [hValue]; exact hRight.2)]
    rfl
  · rw [slope_acceleration_accelerating one_pos]
    dsimp only
    split
    case isTrue =>
      intro t _
      rw [acceleration_accelerating, acceleration_accelerating]
    case isFalse hNot =>
      refine absurd ?_ hNot
      rw [squaredNorm_finiteRow, doubleEpsilon_eq, lt_finite]
      exact realEpsilon_pos

end Piece

theorem dynamic_limit_extrema_exact_accelerating :
    (Piece.accelerating 1 1).ExtremaExact exactRoots ∧
      (⟨[Piece.accelerating 1 1], .finite 0⟩ : PieceTrajectory (ExactReal ℝ)).LimitsRespected
        exactRoots := by
  have h := dynamic_limit_extrema_exact_iff exactRoots_exact
  have hValid := Piece.valid_accelerating one_pos 1
  constructor
  · exact (h.1 _ hValid).mpr Piece.ratesSearched_accelerating
  · apply h.2
    intro piece hPiece
    obtain rfl := List.mem_singleton.mp hPiece
    exact ⟨hValid, Piece.ratesSearched_accelerating⟩

/-- Ten milliseconds at 200 m/s² from rest: the reported maximum is the speed at the start. -/
theorem dynamic_limit_extrema_understated : ¬ ∀ finder : RootFinder (ExactReal ℝ), finder.Exact →
      ∀ piece : Piece (ExactReal ℝ), piece.valid = true → piece.ExtremaExact finder := by
  intro h
  have hSearched := ((Piece.extremaExact_iff exactRoots_exact
    (Piece.valid_accelerating (by norm_num) 100)).mp
      (h exactRoots exactRoots_exact (Piece.accelerating (1 / 100) 100)
        (Piece.valid_accelerating (by norm_num) 100))).velocity (by decide)
  rw [Piece.slope_accelerating (by norm_num)] at hSearched
  dsimp only at hSearched
  rw [squaredNorm_finiteRow, lit_finite, if_pos (by rw [lt_finite]; norm_num)] at hSearched
  have hEnd := hSearched (1 / 100) ⟨by norm_num, le_rfl⟩
  rw [Piece.velocity_accelerating, Piece.velocity_accelerating] at hEnd
  have hSpeed (v : ℝ) : (⟨v, 0, 0⟩ : Vec3 ℝ).length = |v| := by
    simp [Vec3.length, Vec3.normSquared, Real.sqrt_mul_self_eq_abs]
  rw [hSpeed, hSpeed] at hEnd
  norm_num at hEnd

/-! ## The place of a time in a trajectory -/

namespace PieceTrajectory

theorem locatePiece_splits {trajectory : PieceTrajectory (ExactReal ℝ)}
    (hNonempty : trajectory.pieces ≠ [])
    (hValid : ∀ piece ∈ trajectory.pieces, piece.valid = true) {t : ℝ} (ht : 0 ≤ t) :
    ∃ before piece after, ∃ s ∈ Icc 0 piece.horizon,
      trajectory.pieces = before ++ piece :: after ∧
      trajectory.locatePiece (.finite t) = some (piece, .finite s) ∧
      ((before.map Piece.horizon).sum + s = t ∨
        after = [] ∧ s = piece.horizon ∧ (before.map Piece.horizon).sum + s < t) ∧
      (before ≠ [] → (before.map Piece.horizon).sum < t) := by
  have hEmpty : trajectory.empty = false := by simpa [empty] using hNonempty
  unfold locatePiece
  rw [hEmpty, isFinite_finite, lit_zero, if_neg (by simpa using ht)]
  exact locate_splits hNonempty hValid ht

/-- Half a second into the second of two pieces. -/
theorem locatePiece_splits_accelerating :
    let first := Piece.accelerating 1 1
    let second := Piece.accelerating 2 3
    (⟨[first, second], .finite 0⟩ : PieceTrajectory (ExactReal ℝ)).locatePiece (.finite (3 / 2)) =
        some (second, .finite (1 / 2)) ∧
      ([first].map Piece.horizon).sum + 1 / 2 = (3 / 2 : ℝ) := by
  intro first second
  obtain ⟨before, piece, after, s, hs, hPieces, hLocate, hTime, -⟩ :=
    @locatePiece_splits ⟨[first, second], .finite 0⟩ (by simp)
      (by simp [first, second, Piece.valid_accelerating]) (3 / 2) (by norm_num)
  have hFirst : first.horizon = 1 := Piece.horizon_ofReals _ _
  have hSecond : second.horizon = 2 := Piece.horizon_ofReals _ _
  match before, hPieces with
  | [], hPieces =>
    obtain ⟨rfl, rfl⟩ := List.cons.inj hPieces
    have hEnd := hs.2
    simp [hFirst] at hTime hEnd
    linarith
  | [_], hPieces =>
    obtain ⟨rfl, hRest⟩ := List.cons.inj hPieces
    obtain ⟨rfl, rfl⟩ := List.cons.inj hRest
    have hStart := hs.1
    obtain hSplit | ⟨-, rfl, hLate⟩ := hTime
    · simp only [List.map_cons, List.map_nil, List.sum_cons, List.sum_nil, hFirst] at hSplit ⊢
      obtain rfl : s = 1 / 2 := by linarith
      exact ⟨hLocate, by norm_num⟩
    · simp [hFirst, hSecond] at hLate
      linarith
  | _ :: _ :: _, hPieces => simp at hPieces

end PieceTrajectory

end UavNavigation
