import UavNavigation.RouteConsistency
import UavNavigation.SegmentCertificate

/-!
# The tube around a segment

In exact arithmetic `observedOccupiedTubeIsClear` measures the distance of every point
that the query returns to the nearest point of the segment, or to the start of a segment
that is not longer than the machine epsilon. The query clamps its box to the centres of
the grid and to the virtual planes: a cell near the segment stays inside, unless the grid
has one cell along an axis. There the clamped box has no width, and the query returns nothing.
-/

namespace UavNavigation

set_option autoImplicit false

open FloatOps GridRay ExactReal

section Nearest
variable {ε : ℝ} {a b x : Vec3 ℝ}

/-- The parameter of the point of the segment that is measured. A segment that is not
longer than the threshold is measured at its start. -/
noncomputable def footFraction (ε : ℝ) (a b x : Vec3 ℝ) : ℝ :=
  if ε < gap a b * gap a b then
    0 ⊔ ((x.x - a.x) * (b.x - a.x) + (x.y - a.y) * (b.y - a.y) + (x.z - a.z) * (b.z - a.z)) /
      (gap a b * gap a b) ⊓ 1
  else 0

theorem footFraction_short (h : gap a b * gap a b ≤ ε) : footFraction ε a b x = 0 :=
  if_neg (not_lt.mpr h)

theorem gap_foot_le (hε : 0 ≤ ε) (h : ε < gap a b * gap a b) {t : ℝ} (h0 : 0 ≤ t) (h1 : t ≤ 1) :
    gap (pointAt a b (footFraction ε a b x)) x ≤ gap (pointAt a b t) x := by
  have hSquare : 0 < gap a b * gap a b := hε.trans_lt h
  have hPos : 0 < gap a b := by
    rcases (gap_nonneg a b).lt_or_eq with hPos | hZero
    · exact hPos
    · rw [← hZero, mul_zero] at hSquare
      exact absurd hSquare (lt_irrefl 0)
  obtain ⟨f, hClamp, -, -, hNearest⟩ := clamp_nearest
    (((x.x - a.x) * (b.x - a.x) + (x.y - a.y) * (b.y - a.y) + (x.z - a.z) * (b.z - a.z)) /
      (gap a b * gap a b))
  have hFoot : footFraction ε a b x = f := by
    rw [lit_zero, lit_one, clamp_eq _ zero_le_one] at hClamp
    rw [footFraction, if_pos h]
    exact finite.inj hClamp
  apply gap_le_of_squared
  rw [hFoot]
  have hParabola := gap_alongLeg (x := x) hPos f t
    (((x.x - a.x) * (b.x - a.x) + (x.y - a.y) * (b.y - a.y) + (x.z - a.z) * (b.z - a.z)) /
      (gap a b * gap a b)) (by field_simp)
  change gap (pointAt a b t) x * gap (pointAt a b t) x =
    gap (pointAt a b f) x * gap (pointAt a b f) x + _ at hParabola
  have hLess := hNearest t h0 h1
  nlinarith [mul_nonneg hSquare.le (sub_nonneg.mpr hLess)]

end Nearest

section Clearance
variable {limits : NumericLimits (ExactReal ℝ)} {largest ε : ℝ} {a b x : Vec3 ℝ}

theorem sumProducts_lift (p q : Vec3 ℝ) :
    (sumProducts (D := ExactReal ℝ) p.lift q.lift : ExactReal ℝ) =
      .finite (p.x * q.x + p.y * q.y + p.z * q.z) := by
  change lit 0 + finite (p.x * q.x) + .finite (p.y * q.y) + .finite (p.z * q.z) = _
  rw [lit_zero, add_finite, add_finite, add_finite, zero_add]

theorem pointIsClear_iff (hEpsilon : limits.epsilon = .finite ε) (hε : 0 ≤ ε) (c : ℝ) :
    pointIsClear limits a.lift (b.lift - a.lift) (.finite (gap a b * gap a b) : ExactReal ℝ)
        (.finite c : ExactReal ℝ) x.lift = true ↔
      c < gap (pointAt a b (footFraction ε a b x)) x := by
  have hDistance (f : ℝ) : FloatOps.sqrt (sumProducts (D := ExactReal ℝ)
      (x.lift - (a.lift + Vec3.scale (.finite f) (b.lift - a.lift)))
      (x.lift - (a.lift + Vec3.scale (.finite f) (b.lift - a.lift))) : ExactReal ℝ) =
      .finite (gap (pointAt a b f) x) := by
    have hFoot : a.lift + Vec3.scale (.finite f) (b.lift - a.lift) = (pointAt a b f).lift := rfl
    rw [hFoot, Vec3.lift_sub, sumProducts_lift]
    exact sqrt_finite (Vec3.normSquared_nonneg _)
  have hNumerator : (sumProducts (D := ExactReal ℝ) (x.lift - a.lift) (b.lift - a.lift) :
      ExactReal ℝ) = .finite ((x.x - a.x) * (b.x - a.x) + (x.y - a.y) * (b.y - a.y) +
        (x.z - a.z) * (b.z - a.z)) := by
    rw [Vec3.lift_sub, Vec3.lift_sub, sumProducts_lift]
  change (if !x.lift.allFinite then false else
    if decide (limits.epsilon < finite (gap a b * gap a b)) &&
        !isFinite (sumProducts (D := ExactReal ℝ) (x.lift - a.lift) (b.lift - a.lift) : ExactReal ℝ)
      then false
    else
      let projection : ExactReal ℝ :=
        if limits.epsilon < finite (gap a b * gap a b) then
          clamp ((sumProducts (D := ExactReal ℝ) (x.lift - a.lift) (b.lift - a.lift) : ExactReal ℝ) /
            finite (gap a b * gap a b)) (lit 0) (lit 1)
        else lit 0
      let distance : ExactReal ℝ := FloatOps.sqrt (sumProducts (D := ExactReal ℝ)
        (x.lift - (a.lift + Vec3.scale projection (b.lift - a.lift)))
        (x.lift - (a.lift + Vec3.scale projection (b.lift - a.lift))))
      !(!isFinite distance || decide (distance ≤ finite c))) = true ↔ _
  rw [hNumerator, hEpsilon]
  have hFinite : (!x.lift.allFinite) = false := rfl
  by_cases hLong : ε < gap a b * gap a b
  · have hSquare : gap a b * gap a b ≠ 0 := (hε.trans_lt hLong).ne'
    have hFoot := clamp_eq (((x.x - a.x) * (b.x - a.x) + (x.y - a.y) * (b.y - a.y) +
        (x.z - a.z) * (b.z - a.z)) / (gap a b * gap a b)) (zero_le_one (α := ℝ))
    rw [← lit_zero, ← lit_one] at hFoot
    simp only [hFinite, lt_finite, hLong, isFinite_finite, div_finite _ hSquare,
      hFoot, hDistance, if_true, footFraction]
    simp
  · simp only [hFinite, lt_finite, hLong, isFinite_finite, lit_zero, hDistance,
      if_false, footFraction]
    simp

/-! ## The query box -/

def QueryFits (largest q : ℝ) (a b : Vec3 ℝ) : Prop :=
  q ≤ largest ∧ (-largest ≤ a.x ⊓ b.x - q ∧ a.x ⊔ b.x + q ≤ largest) ∧
    (-largest ≤ a.y ⊓ b.y - q ∧ a.y ⊔ b.y + q ≤ largest) ∧
    (-largest ≤ a.z ⊓ b.z - q ∧ a.z ⊔ b.z + q ≤ largest)

def lowerCorner (q : ℝ) (a b : Vec3 ℝ) : Vec3 ℝ := ⟨a.x ⊓ b.x - q, a.y ⊓ b.y - q, a.z ⊓ b.z - q⟩

def upperCorner (q : ℝ) (a b : Vec3 ℝ) : Vec3 ℝ := ⟨a.x ⊔ b.x + q, a.y ⊔ b.y + q, a.z ⊔ b.z + q⟩

theorem queryInterval_exact (hLimits : limits.Bounded largest) (q u v : ℝ) :
    queryInterval limits (.finite q : ExactReal ℝ) (.finite u : ExactReal ℝ) (.finite v) =
      if -largest ≤ u ⊓ v - q ∧ u ⊔ v + q ≤ largest then
        some (.finite (u ⊓ v - q), .finite (u ⊔ v + q))
      else none := by
  change (if !isFinite (FloatOps.min (finite u) (.finite v) - finite q) ||
      !isFinite (FloatOps.max (finite u) (.finite v) + finite q) ||
      decide (FloatOps.min (finite u) (.finite v) - finite q < limits.lowest) ||
      decide (limits.max < FloatOps.max (finite u) (.finite v) + finite q)
    then none else some (FloatOps.min (finite u) (.finite v) - finite q,
      FloatOps.max (finite u) (.finite v) + finite q)) = _
  simp only [min_finite, max_finite, sub_finite, add_finite, isFinite_finite, hLimits.max,
    hLimits.lowest, lt_finite, Bool.not_true, Bool.false_or, Bool.or_eq_true, decide_eq_true_eq]
  by_cases hFits : -largest ≤ u ⊓ v - q ∧ u ⊔ v + q ≤ largest
  · rw [if_pos hFits, if_neg]
    rintro (hLow | hHigh)
    · exact absurd hFits.1 (not_le.mpr hLow)
    · exact absurd hFits.2 (not_le.mpr hHigh)
  · rw [if_neg hFits, if_pos]
    rwa [not_and_or, not_le, not_le] at hFits

theorem queryBox_exact (hLimits : limits.Bounded largest) (q : ℝ) :
    (queryBox limits (.finite q : ExactReal ℝ) a.lift.widen b.lift.widen = none ∧
        ¬ QueryFits largest q a b) ∨
      (queryBox limits (.finite q : ExactReal ℝ) a.lift.widen b.lift.widen =
          some ⟨(lowerCorner q a b).lift, (upperCorner q a b).lift⟩ ∧
        (QueryFits largest q a b ↔ q ≤ largest)) := by
  have hx := queryInterval_exact hLimits q a.x b.x
  have hy := queryInterval_exact hLimits q a.y b.y
  have hz := queryInterval_exact hLimits q a.z b.z
  unfold queryBox QueryFits
  erw [hx, hy, hz]
  by_cases hFitsX : -largest ≤ a.x ⊓ b.x - q ∧ a.x ⊔ b.x + q ≤ largest
  · by_cases hFitsY : -largest ≤ a.y ⊓ b.y - q ∧ a.y ⊔ b.y + q ≤ largest
    · by_cases hFitsZ : -largest ≤ a.z ⊓ b.z - q ∧ a.z ⊔ b.z + q ≤ largest
      · rw [if_pos hFitsX, if_pos hFitsY, if_pos hFitsZ]
        exact .inr ⟨rfl, fun h => h.1, fun h => ⟨h, hFitsX, hFitsY, hFitsZ⟩⟩
      · rw [if_pos hFitsX, if_pos hFitsY, if_neg hFitsZ]
        exact .inl ⟨rfl, fun h => hFitsZ h.2.2.2⟩
    · rw [if_pos hFitsX, if_neg hFitsY]
      exact .inl ⟨rfl, fun h => hFitsY h.2.2.1⟩
  · rw [if_neg hFitsX]
    exact .inl ⟨rfl, fun h => hFitsX h.2.1⟩

theorem valid_corners {q : ℝ} (hq : 0 ≤ q) :
    AxisAlignedBox.valid (⟨(lowerCorner q a b).lift, (upperCorner q a b).lift⟩ :
      AxisAlignedBox (ExactReal ℝ)) = true := by
  have hOrder (u v : ℝ) : u ⊓ v - q ≤ u ⊔ v + q := by
    have hMinMax : u ⊓ v ≤ u ⊔ v := inf_le_sup
    linarith
  simp [AxisAlignedBox.valid, Vec3.lift, Vec3.allFinite, lowerCorner, upperCorner, hOrder]

theorem observedOccupiedTubeIsClear_iff (hLimits : limits.Bounded largest)
    (hEpsilon : limits.epsilon = .finite ε) (hε : 0 ≤ ε)
    {points : AxisAlignedBox (ExactReal ℝ) → List (Vec3 (ExactReal ℝ))} {r : ℝ} (hRadius : 0 ≤ r) :
    observedOccupiedTubeIsClear limits points a.lift b.lift (.finite r) = true ↔
      QueryFits largest (r + 1 / 100) a b ∧
        ∀ point ∈ points ⟨(lowerCorner (r + 1 / 100) a b).lift, (upperCorner (r + 1 / 100) a b).lift⟩,
          ∃ x : Vec3 ℝ, point = x.lift ∧
            0 ⊔ (r - 1 / 100) < gap (pointAt a b (footFraction ε a b x)) x := by
  have hTolerance : ((0.01 : ℚ) : ℝ) = 1 / 100 := by norm_num
  have hQuery : (Floating.widen (finite r) + Floating.widen (lit 0.01 : ExactReal ℝ) :
      Floating.LongDouble (ExactReal ℝ)) = (finite (r + 1 / 100) : ExactReal ℝ) := by
    change finite (r + ((0.01 : ℚ) : ℝ)) = _
    rw [hTolerance]
  have hMinimum : (FloatOps.max (lit 0) (Floating.widen (finite r) -
      Floating.widen (lit 0.01 : ExactReal ℝ)) : Floating.LongDouble (ExactReal ℝ)) =
      (finite (0 ⊔ (r - 1 / 100)) : ExactReal ℝ) := by
    change FloatOps.max (lit 0) (finite (r - ((0.01 : ℚ) : ℝ))) = _
    rw [hTolerance, lit_zero, max_finite]
  have hNonneg : ¬ (finite r < lit 0) := by
    rw [lit_zero, lt_finite]
    exact not_lt.mpr hRadius
  have hSquared : (sumProducts (D := ExactReal ℝ) (b.lift - a.lift) (b.lift - a.lift) :
      ExactReal ℝ) = .finite (gap a b * gap a b) := by
    rw [Vec3.lift_sub, sumProducts_lift, gap_squared]
  unfold observedOccupiedTubeIsClear
  dsimp only
  rw [if_neg, hQuery, hMinimum]
  · rcases queryBox_exact (a := a) (b := b) hLimits (r + 1 / 100) with ⟨hNone, hNot⟩ | ⟨hSome, hFits⟩
    · rw [hNone]
      constructor
      · intro h
        simp at h
      · rintro ⟨hFits, -⟩
        exact absurd hFits hNot
    · rw [hSome, hFits]
      dsimp only
      rw [valid_corners (by linarith)]
      by_cases hLargest : r + 1 / 100 ≤ largest
      · have hClear (point : Vec3 (ExactReal ℝ)) :
            pointIsClear limits a.lift (b.lift - a.lift) (.finite (gap a b * gap a b) : ExactReal ℝ)
              (.finite (0 ⊔ (r - 1 / 100)) : ExactReal ℝ) point = true ↔
            ∃ x : Vec3 ℝ, point = x.lift ∧
              0 ⊔ (r - 1 / 100) < gap (pointAt a b (footFraction ε a b x)) x := by
          constructor
          · intro h
            cases hFinite : point.allFinite with
            | false => simp [pointIsClear, hFinite] at h
            | true =>
              obtain ⟨x, rfl⟩ := Vec3.allFinite_iff.mp hFinite
              exact ⟨x, rfl, (pointIsClear_iff hEpsilon hε _).mp h⟩
          · rintro ⟨x, rfl, h⟩
            exact (pointIsClear_iff hEpsilon hε _).mpr h
        rw [if_neg, if_neg Bool.noConfusion, if_neg, if_neg]
        · change List.all _ (pointIsClear limits a.lift (b.lift - a.lift)
            (sumProducts (D := ExactReal ℝ) (b.lift - a.lift) (b.lift - a.lift))
            (.finite (0 ⊔ (r - 1 / 100)) : ExactReal ℝ)) = true ↔ _
          rw [hSquared, List.all_eq_true]
          simp only [hClear, hLargest, true_and]
        · change ¬ (!isFinite (sumProducts (D := ExactReal ℝ) (b.lift - a.lift) (b.lift - a.lift) :
            ExactReal ℝ)) = true
          exact Bool.noConfusion
        · exact Bool.noConfusion
        · rw [hLimits.max]
          change ¬ (false || false || decide (largest < r + 1 / 100)) = true
          simpa using hLargest
      · rw [if_pos]
        · constructor
          · intro h
            cases h
          · rintro ⟨h, -⟩
            exact absurd h hLargest
        · rw [hLimits.max]
          change (false || false || decide (largest < r + 1 / 100)) = true
          simpa using hLargest
  · simp [hNonneg]

end Clearance

/-! ## What a clear tube certifies -/

section Axis

theorem center_le {base : ℝ} (hBase : 0 < base) {i j : Int} (h : i ≤ j) :
    ((i : ℝ) + 1 / 2) * base ≤ ((j : ℝ) + 1 / 2) * base := by
  have hCast : (i : ℝ) ≤ j := Int.cast_le.mpr h
  exact mul_le_mul_of_nonneg_right (by linarith) hBase.le

theorem center_lt {base : ℝ} (hBase : 0 < base) {i j : Int} (h : i < j) :
    ((i : ℝ) + 1 / 2) * base < ((j : ℝ) + 1 / 2) * base := by
  have hCast : (i : ℝ) < j := Int.cast_lt.mpr h
  exact mul_lt_mul_of_pos_right (by linarith) hBase

variable {base lower upper : ℝ} {first last i : Int}

theorem cell_within (hBase : 0 < base) {x : ℝ} (hFirst : ((first : ℝ) + 1 / 2) * base ≤ x)
    (hLast : x ≤ ((last : ℝ) + 1 / 2) * base) : first ≤ cell base x ∧ cell base x ≤ last := by
  constructor
  · rw [← cell_center hBase first]
    exact cell_mono hBase hFirst
  · rw [← cell_center hBase last]
    exact cell_mono hBase hLast

/-- The interval has a width and reaches into the cell. -/
def Reaches (base lower upper : ℝ) (i : Int) : Prop :=
  lower < upper ∧ cell base lower ≤ i ∧ i ≤ cell base upper

theorem reaches_clamped (hBase : 0 < base) (first last : Int) (hFirst : first ≤ i) (hLast : i ≤ last)
    (hWide : first < last) (hLow : lower < ((i : ℝ) + 1 / 2) * base)
    (hHigh : ((i : ℝ) + 1 / 2) * base < upper) :
    Reaches base (lower ⊔ ((first : ℝ) + 1 / 2) * base) (upper ⊓ ((last : ℝ) + 1 / 2) * base) i := by
  have hBelow := center_le hBase hFirst
  have hAbove := center_le hBase hLast
  have hSpan := center_lt hBase hWide
  refine ⟨sup_lt_iff.mpr ⟨?_, ?_⟩, ?_, ?_⟩
  · exact lt_inf_iff.mpr ⟨hLow.trans hHigh, hLow.trans_le hAbove⟩
  · exact lt_inf_iff.mpr ⟨hBelow.trans_lt hHigh, hSpan⟩
  · rw [← cell_center hBase i]
    exact cell_mono hBase (sup_le hLow.le hBelow)
  · rw [← cell_center hBase i]
    exact cell_mono hBase (le_inf hHigh.le hAbove)

/-- The planes cut the interval further. -/
theorem reaches_planes_iff (hBase : 0 < base) (h : Reaches base lower upper i) {ground ceiling : ℝ} :
    Reaches base (lower ⊔ ground) (upper ⊓ ceiling) i ↔
      (ground < (i + 1) * base ∧ i * base ≤ ceiling) ∧
        ∃ z, (lower < z ∧ z < upper) ∧ ground < z ∧ z < ceiling := by
  obtain ⟨-, hLow, hHigh⟩ := h
  have hCells : (cell base (lower ⊔ ground) ≤ i ↔ ground < (i + 1) * base) ∧
      (i ≤ cell base (upper ⊓ ceiling) ↔ i * base ≤ ceiling) := by
    rw [← Int.lt_add_one_iff, cell_lt_iff hBase] at hLow
    rw [le_cell_iff hBase] at hHigh
    rw [← Int.lt_add_one_iff, cell_lt_iff hBase, le_cell_iff hBase, sup_lt_iff, le_inf_iff]
    push_cast at hLow ⊢
    exact ⟨and_iff_right hLow, and_iff_right hHigh⟩
  rw [Reaches, hCells.1, hCells.2, and_comm]
  refine and_congr_right fun _ => ⟨fun hWidth => ?_, ?_⟩
  · obtain ⟨z, hz, hz'⟩ := exists_between hWidth
    obtain ⟨hAbove, hGround⟩ := sup_lt_iff.mp hz
    obtain ⟨hBelow, hCeiling⟩ := lt_inf_iff.mp hz'
    exact ⟨z, ⟨hAbove, hBelow⟩, hGround, hCeiling⟩
  · rintro ⟨z, ⟨hAbove, hBelow⟩, hGround, hCeiling⟩
    exact (sup_lt_iff.mpr ⟨hAbove, hGround⟩).trans (lt_inf_iff.mpr ⟨hBelow, hCeiling⟩)

theorem mem_indexRange {first last i : Int} :
    i ∈ MappingWorldSnapshot.indexRange first last ↔ first ≤ i ∧ i ≤ last := by
  simp only [MappingWorldSnapshot.indexRange, List.mem_map, List.bind_eq_flatMap, List.pure_def,
    List.mem_flatMap, List.mem_range, List.mem_singleton]
  constructor
  · rintro ⟨-, ⟨k, hk, rfl⟩, rfl⟩
    omega
  · rintro ⟨hFirst, hLast⟩
    exact ⟨i - first, ⟨(i - first).toNat, by omega, by omega⟩, by omega⟩

end Axis

/-! ## The query on a snapshot -/

/-- No axis of a counted layout reaches past the last `int`. -/
theorem last_le_of_voxelCount {layout : PlanningGridLayout (ExactReal ℝ)}
    {countOverflow rangeOverflow : String} {total : Nat}
    (h : voxelCount layout countOverflow rangeOverflow = .ok total) :
    layout.globalMinIndex.x + layout.dimensions.x - 1 ≤ intMax ∧
      layout.globalMinIndex.y + layout.dimensions.y - 1 ≤ intMax ∧
      layout.globalMinIndex.z + layout.dimensions.z - 1 ≤ intMax := by
  obtain ⟨_, _, hx, hy, hz⟩ := voxelCount_axes h
  exact ⟨(countAxis_ok hx).2.2, (countAxis_ok hy).2.2, (countAxis_ok hz).2.2⟩

namespace MappingWorldSnapshot

def lastIndex (s : MappingWorldSnapshot (ExactReal ℝ)) : GridIndex3 :=
  s.rootGrid.baseLayout.globalMinIndex + (s.rootGrid.baseLayout.dimensions - GridIndex3.ones)

/-- The grid and the planes that the box is clamped to. The first index is an `int`, as its
type has it. -/
structure Frame (s : MappingWorldSnapshot (ExactReal ℝ)) (base ground ceiling : ℝ) : Prop where
  base_pos : 0 < base
  resolution : s.rootGrid.baseLayout.resolutionM = .finite base
  firstFits : s.rootGrid.baseLayout.globalMinIndex.Fits
  lastFits : s.lastIndex.Fits
  count : s.rootGrid.baseLayout.count ≤ sizeMax
  ground : s.rootGrid.virtualGroundM = .finite ground
  ceiling : s.rootGrid.virtualCeilingM = .finite ceiling

theorem exists_frame {s : MappingWorldSnapshot (ExactReal ℝ)} (h : s.Accepted)
    (hFirst : s.rootGrid.baseLayout.globalMinIndex.Fits) :
    (0 < s.rootGrid.baseLayout.dimensions.x ∧ 0 < s.rootGrid.baseLayout.dimensions.y ∧
      0 < s.rootGrid.baseLayout.dimensions.z) ∧
    ∃ base ground ceiling, s.Frame base ground ceiling := by
  obtain ⟨identity, hGrid⟩ := gridAccepted_rootGrid h
  obtain ⟨-, hCount, hInvalid⟩ := validateLayout_ok hGrid.baseLayout
  obtain ⟨base, hResolution, hBase⟩ := resolution_of_valid hInvalid
  have hVoxels := hGrid.baseLayout
  unfold validateLayout at hVoxels
  split at hVoxels
  · cases hVoxels
  obtain ⟨hLastX, hLastY, hLastZ⟩ := last_le_of_voxelCount hVoxels
  simp only [dimensionsInvalid, Bool.or_eq_false_iff, decide_eq_false_iff_not, not_le] at hInvalid
  obtain ⟨-, ⟨hx, hy⟩, hz⟩ := hInvalid
  have hMetadata := hGrid.metadata
  simp only [metadataInvalid, Bool.or_eq_false_iff, Bool.not_eq_false'] at hMetadata
  obtain ⟨ground, hGround⟩ := isFinite_iff.mp hMetadata.1.1.1.1.1.1.1.1.1.1
  obtain ⟨ceiling, hCeiling⟩ := isFinite_iff.mp hMetadata.1.1.1.1.1.1.1.1.1.2
  have hLow := (fitsInt_iff.mp hFirst.1).1
  have hLowY := (fitsInt_iff.mp hFirst.2.1).1
  have hLowZ := (fitsInt_iff.mp hFirst.2.2).1
  refine ⟨⟨hx, hy, hz⟩, base, ground, ceiling, hBase, hResolution, hFirst, ⟨?_, ?_, ?_⟩, hCount,
    hGround, hCeiling⟩
  all_goals
    rw [fitsInt_iff]
    change intMin ≤ _ + (_ - 1) ∧ _ + (_ - 1) ≤ intMax
    omega

variable {s : MappingWorldSnapshot (ExactReal ℝ)} {limits : NumericLimits (ExactReal ℝ)}
  {largest base ground ceiling : ℝ}

noncomputable def clampedLower (s : MappingWorldSnapshot (ExactReal ℝ)) (base ground : ℝ)
    (lower : Vec3 ℝ) : Vec3 ℝ :=
  let first := cellCenterOf base s.rootGrid.baseLayout.globalMinIndex
  ⟨lower.x ⊔ first.x, lower.y ⊔ first.y,
    if s.rootGrid.virtualGroundCeilingEnabled then lower.z ⊔ first.z ⊔ ground
    else lower.z ⊔ first.z⟩

noncomputable def clampedUpper (s : MappingWorldSnapshot (ExactReal ℝ)) (base ceiling : ℝ)
    (upper : Vec3 ℝ) : Vec3 ℝ :=
  let last := cellCenterOf base s.lastIndex
  ⟨upper.x ⊓ last.x, upper.y ⊓ last.y,
    if s.rootGrid.virtualGroundCeilingEnabled then upper.z ⊓ last.z ⊓ ceiling
    else upper.z ⊓ last.z⟩

theorem minCoeff_sub (p q : Vec3 ℝ) : ((q.lift - p.lift).minCoeff ≤ (lit 0 : ExactReal ℝ)) ↔
      ¬ (p.x < q.x ∧ p.y < q.y ∧ p.z < q.z) := by
  rw [Vec3.lift_sub, lit_zero]
  simp only [Vec3.minCoeff, Vec3.lift, min_finite, le_finite, inf_le_iff, sub_nonpos]
  rw [not_and_or, not_and_or, not_lt, not_lt, not_lt, or_assoc]

theorem clampToLocalBounds_exact (f : s.Frame base ground ceiling)
    (hLimits : limits.Bounded largest) (hLargest : 2 ^ 31 * base ≤ largest) {lower upper : Vec3 ℝ}
    (hBox : lower.x < upper.x ∧ lower.y < upper.y ∧ lower.z < upper.z) :
    s.clampToLocalBounds limits ⟨lower.lift, upper.lift⟩ =
      ⟨(clampedLower s base ground lower).lift, (clampedUpper s base ceiling upper).lift⟩ := by
  have hFirst : s.indexToPosition limits s.rootGrid.baseLayout.globalMinIndex .evidence =
      (cellCenterOf base s.rootGrid.baseLayout.globalMinIndex).lift := by
    change centerOf limits s.rootGrid.baseLayout.resolutionM _ = _
    rw [f.resolution, centerOf_finite hLimits f.base_pos hLargest f.firstFits]
  have hLast : s.indexToPosition limits s.lastIndex .evidence =
      (cellCenterOf base s.lastIndex).lift := by
    change centerOf limits s.rootGrid.baseLayout.resolutionM _ = _
    rw [f.resolution, centerOf_finite hLimits f.base_pos hLargest f.lastFits]
  have hAdd : checkedIndexAdd s.rootGrid.baseLayout.globalMinIndex
      (s.rootGrid.baseLayout.dimensions - GridIndex3.ones) = some s.lastIndex := by
    obtain ⟨hx, hy, hz⟩ := f.lastFits
    change (if !fitsInt s.lastIndex.x || !fitsInt s.lastIndex.y || !fitsInt s.lastIndex.z then none
      else some s.lastIndex) = _
    rw [hx, hy, hz]
    rfl
  unfold clampToLocalBounds
  rw [if_neg]
  · dsimp only
    rw [hAdd]
    dsimp only
    rw [hFirst, hLast, f.ground, f.ceiling]
    cases hPlanes : s.rootGrid.virtualGroundCeilingEnabled with
    | false => simp [clampedLower, clampedUpper, hPlanes, Vec3.cwiseMax, Vec3.cwiseMin, Vec3.lift]
    | true => simp [clampedLower, clampedUpper, hPlanes, Vec3.cwiseMax, Vec3.cwiseMin, Vec3.lift]
  · simp only [Vec3.allFinite_lift, Bool.not_true, Bool.false_or, decide_eq_true_eq, minCoeff_sub]
    exact fun h => h hBox

/-- A cell of the evidence grid that is stored as occupied, with its voxel strictly
between the planes where there are planes. -/
structure OccupiedCell (s : MappingWorldSnapshot (ExactReal ℝ)) (base : ℝ) (index : GridIndex3) :
    Prop where
  inGrid : s.rootGrid.baseLayout.holds index = true
  occupied : s.baseState index = .occupied
  between : s.rootGrid.virtualGroundCeilingEnabled = true →
    s.rootGrid.virtualGroundM < .finite ((index.z : ℝ) * base) ∧
      .finite (((index.z : ℝ) + 1) * base) < s.rootGrid.virtualCeilingM

def HasWidth (s : MappingWorldSnapshot (ExactReal ℝ)) : Prop :=
  2 ≤ s.rootGrid.baseLayout.dimensions.x ∧ 2 ≤ s.rootGrid.baseLayout.dimensions.y ∧
    2 ≤ s.rootGrid.baseLayout.dimensions.z

variable {index : GridIndex3}

theorem evidenceIndex_eq (f : s.Frame base ground ceiling) {p : Vec3 ℝ} (h : (cellOf base p).Fits) :
    s.positionToIndex p.lift .evidence = cellOf base p := by
  change (checkedPositionToIndex p.lift s.rootGrid.baseLayout.resolutionM).getD _ = _
  rw [f.resolution, (checkedPositionToIndex_lift f.base_pos p).2 h]
  rfl

theorem clamped_within (s : MappingWorldSnapshot (ExactReal ℝ)) (lower upper : Vec3 ℝ) :
    ((cellCenterOf base s.rootGrid.baseLayout.globalMinIndex).x ≤ (s.clampedLower base ground lower).x ∧
      (cellCenterOf base s.rootGrid.baseLayout.globalMinIndex).y ≤ (s.clampedLower base ground lower).y ∧
      (cellCenterOf base s.rootGrid.baseLayout.globalMinIndex).z ≤
        (s.clampedLower base ground lower).z) ∧
    (s.clampedUpper base ceiling upper).x ≤ (cellCenterOf base s.lastIndex).x ∧
      (s.clampedUpper base ceiling upper).y ≤ (cellCenterOf base s.lastIndex).y ∧
      (s.clampedUpper base ceiling upper).z ≤ (cellCenterOf base s.lastIndex).z := by
  unfold clampedLower clampedUpper
  refine ⟨⟨le_sup_right, le_sup_right, ?_⟩, inf_le_right, inf_le_right, ?_⟩
  · dsimp only
    split
    · exact le_sup_right.trans le_sup_left
    · exact le_sup_right
  · dsimp only
    split
    · exact inf_le_left.trans inf_le_right
    · exact inf_le_right

theorem mem_observedOccupiedPoints (f : s.Frame base ground ceiling)
    (hLimits : limits.Bounded largest) (hLargest : 2 ^ 31 * base ≤ largest) {lower upper : Vec3 ℝ}
    (hBox : lower.x < upper.x ∧ lower.y < upper.y ∧ lower.z < upper.z)
    {point : Vec3 (ExactReal ℝ)} :
    point ∈ s.observedOccupiedPoints limits ⟨lower.lift, upper.lift⟩ ↔
      ∃ index, point = (cellCenterOf base index).lift ∧
        s.rootGrid.baseLayout.holds index = true ∧ s.baseState index = .occupied ∧
        Reaches base (s.clampedLower base ground lower).x (s.clampedUpper base ceiling upper).x
          index.x ∧
        Reaches base (s.clampedLower base ground lower).y (s.clampedUpper base ceiling upper).y
          index.y ∧
        Reaches base (s.clampedLower base ground lower).z (s.clampedUpper base ceiling upper).z
          index.z := by
  have hFits {i : Int} {first last : Int} (hFirst : fitsInt first = true)
      (hLast : fitsInt last = true) (h : first ≤ i ∧ i ≤ last) : fitsInt i = true := by
    rw [fitsInt_iff] at *
    omega
  have hCenter {index : GridIndex3} (hGrid : s.rootGrid.baseLayout.holds index = true) :
      s.indexToPosition limits index .evidence = (cellCenterOf base index).lift := by
    have hLastX : s.lastIndex.x = s.rootGrid.baseLayout.globalMinIndex.x +
        (s.rootGrid.baseLayout.dimensions.x - 1) := rfl
    have hLastY : s.lastIndex.y = s.rootGrid.baseLayout.globalMinIndex.y +
        (s.rootGrid.baseLayout.dimensions.y - 1) := rfl
    have hLastZ : s.lastIndex.z = s.rootGrid.baseLayout.globalMinIndex.z +
        (s.rootGrid.baseLayout.dimensions.z - 1) := rfl
    obtain ⟨hGridX, hGridY, hGridZ⟩ := PlanningGridLayout.holds_iff.mp hGrid
    change centerOf limits s.rootGrid.baseLayout.resolutionM _ = _
    rw [f.resolution, centerOf_finite hLimits f.base_pos hLargest
      ⟨hFits f.firstFits.1 f.lastFits.1 ⟨by omega, by omega⟩,
        hFits f.firstFits.2.1 f.lastFits.2.1 ⟨by omega, by omega⟩,
        hFits f.firstFits.2.2 f.lastFits.2.2 ⟨by omega, by omega⟩⟩]
  obtain ⟨⟨hLowX, hLowY, hLowZ⟩, hHighX, hHighY, hHighZ⟩ :=
    @clamped_within base ground ceiling s lower upper
  unfold observedOccupiedPoints
  rw [clampToLocalBounds_exact f hLimits hLargest hBox]
  by_cases hWidth : (s.clampedLower base ground lower).x < (s.clampedUpper base ceiling upper).x ∧
      (s.clampedLower base ground lower).y < (s.clampedUpper base ceiling upper).y ∧
      (s.clampedLower base ground lower).z < (s.clampedUpper base ceiling upper).z
  · -- the corners lie between the centres of the grid, so their cells are cells of the grid
    have hCell (corner : Vec3 ℝ)
        (hx : (cellCenterOf base s.rootGrid.baseLayout.globalMinIndex).x ≤ corner.x ∧
          corner.x ≤ (cellCenterOf base s.lastIndex).x)
        (hy : (cellCenterOf base s.rootGrid.baseLayout.globalMinIndex).y ≤ corner.y ∧
          corner.y ≤ (cellCenterOf base s.lastIndex).y)
        (hz : (cellCenterOf base s.rootGrid.baseLayout.globalMinIndex).z ≤ corner.z ∧
          corner.z ≤ (cellCenterOf base s.lastIndex).z) :
        s.positionToIndex corner.lift .evidence = cellOf base corner :=
      evidenceIndex_eq f
        ⟨hFits f.firstFits.1 f.lastFits.1 (cell_within f.base_pos hx.1 hx.2),
          hFits f.firstFits.2.1 f.lastFits.2.1 (cell_within f.base_pos hy.1 hy.2),
          hFits f.firstFits.2.2 f.lastFits.2.2 (cell_within f.base_pos hz.1 hz.2)⟩
    rw [if_neg (by rw [minCoeff_sub]; exact fun h => h hWidth),
      hCell _ ⟨hLowX, hWidth.1.le.trans hHighX⟩ ⟨hLowY, hWidth.2.1.le.trans hHighY⟩
        ⟨hLowZ, hWidth.2.2.le.trans hHighZ⟩,
      hCell _ ⟨hLowX.trans hWidth.1.le, hHighX⟩ ⟨hLowY.trans hWidth.2.1.le, hHighY⟩
        ⟨hLowZ.trans hWidth.2.2.le, hHighZ⟩]
    simp only [List.mem_flatMap, List.mem_filterMap, mem_indexRange, Option.ite_none_right_eq_some,
      Bool.and_eq_true, beq_iff_eq, Option.some.injEq]
    constructor
    · rintro ⟨x, hx, y, hy, z, hz, ⟨hOffset, hOccupied⟩, rfl⟩
      obtain ⟨place, hPlace⟩ := Option.isSome_iff_exists.mp hOffset
      have hGrid := (PlanningGridLayout.offset_eq_some hPlace).1
      exact ⟨⟨x, y, z⟩, hCenter hGrid, hGrid, hOccupied, ⟨hWidth.1, hx⟩, ⟨hWidth.2.1, hy⟩,
        hWidth.2.2, hz⟩
    · rintro ⟨index, rfl, hGrid, hOccupied, ⟨-, hx⟩, ⟨-, hy⟩, -, hz⟩
      obtain ⟨place, hPlace⟩ := PlanningGridLayout.offset_of_holds hGrid f.count
      refine ⟨index.x, hx, index.y, hy, index.z, hz, ⟨?_, hOccupied⟩, hCenter hGrid⟩
      exact Option.isSome_iff_exists.mpr ⟨place, hPlace⟩
  · rw [if_pos ((minCoeff_sub _ _).mpr hWidth)]
    refine ⟨nofun, ?_⟩
    rintro ⟨_, -, -, -, hx, hy, hz⟩
    exact absurd ⟨hx.1, hy.1, hz.1⟩ hWidth

/-- A stored cell that a query of the box around a segment reaches: the grid has two cells along
every axis, and where there are planes they leave the box a height and reach into the voxel. -/
structure QueriedCell (s : MappingWorldSnapshot (ExactReal ℝ)) (base q : ℝ) (a b : Vec3 ℝ)
    (index : GridIndex3) : Prop where
  inGrid : s.rootGrid.baseLayout.holds index = true
  occupied : s.baseState index = .occupied
  wide : s.HasWidth
  planes : s.rootGrid.virtualGroundCeilingEnabled = true →
    (s.rootGrid.virtualGroundM < .finite ((index.z + 1) * base) ∧
      .finite (index.z * base) ≤ s.rootGrid.virtualCeilingM) ∧
    ∃ z : ℝ, ((a.z ⊓ b.z - q) ⊔ (cellCenterOf base s.rootGrid.baseLayout.globalMinIndex).z < z ∧
        z < (a.z ⊔ b.z + q) ⊓ (cellCenterOf base s.lastIndex).z) ∧
      s.rootGrid.virtualGroundM < .finite z ∧ .finite z < s.rootGrid.virtualCeilingM

theorem observedOccupiedPoints_of_thin (f : s.Frame base ground ceiling)
    (hLimits : limits.Bounded largest) (hLargest : 2 ^ 31 * base ≤ largest)
    (hThin : s.rootGrid.baseLayout.dimensions.x = 1 ∨ s.rootGrid.baseLayout.dimensions.y = 1 ∨
      s.rootGrid.baseLayout.dimensions.z = 1) {lower upper : Vec3 ℝ}
    (hBox : lower.x < upper.x ∧ lower.y < upper.y ∧ lower.z < upper.z) :
    s.observedOccupiedPoints limits ⟨lower.lift, upper.lift⟩ = [] := by
  have hSame {first last dimension : Int} (hLast : last = first + (dimension - 1))
      (hOne : dimension = 1) : first = last := by omega
  obtain ⟨⟨hLowX, hLowY, hLowZ⟩, hHighX, hHighY, hHighZ⟩ :=
    @clamped_within base ground ceiling s lower upper
  unfold observedOccupiedPoints
  rw [clampToLocalBounds_exact f hLimits hLargest hBox, if_pos]
  rw [minCoeff_sub]
  rintro ⟨hx, hy, hz⟩
  rcases hThin with hOne | hOne | hOne
  · have hLast : s.rootGrid.baseLayout.globalMinIndex.x = s.lastIndex.x := hSame rfl hOne
    simp only [cellCenterOf, hLast] at hLowX hHighX
    linarith
  · have hLast : s.rootGrid.baseLayout.globalMinIndex.y = s.lastIndex.y := hSame rfl hOne
    simp only [cellCenterOf, hLast] at hLowY hHighY
    linarith
  · have hLast : s.rootGrid.baseLayout.globalMinIndex.z = s.lastIndex.z := hSame rfl hOne
    simp only [cellCenterOf, hLast] at hLowZ hHighZ
    linarith

theorem inside_of_near {a b c : Vec3 ℝ} {t q : ℝ} (h0 : 0 ≤ t) (h1 : t ≤ 1)
    (h : gap (pointAt a b t) c < q) :
    ((lowerCorner q a b).x < c.x ∧ c.x < (upperCorner q a b).x) ∧
      ((lowerCorner q a b).y < c.y ∧ c.y < (upperCorner q a b).y) ∧
      ((lowerCorner q a b).z < c.z ∧ c.z < (upperCorner q a b).z) := by
  have hSquare := gap_squared (pointAt a b t) c
  have hAxis {u v x : ℝ} (hx : (x - position u v t) * (x - position u v t) ≤
      gap (pointAt a b t) c * gap (pointAt a b t) c) : u ⊓ v - q < x ∧ x < u ⊔ v + q := by
    have hAbs : |x - position u v t| ≤ gap (pointAt a b t) c := by
      apply abs_le_of_sq_le_sq _ (gap_nonneg _ _)
      rw [pow_two, pow_two]
      exact hx
    obtain ⟨hLow, hHigh⟩ := abs_le.mp hAbs
    have hMin : u ⊓ v ≤ position u v t := by
      unfold position
      rcases le_total u v with hle | hle
      · rw [inf_eq_left.mpr hle]
        nlinarith [mul_nonneg h0 (sub_nonneg.mpr hle)]
      · rw [inf_eq_right.mpr hle]
        nlinarith [mul_nonneg (sub_nonneg.mpr h1) (sub_nonneg.mpr hle)]
    have hMax : position u v t ≤ u ⊔ v := by
      unfold position
      rcases le_total u v with hle | hle
      · rw [sup_eq_right.mpr hle]
        nlinarith [mul_nonneg (sub_nonneg.mpr h1) (sub_nonneg.mpr hle)]
      · rw [sup_eq_left.mpr hle]
        nlinarith [mul_nonneg h0 (sub_nonneg.mpr hle)]
    constructor <;> linarith
  have hx := mul_self_nonneg (c.x - position a.x b.x t)
  have hy := mul_self_nonneg (c.y - position a.y b.y t)
  have hz := mul_self_nonneg (c.z - position a.z b.z t)
  simp only [pointAt] at hSquare
  refine ⟨hAxis ?_, hAxis ?_, hAxis ?_⟩
  all_goals
    simp only [pointAt]
    linarith

theorem pointAt_zero (a b : Vec3 ℝ) : pointAt a b 0 = a := by
  unfold pointAt
  rw [position_zero, position_zero, position_zero]

theorem lower_lt_upper {a b : Vec3 ℝ} {q : ℝ} (hq : 0 < q) :
    (lowerCorner q a b).x < (upperCorner q a b).x ∧ (lowerCorner q a b).y < (upperCorner q a b).y ∧
      (lowerCorner q a b).z < (upperCorner q a b).z := by
  have hOrder (u v : ℝ) : u ⊓ v - q < u ⊔ v + q := by
    have hMinMax : u ⊓ v ≤ u ⊔ v := inf_le_sup
    linarith
  exact ⟨hOrder _ _, hOrder _ _, hOrder _ _⟩

theorem eq_of_gap_zero {a b : Vec3 ℝ} (h : gap a b = 0) : b = a := by
  have hSquare := gap_squared a b
  rw [h, mul_zero] at hSquare
  have hx := mul_self_nonneg (b.x - a.x)
  have hy := mul_self_nonneg (b.y - a.y)
  have hz := mul_self_nonneg (b.z - a.z)
  exact Vec3.ext (sub_eq_zero.mp (mul_self_eq_zero.mp (by linarith)))
    (sub_eq_zero.mp (mul_self_eq_zero.mp (by linarith)))
    (sub_eq_zero.mp (mul_self_eq_zero.mp (by linarith)))

theorem minimum_lt_query {r : ℝ} (hr : 0 ≤ r) : 0 ⊔ (r - 1 / 100) < r + 1 / 100 := by
  apply sup_lt_iff.mpr
  constructor <;> linarith

/-- A queried cell with its centre within the query of the segment is what the query returns
there. -/
theorem mem_observedOccupiedPoints_of_near (f : s.Frame base ground ceiling)
    (hLimits : limits.Bounded largest) (hLargest : 2 ^ 31 * base ≤ largest) {a b : Vec3 ℝ} {q t : ℝ}
    (h0 : 0 ≤ t) (h1 : t ≤ 1) (hNear : gap (pointAt a b t) (cellCenterOf base index) < q) :
    (cellCenterOf base index).lift ∈
        s.observedOccupiedPoints limits ⟨(lowerCorner q a b).lift, (upperCorner q a b).lift⟩ ↔
      s.QueriedCell base q a b index := by
  obtain ⟨hx, hy, hz⟩ := inside_of_near h0 h1 hNear
  have hLastX : s.lastIndex.x = s.rootGrid.baseLayout.globalMinIndex.x +
      (s.rootGrid.baseLayout.dimensions.x - 1) := rfl
  have hLastY : s.lastIndex.y = s.rootGrid.baseLayout.globalMinIndex.y +
      (s.rootGrid.baseLayout.dimensions.y - 1) := rfl
  have hLastZ : s.lastIndex.z = s.rootGrid.baseLayout.globalMinIndex.z +
      (s.rootGrid.baseLayout.dimensions.z - 1) := rfl
  have hHeight (hGrid : s.rootGrid.baseLayout.holds index = true) (hWidth : s.HasWidth) :
      Reaches base (s.clampedLower base ground (lowerCorner q a b)).z
          (s.clampedUpper base ceiling (upperCorner q a b)).z index.z ↔
        (s.rootGrid.virtualGroundCeilingEnabled = true →
          (s.rootGrid.virtualGroundM < .finite ((index.z + 1) * base) ∧
            .finite (index.z * base) ≤ s.rootGrid.virtualCeilingM) ∧
          ∃ z : ℝ, ((a.z ⊓ b.z - q) ⊔
                (cellCenterOf base s.rootGrid.baseLayout.globalMinIndex).z < z ∧
              z < (a.z ⊔ b.z + q) ⊓ (cellCenterOf base s.lastIndex).z) ∧
            s.rootGrid.virtualGroundM < .finite z ∧ .finite z < s.rootGrid.virtualCeilingM) := by
    obtain ⟨-, -, hGridZ⟩ := PlanningGridLayout.holds_iff.mp hGrid
    obtain ⟨-, -, hWideZ⟩ := hWidth
    have hReaches := reaches_clamped f.base_pos s.rootGrid.baseLayout.globalMinIndex.z s.lastIndex.z
      (by omega) (by omega) (by omega) hz.1 hz.2
    unfold clampedLower clampedUpper
    cases hPlanes : s.rootGrid.virtualGroundCeilingEnabled with
    | false => exact iff_of_true hReaches nofun
    | true =>
      rw [f.ground, f.ceiling]
      simp only [lt_finite, le_finite, forall_const, if_true]
      exact reaches_planes_iff f.base_pos hReaches
  rw [mem_observedOccupiedPoints f hLimits hLargest
    ⟨hx.1.trans hx.2, hy.1.trans hy.2, hz.1.trans hz.2⟩]
  constructor
  · rintro ⟨other, hSame, hGrid, hOccupied, hReachX, hReachY, hReachZ⟩
    obtain rfl : index = other := by
      rw [← cellOf_cellCenterOf f.base_pos index, Vec3.lift_injective hSame,
        cellOf_cellCenterOf f.base_pos]
    have hWidth : s.HasWidth := by
      obtain ⟨⟨hLowX, hLowY, hLowZ⟩, hHighX, hHighY, hHighZ⟩ :=
        @clamped_within base ground ceiling s (lowerCorner q a b) (upperCorner q a b)
      have hWide {first last : Int} {lower upper : ℝ} (hFirst : ((first : ℝ) + 1 / 2) * base ≤ lower)
          (hLast : upper ≤ ((last : ℝ) + 1 / 2) * base) (h : lower < upper) : first < last := by
        by_contra hThin
        have := center_le f.base_pos (not_lt.mp hThin)
        linarith
      have hWideX := hWide hLowX hHighX hReachX.1
      have hWideY := hWide hLowY hHighY hReachY.1
      have hWideZ := hWide hLowZ hHighZ hReachZ.1
      exact ⟨by omega, by omega, by omega⟩
    exact ⟨hGrid, hOccupied, hWidth, (hHeight hGrid hWidth).mp hReachZ⟩
  · intro hCell
    obtain ⟨hGridX, hGridY, -⟩ := PlanningGridLayout.holds_iff.mp hCell.inGrid
    obtain ⟨hWideX, hWideY, -⟩ := hCell.wide
    refine ⟨index, rfl, hCell.inGrid, hCell.occupied, ?_, ?_,
      (hHeight hCell.inGrid hCell.wide).mpr hCell.planes⟩
    · exact reaches_clamped f.base_pos _ _ (by omega) (by omega) (by omega) hx.1 hx.2
    · exact reaches_clamped f.base_pos _ _ (by omega) (by omega) (by omega) hy.1 hy.2

/-- An occupied cell between the planes is queried wherever it is near. -/
theorem OccupiedCell.queried (f : s.Frame base ground ceiling) (hWidth : s.HasWidth)
    (hCell : s.OccupiedCell base index) {a b : Vec3 ℝ} {q t : ℝ} (h0 : 0 ≤ t) (h1 : t ≤ 1)
    (hNear : gap (pointAt a b t) (cellCenterOf base index) < q) : s.QueriedCell base q a b index := by
  refine ⟨hCell.inGrid, hCell.occupied, hWidth, fun hPlanes => ?_⟩
  obtain ⟨hGround, hCeiling⟩ := hCell.between hPlanes
  rw [f.ground, lt_finite] at hGround
  rw [f.ceiling, lt_finite] at hCeiling
  obtain ⟨-, -, hLow, hHigh⟩ := inside_of_near h0 h1 hNear
  obtain ⟨-, -, hGridZ⟩ := PlanningGridLayout.holds_iff.mp hCell.inGrid
  obtain ⟨-, -, hWideZ⟩ := hWidth
  have hLastZ : s.lastIndex.z = s.rootGrid.baseLayout.globalMinIndex.z +
      (s.rootGrid.baseLayout.dimensions.z - 1) := rfl
  have hBase := f.base_pos
  have hReaches := reaches_clamped hBase s.rootGrid.baseLayout.globalMinIndex.z s.lastIndex.z
    (by omega) (by omega) (by omega) hLow hHigh
  have hBelow := center_le (i := s.rootGrid.baseLayout.globalMinIndex.z) (j := index.z) hBase (by omega)
  have hAbove := center_le (i := index.z) (j := s.lastIndex.z) hBase (by omega)
  have hCenter : (cellCenterOf base index).z = (index.z + 1 / 2) * base := rfl
  rw [f.ground, f.ceiling]
  simp only [lt_finite, le_finite]
  refine ⟨⟨by linarith, by linarith⟩, ?_⟩
  -- the centre is above the ground and below the ceiling, and the box around it has a height
  have hBox := (sup_le hLow.le hBelow).trans_lt (show (cellCenterOf base index).z < ceiling by linarith)
  have hRoof := (show ground < (cellCenterOf base index).z by linarith).trans_le (le_inf hHigh.le hAbove)
  obtain ⟨z, hz, hz'⟩ := exists_between (sup_lt_iff.mpr ⟨lt_inf_iff.mpr ⟨hReaches.1, hBox⟩,
    lt_inf_iff.mpr ⟨hRoof, show ground < ceiling by linarith⟩⟩)
  obtain ⟨hOver, hGround⟩ := sup_lt_iff.mp hz
  obtain ⟨hUnder, hCeiling⟩ := lt_inf_iff.mp hz'
  exact ⟨z, ⟨hOver, hUnder⟩, hGround, hCeiling⟩

/-- A clear tube has every queried cell far from the point it is measured at. -/
theorem far_of_clear {ε : ℝ} (f : s.Frame base ground ceiling) (hLimits : limits.Bounded largest)
    (hEpsilon : limits.epsilon = .finite ε) (hε : 0 ≤ ε) (hLargest : 2 ^ 31 * base ≤ largest)
    {a b : Vec3 ℝ} {r : ℝ} (hr : 0 ≤ r)
    (hClear : observedOccupiedTubeIsClear limits (s.observedOccupiedPoints limits) a.lift b.lift (.finite r) = true)
    (hCell : s.QueriedCell base (r + 1 / 100) a b index) {t : ℝ} (h0 : 0 ≤ t) (h1 : t ≤ 1)
    (hMeasured : t = 0 ∨ ε < gap a b * gap a b) :
    0 ⊔ (r - 1 / 100) < gap (pointAt a b t) (cellCenterOf base index) := by
  by_contra hNear
  rw [not_lt] at hNear
  obtain ⟨-, hPoints⟩ := (observedOccupiedTubeIsClear_iff hLimits hEpsilon hε hr).mp hClear
  obtain ⟨x, hPoint, hFar⟩ := hPoints _ ((mem_observedOccupiedPoints_of_near f hLimits hLargest h0 h1
    (hNear.trans_lt (minimum_lt_query hr))).mpr hCell)
  obtain rfl := Vec3.lift_injective hPoint
  rcases le_or_gt (gap a b * gap a b) ε with hShort | hLong
  · rcases hMeasured with rfl | hLong
    · rw [footFraction_short hShort] at hFar
      exact absurd hFar (not_lt.mpr hNear)
    · exact absurd hLong (not_lt.mpr hShort)
  · have hFoot := gap_foot_le (x := cellCenterOf base index) hε hLong h0 h1
    exact absurd (hFar.trans_le hFoot) (not_lt.mpr hNear)

/-- A queried cell is near the point. -/
def QueriedNear (s : MappingWorldSnapshot (ExactReal ℝ)) (base r : ℝ) (a b p : Vec3 ℝ) : Prop :=
  ∃ index, s.QueriedCell base (r + 1 / 100) a b index ∧
    gap p (cellCenterOf base index) ≤ 0 ⊔ (r - 1 / 100)

/-- The tube of a segment that is not longer than the threshold is decided at its start. -/
theorem clear_short_iff {ε : ℝ} (f : s.Frame base ground ceiling) (hLimits : limits.Bounded largest)
    (hEpsilon : limits.epsilon = .finite ε) (hε : 0 ≤ ε) (hLargest : 2 ^ 31 * base ≤ largest)
    {a b : Vec3 ℝ} {r : ℝ} (hr : 0 ≤ r) (hFits : QueryFits largest (r + 1 / 100) a b)
    (hShort : gap a b * gap a b ≤ ε) :
    observedOccupiedTubeIsClear limits (s.observedOccupiedPoints limits) a.lift b.lift (.finite r) =
      true ↔ ¬ s.QueriedNear base r a b a := by
  constructor
  · rintro hClear ⟨index, hCell, hNear⟩
    have hFar := far_of_clear f hLimits hEpsilon hε hLargest hr hClear hCell le_rfl zero_le_one
      (.inl rfl)
    rw [pointAt_zero] at hFar
    exact absurd hFar (not_lt.mpr hNear)
  · intro hFar
    rw [observedOccupiedTubeIsClear_iff hLimits hEpsilon hε hr]
    refine ⟨hFits, fun point hPoint => ?_⟩
    obtain ⟨index, rfl, -⟩ := (mem_observedOccupiedPoints f hLimits hLargest
      (lower_lt_upper (show 0 < r + 1 / 100 by linarith))).mp hPoint
    refine ⟨_, rfl, ?_⟩
    rw [footFraction_short hShort, pointAt_zero]
    by_contra hNear
    rw [not_lt] at hNear
    refine hFar ⟨index, ?_, hNear⟩
    refine (mem_observedOccupiedPoints_of_near f hLimits hLargest le_rfl zero_le_one ?_).mp hPoint
    rw [pointAt_zero]
    exact hNear.trans_lt (minimum_lt_query hr)

/-- A clear tube has every occupied cell far from every point of the segment. -/
def TubeSound (s : MappingWorldSnapshot (ExactReal ℝ)) (limits : NumericLimits (ExactReal ℝ))
    (base : ℝ) (a b : Vec3 ℝ) (r : ℝ) : Prop :=
  observedOccupiedTubeIsClear limits (s.observedOccupiedPoints limits) a.lift b.lift (.finite r) =
    true → ∀ index, s.OccupiedCell base index → ∀ t, 0 ≤ t → t ≤ 1 →
      0 ⊔ (r - 1 / 100) < gap (pointAt a b t) (cellCenterOf base index)

/-- With a cell near the segment, a tube means something on a wide grid: when the segment is longer
than the threshold, or when a queried cell refuses it at its start. -/
theorem tube_sound_iff (hAccepted : s.Accepted) (hFirst : s.rootGrid.baseLayout.globalMinIndex.Fits)
    (hResolution : s.rootGrid.baseLayout.resolutionM = .finite base) {ε : ℝ}
    (hLimits : limits.Bounded largest) (hEpsilon : limits.epsilon = .finite ε) (hε : 0 ≤ ε)
    (hLargest : 2 ^ 31 * base ≤ largest) (a b : Vec3 ℝ) {r : ℝ} (hr : 0 ≤ r) :
    s.TubeSound limits base a b r ↔ ¬ QueryFits largest (r + 1 / 100) a b ∨
      (∀ index, s.OccupiedCell base index → ∀ t, 0 ≤ t → t ≤ 1 →
        0 ⊔ (r - 1 / 100) < gap (pointAt a b t) (cellCenterOf base index)) ∨
      s.HasWidth ∧ (ε < gap a b * gap a b ∨ s.QueriedNear base r a b a) := by
  obtain ⟨⟨hPosX, hPosY, hPosZ⟩, base', ground, ceiling, f⟩ := exists_frame hAccepted hFirst
  obtain rfl : base' = base := finite.inj (f.resolution.symm.trans hResolution)
  constructor
  · intro hSound
    by_contra hNot
    simp only [not_or, not_not] at hNot
    obtain ⟨hFits, hNear, hUnmeasured⟩ := hNot
    apply hNear
    apply hSound
    by_cases hWidth : s.HasWidth
    · -- a short segment with every queried cell far from its start
      simp only [hWidth, true_and, not_or, not_lt] at hUnmeasured
      exact (clear_short_iff f hLimits hEpsilon hε hLargest hr hFits hUnmeasured.1).mpr hUnmeasured.2
    · rw [observedOccupiedTubeIsClear_iff hLimits hEpsilon hε hr]
      refine ⟨hFits, fun point hPoint => ?_⟩
      rw [observedOccupiedPoints_of_thin f hLimits hLargest] at hPoint
      · cases hPoint
      · unfold HasWidth at hWidth
        omega
      · exact lower_lt_upper (by linarith)
  · rintro (hOutside | hFar | ⟨hWidth, hLong | ⟨near, hCell, hNear⟩⟩) hClear
    · exact absurd ((observedOccupiedTubeIsClear_iff hLimits hEpsilon hε hr).mp hClear).1 hOutside
    · exact hFar
    · intro index hCell t h0 h1
      by_contra hNear
      rw [not_lt] at hNear
      have hQueried := hCell.queried f hWidth h0 h1 (hNear.trans_lt (minimum_lt_query hr))
      exact absurd (far_of_clear f hLimits hEpsilon hε hLargest hr hClear hQueried h0 h1 (.inr hLong))
        (not_lt.mpr hNear)
    · have hFar := far_of_clear f hLimits hEpsilon hε hLargest hr hClear hCell le_rfl zero_le_one
        (.inl rfl)
      rw [pointAt_zero] at hFar
      exact absurd hFar (not_lt.mpr hNear)

noncomputable def layerGrid : PlanningGrid (ExactReal ℝ) :=
  { straddledGrid (1 / ((5 : ℕ) : ℝ)) (1 / ((5 : ℕ) : ℝ)) 0 with baseState := [3, 4, 4, 4] }

noncomputable def layerSnapshot : MappingWorldSnapshot (ExactReal ℝ) :=
  root layerGrid ⟨1, 1, 1, 0⟩ none

theorem layerSnapshot_accepted : layerSnapshot.Accepted := by
  have hStraddled : (straddledSnapshot (1 / 5 : ℝ) (1 / 5) 0).Accepted :=
    straddledSnapshot_accepted (by norm_num) (by norm_num) (by decide)
  obtain ⟨-, hGrid⟩ := validated_iff.mp hStraddled
  exact validated_iff.mpr ⟨rfl, { hGrid with baseLength := rfl, stored := rfl }⟩

theorem layer_occupied : layerSnapshot.OccupiedCell (1 / 5) ⟨0, 0, 0⟩ := by
  refine ⟨by decide, ?_, fun h => Bool.noConfusion h⟩
  decide

/-- From the centre of the occupied cell to the centre of its neighbour. -/
noncomputable def throughStart : Vec3 ℝ := ⟨1 / 10, 1 / 10, 1 / 10⟩

noncomputable def throughEnd : Vec3 ℝ := ⟨3 / 10, 1 / 10, 1 / 10⟩

theorem layer_near : ¬ ∀ index, layerSnapshot.OccupiedCell (1 / 5) index → ∀ t, 0 ≤ t → t ≤ 1 →
    0 ⊔ (3 / 10 - 1 / 100) < gap (pointAt throughStart throughEnd t) (cellCenterOf (1 / 5) index) := by
  intro hFar
  have hZero := hFar ⟨0, 0, 0⟩ layer_occupied 0 le_rfl zero_le_one
  have hSquare := gap_squared (pointAt throughStart throughEnd 0) (cellCenterOf (1 / 5) ⟨0, 0, 0⟩)
  have hSame : gap (pointAt throughStart throughEnd 0) (cellCenterOf (1 / 5) ⟨0, 0, 0⟩) *
      gap (pointAt throughStart throughEnd 0) (cellCenterOf (1 / 5) ⟨0, 0, 0⟩) = 0 := by
    rw [hSquare]
    norm_num [pointAt, position, cellCenterOf, throughStart, throughEnd]
  rw [mul_self_eq_zero.mp hSame] at hZero
  norm_num at hZero

theorem layer_fits : layerSnapshot.rootGrid.baseLayout.globalMinIndex.Fits :=
  ⟨by decide, by decide, by decide⟩

/-- Eight cells on both layers, the evidence in the first of them occupied. -/
noncomputable def cubeGrid : PlanningGrid (ExactReal ℝ) :=
  { layerGrid with
    baseLayout := { layerGrid.baseLayout with dimensions := ⟨2, 2, 2⟩ }
    inflated := ⟨{ layerGrid.inflated.layout with dimensions := ⟨2, 2, 2⟩ }, List.replicate 8 0, []⟩
    baseState := [3, 4, 4, 4, 4, 4, 4, 4]
    occupiedInflationRadiusM := lit (4 / 25) }

noncomputable def cubeSnapshot : MappingWorldSnapshot (ExactReal ℝ) := root cubeGrid ⟨1, 1, 1, 0⟩ none

theorem cubeSnapshot_accepted : cubeSnapshot.Accepted := by
  have hPositive {r : ℝ} (hr : 0 < r) : ¬ finite r ≤ lit 0 := by
    rw [lit_zero, le_finite]
    exact not_le.mpr hr
  have hLayout {layout : PlanningGridLayout (ExactReal ℝ)} (name : String)
      (h : layout = cubeGrid.baseLayout ∨ layout = cubeGrid.inflated.layout) :
      validateLayout layout name = .ok layout.count := by
    unfold validateLayout
    rw [if_neg]
    · rcases h with rfl | rfl
      all_goals
        exact voxelCount_eq_ok _ _ (show (0 : Int) < 2 by decide) (show (0 : Int) < 2 by decide)
          (show (0 : Int) < 2 by decide) (show 2 * 2 * 2 ≤ sizeMax by decide)
          (show fitsInt (0 + 2 - 1) = true by decide) (show fitsInt (0 + 2 - 1) = true by decide)
          (show fitsInt (0 + 2 - 1) = true by decide)
    · rcases h with rfl | rfl
      all_goals
        simp [dimensionsInvalid, cubeGrid, layerGrid, straddledGrid, Vec3.lift, Vec3.allFinite,
          hPositive]
  refine validated_iff.mpr ⟨rfl, hLayout _ (.inl rfl), hLayout _ (.inr rfl), rfl, rfl,
    fun h => absurd h Bool.false_ne_true, fun _ => rfl, rfl, rfl, ?_⟩
  have hFinite : isFinite (lit (4 / 25) : ExactReal ℝ) = true := rfl
  have hRadius : ¬ (lit (4 / 25) : ExactReal ℝ) < lit 0 := by
    rw [lit_zero, lit_finite, lt_finite]
    norm_num
  have hPlanes : ¬ finite (1 : ℝ) ≤ finite 0 := by
    rw [le_finite]
    norm_num
  simp only [metadataInvalid, cubeGrid, layerGrid, straddledGrid, isFinite_finite, hFinite, hRadius,
    hPlanes, decide_false]
  rfl

theorem double_bounded : ∃ largest : ℝ, NumericLimits.Bounded
    (NumericLimits.double : NumericLimits (ExactReal ℝ)) largest ∧ 2 ^ 31 ≤ largest := by
  refine ⟨(2 ^ 53 - 1) * 2 ^ 971, ⟨?_, ?_⟩, ?_⟩
  · change finite (((2 ^ 53 - 1) * 2 ^ 971 : ℚ) : ℝ) = _
    push_cast
    rfl
  · change finite ((-((2 ^ 53 - 1) * 2 ^ 971) : ℚ) : ℝ) = _
    push_cast
    rfl
  · have hPower : (1 : ℝ) ≤ 2 ^ 971 := one_le_pow₀ (by norm_num)
    have hOne : (2 ^ 31 : ℝ) ≤ (2 ^ 53 - 1) * 1 := by norm_num
    exact hOne.trans (mul_le_mul_of_nonneg_left hPower (by norm_num))

theorem double_epsilon : (NumericLimits.double : NumericLimits (ExactReal ℝ)).epsilon =
    .finite (1 / 2 ^ 52) := by
  change finite ((1 / 2 ^ 52 : ℚ) : ℝ) = _
  push_cast
  rfl

theorem through_queryFits {largest : ℝ} (hLargest : 2 ^ 31 ≤ largest) :
    QueryFits largest (3 / 10 + 1 / 100) throughStart throughEnd := by
  norm_num [QueryFits, throughStart, throughEnd]
  refine ⟨?_, ⟨?_, ?_⟩, ?_, ?_⟩
  all_goals linarith

/-- The grid of one layer against the cube, where the occupied cell refuses the tube. -/
theorem tube_unsound_in_one_layer :
    ¬ layerSnapshot.TubeSound NumericLimits.double (1 / 5) throughStart throughEnd (3 / 10) ∧
      cubeSnapshot.TubeSound NumericLimits.double (1 / 5) throughStart throughEnd (3 / 10) := by
  obtain ⟨largest, hLimits, hLargest⟩ := double_bounded
  have hLayer : layerSnapshot.rootGrid.baseLayout.resolutionM = .finite (1 / 5) := rfl
  have hCube : cubeSnapshot.rootGrid.baseLayout.resolutionM = .finite (1 / 5) := rfl
  constructor
  · rw [tube_sound_iff layerSnapshot_accepted layer_fits hLayer hLimits double_epsilon (by norm_num)
      (by linarith) throughStart throughEnd (by norm_num)]
    rintro (hOutside | hFar | ⟨⟨-, -, hWidth⟩, -⟩)
    · exact hOutside (through_queryFits hLargest)
    · exact layer_near hFar
    · exact absurd hWidth (by decide)
  · rw [tube_sound_iff cubeSnapshot_accepted layer_fits hCube hLimits double_epsilon (by norm_num)
      (by linarith) throughStart throughEnd (by norm_num), gap_squared]
    refine .inr (.inr ⟨⟨by decide, by decide, by decide⟩, .inl ?_⟩)
    norm_num [throughStart, throughEnd]

/-- With the limits of a binary64 number a segment through an occupied cell has a clear tube. -/
theorem one_layer_hides_occupied :
    layerSnapshot.Accepted ∧ layerSnapshot.OccupiedCell (1 / 5) ⟨0, 0, 0⟩ ∧
      observedOccupiedTubeIsClear NumericLimits.double
        (layerSnapshot.observedOccupiedPoints NumericLimits.double) throughStart.lift
        throughEnd.lift (.finite (3 / 10)) = true ∧
      ¬ layerSnapshot.TubeSound NumericLimits.double (1 / 5) throughStart throughEnd (3 / 10) := by
  obtain ⟨largest, hLimits, hLargest⟩ := double_bounded
  obtain ⟨-, base, ground, ceiling, f⟩ := exists_frame layerSnapshot_accepted layer_fits
  obtain rfl : base = 1 / 5 := finite.inj (f.resolution.symm.trans rfl)
  have hClear : observedOccupiedTubeIsClear NumericLimits.double
      (layerSnapshot.observedOccupiedPoints NumericLimits.double) throughStart.lift
      throughEnd.lift (.finite (3 / 10)) = true := by
    rw [observedOccupiedTubeIsClear_iff hLimits double_epsilon (by norm_num) (by norm_num)]
    refine ⟨through_queryFits hLargest, fun point hPoint => ?_⟩
    rw [observedOccupiedPoints_of_thin f hLimits (by linarith) (.inr (.inr rfl))] at hPoint
    · cases hPoint
    · exact lower_lt_upper (by norm_num)
  refine ⟨layerSnapshot_accepted, layer_occupied, hClear, ?_⟩
  intro hSound
  exact layer_near (hSound hClear)

end MappingWorldSnapshot

end UavNavigation
