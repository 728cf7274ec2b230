import UavNavigation.ExactGrid

/-!
# What a segment certificate means

A segment that `isSegmentTraversable` accepts has both ends in the window and between
the planes, so it lies there, and its walk asked about every cell it touches. A cell is
judged at its centre. On the evidence layer, and on the inflated layer with unknown
inflation, all points of a cell hold what the centre holds. Without unknown inflation
the inflated layer reads the evidence cell of the point, so this needs every inflated
cell to lie inside one evidence cell.
-/

namespace UavNavigation

set_option autoImplicit false

open FloatOps GridRay ExactReal PlanningGridLayout

namespace MappingWorldSnapshot
variable {K : Type} [Field K] [LinearOrder K] [IsStrictOrderedRing K] [FloorRing K] [SquareRoot K]

section Distances
variable {limits : NumericLimits (ExactReal K)} {resolution start finish length : K}
  {direction : Int}

omit [IsStrictOrderedRing K] in
theorem lit_half : (lit (1 / 2) : ExactReal K) = .finite (1 / 2) := by
  rw [lit_finite]
  push_cast
  rfl

omit [FloorRing K] [SquareRoot K] in
theorem component_ne (hLength : 0 < length) (h : Heads start finish direction) :
    |finish - start| / length ≠ 0 := by
  have hNe : finish - start ≠ 0 := by
    rcases h with ⟨-, hlt⟩ | ⟨-, hlt⟩
    · exact (sub_pos.mpr hlt).ne'
    · exact (sub_neg.mpr hlt).ne
  exact div_ne_zero (abs_ne_zero.mpr hNe) hLength.ne'

section
variable (hLength : 0 < length) (hMoving : direction ≠ 0) (h : Heads start finish direction)
include hLength hMoving h

theorem stepTime_finite :
    stepTime limits direction (.finite resolution) (.finite |finish - start|) (.finite length) =
      .finite (length * (resolution / |finish - start|)) := by
  unfold stepTime
  rw [if_neg hMoving, div_finite _ hLength.ne', div_finite _ (component_ne hLength h),
    div_div_eq_mul_div, mul_comm resolution, mul_div_assoc]

theorem boundTime_finite (c : Int) :
    boundTime limits direction c (.finite resolution) (.finite start) (.finite |finish - start|)
        (.finite length) =
      .finite (length * crossing resolution start finish direction c) := by
  have hBoundary : ((ofInt c + lit (1 / 2)) * finite resolution +
      ofInt direction * finite resolution * lit (1 / 2) : ExactReal K) =
      .finite (boundary resolution direction c) := by
    rw [lit_half]
    rfl
  unfold boundTime
  simp only [hBoundary]
  rw [if_neg hMoving, sub_finite, abs_finite, div_finite _ hLength.ne',
    div_finite _ (component_ne hLength h), div_div_eq_mul_div, crossing, mul_comm, mul_div_assoc]

end

theorem axisState_start (hr : 0 < resolution) (hLength : 0 < length) :
    AxisState resolution start finish length (cell resolution start)
      (boundTime limits (bearing resolution start finish) (cell resolution start)
        (.finite resolution) (.finite start) (.finite |finish - start|) (.finite length)) (-1) := by
  have hCases : (bearing resolution start finish = 0 ∧ _) ∨ _ := bearing_cases hr
  refine ⟨by simp, ?_, ?_, ?_, ?_⟩
  · rcases hCases with ⟨hZero, -⟩ | ⟨hHeads, -⟩
    · rw [hZero, zero_mul]
    · have hMono := heads_mono hr hHeads (zero_le_one (α := K))
      rwa [cellAt_zero, cellAt_one] at hMono
  · intro hZero
    rcases hCases with ⟨-, hSame⟩ | ⟨-, hOne⟩
    · exact hSame
    · omega
  · intro t h0 h1 _
    rcases hCases with ⟨hZero, -⟩ | ⟨hHeads, -⟩
    · rw [hZero, zero_mul]
    · have hMono := heads_mono hr hHeads h0
      rwa [cellAt_zero] at hMono
  · intro hne
    rcases hCases with ⟨-, hSame⟩ | ⟨hHeads, hOne⟩
    · exact absurd hSame hne
    · exact boundTime_finite hLength (by omega) hHeads _

end Distances

/-! ## The cells of a segment -/

section Cells
variable {s : MappingWorldSnapshot (ExactReal K)} {base inflated : K}
  {limits : NumericLimits (ExactReal K)} {largest : K} {unknownPolicy : UnknownPolicy}
  {layer : GridLayer}

theorem cellsTraversable_cover (w : s.Window base inflated) (hLimits : limits.Exact largest)
    {start finish : Vec3 K} (hStart : s.Inside base inflated layer start)
    (hFinish : s.Inside base inflated layer finish)
    (h : s.cellsTraversable limits start.lift finish.lift layer unknownPolicy = some true) {t : K}
    (h0 : 0 ≤ t) (h1 : t ≤ 1) : s.pointIsTraversable layer unknownPolicy (s.indexToPosition limits
        (cellOf (resolutionOf base inflated layer) (pointAt start finish t)) layer) = true ∨
      cellOf (resolutionOf base inflated layer) (pointAt start finish t) =
        cellOf (resolutionOf base inflated layer) finish := by
  have hr := w.resolutionOf_pos layer
  unfold cellsTraversable at h
  rw [positionToIndex_eq w hStart.layerFits, positionToIndex_eq w hFinish.layerFits,
    w.layerResolution] at h
  obtain ⟨length, hNorm⟩ : ∃ length : K, (finish.lift - start.lift).norm = .finite length :=
    ⟨_, by rw [Vec3.lift_sub, Vec3.norm_lift]⟩
  dsimp only at h
  rw [hNorm] at h
  split at h
  · cases h
  rename_i hGuard
  simp only [Bool.or_eq_true, not_or, decide_eq_true_eq] at hGuard
  have hLength : 0 < length := by
    have hNot := hGuard.2
    rw [lit_finite, le_finite, Rat.cast_zero] at hNot
    exact not_le.mp hNot
  have hMoving : ∀ {a b : K}, cell (resolutionOf base inflated layer) a ≠
      cell (resolutionOf base inflated layer) b →
      stepTime limits (bearing (resolutionOf base inflated layer) a b)
        (.finite (resolutionOf base inflated layer)) (.finite |b - a|) (.finite length) =
        .finite (length * (resolutionOf base inflated layer / |b - a|)) := by
    intro a b hNe
    obtain ⟨hHeads, hOne⟩ := (bearing_cases hr).resolve_left fun hZero => hNe hZero.2
    exact stepTime_finite hLength (by omega) hHeads
  refine walk_cover hLimits hr hLength _ _ _ (-1) ⟨?_, ?_, ?_⟩ ⟨hMoving, hMoving, hMoving⟩ ?_ h t h0 h1
  · exact axisState_start hr hLength
  · exact axisState_start hr hLength
  · exact axisState_start hr hLength
  · intro t h0 _ hT
    linarith

theorem pointIsTraversable_iff (w : s.Window base inflated) {point : Vec3 K} :
    s.pointIsTraversable layer unknownPolicy point.lift = true ↔
      isCellTraversable (s.classify point.lift layer) unknownPolicy = true := by
  unfold pointIsTraversable
  split
  · rename_i hOutside
    refine ⟨fun h => Bool.noConfusion h, fun h => ?_⟩
    have hInside := (containsLayer_iff w layer point).mpr ((classify_traversable_iff w).mp h).1.1
    rw [hInside] at hOutside
    cases hOutside
  · exact Iff.rfl

theorem accepted_cases {start finish : Vec3 (ExactReal K)}
    (h : s.isSegmentTraversable limits start finish layer unknownPolicy = some true) :
    s.pointIsTraversable layer unknownPolicy start = true ∧
      s.pointIsTraversable layer unknownPolicy finish = true ∧
      (s.positionToIndex start layer = s.positionToIndex finish layer ∨
        s.cellsTraversable limits start finish layer unknownPolicy = some true) := by
  unfold isSegmentTraversable isSegmentTraversableTied at h
  split at h
  · cases h
  split at h
  · cases h
  rename_i hStart
  dsimp only at h
  split at h
  · cases h
  · cases h
  · rename_i hCells
    split at h
    · cases h
    rename_i hFinish
    refine ⟨by simpa using hStart, by simpa using hFinish, ?_⟩
    split at hCells
    · rename_i hSame
      exact Or.inl hSame
    · exact Or.inr hCells

theorem traversable_of_certificate (w : s.Window base inflated) (hLimits : limits.Exact largest)
    {start finish : Vec3 K} (hLargest : 2 ^ 31 * resolutionOf base inflated layer ≤ largest)
    (hNested : layer = .inflated → s.rootGrid.unknownInflationEnabled = false → Nested base inflated)
    (h : s.isSegmentTraversable limits start.lift finish.lift layer unknownPolicy = some true)
    {t : K} (h0 : 0 ≤ t) (h1 : t ≤ 1) :
    isCellTraversable (s.classify (pointAt start finish t).lift layer) unknownPolicy = true := by
  obtain ⟨hStart, hFinish, hCells⟩ := accepted_cases h
  rw [pointIsTraversable_iff w, classify_traversable_iff w] at hStart hFinish
  obtain ⟨⟨hStartInside, hStartPlanes⟩, hStartContent⟩ := hStart
  obtain ⟨⟨hFinishInside, hFinishPlanes⟩, hFinishContent⟩ := hFinish
  have hInside := hStartInside.pointAt w hFinishInside h0 h1
  have hr := w.resolutionOf_pos layer
  rw [classify_traversable_iff w]
  refine ⟨⟨hInside, hStartPlanes.pointAt hFinishPlanes h0 h1⟩, ?_⟩
  -- The cell of the point is the last cell, or its centre passed.
  have hLast : cellOf (resolutionOf base inflated layer) (pointAt start finish t) =
      cellOf (resolutionOf base inflated layer) finish →
      isCellTraversable (s.content base inflated layer (pointAt start finish t)) unknownPolicy = true := by
    intro hSame
    rwa [content_congr hSame hInside.layerFits hNested]
  rcases hCells with hSame | hWalk
  · rw [positionToIndex_eq w hStartInside.layerFits, positionToIndex_eq w hFinishInside.layerFits] at hSame
    apply hLast
    rw [← hSame]
    exact GridIndex3.ext (cellAt_of_same hr (congrArg GridIndex3.x hSame) h0 h1)
      (cellAt_of_same hr (congrArg GridIndex3.y hSame) h0 h1)
      (cellAt_of_same hr (congrArg GridIndex3.z hSame) h0 h1)
  · rcases cellsTraversable_cover w hLimits hStartInside hFinishInside hWalk h0 h1 with hCentre | hSame
    · unfold indexToPosition at hCentre
      rw [w.layerResolution, centerOf_finite hLimits.bounded hr hLargest hInside.layerFits,
        pointIsTraversable_iff w, classify_traversable_iff w] at hCentre
      rw [content_congr (cellOf_cellCenterOf hr _).symm hInside.layerFits hNested]
      exact hCentre.2
    · exact hLast hSame

end Cells

omit [SquareRoot K] in
theorem nested_of_multiple (k : Nat) (inflated : K) : Nested ((k : K) * inflated) inflated := by
  intro x y hCell _
  rw [cell_natCast_mul, cell_natCast_mul, hCell]

omit [SquareRoot K] in
theorem nested_of_wide {base inflated : K} (hBase : 0 < base) (hInflated : 0 < inflated)
    (hWide : 2 ^ 31 * inflated ≤ base) : Nested base inflated := by
  have hSign : ∀ x : K, fitsInt (cell inflated x) = true →
      cell base x = if 0 ≤ cell inflated x then 0 else -1 := by
    intro x hFits
    obtain ⟨hLow, hHigh⟩ := fitsInt_iff.mp hFits
    split
    · rename_i hNonneg
      have hLower := (le_cell_iff hInflated).mp hNonneg
      have hUpper := (cell_lt_iff hInflated).mp (show cell inflated x < 2 ^ 31 by
        unfold intMax at hHigh
        omega)
      push_cast at hLower hUpper
      rw [cell_eq_iff hBase]
      constructor
      · push_cast
        linarith
      · push_cast
        linarith
    · rename_i hNeg
      have hLower := (le_cell_iff hInflated).mp (show -2 ^ 31 ≤ cell inflated x from hLow)
      have hUpper := (cell_lt_iff hInflated).mp (show cell inflated x < 0 by omega)
      push_cast at hLower hUpper
      rw [cell_eq_iff hBase]
      constructor
      · push_cast
        linarith
      · push_cast
        linarith
  intro x y hCell hFits
  rw [hSign x hFits, hSign y (hCell ▸ hFits), hCell]

section Straddling
variable {base inflated : K} {j : Int}

/-- Four evidence cells, one of them unknown, under one inflated cell. -/
def straddledGrid (base inflated : K) (j : Int) : PlanningGrid (ExactReal K) where
  baseLayout := ⟨.finite base, ⟨0, 0, 0⟩, ⟨2, 2, 1⟩, Vec3.lift ⟨0, 0, 0⟩, Vec3.lift ⟨1, 1, 1⟩⟩
  inflated :=
    ⟨⟨.finite inflated, ⟨j, j, 0⟩, ⟨1, 1, 1⟩, Vec3.lift ⟨0, 0, 0⟩, Vec3.lift ⟨1, 1, 1⟩⟩, [0], []⟩
  baseState := [4, 4, 1, 4]
  nearestOffsets := some []
  unknownInflationEnabled := false
  virtualGroundCeilingEnabled := false
  virtualGroundM := .finite 0
  virtualCeilingM := .finite 1
  inflatedVirtualGroundM := .finite 0
  inflatedVirtualCeilingM := .finite 1
  occupiedInflationRadiusM := .finite 0

def straddledSnapshot (base inflated : K) (j : Int) : MappingWorldSnapshot (ExactReal K) :=
  root (straddledGrid base inflated j) ⟨1, 1, 1, 0⟩ none

omit [IsStrictOrderedRing K] in
theorem straddledSnapshot_accepted (hBase : 0 < base) (hInflated : 0 < inflated)
    (hj : 0 ≤ j ∧ j ≤ intMax) : (straddledSnapshot base inflated j).Accepted := by
  have hPositive : ∀ r : K, 0 < r → ¬ finite r ≤ lit 0 := by
    intro r hr
    rw [lit_finite, le_finite, Rat.cast_zero]
    exact not_le.mpr hr
  have hOne : ¬ finite (1 : K) ≤ lit 0 := hPositive 1 one_pos
  have hRadius : ¬ finite (0 : K) < lit 0 := by
    rw [lit_finite, lt_finite, Rat.cast_zero]
    exact lt_irrefl 0
  have hPlanes : ¬ finite (1 : K) ≤ finite 0 := by
    exact not_le.mpr one_pos
  refine validated_iff.mpr ⟨rfl, ?_, ?_, rfl, rfl, fun h => Bool.noConfusion h, fun _ => rfl, rfl, rfl, ?_⟩
  · have hCount : voxelCount (straddledGrid base inflated j).baseLayout
        "base layout voxel count overflows size_t" "base layout index range overflows int" =
          .ok (straddledGrid base inflated j).baseLayout.count :=
      voxelCount_eq_ok _ _ (show (0 : Int) < 2 by decide) (show (0 : Int) < 2 by decide)
        (show (0 : Int) < 1 by decide) (show 2 * 2 * 1 ≤ sizeMax by decide)
        (show fitsInt (0 + 2 - 1) = true by decide) (show fitsInt (0 + 2 - 1) = true by decide)
        (show fitsInt (0 + 1 - 1) = true by decide)
    unfold validateLayout
    rw [if_neg]
    · exact hCount
    · simp [dimensionsInvalid, straddledGrid, Vec3.lift, Vec3.allFinite, hPositive base hBase, hOne]
  · have hFits : fitsInt (j + 1 - 1) = true := by
      rw [fitsInt_iff]
      unfold intMin
      omega
    have hCount : voxelCount (straddledGrid base inflated j).inflated.layout
        "inflated layout voxel count overflows size_t" "inflated layout index range overflows int" =
          .ok (straddledGrid base inflated j).inflated.layout.count :=
      voxelCount_eq_ok _ _ (show (0 : Int) < 1 by decide) (show (0 : Int) < 1 by decide)
        (show (0 : Int) < 1 by decide) (show 1 * 1 * 1 ≤ sizeMax by decide) hFits hFits
        (show fitsInt (0 + 1 - 1) = true by decide)
    unfold validateLayout
    rw [if_neg]
    · exact hCount
    · simp [dimensionsInvalid, straddledGrid, Vec3.lift, Vec3.allFinite,
        hPositive inflated hInflated, hOne]
  · simp only [metadataInvalid, straddledGrid, isFinite_finite, hRadius, hPlanes, decide_false]
    rfl

omit [LinearOrder K] [IsStrictOrderedRing K] [FloorRing K] [SquareRoot K] in
theorem straddled_baseState (base inflated : K) (j : Int) :
    (straddledSnapshot base inflated j).baseState ⟨0, 0, 0⟩ = .knownFree ∧
      (straddledSnapshot base inflated j).baseState ⟨1, 0, 0⟩ = .unknown ∧
      (straddledSnapshot base inflated j).baseState ⟨1, 1, 0⟩ = .knownFree := by
  refine ⟨?_, ?_, ?_⟩
  all_goals
    simp [straddledSnapshot, straddledGrid, baseState, offset, holds, sizeMax]
    decide

omit [LinearOrder K] [IsStrictOrderedRing K] [FloorRing K] [SquareRoot K] in
theorem straddled_not_occupied (base inflated : K) (j : Int) (index : GridIndex3) :
    (straddledSnapshot base inflated j).baseState index ≠ .occupied := by
  have hState : (straddledSnapshot base inflated j).baseState index =
      ((straddledGrid base inflated j).baseLayout.offset index).elim .outOfMap fun cellOffset =>
        productCell ([4, 4, 1, 4].getD cellOffset 0) := by
    cases h : (straddledGrid base inflated j).baseLayout.offset index with
    | none => simp [baseState, straddledSnapshot, h]
    | some cellOffset =>
      simp only [baseState, straddledSnapshot, h]
      rfl
  rw [hState]
  cases (straddledGrid base inflated j).baseLayout.offset index with
  | none => decide
  | some cellOffset =>
    rcases cellOffset with _ | _ | _ | _ | n
    iterate 4 decide
    simp [productCell, CellState.ofByte]

end Straddling

/-! ## The tube around a segment with nothing near -/

section Tube
variable {limits : NumericLimits (ExactReal K)} {largest : K}

variable {s : MappingWorldSnapshot (ExactReal K)}

theorem observedOccupiedPoints_of_none
    (h : ∀ index, s.baseState index ≠ .occupied) (requested : AxisAlignedBox (ExactReal K)) :
    s.observedOccupiedPoints limits requested = [] := by
  have hNone : ∀ index, (s.baseState index == .occupied) = false := fun index => by simpa using h index
  unfold observedOccupiedPoints
  dsimp only
  split
  · rfl
  · simp [hNone]

theorem queryInterval_finite (hLimits : limits.Bounded largest) {radius a b : K} (hRadius : radius ≤ 1)
    (ha : |a| + 1 ≤ largest) (hb : |b| + 1 ≤ largest) :
    queryInterval limits (.finite radius : ExactReal K) (.finite a : ExactReal K) (.finite b) =
      some (.finite (a ⊓ b - radius), .finite (a ⊔ b + radius)) := by
  have hMin : FloatOps.min (finite a) (.finite b) = .finite (a ⊓ b) := min_finite a b
  have hMax : FloatOps.max (finite a) (.finite b) = .finite (a ⊔ b) := max_finite a b
  have hLow : ¬ a ⊓ b - radius < -largest := by
    rcases min_choice a b with hEq | hEq
    · rw [hEq]
      linarith [neg_abs_le a]
    · rw [hEq]
      linarith [neg_abs_le b]
  have hHigh : ¬ largest < a ⊔ b + radius := by
    rw [not_lt]
    rcases max_choice a b with hEq | hEq
    · rw [hEq]
      linarith [le_abs_self a]
    · rw [hEq]
      linarith [le_abs_self b]
  unfold queryInterval
  rw [hLimits.max, hLimits.lowest]
  have hLower : (FloatOps.min (finite a) (finite b) -
      finite radius) = finite (a ⊓ b - radius) := by rw [hMin, sub_finite]
  have hUpper : (FloatOps.max (finite a) (finite b) +
      finite radius) = finite (a ⊔ b + radius) := by rw [hMax, add_finite]
  erw [hLower, hUpper]
  refine if_neg ?_
  change ¬ (!true || !true || decide (a ⊓ b - radius < -largest) ||
    decide (largest < a ⊔ b + radius)) = true
  simp only [hLow, hHigh, decide_false, Bool.not_true, Bool.or_false, Bool.false_eq_true,
    not_false_eq_true]

theorem observedOccupiedTubeIsClear_of_none (hLimits : limits.Bounded largest)
    {points : AxisAlignedBox (ExactReal K) → List (Vec3 (ExactReal K))} (hNone : ∀ box, points box = [])
    {start finish : Vec3 K} (hx : |start.x| + 1 ≤ largest ∧ |finish.x| + 1 ≤ largest)
    (hy : |start.y| + 1 ≤ largest ∧ |finish.y| + 1 ≤ largest)
    (hz : |start.z| + 1 ≤ largest ∧ |finish.z| + 1 ≤ largest) :
    observedOccupiedTubeIsClear limits points start.lift finish.lift (.finite 0) = true := by
  have hTolerance : ((0.01 : ℚ) : K) = 1 / 100 := by norm_num
  have hQuery : (Floating.widen (finite (0 : K)) +
      Floating.widen (lit 0.01 : ExactReal K) : Floating.LongDouble (ExactReal K)) =
      (finite (1 / 100 : K)) := by
    change finite (0 + ((0.01 : ℚ) : K)) = _
    rw [zero_add, hTolerance]
  have hBox : queryBox limits (finite (1 / 100 : K) : Floating.LongDouble (ExactReal K))
      start.lift.widen finish.lift.widen = some
        ⟨Vec3.lift ⟨start.x ⊓ finish.x - 1 / 100, start.y ⊓ finish.y - 1 / 100,
          start.z ⊓ finish.z - 1 / 100⟩,
          Vec3.lift ⟨start.x ⊔ finish.x + 1 / 100, start.y ⊔ finish.y + 1 / 100,
            start.z ⊔ finish.z + 1 / 100⟩⟩ := by
    have hSmall : (1 / 100 : K) ≤ 1 := by norm_num
    unfold queryBox
    have hqx := queryInterval_finite hLimits hSmall hx.1 hx.2
    have hqy := queryInterval_finite hLimits hSmall hy.1 hy.2
    have hqz := queryInterval_finite hLimits hSmall hz.1 hz.2
    erw [hqx, hqy, hqz]
    rfl
  have hLargest : ¬ largest < 1 / 100 := by
    linarith [hx.1, abs_nonneg start.x]
  have hValid : AxisAlignedBox.valid (⟨Vec3.lift ⟨start.x ⊓ finish.x - 1 / 100,
      start.y ⊓ finish.y - 1 / 100, start.z ⊓ finish.z - 1 / 100⟩, Vec3.lift ⟨start.x ⊔ finish.x + 1 / 100,
      start.y ⊔ finish.y + 1 / 100, start.z ⊔ finish.z + 1 / 100⟩⟩ : AxisAlignedBox (ExactReal K)) = true := by
    have hOrder : ∀ a b : K, a ⊓ b - 1 / 100 ≤ a ⊔ b + 1 / 100 := by
      intro a b
      have hMinMax : a ⊓ b ≤ a ⊔ b := inf_le_sup
      linarith
    unfold AxisAlignedBox.valid
    simp only [Vec3.lift, le_finite, hOrder, decide_true]
    rfl
  have hZero : ¬ (finite (0 : K) < lit 0) := by
    rw [lit_finite, lt_finite, Rat.cast_zero]
    exact lt_irrefl 0
  unfold observedOccupiedTubeIsClear
  rw [if_neg, hQuery, if_neg, hBox]
  · dsimp only
    rw [if_neg, if_neg, if_neg, hNone]
    · rfl
    · exact Bool.noConfusion
    · exact Bool.noConfusion
    · rw [hValid]
      exact Bool.noConfusion
  · rw [hLimits.max]
    change ¬ (!true || !isFinite (FloatOps.max (finite _) (finite _)) ||
      decide (largest < 1 / 100)) = true
    rw [max_finite, decide_eq_false hLargest]
    exact Bool.noConfusion
  · simp only [Vec3.allFinite_lift, isFinite_finite, hZero, Bool.not_true, decide_false,
      Bool.or_false, Bool.false_eq_true, not_false_eq_true]

theorem isSegmentTraversable_of_same_cell {ties : NumericLimits (ExactReal K)}
    {start finish : Vec3 (ExactReal K)} {unknownPolicy : UnknownPolicy}
    (hStart : s.pointIsTraversable .inflated unknownPolicy start = true)
    (hFinish : s.pointIsTraversable .inflated unknownPolicy finish = true)
    (hSame : s.positionToIndex start .inflated = s.positionToIndex finish .inflated) :
    s.isSegmentTraversableTied limits ties start finish .inflated unknownPolicy =
      some (observedOccupiedTubeIsClear limits (s.observedOccupiedPoints limits) start finish
        s.rootGrid.occupiedInflationRadiusM) := by
  have hContains : ∀ point : Vec3 (ExactReal K),
      s.pointIsTraversable .inflated unknownPolicy point = true →
      s.containsLayer point .inflated = true ∧ point.allFinite = true := by
    intro point hPoint
    unfold pointIsTraversable at hPoint
    cases hInside : s.containsLayer point .inflated with
    | false => simp [hInside] at hPoint
    | true =>
      refine ⟨rfl, ?_⟩
      unfold containsLayer at hInside
      cases hAll : point.allFinite with
      | true => rfl
      | false => simp [hAll] at hInside
  obtain ⟨hStartInside, hStartFinite⟩ := hContains start hStart
  obtain ⟨hFinishInside, hFinishFinite⟩ := hContains finish hFinish
  unfold isSegmentTraversableTied
  simp only [hStartInside, hStartFinite, hFinishInside, hFinishFinite, hStart, hFinish, hSame,
    Bool.not_true, Bool.or_self, Bool.false_eq_true, if_false, if_true, ne_eq, not_true_eq_false]

end Tube

section Straddling
variable {limits : NumericLimits (ExactReal K)} {largest base inflated δ : K} {j : Int}

/-- A corner of four evidence cells strictly inside one inflated cell, with room around it. -/
structure Straddles (base inflated : K) (j : Int) (δ : K) : Prop where
  pos : 0 < δ
  room : 4 * δ ≤ base
  below : j * inflated ≤ base - 2 * δ
  above : base + 2 * δ < (j + 1) * inflated

section
variable (h : Straddles base inflated j δ)
include h
omit [SquareRoot K]

theorem Straddles.base_pos : 0 < base := by
  linarith [h.pos, h.room]

theorem Straddles.cell_low {x : K} (h₁ : base - 2 * δ ≤ x) (h₂ : x < base) : cell base x = 0 := by
  rw [cell_eq_iff h.base_pos]
  have hRoom := h.room
  push_cast
  constructor <;> linarith

theorem Straddles.cell_high {x : K} (h₁ : base ≤ x) (h₂ : x ≤ base + 2 * δ) : cell base x = 1 := by
  rw [cell_eq_iff h.base_pos]
  have hRoom := h.room
  have hPos := h.pos
  push_cast
  constructor <;> linarith

theorem Straddles.cell_inflated (hInflated : 0 < inflated) {x : K}
    (h₁ : base - 2 * δ ≤ x) (h₂ : x ≤ base + 2 * δ) : cell inflated x = j := by
  rw [cell_eq_iff hInflated]
  exact ⟨h.below.trans h₁, h₂.trans_lt h.above⟩

end

omit [SquareRoot K] in
theorem cell_zero (r : K) : cell r 0 = 0 := by
  simp [cell]

omit [IsStrictOrderedRing K] [FloorRing K] [SquareRoot K] in
theorem straddled_window (hBase : 0 < base) (hInflated : 0 < inflated) :
    (straddledSnapshot base inflated j).Window base inflated :=
  ⟨rfl, rfl, hBase, hInflated, show 2 * 2 * 1 ≤ sizeMax by decide, show 1 * 1 * 1 ≤ sizeMax by decide⟩

section
variable (h : Straddles base inflated j δ) (hInflated : 0 < inflated) (hj : 0 ≤ j ∧ j ≤ intMax)
include h hInflated hj

theorem straddled_classify {x y : K} (hx : base - 2 * δ ≤ x ∧ x ≤ base + 2 * δ)
    (hy : base - 2 * δ ≤ y ∧ y ≤ base + 2 * δ) :
    (straddledSnapshot base inflated j).classify (Vec3.lift ⟨x, y, 0⟩) .inflated =
      (straddledSnapshot base inflated j).baseState ⟨cell base x, cell base y, 0⟩ ∧
    (straddledSnapshot base inflated j).positionToIndex (Vec3.lift ⟨x, y, 0⟩) .inflated = ⟨j, j, 0⟩ := by
  have w : (straddledSnapshot base inflated j).Window base inflated :=
    straddled_window h.base_pos hInflated
  have hBaseCell : cellOf base ⟨x, y, 0⟩ = ⟨cell base x, cell base y, 0⟩ := by
    simp only [cellOf, cell_zero]
  have hInflatedCell : cellOf inflated ⟨x, y, 0⟩ = ⟨j, j, 0⟩ := by
    simp only [cellOf, cell_zero, h.cell_inflated hInflated hx.1 hx.2, h.cell_inflated hInflated hy.1 hy.2]
  have hBit : ∀ v : K, base - 2 * δ ≤ v ∧ v ≤ base + 2 * δ → 0 ≤ cell base v ∧ cell base v ≤ 1 := by
    intro v hv
    rcases lt_or_ge v base with hlt | hge
    · rw [h.cell_low hv.1 hlt]
      decide
    · rw [h.cell_high hge hv.2]
      decide
  have hBitX := hBit x hx
  have hBitY := hBit y hy
  have hInside : (straddledSnapshot base inflated j).Inside base inflated .inflated ⟨x, y, 0⟩ := by
    refine ⟨?_, ?_, fun _ => ?_, fun _ => ?_⟩
    · rw [hBaseCell]
      refine ⟨fitsInt_iff.mpr ?_, fitsInt_iff.mpr ?_, show fitsInt 0 = true by decide⟩
      all_goals
        unfold intMin intMax
        dsimp only
        omega
    · rw [hBaseCell, holds_iff]
      change ((0 : Int) ≤ cell base x ∧ cell base x < 0 + 2) ∧
        ((0 : Int) ≤ cell base y ∧ cell base y < 0 + 2) ∧ ((0 : Int) ≤ 0 ∧ (0 : Int) < 0 + 1)
      omega
    · rw [hInflatedCell]
      refine ⟨fitsInt_iff.mpr ?_, fitsInt_iff.mpr ?_, show fitsInt 0 = true by decide⟩
      all_goals
        unfold intMin
        dsimp only
        omega
    · rw [hInflatedCell, holds_iff]
      change (j ≤ j ∧ j < j + 1) ∧ (j ≤ j ∧ j < j + 1) ∧ ((0 : Int) ≤ 0 ∧ (0 : Int) < 0 + 1)
      omega
  have hFree : (straddledSnapshot base inflated j).inflatedOccupied ⟨j, j, 0⟩ = 0 := by
    simp [straddledSnapshot, straddledGrid, inflatedOccupied, offset, holds, sizeMax]
  constructor
  · rw [classify_of_inside w hInside fun hOn => Bool.noConfusion hOn]
    simp only [content, hInflatedCell, hBaseCell, hFree]
    rfl
  · rw [← hInflatedCell]
    exact positionToIndex_eq w (hInside.inflatedFits rfl)

/-- The segment around the corner starts and ends in the one inflated cell, in known free
space, and its middle is unknown. -/
theorem straddled_states :
    ((straddledSnapshot base inflated j).classify (Vec3.lift ⟨base - δ, base - 2 * δ, 0⟩) .inflated =
        .knownFree ∧
      (straddledSnapshot base inflated j).positionToIndex (Vec3.lift ⟨base - δ, base - 2 * δ, 0⟩)
        .inflated = ⟨j, j, 0⟩) ∧
    ((straddledSnapshot base inflated j).classify (Vec3.lift ⟨base + 2 * δ, base + δ, 0⟩) .inflated =
        .knownFree ∧
      (straddledSnapshot base inflated j).positionToIndex (Vec3.lift ⟨base + 2 * δ, base + δ, 0⟩)
        .inflated = ⟨j, j, 0⟩) ∧
    (straddledSnapshot base inflated j).classify
      (pointAt ⟨base - δ, base - 2 * δ, 0⟩ ⟨base + 2 * δ, base + δ, 0⟩ (1 / 2)).lift .inflated =
        .unknown := by
  have hPos := h.pos
  obtain ⟨hFirst, hMiddle, hLast⟩ := straddled_baseState base inflated j
  obtain ⟨hStart, hStartCell⟩ := @straddled_classify K _ _ _ _ _ base inflated δ j h hInflated hj
    (base - δ) (base - 2 * δ) ⟨by linarith, by linarith⟩ ⟨by linarith, by linarith⟩
  obtain ⟨hFinish, hFinishCell⟩ := @straddled_classify K _ _ _ _ _ base inflated δ j h hInflated hj
    (base + 2 * δ) (base + δ) ⟨by linarith, by linarith⟩ ⟨by linarith, by linarith⟩
  obtain ⟨hMid, -⟩ := @straddled_classify K _ _ _ _ _ base inflated δ j h hInflated hj
    (base + δ / 2) (base - δ / 2) ⟨by linarith, by linarith⟩ ⟨by linarith, by linarith⟩
  rw [h.cell_low (by linarith) (by linarith), h.cell_low (by linarith) (by linarith), hFirst] at hStart
  rw [h.cell_high (by linarith) (by linarith), h.cell_high (by linarith) (by linarith), hLast] at hFinish
  rw [h.cell_high (by linarith) (by linarith), h.cell_low (by linarith) (by linarith), hMiddle] at hMid
  refine ⟨⟨hStart, hStartCell⟩, ⟨hFinish, hFinishCell⟩, ?_⟩
  have hPoint : pointAt ⟨base - δ, base - 2 * δ, 0⟩ ⟨base + 2 * δ, base + δ, 0⟩ (1 / 2) =
      ⟨base + δ / 2, base - δ / 2, 0⟩ := by
    simp only [pointAt, position, Vec3.mk.injEq]
    refine ⟨by ring, by ring, by ring⟩
  rw [hPoint, hMid]

end

theorem straddled_tube (hLimits : limits.Bounded largest) (hLargest : 2 * base + 1 ≤ largest)
    (h : Straddles base inflated j δ) :
    observedOccupiedTubeIsClear limits
      ((straddledSnapshot base inflated j).observedOccupiedPoints limits)
      (Vec3.lift ⟨base - δ, base - 2 * δ, 0⟩) (Vec3.lift ⟨base + 2 * δ, base + δ, 0⟩)
      (straddledSnapshot base inflated j).rootGrid.occupiedInflationRadiusM = true := by
  have hPos := h.pos
  have hRoom := h.room
  have hAbs : ∀ v : K, 0 ≤ v → v ≤ 2 * base → |v| + 1 ≤ largest := by
    intro v hv hvTop
    rw [abs_of_nonneg hv]
    linarith
  exact observedOccupiedTubeIsClear_of_none hLimits
    (observedOccupiedPoints_of_none (straddled_not_occupied base inflated j))
    ⟨hAbs _ (by dsimp only; linarith) (by dsimp only; linarith),
      hAbs _ (by dsimp only; linarith) (by dsimp only; linarith)⟩
    ⟨hAbs _ (by dsimp only; linarith) (by dsimp only; linarith),
      hAbs _ (by dsimp only; linarith) (by dsimp only; linarith)⟩
    ⟨hAbs _ le_rfl (by dsimp only; linarith), hAbs _ le_rfl (by dsimp only; linarith)⟩

theorem straddled_certificate (hLimits : limits.Exact largest) (hLargest : 2 * base + 1 ≤ largest)
    (h : Straddles base inflated j δ) (hInflated : 0 < inflated) (hj : 0 ≤ j ∧ j ≤ intMax) :
    (straddledSnapshot base inflated j).isSegmentTraversable limits
        (Vec3.lift ⟨base - δ, base - 2 * δ, 0⟩) (Vec3.lift ⟨base + 2 * δ, base + δ, 0⟩) .inflated
        .requireKnownFree = some true ∧
      (straddledSnapshot base inflated j).classify
        (pointAt ⟨base - δ, base - 2 * δ, 0⟩ ⟨base + 2 * δ, base + δ, 0⟩ (1 / 2)).lift .inflated =
          .unknown := by
  have w : (straddledSnapshot base inflated j).Window base inflated :=
    straddled_window h.base_pos hInflated
  obtain ⟨⟨hStart, hStartCell⟩, ⟨hFinish, hFinishCell⟩, hMiddle⟩ := straddled_states h hInflated hj
  refine ⟨(isSegmentTraversable_of_same_cell ?_ ?_ (hStartCell.trans hFinishCell.symm)).trans
    (congrArg some (straddled_tube hLimits.bounded hLargest h)), hMiddle⟩
  · rw [pointIsTraversable_iff w, hStart]
    rfl
  · rw [pointIsTraversable_iff w, hFinish]
    rfl

omit [SquareRoot K] in
theorem exists_straddles (hBase : 0 < base) (hInflated : 0 < inflated)
    (hMultiple : ¬ ∃ k : Nat, base = k * inflated) (hWide : base < 2 ^ 31 * inflated) :
    ∃ j δ, Straddles base inflated j δ ∧ 0 ≤ j ∧ j ≤ intMax := by
  obtain ⟨hBelow, hAbove⟩ := (cell_eq_iff hInflated).mp (rfl : cell inflated base = _)
  have hNonneg : 0 ≤ cell inflated base := by
    rw [le_cell_iff hInflated, Int.cast_zero, zero_mul]
    exact hBase.le
  have hRange : cell inflated base ≤ intMax := by
    have hLt : cell inflated base < 2 ^ 31 := by
      rw [cell_lt_iff hInflated]
      push_cast
      linarith
    unfold intMax
    omega
  have hStrict : (cell inflated base : K) * inflated < base := by
    refine lt_of_le_of_ne hBelow fun hEq => hMultiple ⟨(cell inflated base).toNat, ?_⟩
    have hCast : (((cell inflated base).toNat : Nat) : K) = (cell inflated base : K) := by
      rw [← Int.cast_natCast, Int.toNat_of_nonneg hNonneg]
    rw [hCast, hEq]
  generalize cell inflated base = j at *
  have hRoom : 0 < base - j * inflated := sub_pos.mpr hStrict
  have hSpace : 0 < (j + 1) * inflated - base := sub_pos.mpr hAbove
  have hPos : 0 < (base - j * inflated) ⊓ ((j + 1) * inflated - base) ⊓ base :=
    lt_inf_iff.mpr ⟨lt_inf_iff.mpr ⟨hRoom, hSpace⟩, hBase⟩
  have hLow : (base - j * inflated) ⊓ ((j + 1) * inflated - base) ⊓ base ≤ base - j * inflated :=
    inf_le_left.trans inf_le_left
  have hHigh : (base - j * inflated) ⊓ ((j + 1) * inflated - base) ⊓ base ≤
      (j + 1) * inflated - base := inf_le_left.trans inf_le_right
  have hInner : (base - j * inflated) ⊓ ((j + 1) * inflated - base) ⊓ base ≤ base := inf_le_right
  generalize (base - j * inflated) ⊓ ((j + 1) * inflated - base) ⊓ base = margin at *
  refine ⟨j, margin / 4, ⟨by linarith, by linarith, by linarith, by linarith⟩, hNonneg, hRange⟩

end Straddling

/-- Every accepted segment is traversable at each of its points, for all snapshots with
these resolutions and this treatment of unknown cells. The largest number is arbitrary, as
long as the centres of all cells with an index are below it. -/
def SegmentsCertified (layer : GridLayer) (unknownInflation : Bool) (base inflated : ℝ) : Prop :=
  ∀ (s : MappingWorldSnapshot (ExactReal ℝ)) (limits : NumericLimits (ExactReal ℝ)) (largest : ℝ)
    (start finish : Vec3 ℝ) (unknownPolicy : UnknownPolicy),
    s.Accepted →
    s.rootGrid.baseLayout.resolutionM = .finite base →
    s.rootGrid.inflated.layout.resolutionM = .finite inflated →
    s.rootGrid.unknownInflationEnabled = unknownInflation →
    limits.Exact largest → 2 ^ 31 * base ≤ largest → 2 ^ 31 * inflated ≤ largest →
    s.isSegmentTraversable limits start.lift finish.lift layer unknownPolicy = some true →
    ∀ t, 0 ≤ t → t ≤ 1 →
      isCellTraversable (s.classify (pointAt start finish t).lift layer) unknownPolicy = true

omit [IsStrictOrderedRing K] in
theorem window_of_resolutions {s : MappingWorldSnapshot (ExactReal K)} {base inflated : K}
    (h : s.Accepted) (hBase : s.rootGrid.baseLayout.resolutionM = .finite base)
    (hInflated : s.rootGrid.inflated.layout.resolutionM = .finite inflated) :
    s.Window base inflated := by
  obtain ⟨base', inflated', w⟩ := exists_window h
  have hSameBase : base' = base :=
    finite.inj (w.baseResolution.symm.trans hBase)
  have hSameInflated : inflated' = inflated :=
    finite.inj (w.inflatedResolution.symm.trans hInflated)
  rwa [hSameBase, hSameInflated] at w

/-- Segment certificates are sound exactly when no inflated cell that is read through the
evidence grid straddles two evidence cells. -/
theorem segments_certified_iff (layer : GridLayer) (unknownInflation : Bool) {base inflated : ℝ}
    (hBase : 0 < base) (hInflated : 0 < inflated) :
    SegmentsCertified layer unknownInflation base inflated ↔
      layer = .evidence ∨ unknownInflation = true ∨ (∃ k : Nat, base = k * inflated) ∨
        2 ^ 31 * inflated ≤ base := by
  constructor
  · intro h
    by_contra hNot
    simp only [not_or, not_le] at hNot
    obtain ⟨hLayer, hUnknown, hMultiple, hWide⟩ := hNot
    have hLayer : layer = .inflated := by
      cases layer with
      | evidence => exact absurd rfl hLayer
      | inflated => rfl
    obtain ⟨j, δ, hStraddles, hj⟩ := exists_straddles hBase hInflated hMultiple hWide
    have hLimits : NumericLimits.Exact (⟨.finite 0, .finite (2 ^ 31 * base + 2 ^ 31 * inflated + 1),
        .finite (-(2 ^ 31 * base + 2 ^ 31 * inflated + 1))⟩ : NumericLimits (ExactReal ℝ))
        (2 ^ 31 * base + 2 ^ 31 * inflated + 1) := ⟨rfl, rfl, rfl⟩
    obtain ⟨hAccepted, hMiddle⟩ := straddled_certificate hLimits (by linarith) hStraddles hInflated hj
    have hPass := h _ _ _ _ _ _ (straddledSnapshot_accepted hBase hInflated hj) rfl rfl
      (Bool.eq_false_of_not_eq_true hUnknown).symm hLimits (by linarith) (by linarith)
      (hLayer ▸ hAccepted) (1 / 2) (by norm_num) (by norm_num)
    rw [hLayer, hMiddle] at hPass
    cases hPass
  · intro hCondition s limits largest start finish unknownPolicy hAccepted hBaseEq hInflatedEq hUnknown
      hLimits hBaseLargest hInflatedLargest hSegment t h0 h1
    have w := window_of_resolutions hAccepted hBaseEq hInflatedEq
    refine traversable_of_certificate w hLimits ?_ ?_ hSegment h0 h1
    · unfold resolutionOf
      split
      · exact hInflatedLargest
      · exact hBaseLargest
    · intro hLayer hOff
      rcases hCondition with hEvidence | hOn | ⟨k, hMultiple⟩ | hWide
      · rw [hLayer] at hEvidence
        cases hEvidence
      · rw [hUnknown, hOn] at hOff
        cases hOff
      · rw [hMultiple]
        exact nested_of_multiple k inflated
      · exact nested_of_wide hBase hInflated hWide

/-- Two layers of one resolution certify their segments. -/
theorem segments_certified_at_one_resolution : SegmentsCertified .inflated false (1 / 5) (1 / 5) :=
  (segments_certified_iff .inflated false (by norm_num) (by norm_num)).mpr
    (Or.inr (Or.inr (Or.inl ⟨1, by norm_num⟩)))

/-- Evidence cells of a fifth of a metre under inflated cells twice as wide: a segment
through an unknown cell is accepted where known free space is required. -/
theorem coarse_inflated_cell_hides_unknown : (straddledSnapshot (1 / 5 : ℝ) (2 / 5) 0).Accepted ∧
    (straddledSnapshot (1 / 5 : ℝ) (2 / 5) 0).isSegmentTraversable
        ⟨.finite 0, .finite (2 ^ 32), .finite (-2 ^ 32)⟩ (Vec3.lift ⟨3 / 20, 1 / 10, 0⟩)
        (Vec3.lift ⟨3 / 10, 1 / 4, 0⟩) .inflated .requireKnownFree = some true ∧
    (straddledSnapshot (1 / 5 : ℝ) (2 / 5) 0).classify
        (pointAt ⟨3 / 20, 1 / 10, 0⟩ ⟨3 / 10, 1 / 4, 0⟩ (1 / 2)).lift .inflated = .unknown := by
  have hStraddles : Straddles (1 / 5 : ℝ) (2 / 5) 0 (1 / 20) := by
    constructor <;> norm_num
  have hLimits : NumericLimits.Exact (⟨.finite 0, .finite (2 ^ 32), .finite (-2 ^ 32)⟩ :
      NumericLimits (ExactReal ℝ)) (2 ^ 32) := ⟨rfl, rfl, rfl⟩
  have hj : (0 : Int) ≤ 0 ∧ (0 : Int) ≤ intMax := by decide
  have hCertificate := straddled_certificate hLimits (by norm_num) hStraddles (by norm_num) hj
  refine ⟨straddledSnapshot_accepted (by norm_num) (by norm_num) hj, ?_⟩
  norm_num at hCertificate ⊢
  exact hCertificate

end MappingWorldSnapshot

end UavNavigation
