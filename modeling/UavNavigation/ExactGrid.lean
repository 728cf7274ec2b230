import UavNavigation.ExactReals
import UavNavigation.GridRay
import UavNavigation.SegmentTraversal

/-!
# Grid queries in exact arithmetic

In exact arithmetic a point has the cell its coordinates are rounded down to, the
centre of a cell is the exact centre, and a classification reads the window, the
virtual planes and the content of the cell.
-/

namespace UavNavigation

set_option autoImplicit false

open FloatOps GridRay ExactReal PlanningGridLayout

section Cells
variable {K : Type} [Field K] [LinearOrder K] [IsStrictOrderedRing K] [FloorRing K]

def cellOf (resolution : K) (point : Vec3 K) : GridIndex3 :=
  ⟨cell resolution point.x, cell resolution point.y, cell resolution point.z⟩

def pointAt (start finish : Vec3 K) (t : K) : Vec3 K :=
  ⟨position start.x finish.x t, position start.y finish.y t, position start.z finish.z t⟩

def cellCenterOf (resolution : K) (index : GridIndex3) : Vec3 K :=
  ⟨(index.x + 1 / 2) * resolution, (index.y + 1 / 2) * resolution, (index.z + 1 / 2) * resolution⟩

theorem cellOf_cellCenterOf {resolution : K} (hr : 0 < resolution) (index : GridIndex3) :
    cellOf resolution (cellCenterOf resolution index) = index :=
  GridIndex3.ext (cell_center hr index.x) (cell_center hr index.y) (cell_center hr index.z)

/-- A cell with an `int` index on every axis. -/
def GridIndex3.Fits (index : GridIndex3) : Prop :=
  fitsInt index.x = true ∧ fitsInt index.y = true ∧ fitsInt index.z = true

theorem fitsInt_iff {value : Int} : fitsInt value = true ↔ intMin ≤ value ∧ value ≤ intMax := by
  simp only [fitsInt, Bool.and_eq_true, decide_eq_true_eq]

theorem fits_pointAt {resolution : K} (hr : 0 < resolution) {start finish : Vec3 K}
    (hStart : (cellOf resolution start).Fits) (hFinish : (cellOf resolution finish).Fits)
    {t : K} (h0 : 0 ≤ t) (h1 : t ≤ 1) : (cellOf resolution (pointAt start finish t)).Fits := by
  obtain ⟨hsx, hsy, hsz⟩ := hStart
  obtain ⟨hfx, hfy, hfz⟩ := hFinish
  refine ⟨fitsInt_iff.mpr ?_, fitsInt_iff.mpr ?_, fitsInt_iff.mpr ?_⟩
  · exact cellAt_mem hr (fitsInt_iff.mp hsx) (fitsInt_iff.mp hfx) h0 h1
  · exact cellAt_mem hr (fitsInt_iff.mp hsy) (fitsInt_iff.mp hfy) h0 h1
  · exact cellAt_mem hr (fitsInt_iff.mp hsz) (fitsInt_iff.mp hfz) h0 h1

theorem holds_pointAt {D : Type} {layout : PlanningGridLayout D} {resolution : K}
    (hr : 0 < resolution) {start finish : Vec3 K}
    (hStart : layout.holds (cellOf resolution start) = true)
    (hFinish : layout.holds (cellOf resolution finish) = true) {t : K} (h0 : 0 ≤ t) (h1 : t ≤ 1) :
    layout.holds (cellOf resolution (pointAt start finish t)) = true := by
  obtain ⟨hsx, hsy, hsz⟩ := holds_iff.mp hStart
  obtain ⟨hfx, hfy, hfz⟩ := holds_iff.mp hFinish
  rw [holds_iff]
  refine ⟨?_, ?_, ?_⟩
  · have hBetween := cellAt_mem hr ⟨hsx.1, Int.le_sub_one_of_lt hsx.2⟩
      ⟨hfx.1, Int.le_sub_one_of_lt hfx.2⟩ h0 h1
    exact ⟨hBetween.1, Int.lt_of_le_sub_one hBetween.2⟩
  · have hBetween := cellAt_mem hr ⟨hsy.1, Int.le_sub_one_of_lt hsy.2⟩
      ⟨hfy.1, Int.le_sub_one_of_lt hfy.2⟩ h0 h1
    exact ⟨hBetween.1, Int.lt_of_le_sub_one hBetween.2⟩
  · have hBetween := cellAt_mem hr ⟨hsz.1, Int.le_sub_one_of_lt hsz.2⟩
      ⟨hfz.1, Int.le_sub_one_of_lt hfz.2⟩ h0 h1
    exact ⟨hBetween.1, Int.lt_of_le_sub_one hBetween.2⟩

end Cells

section Exact
variable {K : Type} [Field K] [LinearOrder K] [IsStrictOrderedRing K] [FloorRing K] [SquareRoot K]

/-- Limits of exact arithmetic: no distance to a next value, and a largest number. -/
structure NumericLimits.Exact (limits : NumericLimits (ExactReal K)) (largest : K) : Prop where
  epsilon : limits.epsilon = .finite 0
  max : limits.max = .finite largest
  lowest : limits.lowest = .finite (-largest)

/-- A largest number, with any distance to a next value. -/
structure NumericLimits.Bounded (limits : NumericLimits (ExactReal K)) (largest : K) : Prop where
  max : limits.max = .finite largest
  lowest : limits.lowest = .finite (-largest)

variable {limits : NumericLimits (ExactReal K)}

omit [LinearOrder K] [IsStrictOrderedRing K] [FloorRing K] [SquareRoot K] in
theorem NumericLimits.Exact.bounded {largest : K} (h : limits.Exact largest) :
    limits.Bounded largest := ⟨h.max, h.lowest⟩

/-! ## Positions and indices -/

variable {resolution : K}

theorem ExactReal.floor_finite (x : K) : FloatOps.floor (.finite x) = finite (⌊x⌋ : K) := by
  unfold FloatOps.floor
  rw [neg_finite, ceil_finite, neg_finite, Int.ceil_neg]
  push_cast
  rw [neg_neg]

theorem ExactReal.toInt_intCast (n : Int) : FloatOps.toInt (finite (n : K)) = n := by
  change truncate (n : K) = n
  unfold truncate
  split
  · exact Int.floor_intCast n
  · exact Int.ceil_intCast n

theorem checkedAxisIndex_finite (hr : 0 < resolution) (x : K) :
    checkedAxisIndex (finite x) (.finite resolution) =
      if fitsInt (cell resolution x) then some (cell resolution x) else none := by
  have hLow : (finite (⌊x / resolution⌋ : K) < ofInt intMin) ↔
      cell resolution x < intMin := Int.cast_lt
  have hHigh : (ofInt intMax < finite (⌊x / resolution⌋ : K)) ↔
      intMax < cell resolution x := Int.cast_lt
  unfold checkedAxisIndex
  simp only [div_finite x hr.ne', isFinite_finite, Bool.not_true,
    Bool.false_eq_true, if_false, floor_finite, hLow, hHigh, toInt_intCast]
  by_cases hFits : fitsInt (cell resolution x) = true
  · have hRange := fitsInt_iff.mp hFits
    rw [if_pos hFits, if_neg (by simp only [Bool.or_eq_true, decide_eq_true_eq]; omega)]
    rfl
  · have hRange := mt fitsInt_iff.mpr hFits
    rw [if_neg hFits, if_pos (by simp only [Bool.or_eq_true, decide_eq_true_eq]; omega)]

theorem checkedPositionToIndex_lift (hr : 0 < resolution) (point : Vec3 K) :
    (∀ index, checkedPositionToIndex point.lift (.finite resolution) = some index →
      index = cellOf resolution point ∧ index.Fits) ∧
    ((cellOf resolution point).Fits →
      checkedPositionToIndex point.lift (.finite resolution) = some (cellOf resolution point)) := by
  have hPositive : ¬ (finite resolution ≤ lit 0) := by
    rw [lit_finite, le_finite, Rat.cast_zero]
    exact not_le.mpr hr
  have hAxes : checkedPositionToIndex point.lift (.finite resolution) =
      (if fitsInt (cell resolution point.x) then some (cell resolution point.x) else none).bind fun x =>
        (if fitsInt (cell resolution point.y) then some (cell resolution point.y) else none).bind fun y =>
          (if fitsInt (cell resolution point.z) then some (cell resolution point.z) else none).bind
            fun z => some ⟨x, y, z⟩ := by
    unfold checkedPositionToIndex
    rw [← checkedAxisIndex_finite hr, ← checkedAxisIndex_finite hr, ← checkedAxisIndex_finite hr]
    simp only [Vec3.allFinite_lift, isFinite_finite, hPositive, Bool.not_true,
      decide_false, Bool.or_false, Bool.false_eq_true, if_false]
    rfl
  rw [hAxes]
  constructor
  · intro index h
    by_cases hx : fitsInt (cell resolution point.x) = true
    · by_cases hy : fitsInt (cell resolution point.y) = true
      · by_cases hz : fitsInt (cell resolution point.z) = true
        · simp only [hx, hy, hz, if_true, Option.bind_some, Option.some.injEq] at h
          exact ⟨h.symm, h ▸ ⟨hx, hy, hz⟩⟩
        · simp [hx, hy, hz] at h
      · simp [hx, hy] at h
    · simp [hx] at h
  · rintro ⟨hx, hy, hz⟩
    change fitsInt (cell resolution point.x) = true at hx
    change fitsInt (cell resolution point.y) = true at hy
    change fitsInt (cell resolution point.z) = true at hz
    simp only [hx, hy, hz, if_true, Option.bind_some]
    rfl

theorem checkedOffset_isSome_iff {layout : PlanningGridLayout (ExactReal K)} (hr : 0 < resolution)
    (hLayout : layout.resolutionM = .finite resolution) (hCount : layout.count ≤ sizeMax)
    (point : Vec3 K) : (checkedOffset layout point.lift).isSome = true ↔
      (cellOf resolution point).Fits ∧ layout.holds (cellOf resolution point) = true := by
  obtain ⟨hOnly, hFound⟩ := checkedPositionToIndex_lift hr point
  unfold checkedOffset
  rw [hLayout]
  constructor
  · intro h
    cases hIndex : checkedPositionToIndex point.lift (finite resolution) with
    | none => simp [hIndex] at h
    | some index =>
      simp only [hIndex] at h
      obtain ⟨place, hPlace⟩ := Option.isSome_iff_exists.mp h
      obtain ⟨rfl, hFits⟩ := hOnly index hIndex
      exact ⟨hFits, (offset_eq_some hPlace).1⟩
  · rintro ⟨hFits, hHolds⟩
    obtain ⟨place, hPlace⟩ := offset_of_holds hHolds hCount
    simp only [hFound hFits, hPlace, Option.isSome_some]

variable {largest : K} (hLimits : limits.Bounded largest) (hr : 0 < resolution)
  (hLargest : 2 ^ 31 * resolution ≤ largest)
include hLimits hr hLargest

theorem cellCenter_finite {index : Int} (hFits : fitsInt index = true) :
    cellCenter limits (.finite resolution) index =
      some (finite ((index + 1 / 2) * resolution)) := by
  obtain ⟨hLow, hHigh⟩ := fitsInt_iff.mp hFits
  have hLowCast : (-2 ^ 31 : K) ≤ index := by
    have hCast : ((intMin : Int) : K) ≤ index := Int.cast_le.mpr hLow
    have hMin : ((intMin : Int) : K) = -2 ^ 31 := by norm_num [intMin]
    linarith
  have hHighCast : (index : K) + 1 ≤ 2 ^ 31 := by
    have hCast : ((index : Int) : K) ≤ (intMax : Int) := Int.cast_le.mpr hHigh
    have hMax : ((intMax : Int) : K) = 2 ^ 31 - 1 := by norm_num [intMax]
    linarith
  have hLower := mul_le_mul_of_nonneg_right hLowCast hr.le
  have hUpper := mul_le_mul_of_nonneg_right hHighCast hr.le
  have hNotLow : ¬ ((index : K) + 1 / 2) * resolution < -largest := by
    linarith
  have hNotHigh : ¬ largest < ((index : K) + 1 / 2) * resolution := by
    linarith
  unfold cellCenter
  rw [hLimits.max, hLimits.lowest]
  have hPosition : ((ofInt index + lit (1 / 2)) * Floating.widen (finite resolution) :
      Floating.LongDouble (ExactReal K)) = finite (((index : K) + 1 / 2) * resolution) := by
    change finite (((index : K) + ((1 / 2 : ℚ) : K)) * resolution) = _
    push_cast
    rfl
  simp only [hPosition]
  change (if !true || decide (((index : K) + 1 / 2) * resolution < -largest) ||
    decide (largest < ((index : K) + 1 / 2) * resolution) then none else some _) = _
  rw [decide_eq_false hNotLow, decide_eq_false hNotHigh]
  rfl

theorem centerOf_finite {index : GridIndex3} (hFits : index.Fits) :
    centerOf limits (.finite resolution) index = (cellCenterOf resolution index).lift := by
  have hPositive : ¬ (finite resolution ≤ lit 0) := by
    rw [lit_finite, le_finite, Rat.cast_zero]
    exact not_le.mpr hr
  unfold centerOf
  simp only [isFinite_finite, hPositive, Bool.not_true, decide_false, Bool.or_false,
    Bool.false_eq_true, if_false, cellCenter_finite hLimits hr hLargest hFits.1,
    cellCenter_finite hLimits hr hLargest hFits.2.1, cellCenter_finite hLimits hr hLargest hFits.2.2]
  rfl

end Exact

/-! ## Classification -/

namespace MappingWorldSnapshot

theorem gridAccepted_rootGrid {D : Type} [FloatOps D] {s : MappingWorldSnapshot D} (h : s.Accepted) :
    ∃ identity, GridAccepted s.rootGrid identity := by
  induction s with
  | root grid identity history => exact ⟨identity, (validated_iff.mp h).2⟩
  | patched parent patch identity history ih => exact ih h.1

variable {K : Type} [Field K] [LinearOrder K] [IsStrictOrderedRing K] [FloorRing K] [SquareRoot K]

/-- What the constructors guarantee about the two layouts, with their resolutions. -/
structure Window (s : MappingWorldSnapshot (ExactReal K)) (base inflated : K) : Prop where
  baseResolution : s.rootGrid.baseLayout.resolutionM = .finite base
  inflatedResolution : s.rootGrid.inflated.layout.resolutionM = .finite inflated
  base_pos : 0 < base
  inflated_pos : 0 < inflated
  baseCount : s.rootGrid.baseLayout.count ≤ sizeMax
  inflatedCount : s.rootGrid.inflated.layout.count ≤ sizeMax

omit [IsStrictOrderedRing K] in
theorem resolution_of_valid {layout : PlanningGridLayout (ExactReal K)}
    (h : dimensionsInvalid layout = false) :
    ∃ resolution : K, layout.resolutionM = .finite resolution ∧ 0 < resolution := by
  simp only [dimensionsInvalid, Bool.or_eq_false_iff, Bool.not_eq_false', decide_eq_false_iff_not] at h
  obtain ⟨⟨hFinite, hPositive⟩, -⟩ := h
  obtain ⟨resolution, hResolution⟩ := isFinite_iff.mp hFinite
  rw [hResolution, lit_finite, le_finite, Rat.cast_zero, not_le] at hPositive
  exact ⟨resolution, hResolution, hPositive⟩

omit [IsStrictOrderedRing K] in
theorem exists_window {s : MappingWorldSnapshot (ExactReal K)} (h : s.Accepted) :
    ∃ base inflated, s.Window base inflated := by
  obtain ⟨identity, hGrid⟩ := gridAccepted_rootGrid h
  obtain ⟨-, hBaseCount, hBase⟩ := validateLayout_ok hGrid.baseLayout
  obtain ⟨-, hInflatedCount, hInflated⟩ := validateLayout_ok hGrid.inflatedLayout
  obtain ⟨base, hBase, hBasePos⟩ := resolution_of_valid hBase
  obtain ⟨inflated, hInflated, hInflatedPos⟩ := resolution_of_valid hInflated
  exact ⟨base, inflated, hBase, hInflated, hBasePos, hInflatedPos, hBaseCount, hInflatedCount⟩

def resolutionOf (base inflated : K) (layer : GridLayer) : K :=
  if layer = .inflated then inflated else base

variable {s : MappingWorldSnapshot (ExactReal K)} {base inflated : K}

omit [IsStrictOrderedRing K] [FloorRing K] [SquareRoot K] in
theorem Window.layerResolution (w : s.Window base inflated) (layer : GridLayer) :
    s.layerResolution layer = .finite (resolutionOf base inflated layer) := by
  unfold MappingWorldSnapshot.layerResolution resolutionOf
  split
  · exact w.inflatedResolution
  · exact w.baseResolution

omit [IsStrictOrderedRing K] [FloorRing K] [SquareRoot K] in
theorem Window.resolutionOf_pos (w : s.Window base inflated) (layer : GridLayer) :
    0 < resolutionOf base inflated layer := by
  unfold resolutionOf
  split
  · exact w.inflated_pos
  · exact w.base_pos

structure Inside (s : MappingWorldSnapshot (ExactReal K)) (base inflated : K) (layer : GridLayer)
    (point : Vec3 K) : Prop where
  baseFits : (cellOf base point).Fits
  baseHolds : s.rootGrid.baseLayout.holds (cellOf base point) = true
  inflatedFits : layer = .inflated → (cellOf inflated point).Fits
  inflatedHolds : layer = .inflated →
    s.rootGrid.inflated.layout.holds (cellOf inflated point) = true

variable {layer : GridLayer} {point : Vec3 K}

theorem containsLayer_iff (w : s.Window base inflated) (layer : GridLayer) (point : Vec3 K) :
    s.containsLayer point.lift layer = true ↔ s.Inside base inflated layer point := by
  have hBase := checkedOffset_isSome_iff w.base_pos w.baseResolution w.baseCount point
  have hInflated :=
    checkedOffset_isSome_iff w.inflated_pos w.inflatedResolution w.inflatedCount point
  unfold containsLayer
  constructor
  · intro h
    split at h
    · cases h
    split at h
    · cases h
    rename_i hSome
    rw [Option.isNone_iff_eq_none] at hSome
    obtain ⟨hFits, hHolds⟩ := hBase.mp (Option.isSome_iff_ne_none.mpr hSome)
    split at h
    · rename_i hLayer
      have hNot : layer ≠ .inflated := by
        rw [hLayer]
        decide
      exact ⟨hFits, hHolds, fun h => absurd h hNot, fun h => absurd h hNot⟩
    · obtain ⟨hFits', hHolds'⟩ := hInflated.mp h
      exact ⟨hFits, hHolds, fun _ => hFits', fun _ => hHolds'⟩
  · intro h
    have hSome := hBase.mpr ⟨h.baseFits, h.baseHolds⟩
    have hNone : (checkedOffset s.rootGrid.baseLayout point.lift).isNone = false := by
      rw [← Option.not_isSome, hSome]
      rfl
    simp only [hNone, Bool.false_eq_true, if_false]
    cases layer with
    | evidence => rfl
    | inflated =>
      exact hInflated.mpr ⟨h.inflatedFits rfl, h.inflatedHolds rfl⟩

omit [SquareRoot K] in
theorem Inside.pointAt (w : s.Window base inflated) {start finish : Vec3 K}
    (hStart : s.Inside base inflated layer start) (hFinish : s.Inside base inflated layer finish)
    {t : K} (h0 : 0 ≤ t) (h1 : t ≤ 1) : s.Inside base inflated layer (pointAt start finish t) :=
  ⟨fits_pointAt w.base_pos hStart.baseFits hFinish.baseFits h0 h1,
    holds_pointAt w.base_pos hStart.baseHolds hFinish.baseHolds h0 h1,
    fun h => fits_pointAt w.inflated_pos (hStart.inflatedFits h) (hFinish.inflatedFits h) h0 h1,
    fun h => holds_pointAt w.inflated_pos (hStart.inflatedHolds h) (hFinish.inflatedHolds h) h0 h1⟩

omit [IsStrictOrderedRing K] [SquareRoot K] in
theorem Inside.layerFits (h : s.Inside base inflated layer point) :
    (cellOf (resolutionOf base inflated layer) point).Fits := by
  cases layer with
  | evidence => exact h.baseFits
  | inflated => exact h.inflatedFits rfl

theorem positionToIndex_eq (w : s.Window base inflated)
    (h : (cellOf (resolutionOf base inflated layer) point).Fits) :
    s.positionToIndex point.lift layer = cellOf (resolutionOf base inflated layer) point := by
  unfold positionToIndex
  rw [w.layerResolution, (checkedPositionToIndex_lift (w.resolutionOf_pos layer) point).2 h]
  rfl

def ground (s : MappingWorldSnapshot (ExactReal K)) (layer : GridLayer) : ExactReal K :=
  if layer = .inflated then s.rootGrid.inflatedVirtualGroundM else s.rootGrid.virtualGroundM

def ceiling (s : MappingWorldSnapshot (ExactReal K)) (layer : GridLayer) : ExactReal K :=
  if layer = .inflated then s.rootGrid.inflatedVirtualCeilingM else s.rootGrid.virtualCeilingM

/-- The height lies strictly between the planes, where there are planes. -/
def BetweenPlanes (s : MappingWorldSnapshot (ExactReal K)) (layer : GridLayer) (z : K) : Prop :=
  s.rootGrid.virtualGroundCeilingEnabled = true →
    ¬ finite z ≤ s.ground layer ∧ ¬ s.ceiling layer ≤ finite z

def content (s : MappingWorldSnapshot (ExactReal K)) (base inflated : K) (layer : GridLayer)
    (point : Vec3 K) : CellState :=
  match layer with
  | .evidence => s.baseState (cellOf base point)
  | .inflated =>
    if s.inflatedOccupied (cellOf inflated point) != 0 then .occupied
    else if s.rootGrid.unknownInflationEnabled then
      if s.inflatedUnknown (cellOf inflated point) != 0 then .unknown else .knownFree
    else s.baseState (cellOf base point)

theorem planes_eq_false {enabled : Bool} {below above : Prop} [Decidable below] [Decidable above]
    (h : enabled = true → ¬ below ∧ ¬ above) : (enabled && (below || above)) = false := by
  cases enabled with
  | false => rfl
  | true => simp [(h rfl).1, (h rfl).2]

theorem classify_of_inside (w : s.Window base inflated)
    (hInside : s.Inside base inflated layer point) (hPlanes : s.BetweenPlanes layer point.z) :
    s.classify point.lift layer = s.content base inflated layer point := by
  have hContains := (containsLayer_iff w layer point).mpr hInside
  have hBase : s.positionToIndex point.lift .evidence = cellOf base point :=
    positionToIndex_eq w hInside.baseFits
  have hClear := planes_eq_false hPlanes
  unfold classify
  cases layer with
  | evidence =>
    change (_ && (decide (point.lift.z ≤ s.rootGrid.virtualGroundM) ||
      decide (s.rootGrid.virtualCeilingM ≤ point.lift.z))) = false at hClear
    simp only [Vec3.allFinite_lift, hContains, hClear, Bool.not_true, Bool.false_eq_true, if_false,
      if_true, hBase]
    rfl
  | inflated =>
    change (_ && (decide (point.lift.z ≤ s.rootGrid.inflatedVirtualGroundM) ||
      decide (s.rootGrid.inflatedVirtualCeilingM ≤ point.lift.z))) = false at hClear
    have hCell : s.positionToIndex point.lift .inflated = cellOf inflated point :=
      positionToIndex_eq w (hInside.inflatedFits rfl)
    obtain ⟨place, hPlace⟩ :=
      offset_of_holds (hInside.inflatedHolds rfl) w.inflatedCount
    simp only [Vec3.allFinite_lift, hContains, hClear, Bool.not_true, Bool.false_eq_true, if_false,
      reduceCtorEq, hBase, hCell, hPlace]
    rfl

theorem classify_of_not_inside (w : s.Window base inflated)
    (h : ¬ (s.Inside base inflated layer point ∧ s.BetweenPlanes layer point.z)) :
    s.classify point.lift layer = .outOfMap ∨ s.classify point.lift layer = .occupied := by
  have hContains := containsLayer_iff w layer point
  unfold classify
  rw [Vec3.allFinite_lift]
  cases layer with
  | evidence =>
    simp only [Bool.not_true, Bool.false_eq_true, if_false, if_true]
    split
    · exact Or.inr rfl
    split
    · exact Or.inl rfl
    rename_i hPlanes hWindow
    refine absurd ⟨hContains.mp (by simpa using hWindow), ?_⟩ h
    intro hOn
    have hApart : ¬ point.lift.z ≤ s.rootGrid.virtualGroundM ∧
        ¬ s.rootGrid.virtualCeilingM ≤ point.lift.z := by simpa [hOn] using hPlanes
    exact hApart
  | inflated =>
    simp only [Bool.not_true, Bool.false_eq_true, if_false, reduceCtorEq]
    split
    · exact Or.inl rfl
    split
    · exact Or.inr rfl
    rename_i hWindow hPlanes
    refine absurd ⟨hContains.mp (by simpa using hWindow), ?_⟩ h
    intro hOn
    have hApart : ¬ point.lift.z ≤ s.rootGrid.inflatedVirtualGroundM ∧
        ¬ s.rootGrid.inflatedVirtualCeilingM ≤ point.lift.z := by simpa [hOn] using hPlanes
    exact hApart

theorem classify_traversable_iff (w : s.Window base inflated) {unknownPolicy : UnknownPolicy} :
    isCellTraversable (s.classify point.lift layer) unknownPolicy = true ↔
      (s.Inside base inflated layer point ∧ s.BetweenPlanes layer point.z) ∧
        isCellTraversable (s.content base inflated layer point) unknownPolicy = true := by
  by_cases h : s.Inside base inflated layer point ∧ s.BetweenPlanes layer point.z
  · rw [classify_of_inside w h.1 h.2]
    exact ⟨fun hPass => ⟨h, hPass⟩, fun hPass => hPass.2⟩
  · refine ⟨fun hPass => ?_, fun hPass => absurd hPass.1 h⟩
    rcases classify_of_not_inside w h with hState | hState
    all_goals
      rw [hState] at hPass
      cases hPass

theorem BetweenPlanes.pointAt {start finish : Vec3 K} (hStart : s.BetweenPlanes layer start.z)
    (hFinish : s.BetweenPlanes layer finish.z) {t : K} (h0 : 0 ≤ t) (h1 : t ≤ 1) :
    s.BetweenPlanes layer (pointAt start finish t).z := by
  intro hOn
  obtain ⟨hStartLow, hStartHigh⟩ := hStart hOn
  obtain ⟨hFinishLow, hFinishHigh⟩ := hFinish hOn
  constructor
  · cases hGround : s.ground layer with
    | nonFinite => exact id
    | finite g =>
      rw [hGround, le_finite, not_le] at hStartLow hFinishLow
      rw [le_finite, not_le]
      exact lt_position hStartLow hFinishLow h0 h1
  · cases hCeiling : s.ceiling layer with
    | nonFinite => exact id
    | finite c =>
      rw [hCeiling, le_finite, not_le] at hStartHigh hFinishHigh
      rw [le_finite, not_le]
      exact position_lt hStartHigh hFinishHigh h0 h1

def Nested (base inflated : K) : Prop :=
  ∀ x y : K, cell inflated x = cell inflated y → fitsInt (cell inflated x) = true →
    cell base x = cell base y

omit [IsStrictOrderedRing K] [SquareRoot K] in
theorem content_congr {p q : Vec3 K}
    (hCell : cellOf (resolutionOf base inflated layer) p = cellOf (resolutionOf base inflated layer) q)
    (hFits : (cellOf (resolutionOf base inflated layer) p).Fits)
    (hNested : layer = .inflated → s.rootGrid.unknownInflationEnabled = false → Nested base inflated) :
    s.content base inflated layer p = s.content base inflated layer q := by
  cases layer with
  | evidence => exact congrArg (fun index => s.baseState index) hCell
  | inflated =>
    change cellOf inflated p = cellOf inflated q at hCell
    unfold content
    rw [hCell]
    cases hUnknown : s.rootGrid.unknownInflationEnabled with
    | true => rfl
    | false =>
      have hNested := hNested rfl hUnknown
      have hBase : cellOf base p = cellOf base q :=
        GridIndex3.ext (hNested _ _ (congrArg GridIndex3.x hCell) hFits.1)
          (hNested _ _ (congrArg GridIndex3.y hCell) hFits.2.1)
          (hNested _ _ (congrArg GridIndex3.z hCell) hFits.2.2)
      rw [hBase]

end MappingWorldSnapshot

/-! ## One axis of a walk -/

open FloatOps GridRay ExactReal

section Axis
variable {K : Type} [Field K] [LinearOrder K] [IsStrictOrderedRing K] [FloorRing K]

abbrev bearing (resolution start finish : K) : Int :=
  GridIndex3.axisDirection (cell resolution start) (cell resolution finish)

variable {resolution start finish length : K}

theorem bearing_cases (hr : 0 < resolution) :
    (bearing resolution start finish = 0 ∧ cell resolution start = cell resolution finish) ∨
      (Heads start finish (bearing resolution start finish) ∧
        (bearing resolution start finish = 1 ∨ bearing resolution start finish = -1)) := by
  unfold bearing GridIndex3.axisDirection
  rcases lt_trichotomy (cell resolution start) (cell resolution finish) with hlt | heq | hgt
  · right
    rw [if_pos hlt, if_neg (by omega)]
    exact ⟨Or.inl ⟨rfl, lt_of_cell_lt hr hlt⟩, Or.inl rfl⟩
  · left
    rw [if_neg (by omega), if_neg (by omega)]
    exact ⟨rfl, heq⟩
  · right
    rw [if_neg (by omega), if_pos hgt]
    exact ⟨Or.inr ⟨rfl, lt_of_cell_lt hr hgt⟩, Or.inr rfl⟩

theorem heads_of_ne (hr : 0 < resolution) {c : Int} (hne : c ≠ cell resolution finish)
    (hStill : bearing resolution start finish = 0 → c = cell resolution finish) :
    Heads start finish (bearing resolution start finish) ∧
      (bearing resolution start finish = 1 ∨ bearing resolution start finish = -1) := by
  rcases bearing_cases hr with ⟨hZero, -⟩ | hHeads
  · exact absurd (hStill hZero) hne
  · exact hHeads

/-- What the walk knows of an axis: the cell `c` is reached at every parameter after
`T`, and is left at the distance `next` along the segment. -/
structure AxisState (resolution start finish length : K) (c : Int) (next : ExactReal K) (T : K) :
    Prop where
  reached : 0 ≤ bearing resolution start finish * (c - cell resolution start)
  toGo : 0 ≤ bearing resolution start finish * (cell resolution finish - c)
  still : bearing resolution start finish = 0 → c = cell resolution finish
  passed : ∀ t, 0 ≤ t → t ≤ 1 → T < t →
    0 ≤ bearing resolution start finish * (cellAt resolution start finish t - c)
  next_eq : c ≠ cell resolution finish →
    next = .finite (length * crossing resolution start finish (bearing resolution start finish) c)

namespace AxisState
variable {c : Int} {next : ExactReal K} {T : K}

theorem cellAt_of_finished (hr : 0 < resolution)
    (h : AxisState resolution start finish length c next T) (hc : c = cell resolution finish)
    {t : K} (h0 : 0 ≤ t) (h1 : t ≤ 1) (hT : T < t) : cellAt resolution start finish t = c := by
  have hPassed := h.passed t h0 h1 hT
  have hCases : (bearing resolution start finish = 0 ∧ _) ∨ _ := bearing_cases hr
  rcases hCases with ⟨-, hSame⟩ | ⟨hHeads, hOne | hOne⟩
  · rw [cellAt_of_same hr hSame h0 h1, hSame, hc]
  all_goals
    have hMono := heads_mono hr hHeads h1
    rw [cellAt_one] at hMono
    rw [hOne] at hMono hPassed
    omega

section
variable (hr : 0 < resolution) (hLength : 0 < length)
  (h : AxisState resolution start finish length c next T) {first t : K}
  (hFirst : c ≠ cell resolution finish →
    first ≤ length * crossing resolution start finish (bearing resolution start finish) c)
  (h0 : 0 ≤ t) (h1 : t ≤ 1) (hT : T < t)
include hr hLength h hFirst h0 h1 hT

theorem cellAt_of_before (ht : length * t < first) : cellAt resolution start finish t = c := by
  by_cases hc : c = cell resolution finish
  · exact h.cellAt_of_finished hr hc h0 h1 hT
  · obtain ⟨hHeads, hOne⟩ := heads_of_ne hr hc h.still
    have hPassed := h.passed t h0 h1 hT
    have hCross := lt_of_mul_lt_mul_left (ht.trans_le (hFirst hc)) hLength.le
    have hBefore := (crossing_cases hr hHeads h.reached t).1 hCross
    rcases hOne with hOne | hOne
    all_goals
      rw [hOne] at hPassed hBefore
      omega

theorem cellAt_of_at (ht : length * t = first) : cellAt resolution start finish t = c ∨
      c ≠ cell resolution finish ∧
        length * crossing resolution start finish (bearing resolution start finish) c = first ∧
        cellAt resolution start finish t = c + bearing resolution start finish := by
  by_cases hc : c = cell resolution finish
  · exact Or.inl (h.cellAt_of_finished hr hc h0 h1 hT)
  · rcases (hFirst hc).lt_or_eq with hlt | heq
    · left
      exact h.cellAt_of_before hr hLength (fun _ => le_rfl) h0 h1 hT (ht ▸ hlt)
    · obtain ⟨hHeads, -⟩ := heads_of_ne hr hc h.still
      have hCross := mul_left_cancel₀ hLength.ne' (ht.trans heq)
      rcases (crossing_cases hr hHeads h.reached t).2.1 hCross with hStay | hMove
      · exact Or.inl hStay
      · exact Or.inr ⟨hc, heq.symm, hMove⟩

end

theorem move [SquareRoot K] (hr : 0 < resolution) (hLength : 0 < length)
    (h : AxisState resolution start finish length c next T) {first : K}
    (hc : c ≠ cell resolution finish)
    (hFirst : length * crossing resolution start finish (bearing resolution start finish) c = first) :
    AxisState resolution start finish length (c + bearing resolution start finish)
      (next + finite (length * (resolution / |finish - start|))) (T ⊔ first / length) := by
  obtain ⟨hHeads, hOne⟩ := heads_of_ne hr hc h.still
  have hReached := h.reached
  have hToGo := h.toGo
  refine ⟨?_, ?_, ?_, ?_, ?_⟩
  · rcases hOne with hOne | hOne
    all_goals
      rw [hOne] at hReached ⊢
      omega
  · rcases hOne with hOne | hOne
    all_goals
      rw [hOne] at hToGo ⊢
      omega
  · intro hZero
    rcases hOne with hOne | hOne
    all_goals
      rw [hOne] at hZero
      cases hZero
  · intro t h0 h1 hT
    have hAfter : first / length < t := le_sup_right.trans_lt hT
    rw [div_lt_iff₀ hLength, ← hFirst, mul_comm t] at hAfter
    have hPast := (crossing_cases hr hHeads hReached t).2.2 (lt_of_mul_lt_mul_left hAfter hLength.le)
    rcases hOne with hOne | hOne
    all_goals
      rw [hOne] at hPast ⊢
      omega
  · intro _
    rw [h.next_eq hc, crossing_add hr hHeads hReached, add_finite, mul_add]

omit [IsStrictOrderedRing K] in
theorem stay (h : AxisState resolution start finish length c next T) {T' : K} (hT : T ≤ T')
    {next' : ExactReal K} (hNext : c ≠ cell resolution finish → next' = next) :
    AxisState resolution start finish length c next' T' :=
  ⟨h.reached, h.toGo, h.still, fun t h0 h1 ht => h.passed t h0 h1 (hT.trans_lt ht),
    fun hc => (hNext hc).trans (h.next_eq hc)⟩

end AxisState

end Axis

section Ties
variable {K : Type} [Field K] [LinearOrder K] [IsStrictOrderedRing K] [FloorRing K] [SquareRoot K]

variable {limits : NumericLimits (ExactReal K)} {largest : K}

section
omit [IsStrictOrderedRing K]

theorem firstBoundary_lift (v : Vec3 K) : firstBoundary v.lift = finite (v.x ⊓ v.y ⊓ v.z) := by
  simp only [firstBoundary, Vec3.lift, min_finite]

theorem includeBoundaryScale_finite (scale boundary : K) :
    ∃ k, includeBoundaryScale limits (.finite scale) (.finite boundary) = finite k := by
  unfold includeBoundaryScale
  split
  · exact ⟨_, by rw [abs_finite, max_finite]⟩
  · exact ⟨scale, rfl⟩

theorem tieTolerance_lift (hLimits : limits.Exact largest) (v : Vec3 K) :
    tieTolerance limits v.lift = finite 0 := by
  obtain ⟨k, hk⟩ : ∃ k : K, FloatOps.max (lit 1) (FloatOps.abs (firstBoundary v.lift)) = .finite k :=
    ⟨_, by rw [firstBoundary_lift, abs_finite, lit_finite, max_finite]⟩
  obtain ⟨kx, hx⟩ := @includeBoundaryScale_finite K _ _ _ _ limits k v.x
  obtain ⟨ky, hy⟩ := @includeBoundaryScale_finite K _ _ _ _ limits kx v.y
  obtain ⟨kz, hz⟩ := @includeBoundaryScale_finite K _ _ _ _ limits ky v.z
  unfold tieTolerance
  simp only [hk]
  change lit 32 * limits.epsilon * includeBoundaryScale limits (includeBoundaryScale limits
    (includeBoundaryScale limits (.finite k) (.finite v.x)) (.finite v.y)) (.finite v.z) = _
  rw [hx, hy, hz, hLimits.epsilon, lit_finite, mul_finite, mul_finite, mul_zero, zero_mul]

theorem tied_finite (hLimits : limits.Bounded largest) (first tolerance next : K) :
    tied limits (.finite first) (.finite tolerance) (.finite next) =
      decide (next ≠ largest ∧ |next - first| ≤ tolerance) := by
  unfold tied
  rw [hLimits.max, equal_finite, sub_finite, abs_finite]
  simp

end

omit [IsStrictOrderedRing K] [FloorRing K] [SquareRoot K] [Field K] in
/-- The axes that are crossed first, where the largest number stands for no crossing. -/
def exactTies (largest : K) (v : Vec3 K) : AxisSet :=
  ⟨decide (v.x ≠ largest ∧ v.x = v.x ⊓ v.y ⊓ v.z), decide (v.y ≠ largest ∧ v.y = v.x ⊓ v.y ⊓ v.z),
    decide (v.z ≠ largest ∧ v.z = v.x ⊓ v.y ⊓ v.z)⟩

theorem tiedAxes_lift (hLimits : limits.Exact largest) (v : Vec3 K) :
    tiedAxes limits v.lift = exactTies largest v := by
  have hEqual : ∀ first next : K, tied limits (.finite first) (.finite 0) (.finite next) =
      decide (next ≠ largest ∧ next = first) := by
    intro first next
    rw [tied_finite hLimits.bounded]
    simp only [abs_nonpos_iff, sub_eq_zero]
  unfold tiedAxes
  simp only [tieTolerance_lift hLimits, firstBoundary_lift]
  exact congr (congrArg₂ AxisSet.mk (hEqual _ _) (hEqual _ _)) (hEqual _ _)

end Ties

/-! ## The walk -/

section Walk
variable {K : Type} [Field K] [LinearOrder K] [IsStrictOrderedRing K] [FloorRing K] [SquareRoot K]

variable {limits : NumericLimits (ExactReal K)} {largest : K}

omit [IsStrictOrderedRing K] [SquareRoot K] in
theorem frozen_axis {resolution start finish length : K} {c : Int} {next : ExactReal K} {T : K}
    (hLimits : limits.Bounded largest) (h : AxisState resolution start finish length c next T) :
    ∃ v, (if c = cell resolution finish then limits.max else next) = .finite v ∧
      (c = cell resolution finish → v = largest) ∧
      (c ≠ cell resolution finish → v =
        length * crossing resolution start finish (bearing resolution start finish) c) := by
  by_cases hc : c = cell resolution finish
  · exact ⟨largest, by rw [if_pos hc, hLimits.max], fun _ => rfl, fun hne => absurd hc hne⟩
  · exact ⟨_, by rw [if_neg hc, h.next_eq hc], fun heq => absurd heq hc, fun _ => rfl⟩

theorem axis_round {resolution start finish length : K} {c : Int} {next step : ExactReal K} {T : K}
    (hr : 0 < resolution) (hLength : 0 < length)
    (h : AxisState resolution start finish length c next T)
    (hStep : c ≠ cell resolution finish → step = .finite (length * (resolution / |finish - start|)))
    {first v : K} (hFirst : first ≤ v) (hSentinel : first ≠ largest)
    (hDone : c = cell resolution finish → v = largest)
    (hValue : c ≠ cell resolution finish → v =
      length * crossing resolution start finish (bearing resolution start finish) c) :
    (∀ t, 0 ≤ t → t ≤ 1 → T < t → length * t ≤ first →
      ∃ moved : Bool, (moved = true → decide (v ≠ largest ∧ v = first) = true) ∧
        cellAt resolution start finish t =
          if moved then c + bearing resolution start finish else c) ∧
    AxisState resolution start finish length
      (if decide (v ≠ largest ∧ v = first) then c + bearing resolution start finish else c)
      (if decide (v ≠ largest ∧ v = first) then .finite v + step else .finite v)
      (T ⊔ first / length) := by
  have hBound : c ≠ cell resolution finish →
      first ≤ length * crossing resolution start finish (bearing resolution start finish) c :=
    fun hc => hFirst.trans_eq (hValue hc)
  constructor
  · intro t h0 h1 hT ht
    rcases ht.lt_or_eq with hlt | heq
    · exact ⟨false, fun hFalse => Bool.noConfusion hFalse,
        h.cellAt_of_before hr hLength hBound h0 h1 hT hlt⟩
    · rcases h.cellAt_of_at hr hLength hBound h0 h1 hT heq with hStay | ⟨hc, hCross, hMove⟩
      · exact ⟨false, fun hFalse => Bool.noConfusion hFalse, hStay⟩
      · have hTie : v = first := (hValue hc).trans hCross
        exact ⟨true, fun _ => decide_eq_true ⟨hTie ▸ hSentinel, hTie⟩, hMove⟩
  · by_cases hTie : v ≠ largest ∧ v = first
    · have hc : c ≠ cell resolution finish := fun hc => hTie.1 (hDone hc)
      simp only [decide_eq_true hTie, if_true]
      rw [hStep hc, hValue hc, ← h.next_eq hc]
      exact h.move hr hLength hc ((hValue hc).symm.trans hTie.2)
    · simp only [decide_eq_false hTie, Bool.false_eq_true, if_false]
      exact h.stay le_sup_left (fun hc => by rw [h.next_eq hc, hValue hc])

structure WalkState (resolution : K) (start finish : Vec3 K) (length : K) (current : GridIndex3)
    (next : Vec3 (ExactReal K)) (T : K) : Prop where
  x : AxisState resolution start.x finish.x length current.x next.x T
  y : AxisState resolution start.y finish.y length current.y next.y T
  z : AxisState resolution start.z finish.z length current.z next.z T

theorem mem_nonemptySubsets {mx my mz ax ay az : Bool} (hx : mx = true → ax = true)
    (hy : my = true → ay = true) (hz : mz = true → az = true) :
    (⟨mx, my, mz⟩ : AxisSet) = ⟨false, false, false⟩ ∨
      ⟨mx, my, mz⟩ ∈ AxisSet.nonemptySubsets ⟨ax, ay, az⟩ := by
  revert mx my mz ax ay az
  decide

/-- The distances a round compares, axis by axis: the sentinel where the axis is finished,
and otherwise the crossing that leaves the cell. -/
structure Compared (resolution : K) (start finish : Vec3 K) (length largest : K)
    (current : GridIndex3) (v : Vec3 K) : Prop where
  doneX : current.x = cell resolution finish.x → v.x = largest
  doneY : current.y = cell resolution finish.y → v.y = largest
  doneZ : current.z = cell resolution finish.z → v.z = largest
  valueX : current.x ≠ cell resolution finish.x →
    v.x = length * crossing resolution start.x finish.x (bearing resolution start.x finish.x) current.x
  valueY : current.y ≠ cell resolution finish.y →
    v.y = length * crossing resolution start.y finish.y (bearing resolution start.y finish.y) current.y
  valueZ : current.z ≠ cell resolution finish.z →
    v.z = length * crossing resolution start.z finish.z (bearing resolution start.z finish.z) current.z

/-- On every axis that still moves, the step is the distance between two crossings. -/
structure StepsOf (resolution : K) (start finish : Vec3 K) (length : K) (current : GridIndex3)
    (step : Vec3 (ExactReal K)) : Prop where
  x : current.x ≠ cell resolution finish.x →
    step.x = .finite (length * (resolution / |finish.x - start.x|))
  y : current.y ≠ cell resolution finish.y →
    step.y = .finite (length * (resolution / |finish.y - start.y|))
  z : current.z ≠ cell resolution finish.z →
    step.z = .finite (length * (resolution / |finish.z - start.z|))

namespace WalkState
variable {resolution : K} {start finish : Vec3 K} {length T : K} {current : GridIndex3}
  {next step : Vec3 (ExactReal K)}

omit [IsStrictOrderedRing K] [SquareRoot K] in
theorem exists_compared (hLimits : limits.Bounded largest)
    (h : WalkState resolution start finish length current next T) :
    ∃ v : Vec3 K, frozen limits current (cellOf resolution finish) next = v.lift ∧
      Compared resolution start finish length largest current v := by
  obtain ⟨vx, hvx, hDoneX, hValueX⟩ := frozen_axis hLimits h.x
  obtain ⟨vy, hvy, hDoneY, hValueY⟩ := frozen_axis hLimits h.y
  obtain ⟨vz, hvz, hDoneZ, hValueZ⟩ := frozen_axis hLimits h.z
  exact ⟨⟨vx, vy, vz⟩, congr (congrArg₂ Vec3.mk hvx hvy) hvz,
    hDoneX, hDoneY, hDoneZ, hValueX, hValueY, hValueZ⟩

omit [SquareRoot K] in
theorem cellOf_of_finished (hr : 0 < resolution)
    (h : WalkState resolution start finish length current next T)
    (hCurrent : current = cellOf resolution finish) {t : K} (h0 : 0 ≤ t) (h1 : t ≤ 1) (hT : T < t) :
    cellOf resolution (pointAt start finish t) = cellOf resolution finish := by
  subst hCurrent
  apply GridIndex3.ext
  · exact h.x.cellAt_of_finished hr rfl h0 h1 hT
  · exact h.y.cellAt_of_finished hr rfl h0 h1 hT
  · exact h.z.cellAt_of_finished hr rfl h0 h1 hT

variable {v : Vec3 K}

omit [IsStrictOrderedRing K] in
theorem idle (h : WalkState resolution start finish length current next T)
    (hv : Compared resolution start finish length largest current v)
    (hSentinel : v.x ⊓ v.y ⊓ v.z = largest) (direction : GridIndex3) :
    WalkState resolution start finish length (current.advance direction (exactTies largest v))
      (advanceNext v.lift step (exactTies largest v)) T := by
  have hNever : exactTies largest v = ⟨false, false, false⟩ := by
    have hNot : ∀ w : K, decide (w ≠ largest ∧ w = largest) = false :=
      fun w => decide_eq_false fun hBoth => hBoth.1 hBoth.2
    unfold exactTies
    rw [hSentinel, hNot, hNot, hNot]
  rw [hNever]
  refine ⟨?_, ?_, ?_⟩
  · exact h.x.stay le_rfl fun hc => (congrArg _ (hv.valueX hc)).trans (h.x.next_eq hc).symm
  · exact h.y.stay le_rfl fun hc => (congrArg _ (hv.valueY hc)).trans (h.y.next_eq hc).symm
  · exact h.z.stay le_rfl fun hc => (congrArg _ (hv.valueZ hc)).trans (h.z.next_eq hc).symm

/-- Up to the first crossing the segment is in the current cell, and at the crossing in a
neighbour along some of the tied axes. -/
theorem round (hr : 0 < resolution) (hLength : 0 < length)
    (h : WalkState resolution start finish length current next T)
    (hv : Compared resolution start finish length largest current v)
    (hStep : StepsOf resolution start finish length current step)
    (hSentinel : v.x ⊓ v.y ⊓ v.z ≠ largest) :
    (∀ t, 0 ≤ t → t ≤ 1 → T < t → length * t ≤ v.x ⊓ v.y ⊓ v.z → ∃ moved : AxisSet,
        (moved = ⟨false, false, false⟩ ∨ moved ∈ (exactTies largest v).nonemptySubsets) ∧
        cellOf resolution (pointAt start finish t) = current.advance
          ((cellOf resolution start).directionTo (cellOf resolution finish)) moved) ∧
    WalkState resolution start finish length
      (current.advance ((cellOf resolution start).directionTo (cellOf resolution finish))
        (exactTies largest v))
      (advanceNext v.lift step (exactTies largest v)) (T ⊔ (v.x ⊓ v.y ⊓ v.z) / length) := by
  obtain ⟨hTouchX, hNextX⟩ := axis_round hr hLength h.x hStep.x
    (inf_le_left.trans inf_le_left) hSentinel hv.doneX hv.valueX
  obtain ⟨hTouchY, hNextY⟩ := axis_round hr hLength h.y hStep.y
    (inf_le_left.trans inf_le_right) hSentinel hv.doneY hv.valueY
  obtain ⟨hTouchZ, hNextZ⟩ := axis_round hr hLength h.z hStep.z
    inf_le_right hSentinel hv.doneZ hv.valueZ
  refine ⟨?_, hNextX, hNextY, hNextZ⟩
  intro t h0 h1 hT hWithin
  obtain ⟨mx, hmx, hCellX⟩ := hTouchX t h0 h1 hT hWithin
  obtain ⟨my, hmy, hCellY⟩ := hTouchY t h0 h1 hT hWithin
  obtain ⟨mz, hmz, hCellZ⟩ := hTouchZ t h0 h1 hT hWithin
  exact ⟨⟨mx, my, mz⟩, mem_nonemptySubsets hmx hmy hmz, GridIndex3.ext hCellX hCellY hCellZ⟩

omit [IsStrictOrderedRing K] [FloorRing K] [SquareRoot K] [Field K] in
theorem finished_advance {c f d : Int} {value first : K} (hDone : c = f → value = largest)
    (hc : c = f) : (if decide (value ≠ largest ∧ value = first) then c + d else c) = f := by
  rw [decide_eq_false fun hBoth => hBoth.1 (hDone hc)]
  exact hc

omit [IsStrictOrderedRing K] [SquareRoot K] in
theorem steps_advance (hv : Compared resolution start finish length largest current v)
    (hStep : StepsOf resolution start finish length current step) (direction : GridIndex3) :
    StepsOf resolution start finish length (current.advance direction (exactTies largest v)) step :=
  ⟨fun hc => hStep.x fun hDone => hc (finished_advance hv.doneX hDone),
    fun hc => hStep.y fun hDone => hc (finished_advance hv.doneY hDone),
    fun hc => hStep.z fun hDone => hc (finished_advance hv.doneZ hDone)⟩

end WalkState

theorem walk_cover {resolution : K} {start finish : Vec3 K} {length : K}
    {allowed : GridIndex3 → Bool} {step : Vec3 (ExactReal K)} (hLimits : limits.Exact largest)
    (hr : 0 < resolution) (hLength : 0 < length) (fuel : Nat) :
    ∀ (current : GridIndex3) (next : Vec3 (ExactReal K)) (T : K),
    WalkState resolution start finish length current next T →
    StepsOf resolution start finish length current step →
    (∀ t, 0 ≤ t → t ≤ 1 → t ≤ T → allowed (cellOf resolution (pointAt start finish t)) = true ∨
      cellOf resolution (pointAt start finish t) = cellOf resolution finish) →
    walk limits allowed (cellOf resolution finish)
      ((cellOf resolution start).directionTo (cellOf resolution finish)) step fuel current next =
        some true →
    ∀ t, 0 ≤ t → t ≤ 1 → allowed (cellOf resolution (pointAt start finish t)) = true ∨
      cellOf resolution (pointAt start finish t) = cellOf resolution finish := by
  induction fuel with
  | zero =>
    intro current next T hState _ hSeen hWalk t h0 h1
    simp only [walk] at hWalk
    split at hWalk
    · rename_i hCurrent
      rcases le_or_gt t T with hle | hlt
      · exact hSeen t h0 h1 hle
      · exact Or.inr (hState.cellOf_of_finished hr hCurrent h0 h1 hlt)
    · cases hWalk
  | succ fuel ih =>
    intro current next T hState hStep hSeen hWalk
    simp only [walk] at hWalk
    split at hWalk
    · rename_i hCurrent
      intro t h0 h1
      rcases le_or_gt t T with hle | hlt
      · exact hSeen t h0 h1 hle
      · exact Or.inr (hState.cellOf_of_finished hr hCurrent h0 h1 hlt)
    split at hWalk
    · cases hWalk
    rename_i hAllowed
    obtain ⟨v, hFrozen, hv⟩ := hState.exists_compared hLimits.bounded
    rw [hFrozen, firstBoundary_lift, tiedAxes_lift hLimits] at hWalk
    simp only [isFinite_finite, Bool.not_true, Bool.false_eq_true, if_false] at hWalk
    split at hWalk
    · cases hWalk
    rename_i hSubsets
    rw [Bool.not_eq_true, Bool.not_eq_false', List.all_eq_true] at hSubsets
    by_cases hSentinel : v.x ⊓ v.y ⊓ v.z = largest
    · exact ih _ _ T (hState.idle hv hSentinel _) (WalkState.steps_advance hv hStep _) hSeen hWalk
    · obtain ⟨hTouch, hNext⟩ := hState.round hr hLength hv hStep hSentinel
      refine ih _ _ _ hNext (WalkState.steps_advance hv hStep _) ?_ hWalk
      intro t h0 h1 hT
      rcases le_or_gt t T with hle | hlt
      · exact hSeen t h0 h1 hle
      left
      have hWithin : length * t ≤ v.x ⊓ v.y ⊓ v.z := by
        rcases le_sup_iff.mp hT with hOld | hNew
        · exact absurd hOld (not_le.mpr hlt)
        · rwa [le_div_iff₀ hLength, mul_comm] at hNew
      obtain ⟨moved, hMoved, hCell⟩ := hTouch t h0 h1 hlt hWithin
      rw [hCell]
      rcases hMoved with rfl | hMem
      · change allowed current = true
        simpa using hAllowed
      · exact hSubsets _ hMem

end Walk

end UavNavigation
