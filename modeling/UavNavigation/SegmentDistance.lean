import UavNavigation.GuideProjection

/-!
# The distance between a segment and a box

`pointAabbDistanceSquared` and `segmentAabbDistanceSquared` of `trajectory_world_validator.hpp`.
The segment is split where an axis enters or leaves the box, and on each part the distance is a
parabola.
-/

namespace UavNavigation

set_option autoImplicit false

open FloatOps ExactReal

namespace SegmentAabb

/-- One axis of a segment and of a box. -/
structure Axis (D : Type) where
  start : D
  direction : D
  minimum : D
  maximum : D

def segmentAxes {D : Type} (start direction minimum maximum : Vec3 D) : List (Axis D) :=
  [⟨start.x, direction.x, minimum.x, maximum.x⟩, ⟨start.y, direction.y, minimum.y, maximum.y⟩,
    ⟨start.z, direction.z, minimum.z, maximum.z⟩]

section Code
variable {D : Type} [FloatOps D]

def axisDistance (value minimum maximum : D) : D :=
  if value < minimum then minimum - value
  else if maximum < value then value - maximum
  else lit 0

def pointAabbDistanceSquared (point minimum maximum : Vec3 D) : D :=
  let distance : Vec3 D := ⟨axisDistance point.x minimum.x maximum.x,
    axisDistance point.y minimum.y maximum.y, axisDistance point.z minimum.z maximum.z⟩
  lit 0 + distance.x * distance.x + distance.y * distance.y + distance.z * distance.z

/-- Where the axis meets a boundary, or the sentinel. -/
def breakpoint (axis : Axis D) (boundary : D) : D :=
  if equal axis.direction (lit 0) then lit 2
  else
    let parameter := (boundary - axis.start) / axis.direction
    if isFinite parameter && lit 0 < parameter && parameter < lit 1 then parameter else lit 2

def breakpoints (axes : List (Axis D)) : List D :=
  (lit 0 :: lit 1 :: axes.flatMap fun axis =>
    [breakpoint axis axis.minimum, breakpoint axis axis.maximum]).mergeSort fun a b => a ≤ b

/-- One axis of the sums `quadratic` and `linear`. -/
def addAxis (middle : D) (sums : D × D) (axis : Axis D) : D × D :=
  let middleValue := axis.start + axis.direction * middle
  if middleValue < axis.minimum then
    (sums.1 + axis.direction * axis.direction,
      sums.2 + axis.direction * (axis.start - axis.minimum))
  else if axis.maximum < middleValue then
    (sums.1 + axis.direction * axis.direction,
      sums.2 + axis.direction * (axis.start - axis.maximum))
  else sums

def minimizer (axes : List (Axis D)) (lower upper : D) : D :=
  let sums := axes.foldl (addAxis (lit (1 / 2) * (lower + upper))) (lit 0, lit 0)
  if lit 0 < sums.1 then clamp (-sums.2 / sums.1) lower upper else lower

def scan (evaluate : D → D) (axes : List (Axis D)) : List D → D → D
  | lower :: upper :: rest, best =>
    if lit 1 ≤ lower then best
    else scan evaluate axes (upper :: rest)
      (FloatOps.min best (evaluate (minimizer axes lower upper)))
  | _, best => best

def segmentAabbDistanceSquared (start finish minimum maximum : Vec3 D) : D :=
  if !start.allFinite || !finish.allFinite || !minimum.allFinite || !maximum.allFinite ||
    maximum.x < minimum.x || maximum.y < minimum.y || maximum.z < minimum.z then infinity
  else
    let direction := finish - start
    let evaluate parameter :=
      pointAabbDistanceSquared (start + direction.scale parameter) minimum maximum
    let axes := segmentAxes start direction minimum maximum
    scan evaluate axes (breakpoints axes)
      (FloatOps.min (evaluate (lit 0)) (evaluate (lit 1)))

end Code

section Exact
variable {K : Type} [Field K] [LinearOrder K] {axes : List (Axis K)} {axis : Axis K}
  {l u t boundary quadratic linear : K} {f : K → K} {start finish minimum maximum q : Vec3 K}

def Axis.lift (axis : Axis K) : Axis (ExactReal K) :=
  ⟨finite axis.start, finite axis.direction, finite axis.minimum, finite axis.maximum⟩

/-- The distance of `value` to an interval. -/
def gap (low high value : K) : K :=
  if value < low then low - value else if high < value then value - high else 0

theorem gap_attained {low high : K} (h : low ≤ high) (value : K) :
    ∃ q, low ≤ q ∧ q ≤ high ∧ gap low high value ^ 2 = (value - q) ^ 2 := by
  unfold gap
  split_ifs with hBelow hAbove
  · exact ⟨low, le_rfl, h, by ring⟩
  · exact ⟨high, h, le_rfl, rfl⟩
  · exact ⟨value, not_lt.mp hBelow, not_lt.mp hAbove, by ring⟩

def Axis.value (axis : Axis K) (t : K) : K := axis.start + axis.direction * t

def Axis.squared (axis : Axis K) (t : K) : K := gap axis.minimum axis.maximum (axis.value t) ^ 2

/-- The squared distance at a parameter of the segment. -/
def distanceAt (axes : List (Axis K)) (t : K) : K := (axes.map fun axis => axis.squared t).sum

/-- The axis does not meet the boundary strictly inside the interval. -/
def Clear (axis : Axis K) (l u boundary : K) : Prop :=
  axis.direction ≠ 0 → ¬ (l < (boundary - axis.start) / axis.direction ∧
    (boundary - axis.start) / axis.direction < u)

def AllClear (axes : List (Axis K)) (l u : K) : Prop :=
  ∀ axis ∈ axes, Clear axis l u axis.minimum ∧ Clear axis l u axis.maximum

def Ordered (axes : List (Axis K)) : Prop := ∀ axis ∈ axes, axis.minimum ≤ axis.maximum

/-- On the interval the function is a parabola with these two coefficients. -/
structure Parabola (l u : K) (f : K → K) (quadratic linear : K) : Prop where
  nonneg : 0 ≤ quadratic
  flat : quadratic ≤ 0 → linear = 0
  curve : ∃ c, ∀ t, l ≤ t → t ≤ u → f t = quadratic * t ^ 2 + 2 * linear * t + c

/-- The squared distance between a point of the segment and a point. -/
def separation (start finish q : Vec3 K) (t : K) : K :=
  (start.x + (finish.x - start.x) * t - q.x) ^ 2 + (start.y + (finish.y - start.y) * t - q.y) ^ 2 +
    (start.z + (finish.z - start.z) * t - q.z) ^ 2

structure InBox (minimum maximum q : Vec3 K) : Prop where
  x : minimum.x ≤ q.x ∧ q.x ≤ maximum.x
  y : minimum.y ≤ q.y ∧ q.y ≤ maximum.y
  z : minimum.z ≤ q.z ∧ q.z ≤ maximum.z

/-- The axes of the segment and the box. -/
def axesOf (start finish minimum maximum : Vec3 K) : List (Axis K) :=
  segmentAxes start ⟨finish.x - start.x, finish.y - start.y, finish.z - start.z⟩ minimum maximum

theorem distanceAt_attained (h : Ordered (axesOf start finish minimum maximum)) (t : K) :
    ∃ q, InBox minimum maximum q ∧
      distanceAt (axesOf start finish minimum maximum) t = separation start finish q t := by
  simp only [Ordered, axesOf, segmentAxes, List.forall_mem_cons] at h
  obtain ⟨x, hx, hx', hX⟩ := gap_attained h.1 (start.x + (finish.x - start.x) * t)
  obtain ⟨y, hy, hy', hY⟩ := gap_attained h.2.1 (start.y + (finish.y - start.y) * t)
  obtain ⟨z, hz, hz', hZ⟩ := gap_attained h.2.2.1 (start.z + (finish.z - start.z) * t)
  exact ⟨⟨x, y, z⟩, ⟨⟨hx, hx'⟩, ⟨hy, hy'⟩, hz, hz'⟩, by
    simp [distanceAt, Axis.squared, Axis.value, axesOf, segmentAxes, hX, hY, hZ, separation,
      add_assoc]⟩

variable [IsStrictOrderedRing K]

theorem gap_le {low high value q : K} (hLow : low ≤ q) (hHigh : q ≤ high) :
    gap low high value ^ 2 ≤ (value - q) ^ 2 := by
  unfold gap
  split_ifs with hBelow hAbove
  · rw [← neg_sub value low, neg_sq]
    nlinarith
  · nlinarith
  · simpa using sq_nonneg (value - q)

theorem distanceAt_le (h : InBox minimum maximum q) (t : K) :
    distanceAt (axesOf start finish minimum maximum) t ≤ separation start finish q t := by
  simp only [distanceAt, Axis.squared, axesOf, segmentAxes, List.map_cons, List.map_nil,
    List.sum_cons, List.sum_nil, add_zero, ← add_assoc]
  exact add_le_add_three (gap_le h.x.1 h.x.2) (gap_le h.y.1 h.y.2) (gap_le h.z.1 h.z.2)

theorem Parabola.lowest {a b : K} (h : Parabola l u f a b) (hl : l ≤ t) (hu : t ≤ u) :
    f (if 0 < a then l ⊔ -b / a ⊓ u else l) ≤ f t := by
  obtain ⟨c, hc⟩ := h.curve
  split_ifs with ha
  · rw [hc _ le_sup_left (sup_le (hl.trans hu) inf_le_right), hc t hl hu]
    linarith [OverlapQuery.clamp_lowest (b := -b) ha hl hu]
  · rw [hc l le_rfl (hl.trans hu), hc t hl hu, h.flat (not_lt.mp ha),
      le_antisymm (not_lt.mp ha) h.nonneg]
    simp

/-- An axis stays on the side of a boundary that it is on in the middle. -/
theorem Clear.below (h : Clear axis l u boundary) (hl : l ≤ t) (hu : t ≤ u)
    (hMiddle : axis.value (1 / 2 * (l + u)) ≤ boundary) : axis.value t ≤ boundary := by
  by_contra! hOver
  unfold Axis.value at hMiddle hOver
  rcases lt_trichotomy axis.direction 0 with hd | hd | hd
  · refine h hd.ne ⟨?_, ?_⟩
    · rw [lt_div_iff_of_neg hd]
      nlinarith
    · rw [div_lt_iff_of_neg hd]
      nlinarith
  · rw [hd] at hOver hMiddle
    linarith
  · refine h hd.ne' ⟨?_, ?_⟩
    · rw [lt_div_iff₀ hd]
      nlinarith
    · rw [div_lt_iff₀ hd]
      nlinarith

theorem Clear.above (h : Clear axis l u boundary) (hl : l ≤ t) (hu : t ≤ u)
    (hMiddle : boundary ≤ axis.value (1 / 2 * (l + u))) : boundary ≤ axis.value t := by
  have hNeg :
      Clear { axis with start := -axis.start, direction := -axis.direction } l u (-boundary) := by
    intro hd
    rw [← neg_sub', div_neg, neg_div, neg_neg]
    exact h (neg_ne_zero.mp hd)
  unfold Axis.value at hMiddle ⊢
  have hBelow := hNeg.below hl hu (by simp only [Axis.value]; linarith)
  simp only [Axis.value] at hBelow
  linarith

variable [FloorRing K] [SquareRoot K]

theorem addAxis_spec (hBox : axis.minimum ≤ axis.maximum)
    (hClear : Clear axis l u axis.minimum ∧ Clear axis l u axis.maximum)
    (h : Parabola l u f quadratic linear) :
    ∃ quadratic' linear',
      addAxis (finite (1 / 2 * (l + u))) (finite quadratic, finite linear) axis.lift =
        (finite quadratic', finite linear') ∧
      Parabola l u (fun t => f t + axis.squared t) quadratic' linear' := by
  obtain ⟨c, hc⟩ := h.curve
  unfold addAxis Axis.lift
  simp only [mul_finite, add_finite, sub_finite, lt_finite]
  have hBeside (boundary : K) (hSide : ∀ t, l ≤ t → t ≤ u →
      axis.squared t = (axis.value t - boundary) ^ 2) :
      Parabola l u (fun t => f t + axis.squared t) (quadratic + axis.direction * axis.direction)
        (linear + axis.direction * (axis.start - boundary)) := by
    have hSquare := mul_self_nonneg axis.direction
    have hNonneg := h.nonneg
    refine ⟨by linarith, fun hFlat => ?_, c + (axis.start - boundary) ^ 2, fun t hl hu => ?_⟩
    · have hZero : axis.direction * axis.direction = 0 := by linarith
      rw [h.flat (by linarith), mul_self_eq_zero.mp hZero, zero_mul, add_zero]
    · rw [hc t hl hu, hSide t hl hu, Axis.value]
      ring
  split_ifs with hBelow hAbove
  · refine ⟨_, _, rfl, hBeside axis.minimum fun t hl hu => ?_⟩
    have hSide := hClear.1.below hl hu hBelow.le
    rcases hSide.lt_or_eq with hLess | hEq
    · rw [Axis.squared, gap, if_pos hLess, ← neg_sub, neg_sq]
    · simp [Axis.squared, gap, hEq, hBox.not_gt]
  · refine ⟨_, _, rfl, hBeside axis.maximum fun t hl hu => ?_⟩
    have hSide := hClear.2.above hl hu hAbove.le
    rw [Axis.squared, gap, if_neg (hBox.trans hSide).not_gt]
    rcases hSide.lt_or_eq with hLess | hEq
    · rw [if_pos hLess]
    · simp [← hEq]
  · refine ⟨_, _, rfl, h.nonneg, h.flat, c, fun t hl hu => ?_⟩
    have hLow := hClear.1.above hl hu (not_lt.mp hBelow)
    have hHigh := hClear.2.below hl hu (not_lt.mp hAbove)
    simp [Axis.squared, gap, hLow.not_gt, hHigh.not_gt, hc t hl hu]

theorem sums_spec (hBox : Ordered axes) (hClear : AllClear axes l u)
    (h : Parabola l u f quadratic linear) :
    ∃ quadratic' linear',
      (axes.map Axis.lift).foldl (addAxis (finite (1 / 2 * (l + u))))
        (finite quadratic, finite linear) = (finite quadratic', finite linear') ∧
      Parabola l u (fun t => f t + distanceAt axes t) quadratic' linear' := by
  induction axes generalizing f quadratic linear with
  | nil => exact ⟨_, _, rfl, by simpa [distanceAt] using h⟩
  | cons axis axes ih =>
    obtain ⟨hBox, hBoxes⟩ := List.forall_mem_cons.mp hBox
    obtain ⟨hClear, hClears⟩ := List.forall_mem_cons.mp hClear
    obtain ⟨a, b, hAdd, hParabola⟩ := addAxis_spec hBox hClear h
    rw [List.map_cons, List.foldl_cons, hAdd]
    simpa [distanceAt, add_assoc] using ih hBoxes hClears hParabola

theorem minimizer_spec (hBox : Ordered axes) (hClear : AllClear axes l u) (hInterval : l ≤ u) :
    ∃ t, minimizer (axes.map Axis.lift) (finite l) (finite u) = finite t ∧ l ≤ t ∧ t ≤ u ∧
      ∀ t', l ≤ t' → t' ≤ u → distanceAt axes t ≤ distanceAt axes t' := by
  obtain ⟨a, b, hSums, hParabola⟩ := sums_spec hBox hClear
    (⟨le_rfl, fun _ => rfl, 0, fun t _ _ => by ring⟩ : Parabola l u (fun _ => (0 : K)) 0 0)
  refine ⟨if 0 < a then l ⊔ -b / a ⊓ u else l, ?_, ?_, ?_, fun t' hl hu => by
    simpa using hParabola.lowest hl hu⟩
  · simp only [minimizer, lit_finite, add_finite, mul_finite, Rat.cast_zero, Rat.cast_div,
      Rat.cast_one, Rat.cast_ofNat, hSums, lt_finite]
    split_ifs with ha
    · rw [neg_finite, div_finite _ ha.ne', clamp_eq _ hInterval]
    · rfl
  · split_ifs
    · exact le_sup_left
    · exact le_rfl
  · split_ifs
    · exact sup_le hInterval inf_le_right
    · exact hInterval

theorem scan_spec {evaluate : ExactReal K → ExactReal K}
    (hEvaluate : ∀ t, evaluate (finite t) = finite (distanceAt axes t)) (hBox : Ordered axes)
    {lower best : K} {rest : List K} (hSorted : (lower :: rest).Pairwise (· ≤ ·))
    (hNonneg : 0 ≤ lower) (hEnd : 1 ∈ lower :: rest)
    (hClear : ∀ l u, lower ≤ l → u ≤ 1 → (∀ x ∈ lower :: rest, x ≤ l ∨ u ≤ x) → AllClear axes l u)
    (hBest : best ≤ distanceAt axes 1) :
    ∃ v, scan evaluate (axes.map Axis.lift) ((lower :: rest).map finite) (finite best) = finite v ∧
      v ≤ best ∧ (∀ t, lower ≤ t → t ≤ 1 → v ≤ distanceAt axes t) ∧
      (v = best ∨ ∃ t, 0 ≤ t ∧ t ≤ 1 ∧ v = distanceAt axes t) := by
  induction rest generalizing lower best with
  | nil =>
    obtain rfl := List.mem_singleton.mp hEnd
    exact ⟨best, rfl, le_rfl, fun t hl hu => le_antisymm hu hl ▸ hBest, .inl rfl⟩
  | cons upper rest ih =>
    by_cases hOne : 1 ≤ lower
    · exact ⟨best, by simp [scan, lit_finite, hOne], le_rfl,
        fun t hl hu => le_antisymm hu (hOne.trans hl) ▸ hBest, .inl rfl⟩
    obtain ⟨hLower, hRest⟩ := List.pairwise_cons.mp hSorted
    have hEnd := (List.mem_cons.mp hEnd).resolve_left fun h => hOne h.le
    have hLeast (x : K) (hx : x ∈ upper :: rest) : upper ≤ x := by
      rcases List.mem_cons.mp hx with rfl | hx
      · exact le_rfl
      · exact (List.pairwise_cons.mp hRest).1 x hx
    have hInterval : lower ≤ upper := hLower upper List.mem_cons_self
    have hUpper := hLeast 1 hEnd
    obtain ⟨m, hMinimizer, hLow, hHigh, hLowest⟩ := minimizer_spec hBox (hClear lower upper le_rfl
      hUpper (List.forall_mem_cons.mpr ⟨.inl le_rfl, fun x hx => .inr (hLeast x hx)⟩)) hInterval
    have hBest : best ⊓ distanceAt axes m ≤ distanceAt axes 1 := inf_le_left.trans hBest
    obtain ⟨v, hScan, hLess, hBelow, hAttained⟩ := ih hRest (hNonneg.trans hInterval) hEnd
      (fun l u hl hu hx => hClear l u (hInterval.trans hl) hu
        (List.forall_mem_cons.mpr ⟨.inl (hInterval.trans hl), hx⟩)) hBest
    refine ⟨v, ?_, hLess.trans inf_le_left, fun t hl hu => ?_, ?_⟩
    · rw [List.map_cons, List.map_cons, scan, lit_finite, Rat.cast_one,
        if_neg (by simpa using hOne), hMinimizer, hEvaluate, min_finite]
      exact hScan
    · rcases le_total t upper with h | h
      · exact (hLess.trans inf_le_right).trans (hLowest t hl h)
      · exact hBelow t h hu
    · rcases hAttained with rfl | hAttained
      · rcases min_choice best (distanceAt axes m) with h | h
        · exact .inl h
        · exact .inr ⟨m, hNonneg.trans hLow, hHigh.trans hUpper, h⟩
      · exact .inr hAttained

theorem breakpoint_spec (axis : Axis K) (boundary : K) :
    ∃ c, breakpoint axis.lift (finite boundary) = finite c ∧ 0 ≤ c ∧
      ∀ l u, 0 ≤ l → u ≤ 1 → c ≤ l ∨ u ≤ c → Clear axis l u boundary := by
  unfold breakpoint Axis.lift
  by_cases hd : axis.direction = 0
  · exact ⟨2, by simp [lit_finite, hd], zero_le_two, fun _ _ _ _ _ h => absurd hd h⟩
  simp only [lit_finite, equal_finite, Rat.cast_zero, hd, decide_false, Bool.false_eq_true,
    if_false, sub_finite, div_finite _ hd, isFinite_finite, lt_finite, Rat.cast_one, Bool.true_and]
  split_ifs with hInside
  · simp only [Bool.and_eq_true, decide_eq_true_eq] at hInside
    refine ⟨_, rfl, hInside.1.le, fun l u _ _ h _ hBetween => ?_⟩
    rcases h with h | h
    · exact hBetween.1.not_ge h
    · exact hBetween.2.not_ge h
  · simp only [Bool.and_eq_true, decide_eq_true_eq] at hInside
    exact ⟨2, by simp, zero_le_two, fun l u hl hu _ _ hBetween =>
      hInside ⟨hl.trans_lt hBetween.1, hBetween.2.trans_le hu⟩⟩

theorem boundaries_spec (axes : List (Axis K)) :
    ∃ cuts : List K, (axes.map Axis.lift).flatMap (fun axis =>
        [breakpoint axis axis.minimum, breakpoint axis axis.maximum]) = cuts.map finite ∧
      (∀ x ∈ cuts, 0 ≤ x) ∧
      ∀ l u, 0 ≤ l → u ≤ 1 → (∀ x ∈ cuts, x ≤ l ∨ u ≤ x) → AllClear axes l u := by
  induction axes with
  | nil => exact ⟨[], rfl, by simp, by simp [AllClear]⟩
  | cons axis axes ih =>
    obtain ⟨cuts, hCuts, hNonneg, hClear⟩ := ih
    obtain ⟨a, hBreakA, hA, hClearA⟩ := breakpoint_spec axis axis.minimum
    obtain ⟨b, hBreakB, hB, hClearB⟩ := breakpoint_spec axis axis.maximum
    refine ⟨a :: b :: cuts, ?_, by simpa [hA, hB] using hNonneg, fun l u hl hu h => ?_⟩
    · rw [List.map_cons, List.flatMap_cons, hCuts, List.map_cons, List.map_cons, ← hBreakA,
        ← hBreakB]
      rfl
    · obtain ⟨hAtA, h⟩ := List.forall_mem_cons.mp h
      obtain ⟨hAtB, h⟩ := List.forall_mem_cons.mp h
      exact List.forall_mem_cons.mpr
        ⟨⟨hClearA l u hl hu hAtA, hClearB l u hl hu hAtB⟩, hClear l u hl hu h⟩

/-- The sorted breakpoints, and what lies between two neighbours. -/
theorem breakpoints_spec (axes : List (Axis K)) :
    ∃ rest, breakpoints (axes.map Axis.lift) = ((0 : K) :: rest).map finite ∧
      ((0 : K) :: rest).Pairwise (· ≤ ·) ∧ 1 ∈ (0 : K) :: rest ∧
      ∀ l u, 0 ≤ l → u ≤ 1 → (∀ x ∈ (0 : K) :: rest, x ≤ l ∨ u ≤ x) → AllClear axes l u := by
  obtain ⟨cuts, hCuts, hNonneg, hClear⟩ := boundaries_spec axes
  have hSort : breakpoints (axes.map Axis.lift) =
      ((0 :: 1 :: cuts).mergeSort fun x y => x ≤ y).map finite := by
    rw [List.map_mergeSort (s := fun x y => x ≤ y) fun x _ y _ => by simp]
    simp [breakpoints, hCuts, lit_finite]
  have hMem (x : K) : x ∈ (0 :: 1 :: cuts).mergeSort (fun x y => x ≤ y) ↔ x ∈ 0 :: 1 :: cuts :=
    List.mem_mergeSort
  have hSorted : ((0 :: 1 :: cuts).mergeSort fun x y => x ≤ y).Pairwise (· ≤ ·) := by
    simpa using @List.pairwise_mergeSort K (fun x y => decide (x ≤ y))
      (fun x y z => by simpa using le_trans) (fun x y => by simpa using le_total x y)
      (0 :: 1 :: cuts)
  rw [hSort]
  generalize (0 :: 1 :: cuts).mergeSort (fun x y => x ≤ y) = sorted at hMem hSorted
  cases sorted with
  | nil => exact absurd ((hMem 0).mpr List.mem_cons_self) List.not_mem_nil
  | cons lower rest =>
    obtain rfl : lower = 0 := by
      refine le_antisymm ?_ ?_
      · rcases List.mem_cons.mp ((hMem 0).mpr List.mem_cons_self) with h | h
        · exact h.ge
        · exact (List.pairwise_cons.mp hSorted).1 0 h
      · have hLower := (hMem lower).mp List.mem_cons_self
        simp only [List.mem_cons] at hLower
        rcases hLower with rfl | rfl | hLower
        · exact le_rfl
        · exact zero_le_one
        · exact hNonneg lower hLower
    exact ⟨rest, rfl, hSorted, (hMem 1).mpr (by simp), fun l u hl hu h => hClear l u hl hu
      fun x hx => h x ((hMem x).mpr (by simp [hx]))⟩

theorem segment_distance_exact {start finish minimum maximum : Vec3 K}
    (hX : minimum.x ≤ maximum.x) (hY : minimum.y ≤ maximum.y) (hZ : minimum.z ≤ maximum.z) :
    ∃ v, segmentAabbDistanceSquared start.lift finish.lift minimum.lift maximum.lift = finite v ∧
      (∃ t q, 0 ≤ t ∧ t ≤ 1 ∧ InBox minimum maximum q ∧ v = separation start finish q t) ∧
      (∀ t q, 0 ≤ t → t ≤ 1 → InBox minimum maximum q → v ≤ separation start finish q t) ∧
      (v = 0 ↔ ∃ t, 0 ≤ t ∧ t ≤ 1 ∧ InBox minimum maximum ⟨start.x + (finish.x - start.x) * t,
        start.y + (finish.y - start.y) * t, start.z + (finish.z - start.z) * t⟩) := by
  let all := axesOf start finish minimum maximum
  have hBox : Ordered all := by simp [all, Ordered, axesOf, segmentAxes, hX, hY, hZ]
  obtain ⟨rest, hPoints, hSorted, hOne, hClear⟩ := breakpoints_spec all
  let evaluate (t : ExactReal K) := pointAabbDistanceSquared
    (start.lift + (finish.lift - start.lift : Vec3 (ExactReal K)).scale t) minimum.lift maximum.lift
  have hEvaluate (t : K) : evaluate (finite t) = finite (distanceAt all t) := by
    have hAxis (value low high : K) :
        axisDistance (finite value) (finite low) (finite high) = finite (gap low high value) := by
      simp only [axisDistance, gap, lt_finite, sub_finite, lit_finite, Rat.cast_zero]
      split_ifs <;> rfl
    simp only [evaluate]
    rw [Vec3.lift_sub, Vec3.scale_lift, Vec3.lift_add]
    simp [pointAabbDistanceSquared, Vec3.lift, hAxis, lit_finite, distanceAt, Axis.squared,
      Axis.value, all, axesOf, segmentAxes, mul_comm t, pow_two, add_assoc]
  obtain ⟨v, hScan, -, hBelow, hAttained⟩ := scan_spec hEvaluate hBox hSorted
    le_rfl hOne hClear (inf_le_right : distanceAt all 0 ⊓ distanceAt all 1 ≤ distanceAt all 1)
  have hValue : segmentAabbDistanceSquared start.lift finish.lift minimum.lift maximum.lift =
      finite v := by
    rw [← hScan, ← hPoints, ← min_finite, ← hEvaluate, ← hEvaluate, segmentAabbDistanceSquared,
      if_neg]
    · simp [lit_finite, evaluate]
      rfl
    · simp [Vec3.lift, Vec3.allFinite, hX, hY, hZ]
  obtain ⟨t, h0, h1, hv⟩ : ∃ t, 0 ≤ t ∧ t ≤ 1 ∧ v = distanceAt all t := by
    rcases hAttained with h | h
    · rcases min_choice (distanceAt all 0) (distanceAt all 1) with h' | h'
      · exact ⟨0, le_rfl, zero_le_one, h.trans h'⟩
      · exact ⟨1, zero_le_one, le_rfl, h.trans h'⟩
    · exact h
  have hLeast (t : K) (q : Vec3 K) (h0 : 0 ≤ t) (h1 : t ≤ 1) (hq : InBox minimum maximum q) :
      v ≤ separation start finish q t := (hBelow t h0 h1).trans (distanceAt_le hq t)
  obtain ⟨q, hq, hSeparation⟩ := distanceAt_attained hBox t
  rw [show distanceAt (axesOf start finish minimum maximum) t = v from hv.symm] at hSeparation
  refine ⟨v, hValue, ⟨t, q, h0, h1, hq, hSeparation⟩, hLeast, fun hZero => ⟨t, h0, h1, ?_⟩, ?_⟩
  · rw [hSeparation, separation, add_eq_zero_iff_of_nonneg (by positivity) (sq_nonneg _),
      add_eq_zero_iff_of_nonneg (sq_nonneg _) (sq_nonneg _)] at hZero
    simp only [pow_eq_zero_iff two_ne_zero, sub_eq_zero] at hZero
    rw [hZero.1.1, hZero.1.2, hZero.2]
    exact hq
  · rintro ⟨t', h0', h1', hInside⟩
    refine le_antisymm ((hLeast t' _ h0' h1' hInside).trans (by simp [separation])) ?_
    rw [hSeparation, separation]
    positivity

/-- A diagonal of the unit square and a box above it. -/
theorem segment_distance_diagonal :
    ∃ v, segmentAabbDistanceSquared (⟨0, 0, 0⟩ : Vec3 ℚ).lift (⟨1, 1, 0⟩ : Vec3 ℚ).lift
      (⟨0, 0, 2⟩ : Vec3 ℚ).lift (⟨1, 1, 2⟩ : Vec3 ℚ).lift = finite v ∧
      v ≤ separation ⟨0, 0, 0⟩ ⟨1, 1, 0⟩ ⟨1, 1, 2⟩ 1 := by
  obtain ⟨v, hv, -, hLeast, -⟩ := @segment_distance_exact ℚ _ _ _ _ _ ⟨0, 0, 0⟩
    ⟨1, 1, 0⟩ ⟨0, 0, 2⟩ ⟨1, 1, 2⟩ (by decide) (by decide) (by decide)
  exact ⟨v, hv, hLeast 1 _ zero_le_one le_rfl ⟨by decide, by decide, by decide⟩⟩

end Exact

end SegmentAabb

end UavNavigation
