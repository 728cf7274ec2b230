import UavNavigation.CorridorGenerator
import UavNavigation.ExactReals

/-!
# The projection of the guide into an overlap

`projectOrderedGuideIntoOverlap` of `route_boundary_timing.hpp`: the nearest point to a target
among the points of a timed guide that lie in a convex overlap and in a window of coordinates.
-/

namespace UavNavigation

set_option autoImplicit false

open FloatOps ExactReal

/-- A chord of the guide with the times at its ends. -/
structure GuideEdge (D : Type) where
  index : Nat
  start : Vec3 D
  startS : D
  finish : Vec3 D
  finishS : D

def guideEdges {D : Type} (guide : List (Vec3 D)) (elapsedS : List D) : List (GuideEdge D) :=
  let samples := guide.zip elapsedS
  (samples.zip samples.tail).mapIdx fun index (start, finish) =>
    ⟨index, start.1, start.2, finish.1, finish.2⟩

structure GuideProjection (D : Type) where
  point : Vec3 D
  timeS : D
  coordinate : D
  distanceSquared : D

structure OverlapQuery (D : Type) where
  planes : List (Plane D)
  target : Vec3 D
  minimumCoordinate : D
  maximumCoordinate : D

namespace OverlapQuery

section Code
variable {D : Type} [FloatOps D]

/-- The loop over the planes. -/
def clip (start direction : Vec3 D) : List (Plane D) → D → D → Option (D × D)
  | [], lower, upper => some (lower, upper)
  | plane :: planes, lower, upper =>
    if lower ≤ upper then
      let value := plane.normal.dot start + plane.offset
      let slope := plane.normal.dot direction
      if !isFinite value || !isFinite slope then none
      else if equal slope (lit 0) then
        clip start direction planes lower (if lit 0 < value then lit (-1) else upper)
      else if lit 0 < slope then
        clip start direction planes lower (FloatOps.min upper (-value / slope))
      else clip start direction planes (FloatOps.max lower (-value / slope)) upper
    else some (lower, upper)

def candidate (q : OverlapQuery D) (edge : GuideEdge D) (fraction : D) : GuideProjection D :=
  let point := edge.start + (edge.finish - edge.start).scale fraction
  ⟨point, edge.startS + fraction * (edge.finishS - edge.startS), ofInt edge.index + fraction,
    (point - q.target).squaredNorm⟩

/-- One round of the loop over the edges: it gives up, or finds nothing, or a candidate. -/
def projectEdge (q : OverlapQuery D) (edge : GuideEdge D) : Option (Option (GuideProjection D)) :=
  let direction := edge.finish - edge.start
  let lengthSquared := direction.squaredNorm
  if !direction.allFinite || !isFinite lengthSquared then none
  else
    match clip edge.start direction q.planes
      (FloatOps.max (lit 0) (q.minimumCoordinate - ofInt edge.index))
      (FloatOps.min (lit 1) (q.maximumCoordinate - ofInt edge.index)) with
    | none => none
    | some (lower, upper) =>
      if upper < lower then some none
      else
        let projection := (q.target - edge.start).dot direction / lengthSquared
        if lit 0 < lengthSquared && !isFinite projection then none
        else
          let found := q.candidate edge
            (if lit 0 < lengthSquared then clamp projection lower upper else lower)
          if !found.point.allFinite || !isFinite found.distanceSquared || !isFinite found.timeS then
            none
          else some (some found)

/-- Every finite distance is below the infinity that the search begins with. -/
def closer (best : Option (GuideProjection D)) (found : GuideProjection D) : GuideProjection D :=
  match best with
  | none => found
  | some best => if found.distanceSquared < best.distanceSquared then found else best

def search (q : OverlapQuery D) :
    List (GuideEdge D) → Option (GuideProjection D) → Option (Option (GuideProjection D))
  | [], best => some best
  | edge :: edges, best =>
    if q.maximumCoordinate < ofInt edge.index then some best
    else
      match q.projectEdge edge with
      | none => none
      | some none => q.search edges best
      | some (some found) => q.search edges (some (closer best found))

def projectOrderedGuideIntoOverlap (q : OverlapQuery D) (guide : List (Vec3 D))
    (elapsedS : List D) : Option (Vec3 D × D × D) :=
  if guide.length < 2 || guide.length ≠ elapsedS.length || q.planes.isEmpty ||
    !q.planes.all (fun plane => plane.normal.allFinite && isFinite plane.offset) ||
    !q.target.allFinite || !isFinite q.minimumCoordinate || !isFinite q.maximumCoordinate ||
    q.minimumCoordinate < lit 0 || q.maximumCoordinate < q.minimumCoordinate ||
    ofInt (guide.length - 1) < q.maximumCoordinate then none
  else if !guide.all Vec3.allFinite || !elapsedS.all isFinite ||
    ¬ elapsedS.IsChain (· < ·) then none
  else
    let firstEdge := Nat.min (toInt (FloatOps.floor q.minimumCoordinate)).toNat (guide.length - 2)
    (q.search ((guideEdges guide elapsedS).drop firstEdge) none).join.map fun best =>
      (best.point, best.timeS, best.coordinate)

end Code

theorem guideEdges_some {D : Type} {guide : List (Vec3 D)} {elapsedS : List D}
    {edge : GuideEdge D} {i : Nat} : (guideEdges guide elapsedS)[i]? = some edge ↔
      edge.index = i ∧ guide[i]? = some edge.start ∧ guide[i + 1]? = some edge.finish ∧
        elapsedS[i]? = some edge.startS ∧ elapsedS[i + 1]? = some edge.finishS := by
  simp only [guideEdges, List.getElem?_mapIdx, Option.map_eq_some_iff, List.getElem?_zip_eq_some,
    List.getElem?_tail]
  constructor
  · rintro ⟨⟨start, finish⟩, ⟨⟨hStart, hStartS⟩, hFinish, hFinishS⟩, rfl⟩
    exact ⟨rfl, hStart, hFinish, hStartS, hFinishS⟩
  · rintro ⟨rfl, hStart, hFinish, hStartS, hFinishS⟩
    exact ⟨((_, _), _, _), ⟨⟨hStart, hStartS⟩, hFinish, hFinishS⟩, rfl⟩

theorem guideEdges_ordered {D : Type} (guide : List (Vec3 D)) (elapsedS : List D) :
    (guideEdges guide elapsedS).Pairwise fun a b => a.index ≤ b.index := by
  rw [List.pairwise_iff_getElem]
  intro i j hi hj hij
  obtain ⟨hFirst, -⟩ := guideEdges_some.mp (List.getElem?_eq_getElem hi)
  obtain ⟨hSecond, -⟩ := guideEdges_some.mp (List.getElem?_eq_getElem hj)
  rw [hFirst, hSecond]
  exact hij.le

/-! ## The nearest point in exact arithmetic -/

section Exact
variable {K : Type} [Field K]

def minus (a b : Vec3 K) : Vec3 K := ⟨a.x - b.x, a.y - b.y, a.z - b.z⟩

def inner (a b : Vec3 K) : K := a.x * b.x + a.y * b.y + a.z * b.z

def gap (a b : Vec3 K) : K := inner (minus a b) (minus a b)

def value (plane : Plane K) (p : Vec3 K) : K := inner plane.normal p + plane.offset

def direction (edge : GuideEdge K) : Vec3 K := minus edge.finish edge.start

def pointAt (edge : GuideEdge K) (t : K) : Vec3 K :=
  ⟨edge.start.x + t * (direction edge).x, edge.start.y + t * (direction edge).y,
    edge.start.z + t * (direction edge).z⟩

/-- What the guide offers at a fraction of an edge. -/
def projectionAt (q : OverlapQuery K) (edge : GuideEdge K) (t : K) : GuideProjection K :=
  ⟨pointAt edge t, edge.startS + t * (edge.finishS - edge.startS), edge.index + t,
    gap (pointAt edge t) q.target⟩

theorem gap_sub (target : Vec3 K) (edge : GuideEdge K) (s t : K) :
    gap (pointAt edge t) target - gap (pointAt edge s) target =
      (t - s) * (gap edge.finish edge.start * (t + s) -
        2 * inner (minus target edge.start) (direction edge)) := by
  simp only [gap, inner, direction, pointAt, minus]
  ring

theorem value_pointAt (plane : Plane K) (edge : GuideEdge K) (t : K) :
    value plane (pointAt edge t) =
      value plane edge.start + t * inner plane.normal (direction edge) := by
  simp only [value, inner, pointAt]
  ring

def liftPlane (plane : Plane K) : Plane (ExactReal K) :=
  ⟨plane.normal.lift, .finite plane.offset⟩

def liftEdge (edge : GuideEdge K) : GuideEdge (ExactReal K) :=
  ⟨edge.index, edge.start.lift, .finite edge.startS, edge.finish.lift, .finite edge.finishS⟩

def liftFound (found : GuideProjection K) : GuideProjection (ExactReal K) :=
  ⟨found.point.lift, .finite found.timeS, .finite found.coordinate, .finite found.distanceSquared⟩

def lift (q : OverlapQuery K) : OverlapQuery (ExactReal K) :=
  ⟨q.planes.map liftPlane, q.target.lift, .finite q.minimumCoordinate, .finite q.maximumCoordinate⟩

variable [LinearOrder K]

structure Allowed (q : OverlapQuery K) (edge : GuideEdge K) (t : K) : Prop where
  nonneg : 0 ≤ t
  le_one : t ≤ 1
  minimum : q.minimumCoordinate ≤ edge.index + t
  maximum : edge.index + t ≤ q.maximumCoordinate
  planes : ∀ plane ∈ q.planes, value plane (pointAt edge t) ≤ 0

def OnEdge (q : OverlapQuery K) (edge : GuideEdge K) (found : GuideProjection K) : Prop :=
  ∃ t, Allowed q edge t ∧ found = q.projectionAt edge t

/-- A point of the guide inside all half spaces, with a coordinate in the window. -/
def Offers (q : OverlapQuery K) (guide : List (Vec3 K)) (elapsedS : List K)
    (found : GuideProjection K) : Prop :=
  ∃ edge ∈ guideEdges guide elapsedS, OnEdge q edge found

def Best (offered : GuideProjection K → Prop) : Option (GuideProjection K) → Prop
  | none => ∀ c, ¬ offered c
  | some best => offered best ∧ ∀ c, offered c → best.distanceSquared ≤ c.distanceSquared

theorem ofInt_index [FloorRing K] [SquareRoot K] (edge : GuideEdge K) :
    (ofInt (liftEdge edge).index : ExactReal K) = .finite edge.index :=
  congrArg finite (Int.cast_natCast edge.index)

theorem candidate_lift [FloorRing K] [SquareRoot K] (q : OverlapQuery K) (edge : GuideEdge K)
    (t : K) :
    q.lift.candidate (liftEdge edge) (.finite t) = liftFound (q.projectionAt edge t) := by
  simp only [candidate, ofInt_index]
  rfl

theorem guideEdges_lift [FloorRing K] [SquareRoot K] (guide : List (Vec3 K)) (elapsedS : List K) :
    guideEdges (guide.map Vec3.lift) (elapsedS.map .finite) =
      (guideEdges guide elapsedS).map liftEdge := by
  apply List.ext_getElem?
  intro i
  simp only [guideEdges, List.getElem?_mapIdx, List.getElem?_map, List.zip_map, ← List.map_tail,
    Option.map_map]
  rfl

omit [Field K] in
theorem Best.congr {P Q : GuideProjection K → Prop} (h : ∀ c, P c ↔ Q c)
    {r : Option (GuideProjection K)} (hr : Best P r) : Best Q r := by
  obtain rfl : P = Q := funext fun c => propext (h c)
  exact hr

theorem closer_best [FloorRing K] [SquareRoot K] {P Q : GuideProjection K → Prop}
    {best : Option (GuideProjection K)} {found : GuideProjection K} (hBest : Best P best) (hFound : Best Q (some found)) :
    ∃ r, closer (best.map liftFound) (liftFound found) = liftFound r ∧
      Best (fun c => P c ∨ Q c) (some r) := by
  obtain ⟨hOffered, hNearest⟩ := hFound
  cases best with
  | none => exact ⟨found, rfl, .inr hOffered, fun c hc => hNearest c (hc.resolve_left (hBest c))⟩
  | some best =>
    obtain ⟨hKnown, hLowest⟩ := hBest
    by_cases hCloser : found.distanceSquared < best.distanceSquared
    · refine ⟨found, if_pos hCloser, .inr hOffered, ?_⟩
      rintro c (hc | hc)
      · exact hCloser.le.trans (hLowest c hc)
      · exact hNearest c hc
    · refine ⟨best, if_neg hCloser, .inl hKnown, ?_⟩
      rintro c (hc | hc)
      · exact hLowest c hc
      · exact (not_lt.mp hCloser).trans (hNearest c hc)

variable [IsStrictOrderedRing K]

/-- A parabola is lowest where its apex is clamped to. -/
theorem clamp_lowest {a b low high t : K} (ha : 0 < a) (hLow : low ≤ t) (hHigh : t ≤ high) :
    0 ≤ (t - (low ⊔ b / a ⊓ high)) * (a * (t + (low ⊔ b / a ⊓ high)) - 2 * b) := by
  have hApex : a * (b / a) = b := mul_div_cancel₀ b ha.ne'
  rcases le_total (b / a) low with h | h
  · rw [sup_eq_left.mpr (inf_le_left.trans h)]
    refine mul_nonneg (by linarith) ?_
    have hAbove : a * (b / a) ≤ a * low := by gcongr
    have hMore : a * low ≤ a * t := by gcongr
    linarith
  rcases le_total (b / a) high with h' | h'
  · rw [inf_eq_left.mpr h', sup_eq_right.mpr h]
    have hSquare : (t - b / a) * (a * (t + b / a) - 2 * b) = a * (t - b / a) ^ 2 := by
      linear_combination (2 * t - 2 * (b / a)) * hApex
    rw [hSquare]
    positivity
  · rw [inf_eq_right.mpr h', sup_eq_right.mpr (hLow.trans hHigh)]
    refine mul_nonneg_of_nonpos_of_nonpos (by linarith) ?_
    have hBelow : a * high ≤ a * (b / a) := by gcongr
    have hLess : a * t ≤ a * high := by gcongr
    linarith

theorem pointAt_of_gap {edge : GuideEdge K} (h : gap edge.finish edge.start ≤ 0) (t : K) :
    pointAt edge t = edge.start := by
  have hx := mul_self_nonneg (direction edge).x
  have hy := mul_self_nonneg (direction edge).y
  have hz := mul_self_nonneg (direction edge).z
  have hSum : (direction edge).x * (direction edge).x + (direction edge).y * (direction edge).y +
    (direction edge).z * (direction edge).z ≤ 0 := h
  simp only [pointAt, mul_self_eq_zero.mp (le_antisymm (by linarith) hx),
    mul_self_eq_zero.mp (le_antisymm (by linarith) hy),
    mul_self_eq_zero.mp (le_antisymm (by linarith) hz), mul_zero, add_zero]

theorem allowed_iff (q : OverlapQuery K) (edge : GuideEdge K) (t : K) : Allowed q edge t ↔
    0 ⊔ (q.minimumCoordinate - edge.index) ≤ t ∧ t ≤ 1 ⊓ (q.maximumCoordinate - edge.index) ∧
      ∀ plane ∈ q.planes, value plane edge.start + t * inner plane.normal (direction edge) ≤ 0 := by
  simp only [← value_pointAt, sup_le_iff, le_inf_iff, sub_le_iff_le_add', le_sub_iff_add_le']
  constructor
  · intro h
    exact ⟨⟨h.nonneg, h.minimum⟩, ⟨h.le_one, h.maximum⟩, h.planes⟩
  · rintro ⟨⟨hNonneg, hMinimum⟩, ⟨hOne, hMaximum⟩, hPlanes⟩
    exact ⟨hNonneg, hOne, hMinimum, hMaximum, hPlanes⟩

variable [FloorRing K] [SquareRoot K]

theorem clip_spec (start along : Vec3 K) (planes : List (Plane K)) {lower : K} (upper : K)
    (hLower : 0 ≤ lower) :
    ∃ l u, clip start.lift along.lift (planes.map liftPlane) (.finite lower) (.finite upper) =
        some (.finite l, .finite u) ∧
      ∀ t, l ≤ t ∧ t ≤ u ↔ lower ≤ t ∧ t ≤ upper ∧
        ∀ plane ∈ planes, value plane start + t * inner plane.normal along ≤ 0 := by
  induction planes generalizing lower upper with
  | nil => exact ⟨lower, upper, rfl, fun t => by simp⟩
  | cons plane planes ih =>
    by_cases hOpen : lower ≤ upper
    · have hValue : (liftPlane plane).normal.dot start.lift + (liftPlane plane).offset =
          .finite (value plane start) := rfl
      have hDot : (liftPlane plane).normal.dot along.lift =
          .finite (inner plane.normal along) := rfl
      simp only [List.map_cons, clip, le_finite, hOpen, if_true, hValue, hDot,
        isFinite_finite, Bool.not_true, Bool.or_self, Bool.false_eq_true, if_false,
        lit_finite, equal_finite, lt_finite, Rat.cast_zero,
        decide_eq_true_eq, neg_finite, List.forall_mem_cons]
      generalize value plane start = v, inner plane.normal along = slope
      rcases lt_trichotomy slope 0 with h | rfl | h
      · obtain ⟨l, u, hClip, hIff⟩ := ih upper (hLower.trans (le_max_left lower (-v / slope)))
        refine ⟨l, u, ?_, fun t => ?_⟩
        · rw [if_neg h.ne, if_neg h.not_gt, div_finite _ h.ne, max_finite, hClip]
        · rw [hIff, sup_le_iff, div_le_iff_of_neg h, le_neg_iff_add_nonpos_left]
          tauto
      · rw [if_pos rfl]
        by_cases hOutside : 0 < v
        · obtain ⟨l, u, hClip, hIff⟩ := ih (-1) hLower
          refine ⟨l, u, ?_, fun t => ?_⟩
          · rw [if_pos hOutside, ← hClip]
            norm_num
          · rw [hIff]
            constructor
            · rintro ⟨hLow, hHigh, -⟩
              linarith
            · rintro ⟨-, -, hPlane, -⟩
              linarith
        · obtain ⟨l, u, hClip, hIff⟩ := ih upper hLower
          refine ⟨l, u, by rw [if_neg hOutside, hClip], fun t => ?_⟩
          rw [hIff, mul_zero, add_zero]
          simp [not_lt.mp hOutside]
      · obtain ⟨l, u, hClip, hIff⟩ := ih (upper ⊓ -v / slope) hLower
        refine ⟨l, u, ?_, fun t => ?_⟩
        · rw [if_neg h.ne', if_pos h, div_finite _ h.ne', min_finite, hClip]
        · rw [hIff, le_inf_iff, le_div_iff₀ h, le_neg_iff_add_nonpos_left]
          tauto
    · refine ⟨lower, upper, by simp [clip, hOpen], fun t => ?_⟩
      constructor
      · rintro ⟨hLow, hHigh⟩
        exact absurd (hLow.trans hHigh) hOpen
      · rintro ⟨hLow, hHigh, -⟩
        exact ⟨hLow, hHigh⟩

theorem projectEdge_best (q : OverlapQuery K) (edge : GuideEdge K) :
    ∃ r, q.lift.projectEdge (liftEdge edge) = some (r.map liftFound) ∧ Best (OnEdge q edge) r := by
  obtain ⟨l, u, hClip, hIff⟩ := clip_spec edge.start (direction edge) q.planes
    (1 ⊓ (q.maximumCoordinate - edge.index)) (le_max_left 0 (q.minimumCoordinate - edge.index))
  have hAllowed (t : K) : Allowed q edge t ↔ l ≤ t ∧ t ≤ u :=
    (allowed_iff q edge t).trans (hIff t).symm
  have hNearest {f : K} (hf : l ≤ f ∧ f ≤ u)
      (h : ∀ t, l ≤ t → t ≤ u → gap (pointAt edge f) q.target ≤ gap (pointAt edge t) q.target) :
      Best (OnEdge q edge) (some (q.projectionAt edge f)) := by
    refine ⟨⟨f, (hAllowed f).mpr hf, rfl⟩, ?_⟩
    rintro _ ⟨t, ht, rfl⟩
    exact h t ((hAllowed t).mp ht).1 ((hAllowed t).mp ht).2
  -- what the code computes from the edge and the query
  have hDirection : (liftEdge edge).finish - (liftEdge edge).start = (direction edge).lift := rfl
  have hSquare : (direction edge).lift.squaredNorm = .finite (gap edge.finish edge.start) := rfl
  have hInner : (q.lift.target - (liftEdge edge).start).dot (direction edge).lift =
    .finite (inner (minus q.target edge.start) (direction edge)) := rfl
  have hClipped : clip (liftEdge edge).start (direction edge).lift q.lift.planes
      (FloatOps.max (lit 0) (q.lift.minimumCoordinate - ofInt (liftEdge edge).index))
      (FloatOps.min (lit 1) (q.lift.maximumCoordinate - ofInt (liftEdge edge).index)) =
      some (.finite l, .finite u) := by
    rw [← hClip, ← max_finite, ← min_finite, ← sub_finite,
      ← sub_finite, ← ofInt_index, lit_finite, lit_finite,
      Rat.cast_zero, Rat.cast_one]
    rfl
  unfold projectEdge
  simp only [hDirection, hClipped]
  simp only [hSquare, hInner, Vec3.allFinite_lift, isFinite_finite, Bool.not_true,
    Bool.or_self, Bool.false_eq_true, if_false, lit_finite, Rat.cast_zero,
    lt_finite]
  by_cases hEmpty : u < l
  · refine ⟨none, by rw [if_pos hEmpty]; rfl, ?_⟩
    rintro _ ⟨t, ht, -⟩
    obtain ⟨hLow, hHigh⟩ := (hAllowed t).mp ht
    exact absurd (hLow.trans hHigh) hEmpty.not_ge
  rw [if_neg hEmpty]
  have hOpen : l ≤ u := not_lt.mp hEmpty
  by_cases hLength : 0 < gap edge.finish edge.start
  · refine ⟨some (q.projectionAt edge (l ⊔ inner (minus q.target edge.start) (direction edge) /
      gap edge.finish edge.start ⊓ u)), ?_, hNearest ⟨le_sup_left, sup_le hOpen inf_le_right⟩ ?_⟩
    · simp only [hLength, if_true, div_finite _ hLength.ne', clamp_eq _ hOpen, candidate_lift]
      rfl
    · intro t hLow hHigh
      rw [← sub_nonneg, gap_sub]
      exact clamp_lowest hLength hLow hHigh
  · refine ⟨some (q.projectionAt edge l), ?_, hNearest ⟨le_rfl, hOpen⟩ fun t _ _ => ?_⟩
    · simp only [hLength, decide_false, if_false, Bool.false_and, candidate_lift]
      rfl
    · rw [pointAt_of_gap (not_lt.mp hLength), pointAt_of_gap (not_lt.mp hLength)]

theorem search_best (q : OverlapQuery K) {edges : List (GuideEdge K)}
    (hOrder : edges.Pairwise fun a b => a.index ≤ b.index) {P : GuideProjection K → Prop}
    {best : Option (GuideProjection K)} (hBest : Best P best) :
    ∃ r, q.lift.search (edges.map liftEdge) (best.map liftFound) = some (r.map liftFound) ∧
      Best (fun c => P c ∨ ∃ edge ∈ edges, OnEdge q edge c) r := by
  induction edges generalizing P best with
  | nil => exact ⟨best, rfl, hBest.congr fun c => by simp⟩
  | cons edge edges ih =>
    obtain ⟨hFirst, hRest⟩ := List.pairwise_cons.mp hOrder
    have hMaximum : q.lift.maximumCoordinate = .finite q.maximumCoordinate := rfl
    simp only [List.map_cons, search, ofInt_index, hMaximum, lt_finite]
    by_cases hPast : q.maximumCoordinate < edge.index
    · refine ⟨best, if_pos hPast, hBest.congr fun c => (or_iff_left ?_).symm⟩
      rintro ⟨next, hNext, t, ht, -⟩
      have hLater : (edge.index : K) ≤ next.index := by
        rcases List.mem_cons.mp hNext with rfl | hNext
        · exact le_rfl
        · exact_mod_cast hFirst next hNext
      have := ht.nonneg
      have := ht.maximum
      linarith
    rw [if_neg hPast]
    obtain ⟨found, hProject, hFound⟩ := projectEdge_best q edge
    rw [hProject]
    cases found with
    | none =>
      obtain ⟨r, hSearch, hr⟩ := ih hRest hBest
      refine ⟨r, hSearch, hr.congr fun c => or_congr_right ?_⟩
      simp [hFound c]
    | some found =>
      obtain ⟨closest, hCloser, hClosest⟩ := closer_best hBest hFound
      obtain ⟨r, hSearch, hr⟩ := ih hRest hClosest
      refine ⟨r, ?_, hr.congr fun c => ?_⟩
      · simpa [hCloser] using hSearch
      · simp [or_assoc]

omit [SquareRoot K] in
/-- The edges before the first one offer at most the point it starts from. -/
theorem offers_iff_drop {q : OverlapQuery K} {guide : List (Vec3 K)} {elapsedS : List K} {k : Nat}
    (hLength : elapsedS.length = guide.length) (hk : k + 1 < guide.length)
    (hMinimum : (k : K) ≤ q.minimumCoordinate) (c : GuideProjection K) :
    (∃ edge ∈ (guideEdges guide elapsedS).drop k, OnEdge q edge c) ↔ Offers q guide elapsedS c := by
  constructor
  · rintro ⟨edge, hEdge, hc⟩
    exact ⟨edge, List.mem_of_mem_drop hEdge, hc⟩
  · rintro ⟨edge, hEdge, t, ht, rfl⟩
    obtain ⟨i, hi⟩ := List.mem_iff_getElem?.mp hEdge
    obtain ⟨hIndex, -, hFinish, -, hFinishS⟩ := guideEdges_some.mp hi
    rcases Nat.lt_or_ge i k with hBefore | hAfter
    · have hCast : (edge.index : K) + 1 ≤ k := by
        rw [hIndex]
        exact_mod_cast hBefore
      have hOne := ht.le_one
      have hLow := ht.minimum
      obtain rfl : t = 1 := by linarith
      obtain rfl : k = i + 1 := by
        have : (k : K) ≤ (edge.index : K) + 1 := by linarith
        rw [hIndex] at this
        have : k ≤ i + 1 := by exact_mod_cast this
        omega
      let next : GuideEdge K := ⟨i + 1, edge.finish, edge.finishS, guide[i + 1 + 1],
        elapsedS[i + 1 + 1]⟩
      have hNext : (guideEdges guide elapsedS)[i + 1]? = some next :=
        guideEdges_some.mpr ⟨rfl, hFinish, List.getElem?_eq_getElem _, hFinishS,
          List.getElem?_eq_getElem _⟩
      have hCoordinate : (next.index : K) + 0 = edge.index + 1 := by
        rw [add_zero, hIndex]
        exact Nat.cast_succ i
      have hPoint : pointAt next 0 = pointAt edge 1 := by
        simp [pointAt, next, direction, minus]
      have hTime : next.startS + 0 * (next.finishS - next.startS) =
        edge.startS + 1 * (edge.finishS - edge.startS) := by simp [next]
      refine ⟨next, List.mem_of_getElem? (by rwa [List.getElem?_drop, add_zero]), 0,
        ⟨le_rfl, zero_le_one, ?_, ?_, ?_⟩, ?_⟩
      · rw [hCoordinate]
        exact ht.minimum
      · rw [hCoordinate]
        exact ht.maximum
      · rw [hPoint]
        exact ht.planes
      · simp only [projectionAt, hPoint, hTime, hCoordinate]
    · refine ⟨edge, List.mem_iff_getElem?.mpr ⟨i - k, ?_⟩, t, ht, rfl⟩
      rw [List.getElem?_drop, Nat.add_sub_cancel' hAfter]
      exact hi

theorem guide_projection_exact (q : OverlapQuery K) {guide : List (Vec3 K)} {elapsedS : List K}
    (hGuide : 2 ≤ guide.length) (hLength : elapsedS.length = guide.length)
    (hTimes : elapsedS.IsChain (· < ·)) :
    let found := q.lift.projectOrderedGuideIntoOverlap (guide.map Vec3.lift) (elapsedS.map .finite)
    (found = none ↔ q.planes = [] ∨ q.minimumCoordinate < 0 ∨
      (guide.length : K) - 1 < q.maximumCoordinate ∨ ¬ ∃ c, Offers q guide elapsedS c) ∧
    ∀ r, found = some r → ∃ c, r = (c.point.lift, .finite c.timeS, .finite c.coordinate) ∧
      Offers q guide elapsedS c ∧
      ∀ other, Offers q guide elapsedS other → c.distanceSquared ≤ other.distanceSquared := by
  intro found
  have hEnd : (ofInt ((guide.map Vec3.lift).length - 1) : ExactReal K) =
      .finite (guide.length - 1) := by
    change finite ((((guide.map Vec3.lift).length : Int) - 1 : Int) : K) = _
    rw [List.length_map, Int.cast_sub, Int.cast_natCast, Int.cast_one]
  have hPlanes : q.lift.planes.all (fun plane => plane.normal.allFinite && isFinite plane.offset) =
      true := by
    simp [lift, liftPlane]
  have hQuery : q.lift.target = q.target.lift ∧
    q.lift.minimumCoordinate = .finite q.minimumCoordinate ∧
    q.lift.maximumCoordinate = .finite q.maximumCoordinate := ⟨rfl, rfl, rfl⟩
  have hEmpty : q.lift.planes.isEmpty = q.planes.isEmpty := List.isEmpty_map
  have hSamples : ¬ (!(guide.map Vec3.lift).all Vec3.allFinite ||
      !(elapsedS.map finite).all isFinite ||
      ¬ (elapsedS.map finite).IsChain (· < ·)) = true := by
    simp [List.isChain_map, hTimes]
  have hFound : found = if q.planes = [] ∨ q.minimumCoordinate < 0 ∨
      q.maximumCoordinate < q.minimumCoordinate ∨ guide.length - 1 < q.maximumCoordinate then none
    else (q.lift.search (((guideEdges guide elapsedS).drop (Nat.min
        (toInt (FloatOps.floor (finite q.minimumCoordinate))).toNat
        (guide.length - 2))).map liftEdge) none).join.map fun best =>
      (best.point, best.timeS, best.coordinate) := by
    simp only [found, projectOrderedGuideIntoOverlap, hEnd, hPlanes, hQuery, hEmpty,
      if_neg hSamples]
    simp [Nat.not_le.mpr hGuide, hLength, lit_finite, or_assoc, guideEdges_lift, List.map_drop]
  rw [hFound]
  split
  · rename_i hOutside
    refine ⟨⟨fun _ => ?_, fun _ => rfl⟩, fun _ h => by cases h⟩
    rcases hOutside with hOutside | hOutside | hOutside | hOutside
    · exact .inl hOutside
    · exact .inr (.inl hOutside)
    · refine .inr (.inr (.inr ?_))
      rintro ⟨_, _, _, _, ht, -⟩
      exact absurd (ht.minimum.trans ht.maximum) hOutside.not_ge
    · exact .inr (.inr (.inl hOutside))
  · rename_i hInside
    simp only [not_or, not_lt] at hInside
    obtain ⟨hSome, hNonneg, hWindow, hEnd⟩ := hInside
    have hFloor : (toInt (FloatOps.floor (finite q.minimumCoordinate))).toNat =
        ⌊q.minimumCoordinate⌋.toNat := by
      change (truncate (-(⌈-q.minimumCoordinate⌉ : K))).toNat = _
      rw [Int.ceil_neg, Int.cast_neg, neg_neg]
      simp [truncate]
    rw [hFloor]
    have hFirst : ((Nat.min ⌊q.minimumCoordinate⌋.toNat (guide.length - 2) : ℕ) : K) ≤
        q.minimumCoordinate := by
      refine le_trans (Nat.cast_le.mpr (Nat.min_le_left _ _)) ?_
      rw [← Int.cast_natCast, Int.toNat_of_nonneg (Int.floor_nonneg.mpr hNonneg)]
      exact Int.floor_le _
    have hEdge : Nat.min ⌊q.minimumCoordinate⌋.toNat (guide.length - 2) + 1 < guide.length := by
      have hLast : Nat.min ⌊q.minimumCoordinate⌋.toNat (guide.length - 2) ≤ guide.length - 2 :=
        Nat.min_le_right _ _
      omega
    have hNone : Best (fun _ : GuideProjection K => False) none := fun _ => id
    obtain ⟨r, hSearch, hr⟩ := search_best q (guideEdges_ordered guide elapsedS).drop hNone
    replace hr := hr.congr fun c =>
      (iff_of_eq (false_or _)).trans (offers_iff_drop hLength hEdge hFirst c)
    rw [Option.map_none] at hSearch
    rw [hSearch]
    cases r with
    | none =>
      refine ⟨⟨fun _ => .inr (.inr (.inr ?_)), fun _ => rfl⟩, fun _ h => by cases h⟩
      rintro ⟨c, hc⟩
      exact hr c hc
    | some c =>
      refine ⟨⟨(by cases ·), ?_⟩, ?_⟩
      · rintro (h | h | h | h)
        · exact absurd h hSome
        · exact absurd hNonneg h.not_ge
        · exact absurd hEnd h.not_ge
        · exact absurd ⟨c, hr.1⟩ h
      · intro r' hr'
        exact ⟨c, (Option.some.inj hr').symm, hr⟩

theorem guide_projection_along_axis :
    let q : OverlapQuery ℚ := ⟨[⟨⟨1, 0, 0⟩, -1 / 2⟩], ⟨2, 0, 0⟩, 0, 1⟩
    (q.lift.projectOrderedGuideIntoOverlap (([⟨0, 0, 0⟩, ⟨1, 0, 0⟩] : List (Vec3 ℚ)).map Vec3.lift)
        (([0, 1] : List ℚ).map .finite)).isSome := by
  intro q
  have h := (@guide_projection_exact ℚ _ _ _ _ _ q [⟨0, 0, 0⟩, ⟨1, 0, 0⟩] [0, 1] (by decide) rfl
    (by simp)).1
  rw [Option.isSome_iff_ne_none, Ne, h]
  rintro (h | h | h | h)
  · cases h
  · norm_num [q] at h
  · norm_num [q] at h
  · refine h ⟨_, ⟨0, ⟨0, 0, 0⟩, 0, ⟨1, 0, 0⟩, 1⟩, List.mem_singleton_self _, 0,
      ⟨le_rfl, zero_le_one, ?_, ?_, ?_⟩, rfl⟩ <;>
        norm_num [q, value, inner, pointAt, direction, minus]

/-- The code gives up on the query, although a point of the guide along the first axis would do. -/
def GivesUp (q : OverlapQuery ℚ) : Prop :=
  q.lift.projectOrderedGuideIntoOverlap (([⟨0, 0, 0⟩, ⟨1, 0, 0⟩] : List (Vec3 ℚ)).map Vec3.lift)
      (([0, 1] : List ℚ).map .finite) = none ∧
    ∃ c, Offers q [⟨0, 0, 0⟩, ⟨1, 0, 0⟩] [0, 1] c

/-- There is no half space, or the window leaves the guide at one of its ends. -/
theorem guide_projection_refused : GivesUp ⟨[], ⟨0, 0, 0⟩, 0, 1⟩ ∧
    GivesUp ⟨[⟨⟨1, 0, 0⟩, -1 / 2⟩], ⟨0, 0, 0⟩, -1, 1⟩ ∧
    GivesUp ⟨[⟨⟨1, 0, 0⟩, -1 / 2⟩], ⟨0, 0, 0⟩, 0, 2⟩ := by
  refine ⟨⟨by decide +kernel, _, ⟨0, ⟨0, 0, 0⟩, 0, ⟨1, 0, 0⟩, 1⟩, List.mem_singleton_self _, 0,
      ⟨le_rfl, zero_le_one, ?_, ?_, nofun⟩, rfl⟩,
    ⟨by decide +kernel, _, ⟨0, ⟨0, 0, 0⟩, 0, ⟨1, 0, 0⟩, 1⟩, List.mem_singleton_self _, 0,
      ⟨le_rfl, zero_le_one, ?_, ?_, ?_⟩, rfl⟩,
    ⟨by decide +kernel, _, ⟨0, ⟨0, 0, 0⟩, 0, ⟨1, 0, 0⟩, 1⟩, List.mem_singleton_self _, 0,
      ⟨le_rfl, zero_le_one, ?_, ?_, ?_⟩, rfl⟩⟩ <;>
    norm_num [value, inner, pointAt, direction, minus]

end Exact

end OverlapQuery

end UavNavigation
