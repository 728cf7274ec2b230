import UavNavigation.PlanningGrid

/-!
# Segment queries

`isSegmentTraversable` walks the cells of a layer from the cell of the start to
the cell of the end, one or more axes at a time, and judges every cell it touches
at the centre. On the inflated layer `observedOccupiedTubeIsClear` of
`continuous_clearance.hpp` measures the distance of the segment to the occupied
cells as well.
-/

namespace UavNavigation

set_option autoImplicit false

open FloatOps

section Clearance
variable {D : Type} [Floating D] [Narrowing D] (limits : NumericLimits D)

/-- The point as a vector of `long double`. -/
def Vec3.widen (a : Vec3 D) : Vec3 (Floating.LongDouble D) :=
  ⟨Floating.widen a.x, Floating.widen a.y, Floating.widen a.z⟩

def queryInterval (queryRadius start finish : Floating.LongDouble D) : Option (D × D) :=
  let lower := min start finish - queryRadius
  let upper := max start finish + queryRadius
  if !isFinite lower || !isFinite upper || lower < Floating.widen limits.lowest ||
      Floating.widen limits.max < upper then none
  else some (Narrowing.narrow lower, Narrowing.narrow upper)

def queryBox (queryRadius : Floating.LongDouble D) (start finish : Vec3 (Floating.LongDouble D)) :
    Option (AxisAlignedBox D) := do
  let x ← queryInterval limits queryRadius start.x finish.x
  let y ← queryInterval limits queryRadius start.y finish.y
  let z ← queryInterval limits queryRadius start.z finish.z
  return ⟨⟨x.1, y.1, z.1⟩, ⟨x.2, y.2, z.2⟩⟩

/-- A sum of three products, added up from zero as the loops over the axes do. -/
def sumProducts (a b : Vec3 (Floating.LongDouble D)) : Floating.LongDouble D :=
  lit 0 + a.x * b.x + a.y * b.y + a.z * b.z

/-- The distance of one occupied point to the segment is above the minimum. -/
def pointIsClear (start delta : Vec3 (Floating.LongDouble D))
    (segmentSquaredNorm minimumClearance : Floating.LongDouble D) (point : Vec3 D) : Bool :=
  if !point.allFinite then false
  else
    let offset := point.widen - start
    let long := Floating.widen limits.epsilon < segmentSquaredNorm
    let numerator := sumProducts offset delta
    if long && !isFinite numerator then false
    else
      let projection := if long then clamp (numerator / segmentSquaredNorm) (lit 0) (lit 1) else lit 0
      let gap := point.widen - (start + Vec3.scale projection delta)
      let distance := sqrt (sumProducts gap gap)
      !(!isFinite distance || distance ≤ minimumClearance)

def observedOccupiedTubeIsClear (observedOccupiedPoints : AxisAlignedBox D → List (Vec3 D))
    (start finish : Vec3 D) (radiusM : D) : Bool :=
  let clearanceToleranceM : D := lit 0.01
  if !start.allFinite || !finish.allFinite || !isFinite radiusM || radiusM < lit 0 then false
  else
    let queryRadius := Floating.widen radiusM + Floating.widen clearanceToleranceM
    let minimumClearance :=
      max (lit 0) (Floating.widen radiusM - Floating.widen clearanceToleranceM)
    if !isFinite queryRadius || !isFinite minimumClearance ||
        Floating.widen limits.max < queryRadius then false
    else
      match queryBox limits queryRadius start.widen finish.widen with
      | none => false
      | some box =>
        if !box.valid then false
        else
          let occupied := observedOccupiedPoints box
          let delta := finish.widen - start.widen
          if !delta.allFinite then false
          else
            let segmentSquaredNorm := sumProducts delta delta
            if !isFinite segmentSquaredNorm then false
            else occupied.all
              (pointIsClear limits start.widen delta segmentSquaredNorm minimumClearance)

end Clearance

/-! ## The walk over the cells -/

structure AxisSet where
  x : Bool
  y : Bool
  z : Bool
deriving DecidableEq

namespace AxisSet

def subset (a b : AxisSet) : Bool := (!a.x || b.x) && (!a.y || b.y) && (!a.z || b.z)

/-- The nonempty subsets, from the largest mask down: `subset = (subset - 1) & tied`. -/
def nonemptySubsets (tied : AxisSet) : List AxisSet :=
  [⟨true, true, true⟩, ⟨false, true, true⟩, ⟨true, false, true⟩, ⟨false, false, true⟩,
    ⟨true, true, false⟩, ⟨false, true, false⟩, ⟨true, false, false⟩].filter (·.subset tied)

end AxisSet

namespace GridIndex3

def advance (index direction : GridIndex3) (axes : AxisSet) : GridIndex3 :=
  ⟨if axes.x then index.x + direction.x else index.x,
    if axes.y then index.y + direction.y else index.y,
    if axes.z then index.z + direction.z else index.z⟩

def axisDirection (start finish : Int) : Int :=
  (if start < finish then 1 else 0) - (if finish < start then 1 else 0)

def directionTo (start finish : GridIndex3) : GridIndex3 :=
  ⟨axisDirection start.x finish.x, axisDirection start.y finish.y, axisDirection start.z finish.z⟩

def stepsTo (start finish : GridIndex3) : Nat :=
  (finish.x - start.x).natAbs + (finish.y - start.y).natAbs + (finish.z - start.z).natAbs

end GridIndex3

section Walk
variable {D : Type} [FloatOps D] (limits : NumericLimits D)

/-- The distance along the segment between two crossings of an axis. -/
def stepTime (direction : Int) (resolution absoluteDelta length : D) : D :=
  if direction = 0 then limits.max else resolution / (absoluteDelta / length)

/-- The distance along the segment to the first crossing of an axis. -/
def boundTime (direction startIndex : Int) (resolution start absoluteDelta length : D) : D :=
  let center := (ofInt startIndex + lit (1 / 2)) * resolution
  let boundary := center + ofInt direction * resolution * lit (1 / 2)
  if direction = 0 then limits.max else abs (boundary - start) / (absoluteDelta / length)

/-- An axis that has reached the cell of the end is crossed no more. -/
def frozen (current finish : GridIndex3) (next : Vec3 D) : Vec3 D :=
  ⟨if current.x = finish.x then limits.max else next.x,
    if current.y = finish.y then limits.max else next.y,
    if current.z = finish.z then limits.max else next.z⟩

/-- `std::min` of the three. -/
def firstBoundary (next : Vec3 D) : D := min (min next.x next.y) next.z

def includeBoundaryScale (scale boundary : D) : D :=
  if isFinite boundary && !equal boundary limits.max then max scale (abs boundary) else scale

def tieTolerance (next : Vec3 D) : D :=
  let scale := max (lit 1) (abs (firstBoundary next))
  let scale := includeBoundaryScale limits scale next.x
  let scale := includeBoundaryScale limits scale next.y
  let scale := includeBoundaryScale limits scale next.z
  lit 32 * limits.epsilon * scale

def tied (first tolerance next : D) : Bool :=
  !equal next limits.max && abs (next - first) ≤ tolerance

def tiedAxes (next : Vec3 D) : AxisSet :=
  let first := firstBoundary next
  let tolerance := tieTolerance limits next
  ⟨tied limits first tolerance next.x, tied limits first tolerance next.y,
    tied limits first tolerance next.z⟩

def advanceNext (next step : Vec3 D) (axes : AxisSet) : Vec3 D :=
  ⟨if axes.x then next.x + step.x else next.x, if axes.y then next.y + step.y else next.y,
    if axes.z then next.z + step.z else next.z⟩

/-- The `while` loop. A round that ties an axis comes closer to the end. A round that
ties none leaves everything as it was, so the loop of the source does not end: the
walk then runs out of fuel and has no result. -/
def walk (allowed : GridIndex3 → Bool) (finish direction : GridIndex3) (step : Vec3 D) :
    Nat → GridIndex3 → Vec3 D → Option Bool
  | 0, current, _ => if current = finish then some true else none
  | fuel + 1, current, next =>
    if current = finish then some true
    else if !allowed current then some false
    else
      let next := frozen limits current finish next
      if !isFinite (firstBoundary next) then some false
      else
        let axes := tiedAxes limits next
        if !axes.nonemptySubsets.all (fun subset => allowed (current.advance direction subset)) then
          some false
        else
          walk allowed finish direction step fuel (current.advance direction axes)
            (advanceNext next step axes)

end Walk

namespace MappingWorldSnapshot
variable {D : Type} [Floating D] [Narrowing D] (limits : NumericLimits D)

def pointIsTraversable (s : MappingWorldSnapshot D) (layer : GridLayer)
    (unknownPolicy : UnknownPolicy) (point : Vec3 D) : Bool :=
  if !s.containsLayer point layer then false
  else isCellTraversable (s.classify point layer) unknownPolicy

/-- The walk between two different cells, with the tests that come before it. -/
def cellsTraversable (s : MappingWorldSnapshot D) (start finish : Vec3 D) (layer : GridLayer)
    (unknownPolicy : UnknownPolicy) : Option Bool :=
  let resolution := s.layerResolution layer
  let startIndex := s.positionToIndex start layer
  let endIndex := s.positionToIndex finish layer
  let delta := finish - start
  let length := delta.norm
  if !isFinite resolution || resolution ≤ lit 0 || !isFinite length || length ≤ lit 0 then some false
  else
    let direction := startIndex.directionTo endIndex
    let absoluteDelta := delta.cwiseAbs
    let next : Vec3 D :=
      ⟨boundTime limits direction.x startIndex.x resolution start.x absoluteDelta.x length,
        boundTime limits direction.y startIndex.y resolution start.y absoluteDelta.y length,
        boundTime limits direction.z startIndex.z resolution start.z absoluteDelta.z length⟩
    let step : Vec3 D :=
      ⟨stepTime limits direction.x resolution absoluteDelta.x length,
        stepTime limits direction.y resolution absoluteDelta.y length,
        stepTime limits direction.z resolution absoluteDelta.z length⟩
    walk limits
      (fun index => s.pointIsTraversable layer unknownPolicy (s.indexToPosition limits index layer))
      endIndex direction step (startIndex.stepsTo endIndex) startIndex next

/-- The query with the limits of the walk, which decide its ties, beside those of the tube. -/
def isSegmentTraversableTied (ties : NumericLimits D) (s : MappingWorldSnapshot D)
    (start finish : Vec3 D) (layer : GridLayer) (unknownPolicy : UnknownPolicy) : Option Bool :=
  if !start.allFinite || !finish.allFinite || !s.containsLayer start layer ||
      !s.containsLayer finish layer then some false
  else if !s.pointIsTraversable layer unknownPolicy start then some false
  else
    let startIndex := s.positionToIndex start layer
    let endIndex := s.positionToIndex finish layer
    match (if startIndex = endIndex then some true
      else s.cellsTraversable ties start finish layer unknownPolicy) with
    | none => none
    | some false => some false
    | some true =>
      if !s.pointIsTraversable layer unknownPolicy finish then some false
      else if layer ≠ .inflated then some true
      else some (observedOccupiedTubeIsClear limits (s.observedOccupiedPoints limits) start finish
        s.rootGrid.occupiedInflationRadiusM)

def isSegmentTraversable (s : MappingWorldSnapshot D) (start finish : Vec3 D) (layer : GridLayer)
    (unknownPolicy : UnknownPolicy) : Option Bool :=
  s.isSegmentTraversableTied limits limits start finish layer unknownPolicy

end MappingWorldSnapshot

/-! ## Patch chains as full grids -/

open FloatOps PlanningGridLayout

section Write
variable {D : Type}

def writePatch (target source : PlanningGridLayout D) (bytes array : List UInt8) : List UInt8 :=
  RowMajor.scatter (fun index => (source.offset index).bind fun _ => target.offset index)
    (fun index => bytes.getD ((source.offset index).getD 0) 0) source.cells array

variable {target source : PlanningGridLayout D} {bytes array : List UInt8}

@[simp] theorem length_writePatch : (writePatch target source bytes array).length = array.length :=
  RowMajor.length_scatter _ _

theorem getD_writePatch_of_some {index : GridIndex3} {place patchPlace : Nat}
    (hPlace : target.offset index = some place) (hBound : place < array.length)
    (hPatch : source.offset index = some patchPlace) :
    (writePatch target source bytes array).getD place 0 = bytes.getD patchPlace 0 := by
  have hCell : index ∈ source.cells :=
    mem_cells.mpr (offset_eq_some hPatch).1
  refine (RowMajor.getD_scatter_of_mem hCell ?_ ?_ hBound 0).trans ?_
  · simp only [hPatch, Option.bind_some, hPlace]
  · intro other _ hOther
    cases hOffset : source.offset other with
    | none => simp [hOffset] at hOther
    | some p =>
      simp only [hOffset, Option.bind_some] at hOther
      exact offset_inj hOther hPlace
  · simp only [hPatch, Option.getD_some]

theorem getD_writePatch_of_none {index : GridIndex3} {place : Nat}
    (hPlace : target.offset index = some place) (hPatch : source.offset index = none) :
    (writePatch target source bytes array).getD place 0 = array.getD place 0 := by
  refine RowMajor.getD_scatter_of_ne ?_ array 0
  intro other _ hOther
  cases hOffset : source.offset other with
  | none => simp [hOffset] at hOther
  | some p =>
    simp only [hOffset, Option.bind_some] at hOther
    have hSame := offset_inj hOther hPlace
    rw [hSame, hPatch] at hOffset
    cases hOffset

theorem mem_writePatch {raw : UInt8} (hLength : bytes.length = source.count)
    (h : raw ∈ writePatch target source bytes array) : raw ∈ array ∨ raw ∈ bytes := by
  rcases RowMajor.mem_scatter h with hOld | ⟨index, _, place, hPlace, rfl⟩
  · exact Or.inl hOld
  · right
    cases hOffset : source.offset index with
    | none => simp [hOffset] at hPlace
    | some patchPlace =>
      have hBound : patchPlace < bytes.length := by
        rw [hLength]
        exact offset_lt hOffset
      simp only [Option.getD_some, List.getD_eq_getElem?_getD, List.getElem?_eq_getElem hBound]
      exact List.getElem_mem hBound

end Write

namespace MappingWorldSnapshot
variable {D : Type}

/-- The root grid with the patches written into its arrays, the oldest first. -/
def flattenedGrid : MappingWorldSnapshot D → PlanningGrid D
  | root grid _ _ => grid
  | patched parent patch _ _ =>
    let grid := parent.flattenedGrid
    { grid with
      baseState := writePatch grid.baseLayout patch.baseLayout patch.baseState grid.baseState
      inflated :=
        { grid.inflated with
          occupied := writePatch grid.inflated.layout patch.inflated.layout
            patch.inflated.occupied grid.inflated.occupied
          unknown :=
            if patch.inflated.unknown.isEmpty then grid.inflated.unknown
            else writePatch grid.inflated.layout patch.inflated.layout patch.inflated.unknown
              grid.inflated.unknown } }

def flattened (s : MappingWorldSnapshot D) : MappingWorldSnapshot D :=
  root s.flattenedGrid s.identity s.changeHistory

def frame (grid : PlanningGrid D) : PlanningGrid D :=
  { grid with baseState := [], inflated := { grid.inflated with occupied := [], unknown := [] } }

theorem frame_flattenedGrid (s : MappingWorldSnapshot D) : frame s.flattenedGrid = frame s.rootGrid := by
  induction s with
  | root grid identity history => rfl
  | patched parent patch identity history ih => exact ih

/-- Two snapshots with one frame that agree on the cells of its layouts. -/
structure Agree (s t : MappingWorldSnapshot D) : Prop where
  frame : frame s.rootGrid = frame t.rootGrid
  identity : s.identity = t.identity
  changeHistory : s.changeHistory = t.changeHistory
  baseState : ∀ index, (s.rootGrid.baseLayout.offset index).isSome = true →
    s.baseState index = t.baseState index
  inflatedOccupied : ∀ index, (s.rootGrid.inflated.layout.offset index).isSome = true →
    s.inflatedOccupied index = t.inflatedOccupied index
  inflatedUnknown : ∀ index, (s.rootGrid.inflated.layout.offset index).isSome = true →
    s.inflatedUnknown index = t.inflatedUnknown index

namespace Agree
variable {s t : MappingWorldSnapshot D}

section
variable (h : Agree s t)
include h

theorem baseLayout : s.rootGrid.baseLayout = t.rootGrid.baseLayout :=
  (congrArg PlanningGrid.baseLayout h.frame :)

theorem inflatedLayout : s.rootGrid.inflated.layout = t.rootGrid.inflated.layout :=
  congrArg (fun grid => grid.inflated.layout) h.frame

theorem nearestOffsets : s.rootGrid.nearestOffsets = t.rootGrid.nearestOffsets :=
  (congrArg PlanningGrid.nearestOffsets h.frame :)

theorem unknownInflationEnabled :
    s.rootGrid.unknownInflationEnabled = t.rootGrid.unknownInflationEnabled :=
  (congrArg PlanningGrid.unknownInflationEnabled h.frame :)

theorem virtualGroundCeilingEnabled :
    s.rootGrid.virtualGroundCeilingEnabled = t.rootGrid.virtualGroundCeilingEnabled :=
  (congrArg PlanningGrid.virtualGroundCeilingEnabled h.frame :)

theorem virtualGroundM : s.rootGrid.virtualGroundM = t.rootGrid.virtualGroundM :=
  (congrArg PlanningGrid.virtualGroundM h.frame :)

theorem virtualCeilingM : s.rootGrid.virtualCeilingM = t.rootGrid.virtualCeilingM :=
  (congrArg PlanningGrid.virtualCeilingM h.frame :)

theorem inflatedVirtualGroundM :
    s.rootGrid.inflatedVirtualGroundM = t.rootGrid.inflatedVirtualGroundM :=
  (congrArg PlanningGrid.inflatedVirtualGroundM h.frame :)

theorem inflatedVirtualCeilingM :
    s.rootGrid.inflatedVirtualCeilingM = t.rootGrid.inflatedVirtualCeilingM :=
  (congrArg PlanningGrid.inflatedVirtualCeilingM h.frame :)

theorem occupiedInflationRadiusM :
    s.rootGrid.occupiedInflationRadiusM = t.rootGrid.occupiedInflationRadiusM :=
  (congrArg PlanningGrid.occupiedInflationRadiusM h.frame :)

theorem geometry : s.geometry = t.geometry := by
  simp only [MappingWorldSnapshot.geometry, h.baseLayout, h.inflatedLayout, h.virtualGroundM,
    h.virtualCeilingM, h.virtualGroundCeilingEnabled, h.occupiedInflationRadiusM]

theorem layerResolution (layer : GridLayer) :
    s.layerResolution layer = t.layerResolution layer := by
  simp only [MappingWorldSnapshot.layerResolution, h.baseLayout, h.inflatedLayout]

theorem occupiedCell (index : GridIndex3) :
    ((s.rootGrid.baseLayout.offset index).isSome && s.baseState index == .occupied) =
      ((t.rootGrid.baseLayout.offset index).isSome && t.baseState index == .occupied) := by
  cases hSome : (s.rootGrid.baseLayout.offset index).isSome with
  | false =>
    rw [h.baseLayout] at hSome
    simp only [hSome, Bool.false_and]
  | true =>
    have hState := h.baseState index hSome
    rw [h.baseLayout] at hSome
    simp only [hSome, hState]

end

end Agree

section Classification
variable [FloatOps D] {s t : MappingWorldSnapshot D}

namespace Agree

variable (h : Agree s t) (point : Vec3 D) (layer : GridLayer)
include h

theorem containsLayer : s.containsLayer point layer = t.containsLayer point layer := by
  simp only [MappingWorldSnapshot.containsLayer, h.baseLayout, h.inflatedLayout]

theorem positionToIndex : s.positionToIndex point layer = t.positionToIndex point layer := by
  simp only [MappingWorldSnapshot.positionToIndex, h.layerResolution]

theorem contains : s.contains point = t.contains point := by
  simp only [MappingWorldSnapshot.contains, h.baseLayout]

theorem baseState_of_containsLayer {point : Vec3 D} {layer : GridLayer}
    (hInside : t.containsLayer point layer = true) :
    s.baseState (t.positionToIndex point .evidence) =
      t.baseState (t.positionToIndex point .evidence) := by
  rw [← h.containsLayer] at hInside
  rw [← h.positionToIndex]
  exact h.baseState _ (index_of_containsLayer hInside).2

theorem classify : s.classify point layer = t.classify point layer := by
  unfold MappingWorldSnapshot.classify
  simp only [h.containsLayer, h.positionToIndex, h.virtualGroundCeilingEnabled, h.virtualGroundM,
    h.virtualCeilingM, h.inflatedVirtualGroundM, h.inflatedVirtualCeilingM, h.inflatedLayout,
    h.unknownInflationEnabled]
  split
  · rfl
  split
  · split
    · rfl
    split
    · rfl
    rename_i hInside
    exact h.baseState_of_containsLayer (by simpa using hInside)
  split
  · rfl
  rename_i hInside
  split
  · rfl
  cases hOffset : t.rootGrid.inflated.layout.offset (t.positionToIndex point .inflated) with
  | none => rfl
  | some place =>
    have hSome : (s.rootGrid.inflated.layout.offset (t.positionToIndex point .inflated)).isSome := by
      simp [h.inflatedLayout, hOffset]
    simp only [h.inflatedOccupied _ hSome, h.inflatedUnknown _ hSome,
      h.baseState_of_containsLayer (by simpa using hInside)]

end Agree

end Classification

namespace Agree
variable [Floating D] [Narrowing D] {s t : MappingWorldSnapshot D} (limits : NumericLimits D)

section
variable (h : Agree s t)
include h

theorem indexToPosition (index : GridIndex3) (layer : GridLayer) :
    s.indexToPosition limits index layer = t.indexToPosition limits index layer := by
  simp only [MappingWorldSnapshot.indexToPosition, h.layerResolution]

theorem firstNotOccupied (start : Vec3 D) (startIndex : GridIndex3)
    (layer : GridLayer) (maximumDistanceM : D) (offsets : List GridIndex3) :
    s.firstNotOccupied limits start startIndex layer maximumDistanceM offsets =
      t.firstNotOccupied limits start startIndex layer maximumDistanceM offsets := by
  induction offsets with
  | nil => rfl
  | cons delta rest ih =>
    simp only [MappingWorldSnapshot.firstNotOccupied, h.indexToPosition, h.classify, ih]

theorem nearestNotOccupied (start : Vec3 D) (layer : GridLayer) (maximumDistanceM : D) :
    s.nearestNotOccupied limits start layer maximumDistanceM =
      t.nearestNotOccupied limits start layer maximumDistanceM := by
  simp only [MappingWorldSnapshot.nearestNotOccupied, h.baseLayout, h.nearestOffsets,
    h.firstNotOccupied]

theorem clampToLocalBounds (requested : AxisAlignedBox D) :
    s.clampToLocalBounds limits requested = t.clampToLocalBounds limits requested := by
  simp only [MappingWorldSnapshot.clampToLocalBounds, h.baseLayout, h.indexToPosition,
    h.virtualGroundCeilingEnabled, h.virtualGroundM, h.virtualCeilingM]

theorem observedOccupiedPoints (requested : AxisAlignedBox D) :
    s.observedOccupiedPoints limits requested = t.observedOccupiedPoints limits requested := by
  simp only [MappingWorldSnapshot.observedOccupiedPoints, h.clampToLocalBounds, h.positionToIndex,
    h.occupiedCell, h.indexToPosition]

theorem materialize (bounds : GridBounds) (layer : GridLayer) :
    s.materialize limits bounds layer = t.materialize limits bounds layer := by
  simp only [MappingWorldSnapshot.materialize, h.indexToPosition, h.classify]

theorem diagnosticSnapshot : s.diagnosticSnapshot limits = t.diagnosticSnapshot limits := by
  simp only [MappingWorldSnapshot.diagnosticSnapshot, h.geometry, h.materialize, h.identity,
    h.unknownInflationEnabled, h.virtualGroundCeilingEnabled, h.virtualGroundM, h.virtualCeilingM,
    h.inflatedVirtualGroundM, h.inflatedVirtualCeilingM, h.nearestOffsets]

end

omit [Narrowing D] in
theorem pointIsTraversable (h : Agree s t) (layer : GridLayer) (unknownPolicy : UnknownPolicy)
    (point : Vec3 D) :
    s.pointIsTraversable layer unknownPolicy point =
      t.pointIsTraversable layer unknownPolicy point := by
  simp only [MappingWorldSnapshot.pointIsTraversable, h.containsLayer, h.classify]

variable (h : Agree s t) (start finish : Vec3 D) (layer : GridLayer) (unknownPolicy : UnknownPolicy)
include h

theorem cellsTraversable : s.cellsTraversable limits start finish layer unknownPolicy =
      t.cellsTraversable limits start finish layer unknownPolicy := by
  simp only [MappingWorldSnapshot.cellsTraversable, h.layerResolution, h.positionToIndex,
    h.pointIsTraversable, h.indexToPosition]

theorem isSegmentTraversable : s.isSegmentTraversable limits start finish layer unknownPolicy =
      t.isSegmentTraversable limits start finish layer unknownPolicy := by
  have hPoints : s.observedOccupiedPoints limits = t.observedOccupiedPoints limits :=
    funext (h.observedOccupiedPoints limits)
  simp only [MappingWorldSnapshot.isSegmentTraversable, isSegmentTraversableTied, h.containsLayer,
    h.pointIsTraversable, h.positionToIndex, h.cellsTraversable, hPoints, h.occupiedInflationRadiusM]

end Agree

/-! ## The chain and its flattened grid -/

section Chain
variable [FloatOps D] {index : GridIndex3}

section
variable {s : MappingWorldSnapshot D} (h : s.Accepted)
include h

theorem gridAccepted_flattenedGrid : GridAccepted s.flattenedGrid s.identity := by
  induction s with
  | root grid identity history => exact (validated_iff.mp h).2
  | patched parent patch identity history ih =>
    obtain ⟨hParent, hPatch⟩ := h
    obtain ⟨-, hPatch⟩ := patchAccepted_of_validatedPatch hPatch
    have hGrid := ih hParent
    have hEnabled : parent.rootGrid.unknownInflationEnabled =
        parent.flattenedGrid.unknownInflationEnabled :=
      (congrArg PlanningGrid.unknownInflationEnabled parent.frame_flattenedGrid.symm :)
    refine
      { baseLayout := hGrid.baseLayout
        inflatedLayout := hGrid.inflatedLayout
        baseLength := length_writePatch.trans hGrid.baseLength
        occupiedLength := length_writePatch.trans hGrid.occupiedLength
        unknownLength := ?_
        unknownEmpty := ?_
        stored := ?_
        offsets := hGrid.offsets
        metadata := ?_ }
    · intro hOn
      have hLength := hGrid.unknownLength hOn
      change (if patch.inflated.unknown.isEmpty then _ else _ : List UInt8).length = _
      split
      · exact hLength
      · exact length_writePatch.trans hLength
    · intro hOff
      have hNone := hPatch.unknownEmpty (hEnabled.trans hOff)
      have hEmpty := hGrid.unknownEmpty hOff
      change (if patch.inflated.unknown.isEmpty then _ else _ : List UInt8) = _
      simp only [hNone, List.isEmpty_nil, if_true, hEmpty]
    · rw [List.all_eq_true]
      intro raw hRaw
      rcases mem_writePatch hPatch.baseLength hRaw with hOld | hNew
      · exact List.all_eq_true.mp hGrid.stored raw hOld
      · exact List.all_eq_true.mp hPatch.stored raw hNew
    · -- A successor keeps epoch and generation and has a later stamp.
      have hMetadata := hGrid.metadata
      have hNewer := hPatch.newer
      simp only [newerSuccessor, Bool.not_eq_true', Bool.or_eq_false_iff, bne_eq_false_iff_eq,
        decide_eq_false_iff_not, not_le] at hNewer
      obtain ⟨⟨⟨⟨hEpoch, hGeneration⟩, -⟩, -⟩, hStamp⟩ := hNewer
      simp only [metadataInvalid, Bool.or_eq_false_iff, beq_eq_false_iff_ne, ne_eq,
        decide_eq_false_iff_not, not_lt] at hMetadata ⊢
      obtain ⟨⟨⟨hFields, hEpochZero⟩, hGenerationZero⟩, hStampZero⟩ := hMetadata
      refine ⟨⟨⟨hFields, ?_⟩, ?_⟩, ?_⟩
      · exact fun hZero => hEpochZero (hEpoch.symm.trans hZero)
      · exact fun hZero => hGenerationZero (hGeneration.symm.trans hZero)
      · exact hStampZero.trans hStamp.le

theorem baseState_eq_flattened {place : Nat}
    (hPlace : s.flattenedGrid.baseLayout.offset index = some place) :
    s.baseState index = productCell (s.flattenedGrid.baseState.getD place 0) := by
  induction s with
  | root grid identity history =>
    change grid.baseLayout.offset index = some place at hPlace
    simp only [baseState, flattenedGrid, hPlace]
  | patched parent patch identity history ih =>
    have hGrid := gridAccepted_flattenedGrid h.1
    change parent.flattenedGrid.baseLayout.offset index = some place at hPlace
    simp only [baseState, flattenedGrid]
    cases hPatch : patch.baseLayout.offset index with
    | none => rw [getD_writePatch_of_none hPlace hPatch, ih h.1 hPlace]
    | some patchPlace =>
      have hBound : place < parent.flattenedGrid.baseState.length := by
        rw [hGrid.baseLength]
        exact offset_lt hPlace
      rw [getD_writePatch_of_some hPlace hBound hPatch]

section
variable {place : Nat} (hPlace : s.flattenedGrid.inflated.layout.offset index = some place)
include hPlace

theorem inflatedOccupied_eq_flattened :
    s.inflatedOccupied index = s.flattenedGrid.inflated.occupied.getD place 0 := by
  induction s with
  | root grid identity history =>
    change grid.inflated.layout.offset index = some place at hPlace
    simp only [inflatedOccupied, flattenedGrid, hPlace]
  | patched parent patch identity history ih =>
    have hGrid := gridAccepted_flattenedGrid h.1
    change parent.flattenedGrid.inflated.layout.offset index = some place at hPlace
    simp only [inflatedOccupied, flattenedGrid]
    cases hPatch : patch.inflated.layout.offset index with
    | none => rw [getD_writePatch_of_none hPlace hPatch, ih h.1 hPlace]
    | some patchPlace =>
      have hBound : place < parent.flattenedGrid.inflated.occupied.length := by
        rw [hGrid.occupiedLength]
        exact offset_lt hPlace
      rw [getD_writePatch_of_some hPlace hBound hPatch]

theorem inflatedUnknown_eq_flattened : s.inflatedUnknown index =
      if s.flattenedGrid.inflated.unknown.isEmpty then 1
      else s.flattenedGrid.inflated.unknown.getD place 0 := by
  induction s with
  | root grid identity history =>
    change grid.inflated.layout.offset index = some place at hPlace
    simp only [inflatedUnknown, flattenedGrid, hPlace]
    rfl
  | patched parent patch identity history ih =>
    have hGrid := gridAccepted_flattenedGrid h.1
    have hChild := patchAccepted_of_validatedPatch h.2
    have hEnabled : parent.rootGrid.unknownInflationEnabled =
        parent.flattenedGrid.unknownInflationEnabled :=
      (congrArg PlanningGrid.unknownInflationEnabled parent.frame_flattenedGrid.symm :)
    change parent.flattenedGrid.inflated.layout.offset index = some place at hPlace
    simp only [inflatedUnknown, flattenedGrid]
    by_cases hNone : patch.inflated.unknown.isEmpty = true
    · simp only [hNone, if_true]
      rw [← ih h.1 hPlace]
      split <;> rfl
    · simp only [hNone, Bool.false_eq_true, if_false]
      have hOn : parent.flattenedGrid.unknownInflationEnabled = true := by
        by_contra hOff
        have hEmpty := hChild.2.unknownEmpty (hEnabled.trans (Bool.eq_false_of_not_eq_true hOff))
        exact hNone (by rw [hEmpty]; rfl)
      have hBound : place < parent.flattenedGrid.inflated.unknown.length := by
        rw [hGrid.unknownLength hOn]
        exact offset_lt hPlace
      have hWritten : (writePatch parent.flattenedGrid.inflated.layout patch.inflated.layout
          patch.inflated.unknown parent.flattenedGrid.inflated.unknown).isEmpty = false := by
        rw [List.isEmpty_eq_false_iff_exists_mem, ← List.length_pos_iff_exists_mem, length_writePatch]
        omega
      have hOld : parent.flattenedGrid.inflated.unknown.isEmpty = false := by
        rw [List.isEmpty_eq_false_iff_exists_mem, ← List.length_pos_iff_exists_mem]
        omega
      simp only [hWritten, Bool.false_eq_true, if_false]
      cases hPatch : patch.inflated.layout.offset index with
      | none =>
        rw [getD_writePatch_of_none hPlace hPatch, ih h.1 hPlace, hOld]
        rfl
      | some patchPlace => rw [getD_writePatch_of_some hPlace hBound hPatch]

end

theorem agree_flattened : Agree s s.flattened := by
  have hFrame := s.frame_flattenedGrid
  have hBase : s.rootGrid.baseLayout = s.flattenedGrid.baseLayout :=
    (congrArg PlanningGrid.baseLayout hFrame.symm :)
  have hInflated : s.rootGrid.inflated.layout = s.flattenedGrid.inflated.layout :=
    (congrArg (fun grid => grid.inflated.layout) hFrame.symm :)
  refine ⟨hFrame.symm, rfl, rfl, ?_, ?_, ?_⟩
  · intro index hSome
    rw [hBase] at hSome
    obtain ⟨place, hPlace⟩ := Option.isSome_iff_exists.mp hSome
    rw [baseState_eq_flattened h hPlace]
    simp only [flattened, baseState, hPlace]
  · intro index hSome
    rw [hInflated] at hSome
    obtain ⟨place, hPlace⟩ := Option.isSome_iff_exists.mp hSome
    rw [inflatedOccupied_eq_flattened h hPlace]
    simp only [flattened, inflatedOccupied, hPlace]
  · intro index hSome
    rw [hInflated] at hSome
    obtain ⟨place, hPlace⟩ := Option.isSome_iff_exists.mp hSome
    rw [inflatedUnknown_eq_flattened h hPlace]
    simp only [flattened, inflatedUnknown, hPlace]

end

end Chain

/-- A chain of patches answers every query as the full grid it stands for, and the
constructor takes that grid. -/
theorem patch_chain_answers_as_full_grid [Floating D] [Narrowing D] (limits : NumericLimits D)
    (s : MappingWorldSnapshot D) (h : s.Accepted) :
    s.flattened.Accepted ∧
    (∀ point layer, s.classify point layer = s.flattened.classify point layer) ∧
    (∀ point, s.contains point = s.flattened.contains point) ∧
    (∀ start layer maximumDistanceM, s.nearestNotOccupied limits start layer maximumDistanceM =
        s.flattened.nearestNotOccupied limits start layer maximumDistanceM) ∧
    (∀ requested, s.observedOccupiedPoints limits requested =
      s.flattened.observedOccupiedPoints limits requested) ∧
    (∀ start finish layer unknownPolicy,
      s.isSegmentTraversable limits start finish layer unknownPolicy =
        s.flattened.isSegmentTraversable limits start finish layer unknownPolicy) ∧
    s.diagnosticSnapshot limits = s.flattened.diagnosticSnapshot limits := by
  have hAgree := agree_flattened h
  refine ⟨validated_iff.mpr ⟨rfl, gridAccepted_flattenedGrid h⟩, hAgree.classify, hAgree.contains,
    hAgree.nearestNotOccupied limits, hAgree.observedOccupiedPoints limits,
    hAgree.isSegmentTraversable limits, hAgree.diagnosticSnapshot limits⟩

def edgeLayout (globalMinX : Int) : PlanningGridLayout (ExactReal ℚ) where
  resolutionM := .finite 1
  globalMinIndex := ⟨globalMinX, 0, 0⟩
  dimensions := ⟨2, 1, 1⟩
  localCenterM := ⟨.finite 1, .finite (1 / 2), .finite (1 / 2)⟩
  localSizeM := ⟨.finite 2, .finite 1, .finite 1⟩

def edgeGrid : PlanningGrid (ExactReal ℚ) where
  baseLayout := edgeLayout 0
  inflated := ⟨edgeLayout 0, [0, 0], []⟩
  baseState := [4, 4]
  nearestOffsets := some [GridIndex3.zero]
  unknownInflationEnabled := false
  virtualGroundCeilingEnabled := false
  virtualGroundM := .finite (-1)
  virtualCeilingM := .finite 1
  inflatedVirtualGroundM := .finite (-1)
  inflatedVirtualCeilingM := .finite 1
  occupiedInflationRadiusM := .finite 0

def edgePatch : PlanningGridPatch (ExactReal ℚ) where
  baseLayout := edgeLayout 1
  inflated := ⟨edgeLayout 1, [1, 1], []⟩
  baseState := [3, 3]

def edgeSnapshot : MappingWorldSnapshot (ExactReal ℚ) :=
  patched (root edgeGrid ⟨1, 1, 1, 100⟩ none) edgePatch ⟨1, 1, 2, 200⟩ none

theorem patch_chain_over_the_edge :
    edgeSnapshot.Accepted ∧ edgeSnapshot.flattenedGrid.baseState = [4, 3] ∧
      edgeSnapshot.diagnosticSnapshot .double = edgeSnapshot.flattened.diagnosticSnapshot .double := by
  have hAccepted : edgeSnapshot.Accepted := ⟨rfl, rfl⟩
  exact ⟨hAccepted, rfl, (patch_chain_answers_as_full_grid .double edgeSnapshot hAccepted).2.2.2.2.2.2⟩

end MappingWorldSnapshot

end UavNavigation
