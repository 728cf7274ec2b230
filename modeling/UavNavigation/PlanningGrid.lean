import UavNavigation.World
import UavNavigation.RowMajor

/-!
# Planning grids

The cell states of `world_model_view.hpp` and the storage of
`mapping_world_snapshot.hpp`: a layout places a box of cells on the integer
lattice of its resolution, and a grid keeps one byte for each cell of its layouts.
-/

namespace UavNavigation

set_option autoImplicit false

open FloatOps

inductive CellState where
  | undefined
  | unknown
  | outOfMap
  | occupied
  | knownFree
  | frontier
deriving DecidableEq

inductive GridLayer where
  | evidence
  | inflated
deriving DecidableEq

def isValidCellState : CellState → Bool
  | .undefined | .unknown | .outOfMap | .occupied | .knownFree | .frontier => true

def isStoredCellState (state : CellState) : Bool :=
  state == .unknown || state == .occupied || state == .knownFree

def isCellTraversable (state : CellState) (unknownPolicy : UnknownPolicy) : Bool :=
  match state with
  | .knownFree => true
  | .unknown | .frontier => unknownPolicy == .allowUnknown
  | .undefined | .outOfMap | .occupied => false

namespace CellState

/-- The enumerator a stored byte stands for, if it stands for one. -/
def ofByte (raw : UInt8) : Option CellState :=
  match raw.toNat with
  | 0 => some .undefined
  | 1 => some .unknown
  | 2 => some .outOfMap
  | 3 => some .occupied
  | 4 => some .knownFree
  | 5 => some .frontier
  | _ => none

def toByte : CellState → UInt8
  | .undefined => 0
  | .unknown => 1
  | .outOfMap => 2
  | .occupied => 3
  | .knownFree => 4
  | .frontier => 5

end CellState

def productCell (rawState : UInt8) : CellState := (CellState.ofByte rawState).getD .undefined

@[ext] structure GridIndex3 where
  x : Int
  y : Int
  z : Int
deriving DecidableEq

namespace GridIndex3

def zero : GridIndex3 := ⟨0, 0, 0⟩

instance : Add GridIndex3 := ⟨fun a b => ⟨a.x + b.x, a.y + b.y, a.z + b.z⟩⟩

instance : Sub GridIndex3 := ⟨fun a b => ⟨a.x - b.x, a.y - b.y, a.z - b.z⟩⟩

def ones : GridIndex3 := ⟨1, 1, 1⟩

section
variable (a b : GridIndex3)

@[simp] theorem add_x : (a + b).x = a.x + b.x := rfl

@[simp] theorem add_y : (a + b).y = a.y + b.y := rfl

@[simp] theorem add_z : (a + b).z = a.z + b.z := rfl

@[simp] theorem sub_x : (a - b).x = a.x - b.x := rfl

@[simp] theorem sub_y : (a - b).y = a.y - b.y := rfl

@[simp] theorem sub_z : (a - b).z = a.z - b.z := rfl

end

end GridIndex3

def intMin : Int := -2 ^ 31

def intMax : Int := 2 ^ 31 - 1

def sizeMax : Nat := 2 ^ 64 - 1

def fitsInt (value : Int) : Bool := intMin ≤ value && value ≤ intMax

def checkedIndexAdd (lhs rhs : GridIndex3) : Option GridIndex3 :=
  let value := lhs + rhs
  if !fitsInt value.x || !fitsInt value.y || !fitsInt value.z then none else some value

structure PlanningGridLayout (D : Type) where
  resolutionM : D
  globalMinIndex : GridIndex3
  dimensions : GridIndex3
  localCenterM : Vec3 D
  localSizeM : Vec3 D
deriving DecidableEq

namespace PlanningGridLayout
variable {D : Type}

def holds (layout : PlanningGridLayout D) (index : GridIndex3) : Bool :=
  let localIndex := index - layout.globalMinIndex
  !(localIndex.x < 0 || localIndex.y < 0 || localIndex.z < 0 ||
    layout.dimensions.x ≤ localIndex.x || layout.dimensions.y ≤ localIndex.y ||
    layout.dimensions.z ≤ localIndex.z)

/-- The place of a cell in the array of its layout, with the source's guards against
overflow of `size_t`. -/
def offset (layout : PlanningGridLayout D) (index : GridIndex3) : Option Nat :=
  if !layout.holds index then none
  else
    let x := (index.x - layout.globalMinIndex.x).toNat
    let y := (index.y - layout.globalMinIndex.y).toNat
    let z := (index.z - layout.globalMinIndex.z).toNat
    let dimensionsY := layout.dimensions.y.toNat
    let dimensionsZ := layout.dimensions.z.toNat
    if (sizeMax - z) / dimensionsZ < y then none
    else if (sizeMax - (y * dimensionsZ + z)) / dimensionsY < x then none
    else if (sizeMax - z) / dimensionsZ < x * dimensionsY + y then none
    else some ((x * dimensionsY + y) * dimensionsZ + z)

def cells (layout : PlanningGridLayout D) : List GridIndex3 :=
  (List.range layout.dimensions.x.toNat).flatMap fun x =>
    (List.range layout.dimensions.y.toNat).flatMap fun y =>
      (List.range layout.dimensions.z.toNat).map fun z =>
        layout.globalMinIndex + ⟨x, y, z⟩

end PlanningGridLayout

structure InflatedPlanningGrid (D : Type) where
  layout : PlanningGridLayout D
  occupied : List UInt8
  unknown : List UInt8
deriving DecidableEq

structure PlanningGrid (D : Type) where
  baseLayout : PlanningGridLayout D
  inflated : InflatedPlanningGrid D
  baseState : List UInt8
  nearestOffsets : Option (List GridIndex3)
  unknownInflationEnabled : Bool
  virtualGroundCeilingEnabled : Bool
  virtualGroundM : D
  virtualCeilingM : D
  inflatedVirtualGroundM : D
  inflatedVirtualCeilingM : D
  occupiedInflationRadiusM : D
deriving DecidableEq

structure PlanningGridPatch (D : Type) where
  baseLayout : PlanningGridLayout D
  inflated : InflatedPlanningGrid D
  baseState : List UInt8
deriving DecidableEq

inductive SnapshotError where
  | invalidArgument (what : String)
  | overflowError (what : String)
deriving DecidableEq

section Validation
variable {D : Type} [FloatOps D]

/-- One round of the loop over the axes: the count so far times one more side. -/
def countAxis (countOverflow rangeOverflow : String) (count : Nat) (globalMin dimension : Int) :
    Except SnapshotError Nat :=
  if sizeMax / dimension.toNat < count then .error (.overflowError countOverflow)
  else
    let lastIndex := globalMin + dimension - 1
    if lastIndex < intMin || intMax < lastIndex then .error (.overflowError rangeOverflow)
    else .ok (count * dimension.toNat)

def voxelCount (layout : PlanningGridLayout D) (countOverflow rangeOverflow : String) :
    Except SnapshotError Nat := do
  let count ← countAxis countOverflow rangeOverflow 1 layout.globalMinIndex.x layout.dimensions.x
  let count ← countAxis countOverflow rangeOverflow count layout.globalMinIndex.y layout.dimensions.y
  countAxis countOverflow rangeOverflow count layout.globalMinIndex.z layout.dimensions.z

def dimensionsInvalid (layout : PlanningGridLayout D) : Bool :=
  !isFinite layout.resolutionM || layout.resolutionM ≤ lit 0 ||
    (layout.dimensions.x ≤ 0 || layout.dimensions.y ≤ 0 || layout.dimensions.z ≤ 0)

/-- `validate_layout` of a full grid. -/
def validateLayout (layout : PlanningGridLayout D) (name : String) : Except SnapshotError Nat :=
  if dimensionsInvalid layout || !layout.localCenterM.allFinite || !layout.localSizeM.allFinite ||
      (layout.localSizeM.x ≤ lit 0 || layout.localSizeM.y ≤ lit 0 || layout.localSizeM.z ≤ lit 0) then
    .error (.invalidArgument (name ++ " has invalid geometry"))
  else voxelCount layout (name ++ " voxel count overflows size_t") (name ++ " index range overflows int")

/-- `validate_layout` of a patch. -/
def validatePatchLayout (layout : PlanningGridLayout D) (name : String) :
    Except SnapshotError Nat :=
  if dimensionsInvalid layout then .error (.invalidArgument (name ++ " has invalid patch geometry"))
  else voxelCount layout (name ++ " patch voxel count overflows size_t")
    (name ++ " patch index range overflows int")

def storedByte (raw : UInt8) : Bool := (CellState.ofByte raw).any isStoredCellState

def metadataInvalid (grid : PlanningGrid D) (identity : WorldSnapshotIdentity) : Bool :=
  !isFinite grid.virtualGroundM || !isFinite grid.virtualCeilingM ||
    !isFinite grid.inflatedVirtualGroundM || !isFinite grid.inflatedVirtualCeilingM ||
    !isFinite grid.occupiedInflationRadiusM || grid.occupiedInflationRadiusM < lit 0 ||
    grid.virtualCeilingM ≤ grid.virtualGroundM ||
    grid.inflatedVirtualCeilingM ≤ grid.inflatedVirtualGroundM ||
    identity.localizationEpoch == 0 || identity.generation == 0 || identity.observationStampNs < 0

/-- The first test of `validatedPatch`. -/
def newerSuccessor (parentIdentity identity : WorldSnapshotIdentity) : Bool :=
  !(identity.localizationEpoch != parentIdentity.localizationEpoch ||
    identity.generation != parentIdentity.generation ||
    parentIdentity.revision == 2 ^ 64 - 1 || identity.revision ≤ parentIdentity.revision ||
    identity.observationStampNs ≤ parentIdentity.observationStampNs)

def validated (grid : PlanningGrid D) (identity : WorldSnapshotIdentity) :
    Except SnapshotError (PlanningGrid D) := do
  let baseCount ← validateLayout grid.baseLayout "base layout"
  let inflatedCount ← validateLayout grid.inflated.layout "inflated layout"
  if grid.baseState.length != baseCount || grid.inflated.occupied.length != inflatedCount ||
      (grid.unknownInflationEnabled && grid.inflated.unknown.length != inflatedCount) ||
      (!grid.unknownInflationEnabled && !grid.inflated.unknown.isEmpty) then
    .error (.invalidArgument "planning grid array sizes do not match layout")
  else if !grid.baseState.all storedByte then
    .error (.invalidArgument "planning grid contains a non-evidence cell state")
  else if grid.nearestOffsets.isNone then
    .error (.invalidArgument "planning grid nearest-offset metadata is missing")
  else if metadataInvalid grid identity then
    .error (.invalidArgument "planning grid metadata or identity is invalid")
  else .ok grid

/-- `validatedPatch`, given what it reads of the parent: its identity and root grid. -/
def validatedPatch (patch : PlanningGridPatch D) (parentIdentity : WorldSnapshotIdentity)
    (root : PlanningGrid D) (identity : WorldSnapshotIdentity) :
    Except SnapshotError (PlanningGridPatch D) :=
  if !newerSuccessor parentIdentity identity then
    .error (.invalidArgument "patch snapshot identity is not a newer successor")
  else do
    let baseCount ← validatePatchLayout patch.baseLayout "base patch"
    let inflatedCount ← validatePatchLayout patch.inflated.layout "inflated patch"
    if !equal patch.baseLayout.resolutionM root.baseLayout.resolutionM ||
        !equal patch.inflated.layout.resolutionM root.inflated.layout.resolutionM ||
        patch.baseState.length != baseCount || patch.inflated.occupied.length != inflatedCount ||
        (root.unknownInflationEnabled && patch.inflated.unknown.length != inflatedCount) ||
        (!root.unknownInflationEnabled && !patch.inflated.unknown.isEmpty) then
      .error (.invalidArgument "planning grid patch does not match parent geometry")
    else if !patch.baseState.all storedByte then
      .error (.invalidArgument "planning grid patch contains a non-evidence state")
    else .ok patch

end Validation

namespace PlanningGridLayout
variable {D : Type} {layout : PlanningGridLayout D} {index : GridIndex3}

theorem holds_iff : layout.holds index = true ↔
    (layout.globalMinIndex.x ≤ index.x ∧ index.x < layout.globalMinIndex.x + layout.dimensions.x) ∧
    (layout.globalMinIndex.y ≤ index.y ∧ index.y < layout.globalMinIndex.y + layout.dimensions.y) ∧
    (layout.globalMinIndex.z ≤ index.z ∧ index.z < layout.globalMinIndex.z + layout.dimensions.z) := by
  simp only [holds, Bool.not_eq_true', Bool.or_eq_false_iff, decide_eq_false_iff_not,
    GridIndex3.sub_x, GridIndex3.sub_y, GridIndex3.sub_z]
  omega

theorem mem_cells : index ∈ layout.cells ↔ layout.holds index = true := by
  rw [holds_iff]
  simp only [cells, List.mem_flatMap, List.mem_map, List.mem_range]
  constructor
  · rintro ⟨x, hx, y, hy, z, hz, rfl⟩
    simp only [GridIndex3.add_x, GridIndex3.add_y, GridIndex3.add_z]
    omega
  · rintro ⟨hx, hy, hz⟩
    refine ⟨(index.x - layout.globalMinIndex.x).toNat, by omega,
      (index.y - layout.globalMinIndex.y).toNat, by omega,
      (index.z - layout.globalMinIndex.z).toNat, by omega, ?_⟩
    apply GridIndex3.ext
    · simp only [GridIndex3.add_x]
      omega
    · simp only [GridIndex3.add_y]
      omega
    · simp only [GridIndex3.add_z]
      omega

theorem offset_eq_some {place : Nat} (h : layout.offset index = some place) :
    layout.holds index = true ∧
      place = RowMajor.address layout.dimensions.y.toNat layout.dimensions.z.toNat
        (index.x - layout.globalMinIndex.x).toNat (index.y - layout.globalMinIndex.y).toNat
        (index.z - layout.globalMinIndex.z).toNat := by
  unfold offset at h
  cases hHolds : layout.holds index with
  | false => simp [hHolds] at h
  | true =>
    refine ⟨rfl, ?_⟩
    simp only [hHolds, Bool.not_true, Bool.false_eq_true, if_false] at h
    split at h
    · cases h
    split at h
    · cases h
    split at h
    · cases h
    · exact (Option.some.inj h).symm

theorem offset_inj {index' : GridIndex3} {place : Nat} (h : layout.offset index = some place)
    (h' : layout.offset index' = some place) : index = index' := by
  obtain ⟨hHolds, hPlace⟩ := offset_eq_some h
  obtain ⟨hHolds', hPlace'⟩ := offset_eq_some h'
  obtain ⟨hx, hy, hz⟩ := holds_iff.mp hHolds
  obtain ⟨hx', hy', hz'⟩ := holds_iff.mp hHolds'
  obtain ⟨ex, ey, ez⟩ := RowMajor.address_inj (by omega) (by omega) (by omega) (by omega)
    (hPlace.symm.trans hPlace')
  apply GridIndex3.ext
  · omega
  · omega
  · omega

def count (layout : PlanningGridLayout D) : Nat :=
  layout.dimensions.x.toNat * layout.dimensions.y.toNat * layout.dimensions.z.toNat

theorem offset_lt {place : Nat} (h : layout.offset index = some place) : place < layout.count := by
  obtain ⟨hHolds, rfl⟩ := offset_eq_some h
  obtain ⟨hx, hy, hz⟩ := holds_iff.mp hHolds
  exact RowMajor.address_lt (by omega) (by omega) (by omega)

theorem offset_of_holds (hHolds : layout.holds index = true) (hCount : layout.count ≤ sizeMax) :
    ∃ place, layout.offset index = some place := by
  obtain ⟨hx, hy, hz⟩ := holds_iff.mp hHolds
  unfold offset
  simp only [hHolds, Bool.not_true, Bool.false_eq_true, if_false]
  generalize hX : (index.x - layout.globalMinIndex.x).toNat = x
  generalize hY : (index.y - layout.globalMinIndex.y).toNat = y
  generalize hZ : (index.z - layout.globalMinIndex.z).toNat = z
  unfold count at hCount
  generalize hSideX : layout.dimensions.x.toNat = sideX at hCount
  generalize hSideY : layout.dimensions.y.toNat = sideY at hCount ⊢
  generalize hSideZ : layout.dimensions.z.toNat = sideZ at hCount ⊢
  have hxLt : x < sideX := by omega
  have hyLt : y < sideY := by omega
  have hzLt : z < sideZ := by omega
  have hAddress := RowMajor.address_lt hxLt hyLt hzLt
  have hyz := RowMajor.pair_lt hyLt hzLt
  -- A row of cells is no longer than the slab it lies in.
  have hRow : x * sideY ≤ x * (sideY * sideZ) :=
    Nat.mul_le_mul_left x (Nat.le_mul_of_pos_right _ (by omega))
  have hSlab : (x + 1) * (sideY * sideZ) ≤ sideX * sideY * sideZ := by
    rw [Nat.mul_assoc]
    exact Nat.mul_le_mul_right _ hxLt
  rw [Nat.add_mul] at hSlab
  unfold RowMajor.address at hAddress
  have h₁ : ¬ (sizeMax - z) / sideZ < y := by
    rw [not_lt, Nat.le_div_iff_mul_le (by omega)]
    omega
  have h₂ : ¬ (sizeMax - (y * sideZ + z)) / sideY < x := by
    rw [not_lt, Nat.le_div_iff_mul_le (by omega)]
    omega
  have h₃ : ¬ (sizeMax - z) / sideZ < x * sideY + y := by
    rw [not_lt, Nat.le_div_iff_mul_le (by omega)]
    omega
  rw [if_neg h₁, if_neg h₂, if_neg h₃]
  exact ⟨_, rfl⟩

/-- Every place of the array is that of just one cell. -/
theorem offset_unique_iff {place : Nat} (hCount : layout.count ≤ sizeMax) :
    (∃! index, layout.offset index = some place) ↔ place < layout.count := by
  refine ⟨fun ⟨_, h, _⟩ => offset_lt h, fun h => ?_⟩
  obtain ⟨x, hx, y, hy, z, hz, rfl⟩ := RowMajor.exists_address h
  let index := layout.globalMinIndex + ⟨x, y, z⟩
  have hHolds : layout.holds index = true := holds_iff.mpr (by simp [index]; omega)
  obtain ⟨place, hPlace⟩ := offset_of_holds hHolds hCount
  obtain rfl : place = _ := by simpa [index] using (offset_eq_some hPlace).2
  exact ⟨index, hPlace, fun _ hOther => offset_inj hOther hPlace⟩

theorem offset_unique_row : ∃! index, (⟨(), ⟨-1, 0, 0⟩, ⟨3, 1, 1⟩, ⟨(), (), ()⟩, ⟨(), (), ()⟩⟩ :
    PlanningGridLayout Unit).offset index = some 2 := (offset_unique_iff (by decide)).mpr (by decide)

end PlanningGridLayout

/-! ## What validation guarantees -/

section Accepted
variable {D : Type} {total : Nat}

theorem countAxis_ok {countOverflow rangeOverflow : String} {count : Nat}
    {globalMin dimension : Int}
    (h : countAxis countOverflow rangeOverflow count globalMin dimension = .ok total) :
    total = count * dimension.toNat ∧ count ≤ sizeMax / dimension.toNat ∧
      globalMin + dimension - 1 ≤ intMax := by
  unfold countAxis at h
  split at h
  · cases h
  · rename_i hCount
    dsimp only at h
    split at h
    · cases h
    · rename_i hRange
      simp only [Bool.or_eq_true, decide_eq_true_eq, not_or, not_lt] at hRange
      exact ⟨(Except.ok.inj h).symm, not_lt.mp hCount, hRange.2⟩

section
variable {layout : PlanningGridLayout D} (countOverflow rangeOverflow : String)

theorem voxelCount_axes {countOverflow rangeOverflow : String}
    (h : voxelCount layout countOverflow rangeOverflow = .ok total) :
    ∃ first second,
      countAxis countOverflow rangeOverflow 1 layout.globalMinIndex.x layout.dimensions.x = .ok first ∧
      countAxis countOverflow rangeOverflow first layout.globalMinIndex.y layout.dimensions.y =
        .ok second ∧
      countAxis countOverflow rangeOverflow second layout.globalMinIndex.z layout.dimensions.z =
        .ok total := by
  unfold voxelCount at h
  cases hx : countAxis countOverflow rangeOverflow 1 layout.globalMinIndex.x layout.dimensions.x with
  | error e => simp [hx, bind, Except.bind] at h
  | ok first =>
    cases hy : countAxis countOverflow rangeOverflow first layout.globalMinIndex.y
        layout.dimensions.y with
    | error e => simp [hx, hy, bind, Except.bind] at h
    | ok second =>
      simp only [hx, hy, bind, Except.bind] at h
      exact ⟨first, second, rfl, hy, h⟩

/-- The loop over the axes computes the number of cells, which fits `size_t`. -/
theorem voxelCount_ok {countOverflow rangeOverflow : String}
    (h : voxelCount layout countOverflow rangeOverflow = .ok total) :
    total = layout.count ∧ layout.count ≤ sizeMax := by
  obtain ⟨first, second, hx, hy, hz⟩ := voxelCount_axes h
  obtain ⟨rfl, -, -⟩ := countAxis_ok hx
  obtain ⟨rfl, -, -⟩ := countAxis_ok hy
  obtain ⟨rfl, hFits, -⟩ := countAxis_ok hz
  have hTotal : 1 * layout.dimensions.x.toNat * layout.dimensions.y.toNat *
      layout.dimensions.z.toNat = layout.count := by rw [Nat.one_mul]; rfl
  refine ⟨hTotal, ?_⟩
  rw [← hTotal]
  exact (Nat.mul_le_mul_right _ hFits).trans (Nat.div_mul_le_self _ _)

theorem countAxis_eq_ok {count : Nat}
    {globalMin dimension : Int} (hPos : 0 < dimension) (hCount : count * dimension.toNat ≤ sizeMax)
    (hRange : fitsInt (globalMin + dimension - 1) = true) :
    countAxis countOverflow rangeOverflow count globalMin dimension = .ok (count * dimension.toNat) := by
  have hFits : ¬ sizeMax / dimension.toNat < count := by
    rw [not_lt, Nat.le_div_iff_mul_le (by omega)]
    exact hCount
  simp only [fitsInt, Bool.and_eq_true, decide_eq_true_eq] at hRange
  unfold countAxis
  rw [if_neg hFits]
  rw [if_neg]
  simp only [Bool.or_eq_true, decide_eq_true_eq]
  omega

theorem voxelCount_eq_ok
    (hx : 0 < layout.dimensions.x) (hy : 0 < layout.dimensions.y) (hz : 0 < layout.dimensions.z)
    (hCount : layout.count ≤ sizeMax)
    (hRangeX : fitsInt (layout.globalMinIndex.x + layout.dimensions.x - 1) = true)
    (hRangeY : fitsInt (layout.globalMinIndex.y + layout.dimensions.y - 1) = true)
    (hRangeZ : fitsInt (layout.globalMinIndex.z + layout.dimensions.z - 1) = true) :
    voxelCount layout countOverflow rangeOverflow = .ok layout.count := by
  have hxy : layout.dimensions.x.toNat * layout.dimensions.y.toNat ≤ sizeMax :=
    (Nat.le_mul_of_pos_right _ (by omega)).trans hCount
  have hxOnly : layout.dimensions.x.toNat ≤ sizeMax :=
    (Nat.le_mul_of_pos_right _ (by omega)).trans hxy
  unfold voxelCount
  rw [countAxis_eq_ok countOverflow rangeOverflow hx (by rwa [Nat.one_mul]) hRangeX]
  simp only [bind, Except.bind, Nat.one_mul]
  rw [countAxis_eq_ok countOverflow rangeOverflow hy hxy hRangeY]
  exact countAxis_eq_ok countOverflow rangeOverflow hz hCount hRangeZ

end

variable [FloatOps D]

theorem validateLayout_ok {layout : PlanningGridLayout D} {name : String}
    (h : validateLayout layout name = .ok total) :
    total = layout.count ∧ layout.count ≤ sizeMax ∧ dimensionsInvalid layout = false := by
  unfold validateLayout at h
  split at h
  · cases h
  · rename_i hGeometry
    obtain ⟨hTotal, hFits⟩ := voxelCount_ok h
    simp only [Bool.or_eq_true, not_or, Bool.not_eq_true] at hGeometry
    exact ⟨hTotal, hFits, hGeometry.1.1.1⟩

theorem validatePatchLayout_ok {layout : PlanningGridLayout D} {name : String}
    (h : validatePatchLayout layout name = .ok total) :
    total = layout.count ∧ layout.count ≤ sizeMax := by
  unfold validatePatchLayout at h
  split at h
  · cases h
  · exact voxelCount_ok h

structure GridAccepted (grid : PlanningGrid D) (identity : WorldSnapshotIdentity) : Prop where
  baseLayout : validateLayout grid.baseLayout "base layout" = .ok grid.baseLayout.count
  inflatedLayout :
    validateLayout grid.inflated.layout "inflated layout" = .ok grid.inflated.layout.count
  baseLength : grid.baseState.length = grid.baseLayout.count
  occupiedLength : grid.inflated.occupied.length = grid.inflated.layout.count
  unknownLength : grid.unknownInflationEnabled = true →
    grid.inflated.unknown.length = grid.inflated.layout.count
  unknownEmpty : grid.unknownInflationEnabled = false → grid.inflated.unknown = []
  stored : grid.baseState.all storedByte = true
  offsets : grid.nearestOffsets.isNone = false
  metadata : metadataInvalid grid identity = false

variable {identity : WorldSnapshotIdentity}

theorem sizes_iff {enabled : Bool} {base occupied unknown : List UInt8} {baseCount inflatedCount : Nat} :
    (base.length != baseCount || occupied.length != inflatedCount ||
      (enabled && unknown.length != inflatedCount) || (!enabled && !unknown.isEmpty)) = false ↔
    base.length = baseCount ∧ occupied.length = inflatedCount ∧
      (enabled = true → unknown.length = inflatedCount) ∧ (enabled = false → unknown = []) := by
  cases enabled <;> simp [and_assoc]

theorem validated_iff {grid grid' : PlanningGrid D} :
    validated grid identity = .ok grid' ↔ grid' = grid ∧ GridAccepted grid identity := by
  constructor
  · intro h
    unfold validated at h
    cases hBase : validateLayout grid.baseLayout "base layout" with
    | error e => simp [hBase, bind, Except.bind] at h
    | ok baseCount =>
      cases hInflated : validateLayout grid.inflated.layout "inflated layout" with
      | error e => simp [hBase, hInflated, bind, Except.bind] at h
      | ok inflatedCount =>
        simp only [hBase, hInflated, bind, Except.bind] at h
        split at h
        · cases h
        rename_i hSizes
        split at h
        · cases h
        rename_i hStored
        split at h
        · cases h
        rename_i hOffsets
        split at h
        · cases h
        rename_i hMetadata
        obtain ⟨rfl, -, -⟩ := validateLayout_ok hBase
        obtain ⟨rfl, -, -⟩ := validateLayout_ok hInflated
        obtain ⟨hBaseLength, hOccupied, hUnknown, hEmpty⟩ :=
          sizes_iff.mp (Bool.eq_false_of_not_eq_true hSizes)
        exact ⟨(Except.ok.inj h).symm, hBase, hInflated, hBaseLength, hOccupied, hUnknown, hEmpty,
          by simpa using hStored, Bool.eq_false_of_not_eq_true hOffsets, by simpa using hMetadata⟩
  · rintro ⟨rfl, h⟩
    have hSizes := sizes_iff.mpr ⟨h.baseLength, h.occupiedLength, h.unknownLength, h.unknownEmpty⟩
    unfold validated
    simp only [h.baseLayout, h.inflatedLayout, bind, Except.bind, hSizes, h.stored, h.offsets,
      h.metadata, Bool.not_true, Bool.false_eq_true, if_false]

structure PatchAccepted (patch : PlanningGridPatch D) (parentIdentity : WorldSnapshotIdentity)
    (root : PlanningGrid D) (identity : WorldSnapshotIdentity) : Prop where
  newer : newerSuccessor parentIdentity identity = true
  baseCount : patch.baseLayout.count ≤ sizeMax
  inflatedCount : patch.inflated.layout.count ≤ sizeMax
  baseLength : patch.baseState.length = patch.baseLayout.count
  occupiedLength : patch.inflated.occupied.length = patch.inflated.layout.count
  unknownLength : root.unknownInflationEnabled = true →
    patch.inflated.unknown.length = patch.inflated.layout.count
  unknownEmpty : root.unknownInflationEnabled = false → patch.inflated.unknown = []
  stored : patch.baseState.all storedByte = true

theorem patchAccepted_of_validatedPatch {patch patch' : PlanningGridPatch D}
    {parentIdentity : WorldSnapshotIdentity} {root : PlanningGrid D}
    (h : validatedPatch patch parentIdentity root identity = .ok patch') :
    patch' = patch ∧ PatchAccepted patch parentIdentity root identity := by
  unfold validatedPatch at h
  split at h
  · cases h
  rename_i hNewer
  cases hBase : validatePatchLayout patch.baseLayout "base patch" with
  | error e => simp [hBase, bind, Except.bind] at h
  | ok baseCount =>
    cases hInflated : validatePatchLayout patch.inflated.layout "inflated patch" with
    | error e => simp [hBase, hInflated, bind, Except.bind] at h
    | ok inflatedCount =>
      simp only [hBase, hInflated, bind, Except.bind] at h
      split at h
      · cases h
      rename_i hSizes
      split at h
      · cases h
      rename_i hStored
      obtain ⟨rfl, hBaseFits⟩ := validatePatchLayout_ok hBase
      obtain ⟨rfl, hInflatedFits⟩ := validatePatchLayout_ok hInflated
      simp only [Bool.or_assoc, Bool.or_eq_true, not_or, Bool.not_eq_true] at hSizes
      have hMatch := sizes_iff.mp (by simpa only [Bool.or_assoc, Bool.or_eq_false_iff] using hSizes.2.2)
      exact ⟨(Except.ok.inj h).symm, by simpa using hNewer, hBaseFits, hInflatedFits, hMatch.1,
        hMatch.2.1, hMatch.2.2.1, hMatch.2.2.2, by simpa using hStored⟩

end Accepted

/-! ## Mapping world snapshots -/

namespace Vec3
variable {D : Type} [FloatOps D]

def cwiseMax (a b : Vec3 D) : Vec3 D := ⟨max a.x b.x, max a.y b.y, max a.z b.z⟩

def cwiseMin (a b : Vec3 D) : Vec3 D := ⟨min a.x b.x, min a.y b.y, min a.z b.z⟩

def cwiseAbs (a : Vec3 D) : Vec3 D := ⟨abs a.x, abs a.y, abs a.z⟩

def minCoeff (a : Vec3 D) : D := min (min a.x a.y) a.z

end Vec3

structure WorldChangeRecord (D : Type) where
  identity : WorldSnapshotIdentity
  affectedRegion : AxisAlignedBox D
  affectsWholeWorld : Bool
deriving DecidableEq

structure WorldChangeHistory (D : Type) where
  records : List (WorldChangeRecord D)
deriving DecidableEq

structure GridBounds where
  globalMinIndex : GridIndex3
  dimensions : GridIndex3
deriving DecidableEq

def GridBounds.valid (bounds : GridBounds) : Bool :=
  0 < bounds.dimensions.x && 0 < bounds.dimensions.y && 0 < bounds.dimensions.z

structure WorldGeometry (D : Type) where
  evidenceResolutionM : D
  inflatedResolutionM : D
  occupiedInflationRadiusM : D
  effectiveVirtualGroundM : D
  effectiveVirtualCeilingM : D
  localCenterM : Vec3 D
  localSizeM : Vec3 D
  virtualGroundCeilingEnabled : Bool
  evidenceBounds : GridBounds
  inflatedBounds : GridBounds
deriving DecidableEq

structure WorldModelDiagnosticSnapshot (D : Type) where
  identity : WorldSnapshotIdentity
  geometry : WorldGeometry D
  unknownInflationEnabled : Bool
  virtualGroundCeilingEnabled : Bool
  virtualGroundM : D
  virtualCeilingM : D
  inflatedVirtualGroundM : D
  inflatedVirtualCeilingM : D
  evidenceStates : List UInt8
  inflatedStates : List UInt8
  nearestOffsets : List GridIndex3
  complete : Bool
deriving DecidableEq

section Positions
variable {D : Type}

/-- One axis of `checkedPositionToIndex`. -/
def checkedAxisIndex [FloatOps D] (coordinate resolution : D) : Option Int :=
  let scaled := coordinate / resolution
  if !isFinite scaled then none
  else
    let floored := floor scaled
    if floored < ofInt intMin || ofInt intMax < floored then none else some (toInt floored)

def checkedPositionToIndex [FloatOps D] (point : Vec3 D) (resolution : D) : Option GridIndex3 :=
  if !point.allFinite || !isFinite resolution || resolution ≤ lit 0 then none
  else do
    let x ← checkedAxisIndex point.x resolution
    let y ← checkedAxisIndex point.y resolution
    let z ← checkedAxisIndex point.z resolution
    return ⟨x, y, z⟩

def checkedOffset [FloatOps D] (layout : PlanningGridLayout D) (point : Vec3 D) : Option Nat :=
  match checkedPositionToIndex point layout.resolutionM with
  | some index => layout.offset index
  | none => none

variable [Floating D] [Narrowing D]

/-- One axis of `indexToPosition`: the centre of a cell, in `long double`. -/
def cellCenter (limits : NumericLimits D) (resolution : D) (index : Int) : Option D :=
  let position : Floating.LongDouble D := (ofInt index + lit (1 / 2)) * Floating.widen resolution
  if !isFinite position || position < Floating.widen limits.lowest ||
      Floating.widen limits.max < position then none
  else some (Narrowing.narrow position)

def centerOf (limits : NumericLimits D) (resolution : D) (index : GridIndex3) : Vec3 D :=
  if !isFinite resolution || resolution ≤ lit 0 then Vec3.zero
  else
    match cellCenter limits resolution index.x, cellCenter limits resolution index.y,
        cellCenter limits resolution index.z with
    | some x, some y, some z => ⟨x, y, z⟩
    | _, _, _ => Vec3.zero

end Positions

/-! ## Snapshots -/

inductive MappingWorldSnapshot (D : Type) where
  | root (grid : PlanningGrid D) (identity : WorldSnapshotIdentity)
      (changeHistory : Option (WorldChangeHistory D))
  | patched (parent : MappingWorldSnapshot D) (patch : PlanningGridPatch D)
      (identity : WorldSnapshotIdentity) (changeHistory : Option (WorldChangeHistory D))
deriving DecidableEq

namespace MappingWorldSnapshot
variable {D : Type}

def identity : MappingWorldSnapshot D → WorldSnapshotIdentity
  | root _ identity _ => identity
  | patched _ _ identity _ => identity

def changeHistory : MappingWorldSnapshot D → Option (WorldChangeHistory D)
  | root _ _ changeHistory => changeHistory
  | patched _ _ _ changeHistory => changeHistory

def rootGrid : MappingWorldSnapshot D → PlanningGrid D
  | root grid _ _ => grid
  | patched parent _ _ _ => parent.rootGrid

def patchDepth : MappingWorldSnapshot D → Nat
  | root _ _ _ => 0
  | patched parent _ _ _ => parent.patchDepth + 1

def Accepted [FloatOps D] : MappingWorldSnapshot D → Prop
  | root grid identity _ => validated grid identity = .ok grid
  | patched parent patch identity _ => parent.Accepted ∧
      validatedPatch patch parent.identity parent.rootGrid identity = .ok patch

def inflatedOccupied (index : GridIndex3) : MappingWorldSnapshot D → UInt8
  | patched parent patch _ _ =>
    match patch.inflated.layout.offset index with
    | some patchOffset => patch.inflated.occupied.getD patchOffset 0
    | none => parent.inflatedOccupied index
  | root grid _ _ =>
    match grid.inflated.layout.offset index with
    | some rootOffset => grid.inflated.occupied.getD rootOffset 0
    | none => 1

def inflatedUnknown (index : GridIndex3) : MappingWorldSnapshot D → UInt8
  | patched parent patch _ _ =>
    match patch.inflated.layout.offset index with
    | some patchOffset =>
      if patch.inflated.unknown.isEmpty then parent.inflatedUnknown index
      else patch.inflated.unknown.getD patchOffset 0
    | none => parent.inflatedUnknown index
  | root grid _ _ =>
    match grid.inflated.layout.offset index with
    | some rootOffset =>
      if grid.inflated.unknown.isEmpty then 1 else grid.inflated.unknown.getD rootOffset 0
    | none => 1

def baseState (index : GridIndex3) : MappingWorldSnapshot D → CellState
  | patched parent patch _ _ =>
    match patch.baseLayout.offset index with
    | some patchOffset => productCell (patch.baseState.getD patchOffset 0)
    | none => parent.baseState index
  | root grid _ _ =>
    match grid.baseLayout.offset index with
    | some cellOffset => productCell (grid.baseState.getD cellOffset 0)
    | none => .outOfMap

def geometry (s : MappingWorldSnapshot D) : WorldGeometry D :=
  let grid := s.rootGrid
  { evidenceResolutionM := grid.baseLayout.resolutionM
    inflatedResolutionM := grid.inflated.layout.resolutionM
    occupiedInflationRadiusM := grid.occupiedInflationRadiusM
    effectiveVirtualGroundM := grid.virtualGroundM
    effectiveVirtualCeilingM := grid.virtualCeilingM
    localCenterM := grid.baseLayout.localCenterM
    localSizeM := grid.baseLayout.localSizeM
    virtualGroundCeilingEnabled := grid.virtualGroundCeilingEnabled
    evidenceBounds := ⟨grid.baseLayout.globalMinIndex, grid.baseLayout.dimensions⟩
    inflatedBounds := ⟨grid.inflated.layout.globalMinIndex, grid.inflated.layout.dimensions⟩ }

def layerResolution (s : MappingWorldSnapshot D) (layer : GridLayer) : D :=
  if layer = .inflated then s.rootGrid.inflated.layout.resolutionM
  else s.rootGrid.baseLayout.resolutionM

section Classification
variable [FloatOps D]

/-- The evidence grid is the window of the world; the inflated grid may reach further. -/
def containsLayer (s : MappingWorldSnapshot D) (point : Vec3 D) (layer : GridLayer) : Bool :=
  if !point.allFinite then false
  else if (checkedOffset s.rootGrid.baseLayout point).isNone then false
  else if layer = .evidence then true
  else (checkedOffset s.rootGrid.inflated.layout point).isSome

def positionToIndex (s : MappingWorldSnapshot D) (point : Vec3 D) (layer : GridLayer) :
    GridIndex3 :=
  (checkedPositionToIndex point (s.layerResolution layer)).getD GridIndex3.zero

def classify (s : MappingWorldSnapshot D) (point : Vec3 D) (layer : GridLayer) : CellState :=
  let grid := s.rootGrid
  if !point.allFinite then .outOfMap
  else if layer = .evidence then
    if grid.virtualGroundCeilingEnabled &&
        (point.z ≤ grid.virtualGroundM || grid.virtualCeilingM ≤ point.z) then .occupied
    else if !s.containsLayer point .evidence then .outOfMap
    else s.baseState (s.positionToIndex point .evidence)
  else if !s.containsLayer point .inflated then .outOfMap
  else if grid.virtualGroundCeilingEnabled &&
      (point.z ≤ grid.inflatedVirtualGroundM || grid.inflatedVirtualCeilingM ≤ point.z) then .occupied
  else
    let inflatedIndex := s.positionToIndex point .inflated
    match grid.inflated.layout.offset inflatedIndex with
    | none => .outOfMap
    | some _ =>
      if s.inflatedOccupied inflatedIndex != 0 then .occupied
      else if grid.unknownInflationEnabled then
        if s.inflatedUnknown inflatedIndex != 0 then .unknown else .knownFree
      else s.baseState (s.positionToIndex point .evidence)

def contains (s : MappingWorldSnapshot D) (point : Vec3 D) : Bool :=
  if !point.allFinite then false else (checkedOffset s.rootGrid.baseLayout point).isSome

variable {s : MappingWorldSnapshot D}

theorem index_of_containsLayer {point : Vec3 D} {layer : GridLayer}
    (h : s.containsLayer point layer = true) :
    checkedPositionToIndex point s.rootGrid.baseLayout.resolutionM =
        some (s.positionToIndex point .evidence) ∧
      (s.rootGrid.baseLayout.offset (s.positionToIndex point .evidence)).isSome = true := by
  unfold containsLayer at h
  split at h
  · cases h
  split at h
  · cases h
  rename_i hBase
  unfold checkedOffset at hBase
  have hResolution : s.layerResolution .evidence = s.rootGrid.baseLayout.resolutionM := rfl
  unfold positionToIndex
  rw [hResolution]
  cases hIndex : checkedPositionToIndex point s.rootGrid.baseLayout.resolutionM with
  | none => simp [hIndex] at hBase
  | some index =>
    simp only [hIndex] at hBase
    rw [Option.getD_some]
    exact ⟨rfl, Option.isSome_iff_ne_none.mpr (fun hNone => hBase (by simp [hNone]))⟩

end Classification

section Queries
variable [Floating D] [Narrowing D] (limits : NumericLimits D)

def indexToPosition (s : MappingWorldSnapshot D) (index : GridIndex3) (layer : GridLayer) : Vec3 D :=
  centerOf limits (s.layerResolution layer) index

/-- The loop of `nearestNotOccupied` over the offsets. -/
def firstNotOccupied (s : MappingWorldSnapshot D) (start : Vec3 D) (startIndex : GridIndex3)
    (layer : GridLayer) (maximumDistanceM : D) : List GridIndex3 → Option (Vec3 D)
  | [] => none
  | delta :: rest =>
    match checkedIndexAdd startIndex delta with
    | none => s.firstNotOccupied start startIndex layer maximumDistanceM rest
    | some candidateIndex =>
      let candidate := s.indexToPosition limits candidateIndex .evidence
      if maximumDistanceM < (candidate - start).norm then none
      else if isCellTraversable (s.classify candidate layer) .allowUnknown then some candidate
      else s.firstNotOccupied start startIndex layer maximumDistanceM rest

def nearestNotOccupied (s : MappingWorldSnapshot D) (start : Vec3 D) (layer : GridLayer)
    (maximumDistanceM : D) : Option (Vec3 D) :=
  if !start.allFinite || !isFinite maximumDistanceM || maximumDistanceM < lit 0 then none
  else
    match checkedPositionToIndex start s.rootGrid.baseLayout.resolutionM with
    | none => none
    | some startIndex =>
      s.firstNotOccupied limits start startIndex layer maximumDistanceM
        (s.rootGrid.nearestOffsets.getD [])

def clampToLocalBounds (s : MappingWorldSnapshot D) (requested : AxisAlignedBox D) :
    AxisAlignedBox D :=
  if !requested.minimum.allFinite || !requested.maximum.allFinite ||
      (requested.maximum - requested.minimum).minCoeff ≤ lit 0 then
    ⟨requested.maximum, requested.maximum⟩
  else
    let grid := s.rootGrid
    let minimumCenter := s.indexToPosition limits grid.baseLayout.globalMinIndex .evidence
    match checkedIndexAdd grid.baseLayout.globalMinIndex
        (grid.baseLayout.dimensions - GridIndex3.ones) with
    | none => ⟨requested.maximum, requested.maximum⟩
    | some maximumIndex =>
      let maximumCenter := s.indexToPosition limits maximumIndex .evidence
      let minimum := requested.minimum.cwiseMax minimumCenter
      let maximum := requested.maximum.cwiseMin maximumCenter
      if grid.virtualGroundCeilingEnabled then
        ⟨{ minimum with z := max minimum.z grid.virtualGroundM },
          { maximum with z := min maximum.z grid.virtualCeilingM }⟩
      else ⟨minimum, maximum⟩

def indexRange (first last : Int) : List Int :=
  (List.range (last + 1 - first).toNat).map fun k => first + (k : Int)

def observedOccupiedPoints (s : MappingWorldSnapshot D) (requested : AxisAlignedBox D) :
    List (Vec3 D) :=
  let box := s.clampToLocalBounds limits requested
  if (box.maximum - box.minimum).minCoeff ≤ lit 0 then []
  else
    let minimum := s.positionToIndex box.minimum .evidence
    let maximum := s.positionToIndex box.maximum .evidence
    (indexRange minimum.x maximum.x).flatMap fun x =>
      (indexRange minimum.y maximum.y).flatMap fun y =>
        (indexRange minimum.z maximum.z).filterMap fun z =>
          let index : GridIndex3 := ⟨x, y, z⟩
          if (s.rootGrid.baseLayout.offset index).isSome && s.baseState index == .occupied then
            some (s.indexToPosition limits index .evidence)
          else none

/-- The states of the cells inside the bounds, each taken at the centre of its cell. -/
def materialize (s : MappingWorldSnapshot D) (bounds : GridBounds) (layer : GridLayer) :
    Option (List UInt8) :=
  ((List.range bounds.dimensions.x.toNat).flatMap fun (x : Nat) =>
    (List.range bounds.dimensions.y.toNat).flatMap fun (y : Nat) =>
      (List.range bounds.dimensions.z.toNat).map fun (z : Nat) =>
        bounds.globalMinIndex + ⟨x, y, z⟩).mapM fun index =>
    let state := s.classify (s.indexToPosition limits index layer) layer
    if !isValidCellState state then none else some state.toByte

def cellCount (bounds : GridBounds) : Option Nat :=
  [bounds.dimensions.x, bounds.dimensions.y, bounds.dimensions.z].foldlM (fun count dimension =>
    if dimension.toNat == 0 || sizeMax / dimension.toNat < count then none
    else some (count * dimension.toNat)) 1

def diagnosticSnapshot (s : MappingWorldSnapshot D) : Option (WorldModelDiagnosticSnapshot D) :=
  let worldGeometry := s.geometry
  let grid := s.rootGrid
  if !worldGeometry.evidenceBounds.valid || !worldGeometry.inflatedBounds.valid then none
  else do
    let evidenceCount ← cellCount worldGeometry.evidenceBounds
    let inflatedCount ← cellCount worldGeometry.inflatedBounds
    let evidenceStates ← s.materialize limits worldGeometry.evidenceBounds .evidence
    let inflatedStates ← s.materialize limits worldGeometry.inflatedBounds .inflated
    let complete := evidenceStates.length == evidenceCount && inflatedStates.length == inflatedCount
    if !complete then none
    else some {
        identity := s.identity
        geometry := worldGeometry
        unknownInflationEnabled := grid.unknownInflationEnabled
        virtualGroundCeilingEnabled := grid.virtualGroundCeilingEnabled
        virtualGroundM := grid.virtualGroundM
        virtualCeilingM := grid.virtualCeilingM
        inflatedVirtualGroundM := grid.inflatedVirtualGroundM
        inflatedVirtualCeilingM := grid.inflatedVirtualCeilingM
        evidenceStates := evidenceStates
        inflatedStates := inflatedStates
        nearestOffsets := grid.nearestOffsets.getD []
        complete := complete }

end Queries

end MappingWorldSnapshot

end UavNavigation
