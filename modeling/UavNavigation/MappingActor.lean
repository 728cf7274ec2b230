import UavNavigation.ChangeHistory
import UavNavigation.Runs

/-!
# The mapping actor

`navigation_mapping/src/mapping_actor.cpp`: the sole owner of the mutable map. An
observation updates the map, adds a record to the change history and, when a
publication is due, builds a snapshot: a patch over the current one, or a full grid.

The map itself is a parameter, `MappingMap`. What is left of it after an exception
of its own is not modelled: the actor is poisoned then and never reads it again.
-/

namespace UavNavigation

set_option autoImplicit false

open FloatOps

inductive MapUpdateOutcome where
  | updated
  | accumulated
  | slideOnly
  | emptyCloud
  | callbackOwned
  | belowGround
  | aboveCeiling
deriving DecidableEq

def worldUpdateAdvanced (outcome : MapUpdateOutcome) : Bool :=
  outcome == .updated || outcome == .slideOnly

def worldUpdateOutcomeName : MapUpdateOutcome → String
  | .updated => "UPDATED"
  | .accumulated => "ACCUMULATED"
  | .slideOnly => "SLIDE_ONLY"
  | .emptyCloud => "EMPTY_CLOUD"
  | .callbackOwned => "CALLBACK_OWNED"
  | .belowGround => "BELOW_GROUND"
  | .aboveCeiling => "ABOVE_CEILING"

inductive MappingObservationRejectionReason where
  | none
  | malformedObservation
  | missingSensorOrigin
  | sensorOriginContractMismatch
deriving DecidableEq

inductive MappingError where
  | logicError (what : String)
  | invalidArgument (what : String)
  | runtimeError (what : String)
  | observationRejected (reason : MappingObservationRejectionReason)
  | snapshot (error : SnapshotError)
  | backend
deriving DecidableEq

structure PointXYZI (D : Type) where
  x : D
  y : D
  z : D
  intensity : D
deriving DecidableEq

def PointXYZI.allFinite {D : Type} [FloatOps D] (point : PointXYZI D) : Bool :=
  isFinite point.x && isFinite point.y && isFinite point.z && isFinite point.intensity

namespace Quaternion
variable {D : Type} [FloatOps D]

def scale (q : Quaternion D) : D := max (max (max (abs q.x) (abs q.y)) (abs q.z)) (abs q.w)

def finiteNonzeroQuaternion (q : Quaternion D) : Bool :=
  q.allFinite && isFinite q.scale && lit (1 / 1000000) < q.scale

end Quaternion

structure Pose (D : Type) where
  position : Vec3 D
  orientation : Quaternion D
deriving DecidableEq

structure Odometry (D : Type) where
  stampSec : Int
  stampNanosec : Nat
  frameId : String
  childFrameId : String
  pose : Pose D
deriving DecidableEq

structure MappingObservation (D : Type) where
  cloud : Option (List (PointXYZI D))
  correctedOdometry : Odometry D
  localizationEpoch : Nat
  scanSequence : Nat
  stampNs : Int
  freeSpaceEndpoints : Option (List (PointXYZI D))
  sensorOriginWorld : Vec3 D
  sensorOriginLocalizationEpoch : Nat
  sensorOriginStampNs : Int
deriving DecidableEq

structure MapConfig (D : Type) where
  resolution : D
  inflationResolution : D
  inflationStep : Int
  unkInflationStep : Int
deriving DecidableEq

structure RaycastDiagnostics (D : Type) where
  changedRegionMin : Vec3 D
  changedRegionMax : Vec3 D
  changedRegionCoversWorld : Bool
  uniqueUpdateCacheVoxelCount : Nat
  allocatedVoxelCount : Nat
  basePlanningStateChangeCount : Nat
  inflatedPlanningStateChangeCount : Nat
deriving DecidableEq

structure PlanningGridRegionSizeEstimate where
  baseCellCount : Nat
  inflatedCellCount : Nat
  ownedByteCount : Nat
  valid : Bool
deriving DecidableEq

/-- The operations of the map backend. `loadConfigAndInit` builds the map of a world
generation; there and in `updateMap`, `none` is an exception. -/
structure MappingMap (M D : Type) where
  loadConfigAndInit : Nat → Option M
  getMapConfig : M → MapConfig D
  updateMap : M → List (PointXYZI D) → List (PointXYZI D) → Pose D → Vec3 D →
    Option (M × MapUpdateOutcome × RaycastDiagnostics D)
  exportPlanningGrid : M → PlanningGrid D
  estimatePlanningGridRegionSize : M → AxisAlignedBox D → PlanningGridRegionSizeEstimate
  exportPlanningGridRegion : M → AxisAlignedBox D → PlanningGridPatch D

/-- `std::nextafter` towards either infinity. -/
structure Nextafter (D : Type) where
  down : D → D
  up : D → D

structure MappingSettings where
  snapshotPublicationPeriodNs : Int
  expectedWorldFrameId : String
  expectedBodyFrameId : String
deriving DecidableEq

def kWorldChangeHistoryRetention : Nat := 256

def kMaximumSnapshotPatchDepth : Nat := 8

section ChangeRecords
variable {D : Type} [FloatOps D]

def AxisAlignedBox.zero : AxisAlignedBox D := ⟨Vec3.zero, Vec3.zero⟩

def changeMargin (config : MapConfig D) : D :=
  let inflationRadius := config.inflationResolution *
    ofInt (Max.max config.inflationStep config.unkInflationStep)
  let quantizationShell := lit (1 / 2) * (config.resolution + config.inflationResolution)
  inflationRadius + quantizationShell

def enlargedAxis (next : Nextafter D) (margin changedMin changedMax : D) : Option (D × D) :=
  let minimum := changedMin - margin
  let maximum := changedMax + margin
  if !isFinite minimum || !isFinite maximum then none
  else some (next.down minimum, next.up maximum)

/-- The loop over the axes. It stops at an axis that overflows, with `true`, and leaves the
remaining sides of the box at zero. -/
def enlargedRegion (next : Nextafter D) (margin : D) (changedMin changedMax : Vec3 D) :
    AxisAlignedBox D × Bool :=
  match enlargedAxis next margin changedMin.x changedMax.x with
  | none => (.zero, true)
  | some (minX, maxX) =>
    match enlargedAxis next margin changedMin.y changedMax.y with
    | none => (⟨⟨minX, lit 0, lit 0⟩, ⟨maxX, lit 0, lit 0⟩⟩, true)
    | some (minY, maxY) =>
      match enlargedAxis next margin changedMin.z changedMax.z with
      | none => (⟨⟨minX, minY, lit 0⟩, ⟨maxX, maxY, lit 0⟩⟩, true)
      | some (minZ, maxZ) => (⟨⟨minX, minY, minZ⟩, ⟨maxX, maxY, maxZ⟩⟩, false)

def changeRecord (next : Nextafter D) (config : MapConfig D) (diagnostics : RaycastDiagnostics D)
    (identity : WorldSnapshotIdentity) : WorldChangeRecord D :=
  if diagnostics.changedRegionCoversWorld then ⟨identity, .zero, true⟩
  else
    let margin := changeMargin config
    let enlarged :=
      if !isFinite margin || margin < lit 0 || !diagnostics.changedRegionMin.allFinite ||
          !diagnostics.changedRegionMax.allFinite then (.zero, true)
      else enlargedRegion next margin diagnostics.changedRegionMin diagnostics.changedRegionMax
    ⟨identity, enlarged.1, enlarged.2 || !enlarged.1.valid⟩

def extendHistory (history : Option (WorldChangeHistory D)) (change : WorldChangeRecord D) :
    WorldChangeHistory D :=
  ⟨ChangeLog.retain kWorldChangeHistoryRetention change (WorldChangeHistory.recordsOf history)⟩

end ChangeRecords

structure MappingActor (M D : Type) where
  map : M
  fullSnapshotOwnedBytes : Nat := 0
  nearestOffsets : Option (List GridIndex3) := none
  currentSnapshot : Option (MappingWorldSnapshot D) := none
  localizationEpoch : Nat := 1
  worldGeneration : Nat := 1
  worldRevision : Nat := 0
  lastObservationStampNs : Int := 0
  lastScanSequence : Nat := 0
  poisoned : Bool := false
  changeHistory : Option (WorldChangeHistory D) := none
  pendingChangedRegion : AxisAlignedBox D
  pendingChangeCoversWorld : Bool := false

inductive SnapshotExportMode where
  | deferred
  | full
  | patch
deriving DecidableEq

inductive SnapshotFullExportReason where
  | none
  | noCurrentSnapshot
  | wholeWorldChanged
  | invalidChangedRegion
  | patchDepthLimit
  | emptyPatch
  | patchTooLarge
deriving DecidableEq

structure MappingUpdateResult (D : Type) where
  outcome : MapUpdateOutcome
  diagnostics : RaycastDiagnostics D
  snapshot : Option (MappingWorldSnapshot D) := none
  localizationEpoch : Nat
  worldGeneration : Nat
  worldRevision : Nat
  observationStampNs : Int
  snapshotExportMode : SnapshotExportMode := .deferred
  snapshotFullExportReason : SnapshotFullExportReason := .none
  snapshotPatchDepth : Nat := 0
  dirtyAabbVoxelCount : Nat

def PlanningGrid.ownedByteSize {D : Type} (grid : PlanningGrid D) : Nat :=
  grid.baseState.length + grid.inflated.occupied.length + grid.inflated.unknown.length

namespace MappingActor
variable {M D : Type}

section Construction
variable [FloatOps D] (backend : MappingMap M D)

/-- The constructor; `none` is an exception of the map. -/
def construct : Option (MappingActor M D) :=
  (backend.loadConfigAndInit 1).map fun map => { map := map, pendingChangedRegion := .zero }

/-- The root constructor of a snapshot, from a full export of the map. -/
def fullSnapshot (s : MappingActor M D) (identity : WorldSnapshotIdentity) :
    Except MappingError (MappingWorldSnapshot D) :=
  let grid := { backend.exportPlanningGrid s.map with nearestOffsets := s.nearestOffsets }
  match validated grid identity with
  | .error error => .error (.snapshot error)
  | .ok grid => .ok (.root grid identity s.changeHistory)

def initialSnapshot (s : MappingActor M D) :
    MappingActor M D × Except MappingError (MappingWorldSnapshot D) :=
  let exported := backend.exportPlanningGrid s.map
  let s := { s with
    fullSnapshotOwnedBytes := exported.ownedByteSize
    nearestOffsets := exported.nearestOffsets }
  match s.fullSnapshot backend ⟨s.localizationEpoch, s.worldGeneration, 0, 0⟩ with
  | .error error => (s, .error error)
  | .ok snapshot =>
    ({ s with
        currentSnapshot := some snapshot
        pendingChangedRegion := .zero
        pendingChangeCoversWorld := false }, .ok snapshot)

end Construction

section Admission
variable [Floating D] (settings : MappingSettings)

def validateObservation (s : MappingActor M D) (observation : MappingObservation D) :
    Except MappingError (List (PointXYZI D)) :=
  let odometry := observation.correctedOdometry
  let endpoints := observation.freeSpaceEndpoints.getD []
  match observation.cloud with
  | none => .error (.invalidArgument "mapping observation is malformed")
  | some cloud =>
    if cloud.isEmpty || observation.stampNs ≤ 0 || observation.localizationEpoch == 0 then
      .error (.invalidArgument "mapping observation is malformed")
    else if rosTimeToNanoseconds odometry.stampSec odometry.stampNanosec !=
        some observation.stampNs then
      .error (.invalidArgument "mapping observation and corrected odometry timestamps differ")
    else if odometry.frameId.isEmpty || odometry.childFrameId.isEmpty ||
        (!settings.expectedWorldFrameId.isEmpty &&
          odometry.frameId != settings.expectedWorldFrameId) ||
        (!settings.expectedBodyFrameId.isEmpty &&
          odometry.childFrameId != settings.expectedBodyFrameId) then
      .error (.invalidArgument "mapping observation frame contract is invalid")
    else if !odometry.pose.position.allFinite then
      .error (.invalidArgument "mapping observation position is invalid")
    else if !odometry.pose.orientation.finiteNonzeroQuaternion then
      .error (.invalidArgument "mapping observation pose is invalid")
    else if !cloud.all PointXYZI.allFinite then
      .error (.invalidArgument "mapping point cloud contains a non-finite point")
    else if !endpoints.all PointXYZI.allFinite then
      .error (.invalidArgument "mapping free-space endpoint cloud contains a non-finite point")
    else if !observation.sensorOriginWorld.allFinite then
      .error (.observationRejected .sensorOriginContractMismatch)
    else if observation.sensorOriginLocalizationEpoch != observation.localizationEpoch ||
        observation.sensorOriginStampNs != observation.stampNs then
      .error (.observationRejected .sensorOriginContractMismatch)
    else if observation.localizationEpoch == s.localizationEpoch &&
        observation.stampNs ≤ s.lastObservationStampNs then
      .error (.runtimeError "mapping observation timestamp is not increasing")
    else if observation.localizationEpoch == s.localizationEpoch &&
        observation.scanSequence != 0 && s.lastScanSequence != 0 &&
        observation.scanSequence ≤ s.lastScanSequence then
      .error (.runtimeError "mapping observation sequence is not increasing")
    else .ok cloud

def mapPose (observation : MappingObservation D) : Pose D :=
  let pose := observation.correctedOdometry.pose
  ⟨pose.position, (pose.orientation.divide pose.orientation.scale).normalized⟩

end Admission

/-! ## One update -/

section Update
variable [Floating D] (backend : MappingMap M D) (next : Nextafter D) (settings : MappingSettings)

/-- A new localization epoch starts a new generation on a fresh map. -/
def enterEpoch (s : MappingActor M D) (observation : MappingObservation D) :
    Except MappingError (MappingActor M D) :=
  if s.localizationEpoch < observation.localizationEpoch then
    if s.worldGeneration == 2 ^ 64 - 1 then
      .error (.runtimeError "mapping world generation exhausted")
    else
      match backend.loadConfigAndInit (s.worldGeneration + 1) with
      | none => .error .backend
      | some replacement =>
        .ok { s with
          map := replacement
          localizationEpoch := observation.localizationEpoch
          worldGeneration := s.worldGeneration + 1
          worldRevision := 0
          lastObservationStampNs := 0
          lastScanSequence := 0
          changeHistory := none
          currentSnapshot := none
          pendingChangedRegion := .zero
          pendingChangeCoversWorld := false }
  else .ok s

def nextIdentity (s : MappingActor M D) (observation : MappingObservation D) :
    WorldSnapshotIdentity :=
  ⟨s.localizationEpoch, s.worldGeneration, s.worldRevision + 1, observation.stampNs⟩

def mergePending (pending : AxisAlignedBox D) (change : AxisAlignedBox D) : AxisAlignedBox D :=
  if !pending.valid then change
  else ⟨pending.minimum.cwiseMin change.minimum, pending.maximum.cwiseMax change.maximum⟩

/-- The map has been updated: the next revision, its record and the pending region. -/
def recordChange (s : MappingActor M D) (observation : MappingObservation D)
    (diagnostics : RaycastDiagnostics D) : MappingActor M D :=
  let change := changeRecord next (backend.getMapConfig s.map) diagnostics
    (s.nextIdentity observation)
  let s := { s with
    worldRevision := s.worldRevision + 1
    changeHistory := some (extendHistory s.changeHistory change) }
  if change.affectsWholeWorld then { s with pendingChangeCoversWorld := true }
  else if change.affectedRegion.valid then
    { s with pendingChangedRegion := mergePending s.pendingChangedRegion change.affectedRegion }
  else { s with pendingChangeCoversWorld := true }

def dirtyAabbVoxelCount (s : MappingActor M D) (diagnostics : RaycastDiagnostics D) : Nat :=
  if !s.pendingChangeCoversWorld && s.pendingChangedRegion.valid then
    let estimate := backend.estimatePlanningGridRegionSize s.map s.pendingChangedRegion
    if estimate.valid then estimate.baseCellCount else diagnostics.uniqueUpdateCacheVoxelCount
  else if s.pendingChangeCoversWorld then diagnostics.allocatedVoxelCount
  else 0

def patchParent (s : MappingActor M D) : Option (MappingWorldSnapshot D) :=
  s.currentSnapshot.filter fun current => !s.pendingChangeCoversWorld &&
    s.pendingChangedRegion.valid && current.patchDepth < kMaximumSnapshotPatchDepth

def patchIsEfficient (s : MappingActor M D) : Bool :=
  let estimate := backend.estimatePlanningGridRegionSize s.map s.pendingChangedRegion
  0 < s.fullSnapshotOwnedBytes && estimate.valid &&
    (ofInt (estimate.ownedByteCount : Int) : D) < lit (2 / 5) * ofInt (s.fullSnapshotOwnedBytes : Int)

def fullExportReason (s : MappingActor M D) : SnapshotFullExportReason :=
  if s.currentSnapshot.isNone then .noCurrentSnapshot
  else if s.pendingChangeCoversWorld then .wholeWorldChanged
  else if !s.pendingChangedRegion.valid then .invalidChangedRegion
  else .patchDepthLimit

structure Exported (D : Type) where
  snapshot : MappingWorldSnapshot D
  mode : SnapshotExportMode
  reason : SnapshotFullExportReason

def exportFull (s : MappingActor M D) (identity : WorldSnapshotIdentity)
    (reason : SnapshotFullExportReason) : MappingActor M D × Except MappingError (Exported D) :=
  let exported := backend.exportPlanningGrid s.map
  let s := { s with
    fullSnapshotOwnedBytes := exported.ownedByteSize
    nearestOffsets :=
      if s.nearestOffsets.isNone then exported.nearestOffsets else s.nearestOffsets }
  (s, (s.fullSnapshot backend identity).map fun snapshot => ⟨snapshot, .full, reason⟩)

def exportSnapshot (s : MappingActor M D) (identity : WorldSnapshotIdentity) :
    MappingActor M D × Except MappingError (Exported D) :=
  match s.patchParent with
  | none => s.exportFull backend identity s.fullExportReason
  | some parent =>
    if s.patchIsEfficient backend then
      let patch := backend.exportPlanningGridRegion s.map s.pendingChangedRegion
      if !patch.baseState.isEmpty && !patch.inflated.occupied.isEmpty then
        match validatedPatch patch parent.identity parent.rootGrid identity with
        | .error error => (s, .error (.snapshot error))
        | .ok patch => (s, .ok ⟨.patched parent patch identity s.changeHistory, .patch, .none⟩)
      else s.exportFull backend identity .emptyPatch
    else
      -- With no full export before, the reason is left to the later test.
      s.exportFull backend identity
        (if 0 < s.fullSnapshotOwnedBytes then .patchTooLarge else s.fullExportReason)

def observed (s : MappingActor M D) (observation : MappingObservation D) : MappingActor M D :=
  { s with
    lastObservationStampNs := observation.stampNs
    lastScanSequence :=
      if observation.scanSequence != 0 then observation.scanSequence else s.lastScanSequence }

def deferredResult (s : MappingActor M D) (observation : MappingObservation D)
    (outcome : MapUpdateOutcome) (diagnostics : RaycastDiagnostics D) : MappingUpdateResult D where
  outcome := outcome
  diagnostics := diagnostics
  localizationEpoch := s.localizationEpoch
  worldGeneration := s.worldGeneration
  worldRevision := s.worldRevision
  observationStampNs := observation.stampNs
  dirtyAabbVoxelCount := s.dirtyAabbVoxelCount backend diagnostics

/-- Whether a snapshot is published now; `none` is an overflow of its age. -/
def publicationDue (s : MappingActor M D) (observation : MappingObservation D) : Option Bool :=
  match s.currentSnapshot with
  | none => some true
  | some current =>
    (checkedDifference observation.stampNs current.identity.observationStampNs).map fun age =>
      s.pendingChangeCoversWorld || settings.snapshotPublicationPeriodNs ≤ age

def publishRecorded (s : MappingActor M D) (observation : MappingObservation D)
    (outcome : MapUpdateOutcome) (diagnostics : RaycastDiagnostics D) :
    MappingActor M D × Except MappingError (MappingUpdateResult D) :=
  let deferred := s.deferredResult backend observation outcome diagnostics
  match s.publicationDue settings observation with
  | none => (s, .error (.runtimeError "mapping snapshot timestamp arithmetic overflow"))
  | some false => (s.observed observation, .ok deferred)
  | some true =>
    match s.exportSnapshot backend
        ⟨s.localizationEpoch, s.worldGeneration, s.worldRevision, observation.stampNs⟩ with
    | (s, .error error) => (s, .error error)
    | (s, .ok exported) =>
      ({ s.observed observation with
          currentSnapshot := some exported.snapshot
          pendingChangedRegion := .zero
          pendingChangeCoversWorld := false },
        .ok { deferred with
          snapshot := some exported.snapshot
          snapshotExportMode := exported.mode
          snapshotFullExportReason := exported.reason
          snapshotPatchDepth := exported.snapshot.patchDepth })

/-- The part of `process` whose exceptions poison the actor. -/
def transition (s : MappingActor M D) (observation : MappingObservation D)
    (cloud : List (PointXYZI D)) :
    MappingActor M D × Except MappingError (MappingUpdateResult D) :=
  let endpoints := observation.freeSpaceEndpoints.getD []
  match s.enterEpoch backend observation with
  | .error error => (s, .error error)
  | .ok s =>
    if s.worldRevision == 2 ^ 64 - 1 then
      (s, .error (.runtimeError "mapping world revision exhausted"))
    else if !cloud.all PointXYZI.allFinite || !endpoints.all PointXYZI.allFinite then
      (s, .error (.invalidArgument "mapping point cloud contains a non-finite point"))
    else
      match backend.updateMap s.map cloud endpoints (mapPose observation)
          observation.sensorOriginWorld with
      | none => (s, .error .backend)
      | some (map, outcome, diagnostics) =>
        let s := { s with map := map }
        if !worldUpdateAdvanced outcome then
          (s, .error (.runtimeError ("mapping observation did not advance the immutable world: " ++
              worldUpdateOutcomeName outcome)))
        else
          (s.recordChange backend next observation diagnostics).publishRecorded backend settings
            observation outcome diagnostics

def process (s : MappingActor M D) (observation : MappingObservation D) :
    MappingActor M D × Except MappingError (MappingUpdateResult D) :=
  if s.poisoned then
    (s, .error (.logicError "mapping actor is poisoned after a failed map transition"))
  else
    match s.validateObservation settings observation with
    | .error error => (s, .error error)
    | .ok cloud =>
      if observation.localizationEpoch < s.localizationEpoch then
        (s, .error (.runtimeError "mapping observation belongs to an older localization epoch"))
      else if !observation.correctedOdometry.pose.orientation.finiteNonzeroQuaternion then
        (s, .error (.invalidArgument "mapping observation orientation is invalid"))
      else
        match s.transition backend next settings observation cloud with
        | (s, .error error) => ({ s with poisoned := true }, .error error)
        | (s, .ok result) => (s, .ok result)

end Update

end MappingActor

/-! ## Planning cells -/

def PlanningGrid.metadata {D : Type} (grid : PlanningGrid D) : PlanningGrid D :=
  { grid with
    nearestOffsets := none
    baseState := []
    inflated := { grid.inflated with occupied := [], unknown := [] } }

/-- The content of a cell: `beneath` shows where nothing inflated covers it. -/
structure PlanningCell where
  occupied : Bool
  beneath : CellState
deriving DecidableEq

namespace MappingWorldSnapshot
variable {D : Type} [Floating D] [Narrowing D] (limits : NumericLimits D)

def evidenceState (s : MappingWorldSnapshot D) (index : GridIndex3) : CellState :=
  match s.rootGrid.baseLayout.offset index with
  | none => .outOfMap
  | some _ => s.baseState index

def evidenceUnder (s : MappingWorldSnapshot D) (index : GridIndex3) : CellState :=
  match checkedPositionToIndex (s.indexToPosition limits index .inflated)
      s.rootGrid.baseLayout.resolutionM with
  | none => .outOfMap
  | some under => s.evidenceState under

def planningCell (s : MappingWorldSnapshot D) : GridLayer → GridIndex3 → PlanningCell
  | .evidence, index => ⟨false, s.evidenceState index⟩
  | .inflated, index =>
    match s.rootGrid.inflated.layout.offset index with
    | none => ⟨false, .outOfMap⟩
    | some _ =>
      ⟨s.inflatedOccupied index != 0,
        if s.rootGrid.unknownInflationEnabled then
          if s.inflatedUnknown index != 0 then .unknown else .knownFree
        else s.evidenceUnder limits index⟩

/-! ## Agreement at a cell -/

def SameAt : Option (GridLayer × GridIndex3) → MappingWorldSnapshot D → MappingWorldSnapshot D → Prop
  | none, s, t => s.rootGrid.metadata = t.rootGrid.metadata
  | some (layer, index), s, t => s.rootGrid.metadata = t.rootGrid.metadata ∧
    s.planningCell limits layer index = t.planningCell limits layer index

def Touches (s : MappingWorldSnapshot D) (record : WorldChangeRecord D) :
    Option (GridLayer × GridIndex3) → Prop
  | none => record.affectsWholeWorld = true
  | some (layer, index) => record.affectsWholeWorld = true ∨
    record.affectedRegion.Within (s.indexToPosition limits index layer)

section Metadata
variable {s t : MappingWorldSnapshot D} (h : s.rootGrid.metadata = t.rootGrid.metadata)
include h

section
omit [Floating D] [Narrowing D]

theorem unknownInflationEnabled_of_metadata :
    s.rootGrid.unknownInflationEnabled = t.rootGrid.unknownInflationEnabled :=
  (congrArg PlanningGrid.unknownInflationEnabled h :)

theorem baseLayout_of_metadata : s.rootGrid.baseLayout = t.rootGrid.baseLayout :=
  (congrArg PlanningGrid.baseLayout h :)

theorem inflatedLayout_of_metadata : s.rootGrid.inflated.layout = t.rootGrid.inflated.layout :=
  congrArg (fun grid => grid.inflated.layout) h

theorem layerResolution_of_metadata (layer : GridLayer) :
    s.layerResolution layer = t.layerResolution layer := by
  simp only [layerResolution, baseLayout_of_metadata h, inflatedLayout_of_metadata h]

end

theorem indexToPosition_of_metadata (index : GridIndex3) (layer : GridLayer) :
    s.indexToPosition limits index layer = t.indexToPosition limits index layer := by
  simp only [indexToPosition, layerResolution_of_metadata h]

omit [Narrowing D] in
theorem positionToIndex_of_metadata (point : Vec3 D) (layer : GridLayer) :
    s.positionToIndex point layer = t.positionToIndex point layer := by
  simp only [positionToIndex, layerResolution_of_metadata h]

theorem evidenceUnder_of_metadata (hState : ∀ index, s.evidenceState index = t.evidenceState index)
    (index : GridIndex3) : s.evidenceUnder limits index = t.evidenceUnder limits index := by
  simp only [evidenceUnder, indexToPosition_of_metadata limits h, baseLayout_of_metadata h, hState]

omit [Narrowing D] in
theorem containsLayer_of_metadata (point : Vec3 D) (layer : GridLayer) :
    s.containsLayer point layer = t.containsLayer point layer := by
  simp only [containsLayer, baseLayout_of_metadata h, inflatedLayout_of_metadata h]

end Metadata

section Agreement
variable {limits} {s t u : MappingWorldSnapshot D} {key : Option (GridLayer × GridIndex3)}
  {index : GridIndex3} {record : WorldChangeRecord D}

theorem SameAt.metadata (h : SameAt limits key s t) : s.rootGrid.metadata = t.rootGrid.metadata := by
  cases key with
  | none => exact h
  | some cell => exact h.1

theorem SameAt.symm (h : SameAt limits key s t) : SameAt limits key t s := by
  cases key with
  | none => exact Eq.symm h
  | some cell => exact ⟨h.1.symm, h.2.symm⟩

theorem SameAt.trans (hst : SameAt limits key s t) (htu : SameAt limits key t u) :
    SameAt limits key s u := by
  cases key with
  | none => exact Eq.trans hst htu
  | some cell => exact ⟨hst.1.trans htu.1, hst.2.trans htu.2⟩

theorem Touches.of_sameAt (h : SameAt limits key s t) (hTouches : Touches limits t record key) :
    Touches limits s record key := by
  cases key with
  | none => exact hTouches
  | some cell =>
    obtain ⟨layer, index⟩ := cell
    have hCenter := indexToPosition_of_metadata limits h.metadata index layer
    simp only [Touches, hCenter] at hTouches ⊢
    exact hTouches

theorem not_touches_of_not_reaches [FloatOrder D] {region : AxisAlignedBox D} {layer : GridLayer}
    (hReaches : record.reaches region = false)
    (hCenter : region.Within (s.indexToPosition limits index layer)) :
    ¬ Touches limits s record (some (layer, index)) := by
  simp only [WorldChangeRecord.reaches, Bool.or_eq_false_iff] at hReaches
  rintro (hWhole | hWithin)
  · rw [hReaches.1] at hWhole
    cases hWhole
  · rw [AxisAlignedBox.boxesOverlap_of_within hWithin hCenter] at hReaches
    cases hReaches.2

theorem planningCell_inflated_congr (hMetadata : s.rootGrid.metadata = t.rootGrid.metadata)
    (hState : ∀ index, s.evidenceState index = t.evidenceState index)
    (hOccupied : s.inflatedOccupied index = t.inflatedOccupied index)
    (hUnknown : s.rootGrid.unknownInflationEnabled = true → s.inflatedUnknown index = t.inflatedUnknown index) :
    s.planningCell limits .inflated index = t.planningCell limits .inflated index := by
  simp only [planningCell, hOccupied, evidenceUnder_of_metadata limits hMetadata hState,
    ← unknownInflationEnabled_of_metadata hMetadata, ← inflatedLayout_of_metadata hMetadata]
  split
  · rfl
  split
  · rename_i hEnabled
    rw [hUnknown hEnabled]
  · rfl

theorem classify_of_sameAt {layer : GridLayer} (h : SameAt limits (some (layer, index)) s t)
    (hIndex : t.positionToIndex (t.indexToPosition limits index layer) layer = index) :
    s.classify (t.indexToPosition limits index layer) layer =
      t.classify (t.indexToPosition limits index layer) layer := by
  obtain ⟨hMetadata, hCell⟩ := h
  have hPlanes : s.rootGrid.virtualGroundCeilingEnabled = t.rootGrid.virtualGroundCeilingEnabled :=
    (congrArg PlanningGrid.virtualGroundCeilingEnabled hMetadata :)
  have hGround : s.rootGrid.virtualGroundM = t.rootGrid.virtualGroundM :=
    (congrArg PlanningGrid.virtualGroundM hMetadata :)
  have hCeiling : s.rootGrid.virtualCeilingM = t.rootGrid.virtualCeilingM :=
    (congrArg PlanningGrid.virtualCeilingM hMetadata :)
  have hInflatedGround : s.rootGrid.inflatedVirtualGroundM = t.rootGrid.inflatedVirtualGroundM :=
    (congrArg PlanningGrid.inflatedVirtualGroundM hMetadata :)
  have hInflatedCeiling : s.rootGrid.inflatedVirtualCeilingM = t.rootGrid.inflatedVirtualCeilingM :=
    (congrArg PlanningGrid.inflatedVirtualCeilingM hMetadata :)
  unfold classify
  simp only [containsLayer_of_metadata hMetadata, positionToIndex_of_metadata hMetadata, hPlanes,
    hGround, hCeiling, hInflatedGround, hInflatedCeiling, inflatedLayout_of_metadata hMetadata,
    unknownInflationEnabled_of_metadata hMetadata]
  have hCenter := indexToPosition_of_metadata limits hMetadata index layer
  generalize hTheirs : t.indexToPosition limits index layer = center at hIndex hCenter ⊢
  cases layer with
  | evidence =>
    simp only [if_true]
    split
    · rfl
    split
    · rfl
    split
    · rfl
    · rename_i hInside
      have hOffset := (index_of_containsLayer (by simpa using hInside)).2
      rw [hIndex] at hOffset ⊢
      obtain ⟨place, hPlace⟩ := Option.isSome_iff_exists.mp hOffset
      have hState := congrArg PlanningCell.beneath hCell
      simp only [planningCell, evidenceState, baseLayout_of_metadata hMetadata, hPlace] at hState
      exact hState
  | inflated =>
    simp only [reduceCtorEq, if_false]
    split
    · rfl
    split
    · rfl
    rename_i hInside
    split
    · rfl
    rw [hIndex]
    cases hPlace : t.rootGrid.inflated.layout.offset index with
    | none => rfl
    | some place =>
      simp only [planningCell, inflatedLayout_of_metadata hMetadata, hPlace,
        unknownInflationEnabled_of_metadata hMetadata, PlanningCell.mk.injEq] at hCell
      obtain ⟨hOccupied, hBeneath⟩ := hCell
      simp only [hOccupied]
      split
      · rfl
      split
      · rename_i hEnabled
        rw [hEnabled, if_pos rfl, if_pos rfl] at hBeneath
        exact hBeneath
      · rename_i hDisabled
        rw [if_neg hDisabled, if_neg hDisabled] at hBeneath
        have hContains : t.containsLayer center .inflated = true := by simpa using hInside
        obtain ⟨hUnder, hOffset⟩ := index_of_containsLayer hContains
        obtain ⟨basePlace, hBase⟩ := Option.isSome_iff_exists.mp hOffset
        simp only [evidenceUnder, evidenceState, hCenter, hTheirs, baseLayout_of_metadata hMetadata,
          hUnder, hBase] at hBeneath
        exact hBeneath

end Agreement

end MappingWorldSnapshot

/-! ## Change records over whole runs -/

section Laws
variable {M D : Type} [Floating D] [Narrowing D]

def MappingMap.live (backend : MappingMap M D) (map : M) : MappingWorldSnapshot D :=
  .root (backend.exportPlanningGrid map) ⟨0, 0, 0, 0⟩ none

/-- A region of the record of some update that does not cover the world. -/
def MappingMap.Reported (backend : MappingMap M D) (next : Nextafter D)
    (region : AxisAlignedBox D) : Prop :=
  ∃ map cloud endpoints pose origin map' outcome diagnostics identity,
    backend.updateMap map cloud endpoints pose origin = some (map', outcome, diagnostics) ∧
    (changeRecord next (backend.getMapConfig map') diagnostics identity).affectsWholeWorld = false ∧
    region = (changeRecord next (backend.getMapConfig map') diagnostics identity).affectedRegion

inductive MappingMap.Merged (backend : MappingMap M D) (next : Nextafter D) :
    AxisAlignedBox D → Prop where
  | zero : Merged backend next .zero
  | merge {pending change : AxisAlignedBox D} : Merged backend next pending →
      backend.Reported next change → Merged backend next (MappingActor.mergePending pending change)

structure MappingMap.Lawful (backend : MappingMap M D) (limits : NumericLimits D)
    (next : Nextafter D) : Prop where
  /-- The reported region, enlarged by the margin of the actor, holds the centre of every
  cell that changed, unless the record covers the world. -/
  covered : ∀ {map cloud endpoints pose origin map' outcome diagnostics},
    backend.updateMap map cloud endpoints pose origin = some (map', outcome, diagnostics) →
    ∀ identity layer index, (backend.live map).planningCell limits layer index ≠
        (backend.live map').planningCell limits layer index →
      MappingWorldSnapshot.Touches limits (backend.live map)
        (changeRecord next (backend.getMapConfig map') diagnostics identity) (some (layer, index))
  /-- The window only moves in an update that reports the whole world. -/
  frame : ∀ {map cloud endpoints pose origin map' outcome diagnostics},
    backend.updateMap map cloud endpoints pose origin = some (map', outcome, diagnostics) →
    diagnostics.changedRegionCoversWorld = false →
    (backend.exportPlanningGrid map).metadata = (backend.exportPlanningGrid map').metadata
  /-- A region export reads as the map. -/
  regionBase : ∀ {map region index place},
    (backend.exportPlanningGridRegion map region).baseLayout.offset index = some place →
    productCell ((backend.exportPlanningGridRegion map region).baseState.getD place 0) =
      (backend.live map).baseState index
  regionOccupied : ∀ {map region index place},
    (backend.exportPlanningGridRegion map region).inflated.layout.offset index = some place →
    (backend.exportPlanningGridRegion map region).inflated.occupied.getD place 0 =
      (backend.live map).inflatedOccupied index
  regionUnknown : ∀ {map region index place},
    (backend.exportPlanningGridRegion map region).inflated.layout.offset index = some place →
    (backend.exportPlanningGridRegion map region).inflated.unknown.isEmpty = false →
    (backend.exportPlanningGridRegion map region).inflated.unknown.getD place 0 =
      (backend.live map).inflatedUnknown index
  /-- A region export that is not empty has the cells of the window with their centre in the
  region. -/
  regionHoldsBase : ∀ {map region index}, backend.Merged next region →
    (backend.exportPlanningGridRegion map region).baseState.isEmpty = false →
    (backend.exportPlanningGridRegion map region).inflated.occupied.isEmpty = false →
    ((backend.exportPlanningGrid map).baseLayout.offset index).isSome = true →
    region.Within ((backend.live map).indexToPosition limits index .evidence) →
    ((backend.exportPlanningGridRegion map region).baseLayout.offset index).isSome = true
  regionHoldsInflated : ∀ {map region index}, backend.Merged next region →
    (backend.exportPlanningGridRegion map region).baseState.isEmpty = false →
    (backend.exportPlanningGridRegion map region).inflated.occupied.isEmpty = false →
    ((backend.exportPlanningGrid map).inflated.layout.offset index).isSome = true →
    region.Within ((backend.live map).indexToPosition limits index .inflated) →
    ((backend.exportPlanningGridRegion map region).inflated.layout.offset index).isSome = true

end Laws

section Merging
variable {D : Type} [Floating D] [FloatOrder D]

section
variable {x y : D} (hx : isFinite x = true)
include hx

theorem min_le_left : FloatOps.min x y ≤ x := by
  unfold FloatOps.min
  split
  · rename_i h
    exact FloatOrder.le_of_lt h
  · exact FloatOrder.le_refl hx

theorem min_le_right (hy : isFinite y = true) : FloatOps.min x y ≤ y := by
  unfold FloatOps.min
  split
  · exact FloatOrder.le_refl hy
  · rename_i h
    exact Floating.le_of_not_lt hy hx h

theorem left_le_max : x ≤ FloatOps.max x y := by
  unfold FloatOps.max
  split
  · rename_i h
    exact FloatOrder.le_of_lt h
  · exact FloatOrder.le_refl hx

theorem right_le_max (hy : isFinite y = true) : y ≤ FloatOps.max x y := by
  unfold FloatOps.max
  split
  · exact FloatOrder.le_refl hy
  · rename_i h
    exact Floating.le_of_not_lt hx hy h

end

section
omit [FloatOrder D]

theorem isFinite_min {x y : D} (hx : isFinite x = true) (hy : isFinite y = true) :
    isFinite (FloatOps.min x y) = true := by
  unfold FloatOps.min
  split
  · exact hy
  · exact hx

theorem isFinite_max {x y : D} (hx : isFinite x = true) (hy : isFinite y = true) :
    isFinite (FloatOps.max x y) = true := by
  unfold FloatOps.max
  split
  · exact hy
  · exact hx

theorem AxisAlignedBox.valid_iff {box : AxisAlignedBox D} : box.valid = true ↔
    ((isFinite box.minimum.x = true ∧ isFinite box.minimum.y = true ∧
        isFinite box.minimum.z = true) ∧
      (isFinite box.maximum.x = true ∧ isFinite box.maximum.y = true ∧
        isFinite box.maximum.z = true)) ∧
      (box.minimum.x ≤ box.maximum.x ∧ box.minimum.y ≤ box.maximum.y ∧
        box.minimum.z ≤ box.maximum.z) := by
  simp only [AxisAlignedBox.valid, Vec3.allFinite, Bool.and_eq_true, decide_eq_true_eq]
  tauto

end

theorem AxisAlignedBox.zero_valid : (AxisAlignedBox.zero : AxisAlignedBox D).valid = true := by
  have hZero : isFinite (lit 0 : D) = true := Floating.isFinite_zero
  have hLe : (lit 0 : D) ≤ lit 0 := FloatOrder.le_refl hZero
  exact AxisAlignedBox.valid_iff.mpr ⟨⟨⟨hZero, hZero, hZero⟩, hZero, hZero, hZero⟩, hLe, hLe, hLe⟩

variable {pending change : AxisAlignedBox D}

omit [FloatOrder D] in
theorem mergePending_of_valid (h : pending.valid = true) :
    MappingActor.mergePending pending change =
      ⟨pending.minimum.cwiseMin change.minimum, pending.maximum.cwiseMax change.maximum⟩ := by
  simp [MappingActor.mergePending, h]

variable (hPending : pending.valid = true) (hChange : change.valid = true)
include hPending hChange

theorem mergePending_valid : (MappingActor.mergePending pending change).valid = true := by
  rw [mergePending_of_valid hPending]
  obtain ⟨⟨⟨hax, hay, haz⟩, hbx, hby, hbz⟩, hx, hy, hz⟩ := AxisAlignedBox.valid_iff.mp hPending
  obtain ⟨⟨⟨hcx, hcy, hcz⟩, hdx, hdy, hdz⟩, -⟩ := AxisAlignedBox.valid_iff.mp hChange
  apply AxisAlignedBox.valid_iff.mpr
  refine ⟨⟨⟨isFinite_min hax hcx, isFinite_min hay hcy, isFinite_min haz hcz⟩,
    isFinite_max hbx hdx, isFinite_max hby hdy, isFinite_max hbz hdz⟩, ?_, ?_, ?_⟩
  · exact FloatOrder.le_trans (min_le_left hax) (FloatOrder.le_trans hx (left_le_max hbx))
  · exact FloatOrder.le_trans (min_le_left hay) (FloatOrder.le_trans hy (left_le_max hby))
  · exact FloatOrder.le_trans (min_le_left haz) (FloatOrder.le_trans hz (left_le_max hbz))

theorem within_mergePending {point : Vec3 D} (h : pending.Within point ∨ change.Within point) :
    (MappingActor.mergePending pending change).Within point := by
  rw [mergePending_of_valid hPending]
  obtain ⟨⟨⟨hax, hay, haz⟩, hbx, hby, hbz⟩, -⟩ := AxisAlignedBox.valid_iff.mp hPending
  obtain ⟨⟨⟨hcx, hcy, hcz⟩, hdx, hdy, hdz⟩, -⟩ := AxisAlignedBox.valid_iff.mp hChange
  rcases h with ⟨hx, hy, hz⟩ | ⟨hx, hy, hz⟩
  · exact ⟨⟨FloatOrder.le_trans (min_le_left hax) hx.1, FloatOrder.le_trans hx.2 (left_le_max hbx)⟩,
      ⟨FloatOrder.le_trans (min_le_left hay) hy.1, FloatOrder.le_trans hy.2 (left_le_max hby)⟩,
      FloatOrder.le_trans (min_le_left haz) hz.1, FloatOrder.le_trans hz.2 (left_le_max hbz)⟩
  · exact ⟨⟨FloatOrder.le_trans (min_le_right hax hcx) hx.1,
        FloatOrder.le_trans hx.2 (right_le_max hbx hdx)⟩,
      ⟨FloatOrder.le_trans (min_le_right hay hcy) hy.1,
        FloatOrder.le_trans hy.2 (right_le_max hby hdy)⟩,
      FloatOrder.le_trans (min_le_right haz hcz) hz.1,
      FloatOrder.le_trans hz.2 (right_le_max hbz hdz)⟩

end Merging

section Records
variable {D : Type} [Floating D]

theorem changeRecord_region {next : Nextafter D} {config : MapConfig D}
    {diagnostics : RaycastDiagnostics D} {identity : WorldSnapshotIdentity}
    (h : (changeRecord next config diagnostics identity).affectsWholeWorld = false) :
    diagnostics.changedRegionCoversWorld = false ∧
      (changeRecord next config diagnostics identity).affectedRegion.valid = true := by
  unfold changeRecord at h ⊢
  split at h
  · cases h
  · rename_i hCovers
    rw [if_neg hCovers]
    simp only [Bool.or_eq_false_iff, Bool.not_eq_false'] at h
    exact ⟨by simpa using hCovers, h.2⟩

end Records

namespace MappingActor
variable {M D : Type} [Floating D] [Narrowing D] {backend : MappingMap M D}
  {limits : NumericLimits D} {next : Nextafter D} {settings : MappingSettings}

open MappingWorldSnapshot

def pendingRecord (s : MappingActor M D) : WorldChangeRecord D :=
  ⟨⟨0, 0, 0, 0⟩, s.pendingChangedRegion, s.pendingChangeCoversWorld⟩

theorem update_sameAt (hLawful : backend.Lawful limits next) {map map' : M}
    {cloud endpoints : List (PointXYZI D)} {pose : Pose D} {origin : Vec3 D}
    {outcome : MapUpdateOutcome} {diagnostics : RaycastDiagnostics D}
    (hUpdate : backend.updateMap map cloud endpoints pose origin = some (map', outcome, diagnostics))
    (identity : WorldSnapshotIdentity) (key : Option (GridLayer × GridIndex3))
    (hTouches : ¬ Touches limits (backend.live map)
      (changeRecord next (backend.getMapConfig map') diagnostics identity) key) :
    SameAt limits key (backend.live map) (backend.live map') := by
  have hNotWhole :
      (changeRecord next (backend.getMapConfig map') diagnostics identity).affectsWholeWorld = false := by
    apply Bool.eq_false_of_not_eq_true
    intro hWhole
    apply hTouches
    cases key with
    | none => exact hWhole
    | some cell => exact .inl hWhole
  have hFrame := hLawful.frame hUpdate (changeRecord_region hNotWhole).1
  cases key with
  | none => exact hFrame
  | some cell =>
    refine ⟨hFrame, ?_⟩
    by_contra hChanged
    exact hTouches (hLawful.covered hUpdate identity cell.1 cell.2 hChanged)

/-! ## What a snapshot shows -/

theorem root_sameAt (map : M) (offsets : Option (List GridIndex3))
    (identity : WorldSnapshotIdentity) (history : Option (WorldChangeHistory D))
    (key : Option (GridLayer × GridIndex3)) :
    SameAt limits key
      (.root { backend.exportPlanningGrid map with nearestOffsets := offsets } identity history)
      (backend.live map) := by
  cases key with
  | none => rfl
  | some cell =>
    obtain ⟨layer, index⟩ := cell
    refine ⟨rfl, ?_⟩
    cases layer with
    | evidence => rfl
    | inflated => rfl

/-- Every cell outside the pending changes of the actor is as the map has it. -/
def Pending (backend : MappingMap M D) (limits : NumericLimits D) (s : MappingActor M D)
    (current : MappingWorldSnapshot D) : Prop :=
  ∀ key, ¬ Touches limits current s.pendingRecord key → SameAt limits key current (backend.live s.map)

section Patches
variable {s : MappingActor M D} {parent : MappingWorldSnapshot D} {patch : PlanningGridPatch D}
  {identity : WorldSnapshotIdentity} {history : Option (WorldChangeHistory D)}

section
variable (hPending : Pending backend limits s parent) (hCovers : s.pendingChangeCoversWorld = false)
include hPending hCovers

theorem parent_planningCell {layer : GridLayer} {index : GridIndex3}
    (hOutside : ¬ s.pendingChangedRegion.Within (parent.indexToPosition limits index layer)) :
    parent.planningCell limits layer index =
      (backend.live s.map).planningCell limits layer index := by
  refine (hPending (some (layer, index)) ?_).2
  rintro (hWhole | hWithin)
  · simp [pendingRecord, hCovers] at hWhole
  · exact hOutside hWithin

theorem parent_metadata :
    parent.rootGrid.metadata = (backend.exportPlanningGrid s.map).metadata := by
  refine hPending none ?_
  intro hWhole
  simp [Touches, pendingRecord, hCovers] at hWhole

end

structure PatchExported (backend : MappingMap M D) (limits : NumericLimits D) (next : Nextafter D)
    (s : MappingActor M D) (parent : MappingWorldSnapshot D) (identity : WorldSnapshotIdentity) :
    Prop where
  pending : Pending backend limits s parent
  covers : s.pendingChangeCoversWorld = false
  merged : backend.Merged next s.pendingChangedRegion
  base : (backend.exportPlanningGridRegion s.map s.pendingChangedRegion).baseState.isEmpty = false
  occupied : (backend.exportPlanningGridRegion s.map
    s.pendingChangedRegion).inflated.occupied.isEmpty = false
  accepted : PatchAccepted (backend.exportPlanningGridRegion s.map s.pendingChangedRegion)
    parent.identity parent.rootGrid identity

namespace PatchExported
variable (h : PatchExported backend limits next s parent identity)
include h

theorem metadata : parent.rootGrid.metadata = (backend.live s.map).rootGrid.metadata :=
  parent_metadata h.pending h.covers

theorem evidenceState_eq (hLawful : backend.Lawful limits next) (index : GridIndex3) :
    evidenceState (.patched parent
        (backend.exportPlanningGridRegion s.map s.pendingChangedRegion) identity history) index =
      (backend.live s.map).evidenceState index := by
  have hLayout := baseLayout_of_metadata h.metadata
  have hWindow : (MappingWorldSnapshot.patched parent
      (backend.exportPlanningGridRegion s.map s.pendingChangedRegion) identity
      history).rootGrid.baseLayout = (backend.live s.map).rootGrid.baseLayout := hLayout
  cases hPlace : (backend.live s.map).rootGrid.baseLayout.offset index with
  | none => simp only [evidenceState, hWindow, hPlace]
  | some place =>
    simp only [evidenceState, hWindow, hPlace]
    cases hOffset : (backend.exportPlanningGridRegion s.map
        s.pendingChangedRegion).baseLayout.offset index with
    | some patchPlace =>
      simp only [baseState, hOffset]
      exact hLawful.regionBase hOffset
    | none =>
      simp only [baseState, hOffset]
      -- A cell of the window with its centre in the region would be in the patch.
      have hOutside : ¬ s.pendingChangedRegion.Within
          (parent.indexToPosition limits index .evidence) := by
        rw [indexToPosition_of_metadata limits h.metadata]
        intro hWithin
        have hHeld := hLawful.regionHoldsBase h.merged h.base h.occupied
          (Option.isSome_of_eq_some hPlace) hWithin
        rw [hOffset] at hHeld
        cases hHeld
      have hCell := congrArg PlanningCell.beneath (parent_planningCell h.pending h.covers hOutside)
      simp only [planningCell, evidenceState, hLayout, hPlace] at hCell
      exact hCell

theorem unknown_nonempty (hEnabled : parent.rootGrid.unknownInflationEnabled = true) :
    (backend.exportPlanningGridRegion s.map
      s.pendingChangedRegion).inflated.unknown.isEmpty = false := by
  have hLength := h.accepted.unknownLength hEnabled
  rw [← h.accepted.occupiedLength] at hLength
  have hOccupied := h.occupied
  rw [List.isEmpty_eq_false_iff_exists_mem] at hOccupied
  obtain ⟨cell, hCell⟩ := hOccupied
  have hPos := List.length_pos_of_mem hCell
  rw [← hLength] at hPos
  exact List.isEmpty_eq_false_iff.mpr (List.ne_nil_of_length_pos hPos)

theorem planningCell_inflated (hLawful : backend.Lawful limits next) (index : GridIndex3) :
    planningCell limits (.patched parent
        (backend.exportPlanningGridRegion s.map s.pendingChangedRegion) identity history)
        .inflated index =
      (backend.live s.map).planningCell limits .inflated index := by
  have hMetadata : (MappingWorldSnapshot.patched parent
      (backend.exportPlanningGridRegion s.map s.pendingChangedRegion) identity
      history).rootGrid.metadata = (backend.live s.map).rootGrid.metadata := h.metadata
  have hState : ∀ index, evidenceState (.patched parent
      (backend.exportPlanningGridRegion s.map s.pendingChangedRegion) identity history) index = _ :=
    h.evidenceState_eq hLawful
  cases hOffset : (backend.exportPlanningGridRegion s.map
      s.pendingChangedRegion).inflated.layout.offset index with
  | some patchPlace =>
    apply planningCell_inflated_congr hMetadata hState
    · simp only [inflatedOccupied, hOffset]
      exact hLawful.regionOccupied hOffset
    · intro hEnabled
      have hOwn := h.unknown_nonempty hEnabled
      simp only [inflatedUnknown, hOffset, hOwn, Bool.false_eq_true, if_false]
      exact hLawful.regionUnknown hOffset hOwn
  | none =>
    have hWindow := inflatedLayout_of_metadata hMetadata
    cases hPlace : (backend.live s.map).rootGrid.inflated.layout.offset index with
    | none => simp only [planningCell, hWindow, hPlace]
    | some place =>
      have hOutside : ¬ s.pendingChangedRegion.Within
          (parent.indexToPosition limits index .inflated) := by
        rw [indexToPosition_of_metadata limits h.metadata]
        intro hWithin
        have hHeld := hLawful.regionHoldsInflated h.merged h.base h.occupied
          (Option.isSome_of_eq_some hPlace) hWithin
        rw [hOffset] at hHeld
        cases hHeld
      -- The flags are those of the parent; the cell beneath is current in any case.
      have hCell := parent_planningCell h.pending h.covers hOutside
      simp only [planningCell, inflatedLayout_of_metadata h.metadata, hPlace,
        unknownInflationEnabled_of_metadata h.metadata, PlanningCell.mk.injEq] at hCell
      obtain ⟨hFlag, hBeneath⟩ := hCell
      simp only [planningCell, hWindow, hPlace, unknownInflationEnabled_of_metadata hMetadata,
        PlanningCell.mk.injEq, evidenceUnder_of_metadata limits hMetadata hState]
      refine ⟨?_, ?_⟩
      · simp only [inflatedOccupied, hOffset]
        exact hFlag
      · split
        · rename_i hEnabled
          rw [if_pos hEnabled, if_pos hEnabled] at hBeneath
          simp only [inflatedUnknown, hOffset]
          exact hBeneath
        · rfl

theorem sameAt (hLawful : backend.Lawful limits next) (key : Option (GridLayer × GridIndex3)) :
    SameAt limits key (.patched parent
        (backend.exportPlanningGridRegion s.map s.pendingChangedRegion) identity history)
      (backend.live s.map) := by
  cases key with
  | none => exact h.metadata
  | some cell =>
    obtain ⟨layer, index⟩ := cell
    refine ⟨h.metadata, ?_⟩
    cases layer with
    | evidence => exact congrArg (PlanningCell.mk false) (h.evidenceState_eq hLawful index)
    | inflated => exact h.planningCell_inflated hLawful index

end PatchExported

end Patches

end MappingActor

/-! ## Published snapshots of a run -/

open FloatOps MappingActor WorldChangeHistory List

structure MappingSession (M D : Type) where
  actor : MappingActor M D
  published : List (MappingWorldSnapshot D)

section Sessions
variable {M D : Type} [Floating D] (backend : MappingMap M D)

/-- The runtime asks for the initial snapshot once, if at all, before the first observation. -/
inductive MappingSession.Started : MappingSession M D → Prop where
  | constructed {actor : MappingActor M D} : construct backend = some actor → Started ⟨actor, []⟩
  | initialized {actor actor' : MappingActor M D} {snapshot : MappingWorldSnapshot D} :
      construct backend = some actor →
      actor.initialSnapshot backend = (actor', .ok snapshot) → Started ⟨actor', [snapshot]⟩

def MappingSession.step (next : Nextafter D) (settings : MappingSettings) (s : MappingSession M D)
    (observation : MappingObservation D) :
    MappingSession M D × Except MappingError (MappingUpdateResult D) :=
  match s.actor.process backend next settings observation with
  | (actor, .error error) => (⟨actor, s.published⟩, .error error)
  | (actor, .ok result) => (⟨actor, result.snapshot.toList ++ s.published⟩, .ok result)

end Sessions

/-! ## What an observation can do -/

namespace MappingActor
variable {M D : Type} [Floating D] {backend : MappingMap M D} {next : Nextafter D}
  {settings : MappingSettings} {s t : MappingActor M D} {observation : MappingObservation D}

theorem enterEpoch_ok (h : s.enterEpoch backend observation = .ok t) :
    (t = s ∧ observation.localizationEpoch ≤ s.localizationEpoch) ∨
      (t.worldGeneration = s.worldGeneration + 1 ∧ t.worldRevision = 0 ∧ t.changeHistory = none ∧
        t.currentSnapshot = none ∧ t.pendingChangedRegion = .zero ∧
        t.pendingChangeCoversWorld = false ∧ t.poisoned = s.poisoned) := by
  revert h
  fun_cases enterEpoch
  all_goals intro h
  · right
    cases h
  · right
    cases h
  · right
    cases h
    exact ⟨rfl, rfl, rfl, rfl, rfl, rfl, rfl⟩
  · left
    cases h
    exact ⟨rfl, by omega⟩

theorem enterEpoch_generation (h : s.enterEpoch backend observation = .ok t) :
    s.worldGeneration ≤ t.worldGeneration := by
  rcases enterEpoch_ok h with ⟨rfl, -⟩ | ⟨hGeneration, -⟩
  · exact Nat.le_refl _
  · omega

/-- The record of an update, as `recordChange` makes it. -/
def recordOf (backend : MappingMap M D) (next : Nextafter D) (s : MappingActor M D)
    (observation : MappingObservation D) (diagnostics : RaycastDiagnostics D) :
    WorldChangeRecord D :=
  changeRecord next (backend.getMapConfig s.map) diagnostics (s.nextIdentity observation)

theorem recordChange_eq (s : MappingActor M D) (observation : MappingObservation D)
    (diagnostics : RaycastDiagnostics D) :
    ∃ region covers, s.recordChange backend next observation diagnostics =
      { s with
        worldRevision := s.worldRevision + 1
        changeHistory :=
          some (extendHistory s.changeHistory (s.recordOf backend next observation diagnostics))
        pendingChangedRegion := region
        pendingChangeCoversWorld := covers } ∧
      ((covers = true ∧ region = s.pendingChangedRegion) ∨
        ((s.recordOf backend next observation diagnostics).affectsWholeWorld = false ∧
          covers = s.pendingChangeCoversWorld ∧
          region = mergePending s.pendingChangedRegion
            (s.recordOf backend next observation diagnostics).affectedRegion)) := by
  unfold recordChange
  simp only
  split
  · exact ⟨_, _, rfl, .inl ⟨rfl, rfl⟩⟩
  · rename_i hWhole
    split
    · exact ⟨_, _, rfl, .inr ⟨Bool.eq_false_of_not_eq_true hWhole, rfl, rfl⟩⟩
    · exact ⟨_, _, rfl, .inl ⟨rfl, rfl⟩⟩

/-- A snapshot of the map: a full grid, or a patch over the last one. -/
inductive Exports (backend : MappingMap M D) (s : MappingActor M D)
    (identity : WorldSnapshotIdentity) : MappingWorldSnapshot D → Prop where
  | full (offsets : Option (List GridIndex3)) : Exports backend s identity
      (.root { backend.exportPlanningGrid s.map with nearestOffsets := offsets } identity
        s.changeHistory)
  | patch {parent : MappingWorldSnapshot D} :
      s.currentSnapshot = some parent → s.pendingChangeCoversWorld = false →
      (backend.exportPlanningGridRegion s.map s.pendingChangedRegion).baseState.isEmpty = false →
      (backend.exportPlanningGridRegion s.map
        s.pendingChangedRegion).inflated.occupied.isEmpty = false →
      PatchAccepted (backend.exportPlanningGridRegion s.map s.pendingChangedRegion)
        parent.identity parent.rootGrid identity →
      Exports backend s identity (.patched parent
        (backend.exportPlanningGridRegion s.map s.pendingChangedRegion) identity s.changeHistory)

variable {identity : WorldSnapshotIdentity}

theorem fullSnapshot_ok {snapshot : MappingWorldSnapshot D}
    (h : s.fullSnapshot backend identity = .ok snapshot) : Exports backend s identity snapshot := by
  unfold fullSnapshot at h
  simp only at h
  split at h
  · cases h
  · rename_i grid hValidated
    obtain ⟨rfl, -⟩ := validated_iff.mp hValidated
    cases h
    exact .full _

theorem exportFull_ok {reason : SnapshotFullExportReason} {exported : Exported D}
    (h : (s.exportFull backend identity reason).2 = .ok exported) :
    Exports backend s identity exported.snapshot := by
  simp only [exportFull] at h
  cases hFull : fullSnapshot backend (_ : MappingActor M D) identity with
  | error error =>
    rw [hFull] at h
    cases h
  | ok snapshot =>
    rw [hFull] at h
    cases h
    cases fullSnapshot_ok hFull with
    | full offsets => exact .full offsets
    | patch hCurrent hCovers hBase hOccupied hAccepted =>
      exact .patch hCurrent hCovers hBase hOccupied hAccepted

theorem exportSnapshot_frame {exported : Except MappingError (Exported D)}
    (h : s.exportSnapshot backend identity = (t, exported)) : ∃ bytes offsets,
      t = { s with fullSnapshotOwnedBytes := bytes, nearestOffsets := offsets } := by
  obtain rfl := congrArg Prod.fst h
  clear h
  unfold exportSnapshot
  split
  · exact ⟨_, _, rfl⟩
  · split
    · simp only
      split
      · split <;> exact ⟨_, _, rfl⟩
      · exact ⟨_, _, rfl⟩
    · exact ⟨_, _, rfl⟩

theorem exportSnapshot_ok {exported : Exported D}
    (h : (s.exportSnapshot backend identity).2 = .ok exported) :
    Exports backend s identity exported.snapshot := by
  unfold exportSnapshot at h
  cases hParent : s.patchParent with
  | none =>
    rw [hParent] at h
    exact exportFull_ok h
  | some parent =>
    rw [hParent] at h
    simp only at h
    split at h
    · split at h
      · rename_i hNonempty
        simp only [Bool.and_eq_true, Bool.not_eq_true'] at hNonempty
        split at h
        · cases h
        · rename_i patch hValidated
          obtain ⟨rfl, hAccepted⟩ := patchAccepted_of_validatedPatch hValidated
          cases h
          obtain ⟨hCurrent, hApplies⟩ := Option.filter_eq_some_iff.mp hParent
          simp only [Bool.and_eq_true, Bool.not_eq_true'] at hApplies
          exact .patch hCurrent hApplies.1.1 hNonempty.1 hNonempty.2 hAccepted
      · exact exportFull_ok h
    · exact exportFull_ok h

theorem publishRecorded_ok {outcome : MapUpdateOutcome} {diagnostics : RaycastDiagnostics D}
    {result : MappingUpdateResult D}
    (h : s.publishRecorded backend settings observation outcome diagnostics = (t, .ok result)) :
    (result.snapshot = none ∧ t = s.observed observation) ∨
      ∃ bytes offsets snapshot, result.snapshot = some snapshot ∧ Exports backend s
          ⟨s.localizationEpoch, s.worldGeneration, s.worldRevision, observation.stampNs⟩ snapshot ∧
        t = { s.observed observation with
          fullSnapshotOwnedBytes := bytes
          nearestOffsets := offsets
          currentSnapshot := some snapshot
          pendingChangedRegion := .zero
          pendingChangeCoversWorld := false } := by
  unfold publishRecorded at h
  simp only at h
  split at h
  · cases h
  · left
    cases h
    exact ⟨rfl, rfl⟩
  · right
    split at h
    · cases h
    · rename_i u exported hExport
      have hExports := exportSnapshot_ok (congrArg Prod.snd hExport)
      obtain ⟨bytes, offsets, rfl⟩ := exportSnapshot_frame hExport
      cases h
      exact ⟨bytes, offsets, exported.snapshot, rfl, hExports, rfl⟩

inductive Processed (backend : MappingMap M D) (next : Nextafter D) (settings : MappingSettings)
    (s : MappingActor M D) (observation : MappingObservation D) :
    MappingActor M D → Except MappingError (MappingUpdateResult D) → Prop where
  | refused (error : MappingError) : Processed backend next settings s observation s (.error error)
  | failed {t : MappingActor M D} (error : MappingError) : t.poisoned = true →
      s.worldGeneration ≤ t.worldGeneration →
      Processed backend next settings s observation t (.error error)
  | advanced {entered t : MappingActor M D} {cloud endpoints : List (PointXYZI D)} {map : M}
      {outcome : MapUpdateOutcome} {diagnostics : RaycastDiagnostics D}
      {result : MappingUpdateResult D} :
      s.poisoned = false → s.enterEpoch backend observation = .ok entered →
      backend.updateMap entered.map cloud endpoints (mapPose observation)
        observation.sensorOriginWorld = some (map, outcome, diagnostics) →
      publishRecorded backend settings
        (recordChange backend next { entered with map := map } observation diagnostics)
        observation outcome diagnostics = (t, .ok result) →
      Processed backend next settings s observation t (.ok result)

theorem publishRecorded_generation {outcome : MapUpdateOutcome}
    {diagnostics : RaycastDiagnostics D} {error : MappingError}
    (h : s.publishRecorded backend settings observation outcome diagnostics = (t, .error error)) :
    t.worldGeneration = s.worldGeneration := by
  unfold publishRecorded at h
  split at h
  · cases h
    rfl
  · cases h
  · split at h
    · rename_i u error' hExport
      obtain ⟨bytes, offsets, hFrame⟩ := exportSnapshot_frame hExport
      cases h
      exact (congrArg worldGeneration hFrame :)
    · cases h

theorem transition_error {cloud : List (PointXYZI D)} {error : MappingError}
    (h : s.transition backend next settings observation cloud = (t, .error error)) :
    s.worldGeneration ≤ t.worldGeneration := by
  unfold transition at h
  simp only at h
  split at h
  · cases h
    exact Nat.le_refl _
  · rename_i entered hEnter
    have hGeneration := enterEpoch_generation hEnter
    split at h
    · cases h
      exact hGeneration
    split at h
    · cases h
      exact hGeneration
    split at h
    · cases h
      exact hGeneration
    · split at h
      · cases h
        exact hGeneration
      · have hLast := publishRecorded_generation h
        obtain ⟨region, covers, hRecorded, -⟩ := @recordChange_eq M D _ backend next
          _ observation _
        rw [hLast, hRecorded]
        exact hGeneration

theorem process_processed (s : MappingActor M D) (observation : MappingObservation D) :
    Processed backend next settings s observation (s.process backend next settings observation).1
      (s.process backend next settings observation).2 := by
  unfold process
  split
  · exact .refused _
  · rename_i hPoisoned
    split
    · exact .refused _
    · rename_i cloud _
      split
      · exact .refused _
      split
      · exact .refused _
      cases hTransition : s.transition backend next settings observation cloud with
      | mk t r =>
        cases r with
        | error error =>
          have hGeneration := transition_error hTransition
          exact .failed error rfl hGeneration
        | ok result =>
          unfold transition at hTransition
          simp only at hTransition
          split at hTransition
          · cases hTransition
          · rename_i entered hEnter
            split at hTransition
            · cases hTransition
            split at hTransition
            · cases hTransition
            split at hTransition
            · cases hTransition
            · rename_i map outcome diagnostics hUpdate
              split at hTransition
              · cases hTransition
              · exact .advanced (by simpa using hPoisoned) hEnter hUpdate hTransition

end MappingActor

namespace MappingSession
variable {M D : Type} [Floating D] [Narrowing D]

open MappingWorldSnapshot

/-- The history of the newer world accounts for what changed since the older one. -/
def Accounts (limits : NumericLimits D) (history : Option (WorldChangeHistory D)) (n : Nat)
    (older newer : MappingWorldSnapshot D) : Prop :=
  ChangeLog.AgreeSince (SameAt limits) (Touches limits) (recordsOf history) n older newer

structure Live (backend : MappingMap M D) (limits : NumericLimits D) (next : Nextafter D)
    (s : MappingSession M D) : Prop where
  retained : (recordsOf s.actor.changeHistory).length ≤ kWorldChangeHistoryRetention
  since : ∀ older ∈ s.published, older.identity.generation = s.actor.worldGeneration →
    ∃ n, s.actor.worldRevision = older.identity.revision + n ∧
      Accounts limits s.actor.changeHistory n older (backend.live s.actor.map)
  current : ∀ current, s.actor.currentSnapshot = some current →
    Pending backend limits s.actor current
  merged : backend.Merged next s.actor.pendingChangedRegion
  valid : s.actor.pendingChangedRegion.valid = true

structure Consistent (limits : NumericLimits D) (published : List (MappingWorldSnapshot D)) :
    Prop where
  bounded : ∀ snapshot ∈ published,
    (recordsOf snapshot.changeHistory).length ≤ kWorldChangeHistoryRetention
  unique : ∀ older ∈ published, ∀ newer ∈ published,
    older.identity.generation = newer.identity.generation →
    older.identity.revision = newer.identity.revision → older = newer
  paired : ∀ older ∈ published, ∀ newer ∈ published,
    older.identity.generation = newer.identity.generation →
    ∀ n, newer.identity.revision = older.identity.revision + n →
      Accounts limits newer.changeHistory n older newer

structure Tracked (backend : MappingMap M D) (limits : NumericLimits D) (next : Nextafter D)
    (s : MappingSession M D) : Prop where
  generations : ∀ snapshot ∈ s.published, snapshot.identity.generation ≤ s.actor.worldGeneration
  consistent : Consistent limits s.published
  live : s.actor.poisoned = false → Live backend limits next s

variable {backend : MappingMap M D} {limits : NumericLimits D} {next : Nextafter D}
  {settings : MappingSettings} {history : Option (WorldChangeHistory D)}
  {older now : MappingWorldSnapshot D}

theorem Accounts.extend {n : Nat} {later : MappingWorldSnapshot D} {record : WorldChangeRecord D}
    (h : Accounts limits history n older now)
    (hUpdate : ∀ key, ¬ Touches limits now record key → SameAt limits key now later) :
    Accounts limits (some (extendHistory history record)) (n + 1) older later := by
  have hAgree : ChangeLog.AgreeSince (SameAt limits) (Touches limits)
    (recordsOf history) n older now := h
  refine hAgree.push ?_ ?_ hUpdate
  · intro key u v w huv hvw
    exact huv.trans hvw
  · intro key u v record hSame hTouched
    exact Touches.of_sameAt hSame hTouched

theorem Accounts.shown {n : Nat} {snapshot : MappingWorldSnapshot D}
    (h : Accounts limits history n older now) (hShown : ∀ key, SameAt limits key snapshot now) :
    Accounts limits history n older snapshot := by
  have hAgree : ChangeLog.AgreeSince (SameAt limits) (Touches limits)
    (recordsOf history) n older now := h
  refine hAgree.trans_right ?_ fun key => (hShown key).symm
  intro key u v w huv hvw
  exact huv.trans hvw

section
omit [Narrowing D]

theorem construct_fields {actor : MappingActor M D} (h : construct backend = some actor) :
    ∃ map, actor = { map := map, pendingChangedRegion := .zero } := by
  unfold construct at h
  cases hInit : backend.loadConfigAndInit 1 with
  | none => simp [hInit] at h
  | some map =>
    rw [hInit, Option.map_some, Option.some.injEq] at h
    exact ⟨map, h.symm⟩

theorem initialSnapshot_ok {actor actor' : MappingActor M D} {snapshot : MappingWorldSnapshot D}
    (h : actor.initialSnapshot backend = (actor', .ok snapshot)) :
    ∃ bytes offsets, snapshot = .root
        { backend.exportPlanningGrid actor.map with nearestOffsets := offsets }
        ⟨actor.localizationEpoch, actor.worldGeneration, 0, 0⟩ actor.changeHistory ∧
      actor' = { actor with
        fullSnapshotOwnedBytes := bytes
        nearestOffsets := offsets
        currentSnapshot := some snapshot
        pendingChangedRegion := .zero
        pendingChangeCoversWorld := false } := by
  unfold initialSnapshot at h
  simp only at h
  split at h
  · cases h
  · rename_i full hFull
    unfold fullSnapshot at hFull
    simp only at hFull
    split at hFull
    · cases hFull
    · rename_i grid hValidated
      obtain ⟨rfl, -⟩ := validated_iff.mp hValidated
      cases hFull
      cases h
      exact ⟨_, _, rfl, rfl⟩

end

variable [FloatOrder D]

theorem tracked_of_started {s : MappingSession M D} (h : Started backend s) :
    Tracked backend limits next s := by
  cases h with
  | constructed hConstruct =>
    obtain ⟨map, rfl⟩ := construct_fields hConstruct
    refine ⟨by simp, ⟨by simp, by simp, by simp⟩, ?_⟩
    intro _
    exact ⟨Nat.zero_le _, by simp, by simp, .zero, AxisAlignedBox.zero_valid⟩
  | initialized hConstruct hInitial =>
    obtain ⟨map, rfl⟩ := construct_fields hConstruct
    obtain ⟨bytes, offsets, rfl, rfl⟩ := initialSnapshot_ok hInitial
    have hShown : ∀ key, SameAt limits key (.root { backend.exportPlanningGrid map with
        nearestOffsets := offsets } ⟨1, 1, 0, 0⟩ none) (backend.live map) :=
      root_sameAt map offsets _ _
    refine ⟨?_, ⟨?_, ?_, ?_⟩, ?_⟩
    · intro snapshot hSnapshot
      rw [mem_singleton.mp hSnapshot]
      exact Nat.le_refl _
    · intro snapshot hSnapshot
      rw [mem_singleton.mp hSnapshot]
      exact Nat.zero_le _
    · intro older hOlder newer hNewer _ _
      rw [mem_singleton.mp hOlder, mem_singleton.mp hNewer]
    · intro older hOlder newer hNewer _ n _
      rw [mem_singleton.mp hOlder, mem_singleton.mp hNewer]
      apply ChangeLog.AgreeSince.of_same
      intro key
      exact (hShown key).trans (hShown key).symm
    · intro _
      refine ⟨Nat.zero_le _, ?_, ?_, .zero, AxisAlignedBox.zero_valid⟩
      · intro older hOlder _
        rw [mem_singleton.mp hOlder]
        exact ⟨0, rfl, ChangeLog.AgreeSince.of_same 0 hShown⟩
      · intro current hCurrent
        cases hCurrent
        exact fun key _ => hShown key

/-! ### One observation -/

omit [FloatOrder D] in
theorem Touches.of_covers {current : MappingWorldSnapshot D} {record : WorldChangeRecord D}
    (h : record.affectsWholeWorld = true) (key : Option (GridLayer × GridIndex3)) :
    Touches limits current record key := by
  cases key with
  | none => exact h
  | some cell => exact .inl h

theorem live_entered {s : MappingSession M D} {observation : MappingObservation D}
    {entered : MappingActor M D} (h : Tracked backend limits next s)
    (hPoisoned : s.actor.poisoned = false)
    (hEnter : s.actor.enterEpoch backend observation = .ok entered) :
    Live backend limits next ⟨entered, s.published⟩ := by
  rcases enterEpoch_ok hEnter with ⟨rfl, -⟩ | hNew
  · exact h.live hPoisoned
  · obtain ⟨hGeneration, -, hHistory, hCurrent, hRegion, -, -⟩ := hNew
    refine ⟨?_, ?_, ?_, ?_, ?_⟩
    · simp [hHistory, recordsOf]
    · intro older hOlder hSame
      have hOld := h.generations older hOlder
      simp only [hGeneration] at hSame
      omega
    · intro current hSome
      rw [hCurrent] at hSome
      cases hSome
    · simp only [hRegion]
      exact .zero
    · simp only [hRegion]
      exact AxisAlignedBox.zero_valid

section Recorded
variable {published : List (MappingWorldSnapshot D)} {entered : MappingActor M D} {map : M}
  {observation : MappingObservation D} {cloud endpoints : List (PointXYZI D)}
  {outcome : MapUpdateOutcome} {diagnostics : RaycastDiagnostics D}

section
variable (hLawful : backend.Lawful limits next)
  (hLive : Live backend limits next ⟨entered, published⟩)
  (hUpdate : backend.updateMap entered.map cloud endpoints (mapPose observation)
    observation.sensorOriginWorld = some (map, outcome, diagnostics))
include hLawful hLive hUpdate

theorem pending_recorded {current : MappingWorldSnapshot D}
    (hPending : Pending backend limits entered current) :
    Pending backend limits
      (recordChange backend next { entered with map := map } observation diagnostics)
      current := by
  obtain ⟨region, covers, hRecorded, hCases⟩ := @recordChange_eq M D _ backend next
    { entered with map := map } observation diagnostics
  rw [hRecorded]
  intro key hUntouched
  rcases hCases with ⟨hCovers, -⟩ | ⟨hWhole, hCovers, hRegion⟩
  · exact absurd (Touches.of_covers hCovers key) hUntouched
  · have hChange := (changeRecord_region hWhole).2
    have hValid : entered.pendingChangedRegion.valid = true := hLive.valid
    have hOld : ¬ Touches limits current entered.pendingRecord key := by
      intro hTouched
      apply hUntouched
      cases key with
      | none => exact hCovers.trans hTouched
      | some cell =>
        rcases hTouched with hAll | hWithin
        · exact .inl (hCovers.trans hAll)
        · right
          simp only [pendingRecord, hRegion]
          exact within_mergePending hValid hChange (.inl hWithin)
    have hBefore := hPending key hOld
    apply hBefore.trans
    apply update_sameAt hLawful hUpdate (nextIdentity { entered with map := map } observation)
    intro hTouched
    have hHere := Touches.of_sameAt hBefore hTouched
    apply hUntouched
    cases key with
    | none =>
      have hFlag : (recordOf backend next { entered with map := map } observation
        diagnostics).affectsWholeWorld = true := hHere
      rw [hWhole] at hFlag
      cases hFlag
    | some cell =>
      rcases hHere with hFlag | hWithin
      · have hFlag' : (recordOf backend next { entered with map := map } observation
          diagnostics).affectsWholeWorld = true := hFlag
        rw [hWhole] at hFlag'
        cases hFlag'
      · right
        simp only [pendingRecord, hRegion]
        exact within_mergePending hValid hChange (.inr hWithin)

theorem live_recorded :
    Live backend limits next ⟨recordChange backend next { entered with map := map }
      observation diagnostics, published⟩ := by
  have hPending := fun current hCurrent =>
    pending_recorded hLawful hLive hUpdate (hLive.current current hCurrent)
  obtain ⟨region, covers, hRecorded, hCases⟩ := @recordChange_eq M D _ backend next
    { entered with map := map } observation diagnostics
  rw [hRecorded] at hPending ⊢
  refine ⟨?_, ?_, ?_, ?_, ?_⟩
  · exact ChangeLog.length_retain_le (by decide) _ _
  · intro older hOlder hGeneration
    obtain ⟨n, hRevision, hAccounts⟩ := hLive.since older hOlder hGeneration
    refine ⟨n + 1, ?_, ?_⟩
    · have hRevision' : entered.worldRevision = older.identity.revision + n := hRevision
      simp only [hRevision']
      omega
    · exact hAccounts.extend (update_sameAt hLawful hUpdate _)
  · exact hPending
  · rcases hCases with ⟨-, rfl⟩ | ⟨hWhole, -, rfl⟩
    · exact hLive.merged
    · exact .merge hLive.merged ⟨_, _, _, _, _, _, _, _, _, hUpdate, hWhole, rfl⟩
  · rcases hCases with ⟨-, rfl⟩ | ⟨hWhole, -, rfl⟩
    · exact hLive.valid
    · exact mergePending_valid hLive.valid (changeRecord_region hWhole).2

end

end Recorded

omit [FloatOrder D] in
theorem exports_shown (hLawful : backend.Lawful limits next) {s : MappingSession M D}
    (hLive : Live backend limits next s) {identity : WorldSnapshotIdentity}
    {snapshot : MappingWorldSnapshot D} (h : Exports backend s.actor identity snapshot) :
    (∀ key, SameAt limits key snapshot (backend.live s.actor.map)) ∧ snapshot.identity = identity ∧
      snapshot.changeHistory = s.actor.changeHistory := by
  cases h with
  | full offsets =>
    exact ⟨root_sameAt _ _ _ _, rfl, rfl⟩
  | patch hCurrent hCovers hBase hOccupied hAccepted =>
    have hPatch : PatchExported backend limits next s.actor _ identity :=
      ⟨hLive.current _ hCurrent, hCovers, hLive.merged, hBase, hOccupied, hAccepted⟩
    exact ⟨hPatch.sameAt hLawful, rfl, rfl⟩

section Publication
variable {recorded : MappingActor M D} {published : List (MappingWorldSnapshot D)}
  {snapshot : MappingWorldSnapshot D} {stamp : Int}

omit [FloatOrder D] in
theorem consistent_published (hLawful : backend.Lawful limits next)
    (hLive : Live backend limits next ⟨recorded, published⟩) (h : Consistent limits published)
    (hNewest : ∀ older ∈ published, older.identity.generation = recorded.worldGeneration →
      older.identity.revision < recorded.worldRevision)
    (hExports : Exports backend recorded
      ⟨recorded.localizationEpoch, recorded.worldGeneration, recorded.worldRevision, stamp⟩
      snapshot) : Consistent limits (snapshot :: published) := by
  obtain ⟨hShown, hIdentity, hHistory⟩ := exports_shown hLawful hLive hExports
  have hGeneration : snapshot.identity.generation = recorded.worldGeneration := by rw [hIdentity]
  have hRevision : snapshot.identity.revision = recorded.worldRevision := by rw [hIdentity]
  refine ⟨?_, ?_, ?_⟩
  · intro other hOther
    rcases mem_cons.mp hOther with rfl | hOld
    · rw [hHistory]
      exact hLive.retained
    · exact h.bounded other hOld
  · intro older hOlder newer hNewer hSame hRevisions
    rcases mem_cons.mp hOlder with rfl | hOld
    · rcases mem_cons.mp hNewer with rfl | hNew
      · rfl
      · have hLess := hNewest newer hNew (hSame.symm.trans hGeneration)
        omega
    · rcases mem_cons.mp hNewer with rfl | hNew
      · have hLess := hNewest older hOld (hSame.trans hGeneration)
        omega
      · exact h.unique older hOld newer hNew hSame hRevisions
  · intro older hOlder newer hNewer hSame n hSum
    rcases mem_cons.mp hOlder with rfl | hOld
    · rcases mem_cons.mp hNewer with rfl | hNew
      · apply ChangeLog.AgreeSince.of_same
        intro key
        exact (hShown key).trans (hShown key).symm
      · have hLess := hNewest newer hNew (hSame.symm.trans hGeneration)
        omega
    · rcases mem_cons.mp hNewer with rfl | hNew
      · obtain ⟨k, hk, hAccounts⟩ := hLive.since older hOld (hSame.trans hGeneration)
        have hCount : k = n := by
          simp only at hk
          omega
        subst hCount
        rw [hHistory]
        exact hAccounts.shown hShown
      · exact h.paired older hOld newer hNew hSame n hSum

theorem live_published (hLawful : backend.Lawful limits next)
    (hLive : Live backend limits next ⟨recorded, published⟩)
    (hExports : Exports backend recorded
      ⟨recorded.localizationEpoch, recorded.worldGeneration, recorded.worldRevision, stamp⟩
      snapshot) (observation : MappingObservation D) (bytes : Nat)
    (offsets : Option (List GridIndex3)) :
    Live backend limits next
      ⟨{ recorded.observed observation with
          fullSnapshotOwnedBytes := bytes
          nearestOffsets := offsets
          currentSnapshot := some snapshot
          pendingChangedRegion := .zero
          pendingChangeCoversWorld := false }, snapshot :: published⟩ := by
  obtain ⟨hShown, hIdentity, -⟩ := exports_shown hLawful hLive hExports
  have hRevision : snapshot.identity.revision = recorded.worldRevision := by rw [hIdentity]
  refine ⟨hLive.retained, ?_, ?_, .zero, AxisAlignedBox.zero_valid⟩
  · intro older hOlder hSame
    rcases mem_cons.mp hOlder with rfl | hOld
    · exact ⟨0, hRevision.symm, ChangeLog.AgreeSince.of_same 0 hShown⟩
    · exact hLive.since older hOld hSame
  · intro current hSome
    cases hSome
    exact fun key _ => hShown key

end Publication

theorem step_tracked (hLawful : backend.Lawful limits next) (s : MappingSession M D)
    (observation : MappingObservation D) (h : Tracked backend limits next s) :
    Tracked backend limits next (s.step backend next settings observation).1 := by
  have hProcessed := @process_processed M D _ backend next settings s.actor observation
  unfold step
  generalize s.actor.process backend next settings observation = out at hProcessed ⊢
  obtain ⟨t, r⟩ := out
  cases hProcessed with
  | refused error => exact h
  | failed error hPoisoned hGeneration =>
    refine ⟨?_, h.consistent, ?_⟩
    · intro snapshot hSnapshot
      exact (h.generations snapshot hSnapshot).trans hGeneration
    · intro hClean
      rw [hPoisoned] at hClean
      cases hClean
  | advanced hClean hEnter hUpdate hPublish =>
    rename_i entered cloud endpoints map outcome diagnostics result
    have hEntered := live_entered h hClean hEnter
    have hLive := live_recorded hLawful hEntered hUpdate
    obtain ⟨region, covers, hRecorded, -⟩ := @recordChange_eq M D _ backend next
      { entered with map := map } observation diagnostics
    have hGeneration := (congrArg worldGeneration hRecorded :)
    have hRevision := (congrArg worldRevision hRecorded :)
    simp only at hPublish hGeneration hRevision
    generalize recordChange backend next _ observation diagnostics = recorded
      at hPublish hLive hGeneration hRevision
    have hOld : ∀ older ∈ s.published, older.identity.generation ≤ recorded.worldGeneration := by
      intro older hOlder
      rw [hGeneration]
      exact (h.generations older hOlder).trans (enterEpoch_generation hEnter)
    rcases publishRecorded_ok hPublish with ⟨hNone, rfl⟩ | hSome
    · simp only [hNone, Option.toList_none, nil_append]
      exact ⟨hOld, h.consistent,
        fun _ => ⟨hLive.retained, hLive.since, hLive.current, hLive.merged, hLive.valid⟩⟩
    · obtain ⟨bytes, offsets, snapshot, hSnapshot, hExports, rfl⟩ := hSome
      simp only [hSnapshot, Option.toList_some, singleton_append]
      obtain ⟨-, hIdentity, -⟩ := exports_shown hLawful hLive hExports
      refine ⟨?_, consistent_published hLawful hLive h.consistent ?_ hExports,
        fun _ => live_published hLawful hLive hExports observation bytes offsets⟩
      · intro other hOther
        rcases mem_cons.mp hOther with rfl | hOther
        · rw [hIdentity]
          exact Nat.le_refl _
        · exact hOld other hOther
      · intro older hOlder hSame
        obtain ⟨n, hn, -⟩ := hEntered.since older hOlder (hSame.trans hGeneration)
        simp only at hn
        omega

theorem run_tracked (hLawful : backend.Lawful limits next) {s : MappingSession M D}
    (hStarted : Started backend s) (observations : List (MappingObservation D)) :
    Tracked backend limits next (Runs.run (step backend next settings) s observations) := by
  apply Runs.run_invariant
  · intro s observation h
    exact step_tracked hLawful s observation h
  · exact tracked_of_started hStarted

end MappingSession

end UavNavigation
