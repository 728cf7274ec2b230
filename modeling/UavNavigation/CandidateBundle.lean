import UavNavigation.Machine
import UavNavigation.World

/-!
# Candidate bundles and execution anchors

`navigation_planning/candidate_bundle.hpp`, the validity tests of
`route_boundary.hpp`, and `execution_anchor.hpp`. A bundle is immutable. Its
evaluator is a callable of an arbitrary type `F`; calling it may throw.

Fields that only diagnostics or the retained-world validator read are not
part of the record.
-/

namespace UavNavigation

set_option autoImplicit false

open FloatOps

inductive CandidateRole where
  | main
  | backup
  | emergency
deriving DecidableEq

inductive CandidateBundleKind where
  | mainWithBackup
  | terminalStop
  | backupOnly
  | emergencyBrake
deriving DecidableEq

structure CandidateRoleInterval (D : Type) where
  beginTimeS : D
  endTimeS : D
  role : CandidateRole
deriving DecidableEq

structure CompleteBundleCertificates where
  dynamics : Bool
  flatness : Bool
  world : Bool
  terminalStop : Bool
deriving DecidableEq

def CompleteBundleCertificates.completeFor (certificates : CompleteBundleCertificates)
    (kind : CandidateBundleKind) : Bool :=
  if !certificates.dynamics || !certificates.flatness || !certificates.world then false
  else kind != .terminalStop || certificates.terminalStop

structure CompleteCandidateQuality (D : Type) where
  remainingMainHorizonS : D
  minimumClearanceM : D
  maximumDynamicUtilization : D
  routeProgressM : D
  objectiveCost : D
deriving DecidableEq

def CompleteCandidateQuality.finite {D : Type} [FloatOps D]
    (quality : CompleteCandidateQuality D) : Bool :=
  isFinite quality.remainingMainHorizonS &&
    isFinite quality.minimumClearanceM && lit 0 ≤ quality.minimumClearanceM &&
    isFinite quality.maximumDynamicUtilization && lit 0 ≤ quality.maximumDynamicUtilization &&
    isFinite quality.routeProgressM && lit 0 ≤ quality.routeProgressM &&
    isFinite quality.objectiveCost

/-- Every value of the role enumeration is one the source accepts. -/
def candidateRoleValid (role : CandidateRole) : Bool :=
  role == .main || role == .backup || role == .emergency

/-- A junction of the route: the two unit tangents and the speed at the corner. -/
def junctionValid {D : Type} [FloatOps D] (incoming outgoing : Vec3 D) (cornerSpeed : D) : Bool :=
  incoming.allFinite && outgoing.allFinite && isFinite incoming.norm && lit 1e-9 < incoming.norm &&
    isFinite outgoing.norm && lit 1e-9 < outgoing.norm &&
    abs (incoming.norm - lit 1) ≤ lit 1e-6 && abs (outgoing.norm - lit 1) ≤ lit 1e-6 &&
    isFinite cornerSpeed && lit 0 ≤ cornerSpeed

structure RouteBoundaryEvent (D : Type) where
  boundaryStampNs : Int
  positionWorld : Vec3 D
  incomingTangent : Vec3 D
  outgoingTangent : Vec3 D
  cornerSpeedMps : D
deriving DecidableEq

def RouteBoundaryEvent.valid {D : Type} [FloatOps D] (event : RouteBoundaryEvent D) : Bool :=
  0 < event.boundaryStampNs && event.positionWorld.allFinite &&
    junctionValid event.incomingTangent event.outgoingTangent event.cornerSpeedMps

structure RouteBoundaryConstraint (D : Type) where
  admissibleVolume : AxisAlignedBox D
  incomingTangent : Vec3 D
  outgoingTangent : Vec3 D
  cornerSpeedMps : D
deriving DecidableEq

def RouteBoundaryConstraint.valid {D : Type} [FloatOps D]
    (constraint : RouteBoundaryConstraint D) : Bool :=
  constraint.admissibleVolume.valid &&
    junctionValid constraint.incomingTangent constraint.outgoingTangent constraint.cornerSpeedMps

structure TrajectoryPoint (D : Type) where
  positionWorld : Vec3 D
  velocityWorld : Vec3 D
  accelerationWorld : Vec3 D
  jerkWorld : Vec3 D
  yaw : D
  yawRate : D
  role : CandidateRole
  finished : Bool
  trajectoryTimeS : D
deriving DecidableEq

namespace TrajectoryPoint
variable {D : Type} [FloatOps D]

def initial (role : CandidateRole) : TrajectoryPoint D :=
  ⟨Vec3.zero, Vec3.zero, Vec3.zero, Vec3.zero, lit 0, lit 0, role, false, lit 0⟩

def finite (point : TrajectoryPoint D) : Bool :=
  point.positionWorld.allFinite && point.velocityWorld.allFinite &&
    point.accelerationWorld.allFinite && point.jerkWorld.allFinite &&
    isFinite point.yaw && isFinite point.yawRate && isFinite point.trajectoryTimeS

end TrajectoryPoint

/-- Calling an evaluator fills in a point and reports success, or throws (`none`). -/
class Evaluator (D F : Type) where
  call : F → Int → TrajectoryPoint D → Option (Bool × TrajectoryPoint D)

/-! ## Bundles -/

structure CandidateBundle (D F : Type) where
  pinnedWorldIdentity : WorldSnapshotIdentity
  worldIdentity : WorldSnapshotIdentity
  localizationEpoch : Nat
  goalEpoch : Nat
  requestId : Nat
  bundleGeneration : Nat
  validFromNs : Int
  validUntilNs : Int
  activationStampNs : Int
  role : CandidateRole
  startWallTimeS : D
  durationS : D
  declaredStartNs : Int
  declaredEndNs : Int
  backupStartTimeS : D
  backupAvailable : Bool
  terminalStop : Bool
  kind : CandidateBundleKind
  certificates : CompleteBundleCertificates
  protectedRegion : AxisAlignedBox D
  roleSchedule : List (CandidateRoleInterval D)
  quality : Option (CompleteCandidateQuality D)
  routeBoundaryConstraint : Option (RouteBoundaryConstraint D)
  routeBoundaryEvent : Option (RouteBoundaryEvent D)
  evaluator : Option F
deriving DecidableEq

namespace CandidateBundle

section Schedule
variable {D F : Type} [FloatOps D]

/-- The loop of `roleScheduleValid`: the cursor after the last interval, or
nothing once an interval does not continue the schedule. -/
def scheduleCursor (durationS : D) : D → List (CandidateRoleInterval D) → Option D
  | cursor, [] => some cursor
  | cursor, interval :: rest =>
    if !isFinite interval.beginTimeS || !isFinite interval.endTimeS ||
        lit 1e-6 < abs (interval.beginTimeS - cursor) ||
        interval.endTimeS ≤ interval.beginTimeS ||
        durationS + lit 1e-6 < interval.endTimeS ||
        !candidateRoleValid interval.role then none
    else scheduleCursor durationS interval.endTimeS rest

def roleScheduleValid (bundle : CandidateBundle D F) : Bool :=
  if !isFinite bundle.durationS || bundle.durationS < lit 0 || bundle.roleSchedule.isEmpty then
    false
  else
    match scheduleCursor bundle.durationS (lit 0) bundle.roleSchedule with
    | none => false
    | some cursor => abs (cursor - bundle.durationS) ≤ lit 1e-6

def sampledRoleAllowed (bundle : CandidateBundle D F) (sampledRole : CandidateRole) : Bool :=
  if !candidateRoleValid sampledRole then false
  else if bundle.role == .emergency then sampledRole == .emergency
  else if bundle.role == .backup then sampledRole == .backup
  else sampledRole == .main || (bundle.backupAvailable && sampledRole == .backup)

def hasDeclaredEndpointMetadata (bundle : CandidateBundle D F) : Bool :=
  isFinite bundle.startWallTimeS && lit 0 < bundle.startWallTimeS &&
    isFinite bundle.durationS && lit 0 ≤ bundle.durationS

def kindContract (bundle : CandidateBundle D F) : Bool :=
  (bundle.kind == .mainWithBackup && bundle.role == .main && bundle.backupAvailable) ||
    (bundle.kind == .terminalStop && bundle.role == .main && !bundle.backupAvailable) ||
    (bundle.kind == .backupOnly && bundle.role == .backup) ||
    (bundle.kind == .emergencyBrake && bundle.role == .emergency)

def terminalStopContract (bundle : CandidateBundle D F) : Bool :=
  !bundle.terminalStop ||
    (bundle.role == .main && (bundle.kind == .terminalStop || bundle.kind == .mainWithBackup) &&
      bundle.certificates.terminalStop)

/-- The optional planner metadata: quality, route boundary and its event. -/
def optionalMetadataValid (bundle : CandidateBundle D F) : Bool :=
  bundle.quality.all (·.finite) && bundle.routeBoundaryConstraint.all (·.valid) &&
    bundle.routeBoundaryEvent.all (·.valid) &&
    (bundle.routeBoundaryConstraint.isNone || bundle.routeBoundaryEvent.isSome)

end Schedule

section Validity
variable {D F : Type} [Floating D]

def toOffsetNs (seconds : D) : Option Int :=
  if !isFinite seconds || seconds < lit 0 then none
  else
    let rounded := round (Floating.widen seconds * (lit 1000000000 : Floating.LongDouble D))
    if !isFinite rounded || ofInt (2 ^ 63 - 1) < rounded then none else some (toInt rounded)

/-- The first interval, in order, whose rounded half-open range holds the sample. -/
def intervalRole (sampleNs : Int) : List (CandidateRoleInterval D) → Option CandidateRole
  | [] => none
  | interval :: rest =>
    match toOffsetNs interval.beginTimeS, toOffsetNs interval.endTimeS with
    | some beginNs, some endNs =>
      if beginNs ≤ sampleNs && sampleNs < endNs then some interval.role
      else intervalRole sampleNs rest
    | _, _ => intervalRole sampleNs rest

def scheduledRole (bundle : CandidateBundle D F) (trajectoryTimeS : D) : Option CandidateRole :=
  if !bundle.roleScheduleValid || !isFinite trajectoryTimeS || trajectoryTimeS < lit 0 ||
      bundle.durationS + lit 1e-9 < trajectoryTimeS then none
  else
    match toOffsetNs trajectoryTimeS with
    | none => none
    | some sampleNs =>
      match intervalRole sampleNs bundle.roleSchedule with
      | some role => some role
      | none =>
        -- the declared end belongs to no half-open interval
        if toOffsetNs bundle.durationS = some sampleNs then
          bundle.roleSchedule.getLast?.map (·.role)
        else none

def endpointMetadataConsistent (bundle : CandidateBundle D F) : Bool :=
  0 < bundle.declaredStartNs && bundle.declaredStartNs ≤ bundle.declaredEndNs &&
    secondsToNanoseconds bundle.startWallTimeS == some bundle.declaredStartNs &&
    secondsSumToNanoseconds bundle.startWallTimeS bundle.durationS == some bundle.declaredEndNs

def valid (bundle : CandidateBundle D F) : Bool :=
  bundle.localizationEpoch != 0 && bundle.goalEpoch != 0 && bundle.requestId != 0 &&
    bundle.bundleGeneration != 0 && 0 < bundle.validFromNs &&
    bundle.validFromNs ≤ bundle.validUntilNs && bundle.evaluator.isSome &&
    candidateRoleValid bundle.role && bundle.kindContract && bundle.terminalStopContract &&
    bundle.certificates.completeFor bundle.kind && bundle.protectedRegion.valid &&
    (0 < bundle.activationStampNs && bundle.activationStampNs == bundle.validFromNs) &&
    bundle.endpointMetadataConsistent && bundle.roleScheduleValid &&
    bundle.optionalMetadataValid &&
    bundle.pinnedWorldIdentity.localizationEpoch == bundle.localizationEpoch &&
    bundle.pinnedWorldIdentity.published &&
    bundle.worldIdentity.localizationEpoch == bundle.localizationEpoch &&
    bundle.worldIdentity.published

variable [Evaluator D F]

def sampleAtDeclaredStamp (bundle : CandidateBundle D F) (stampNs : Int) :
    Option (TrajectoryPoint D) :=
  if !bundle.valid || stampNs < bundle.declaredStartNs || bundle.declaredEndNs < stampNs then none
  else
    match bundle.evaluator.bind (Evaluator.call · stampNs (TrajectoryPoint.initial bundle.role)) with
    | some (true, point) =>
      if !point.finite || !bundle.sampledRoleAllowed point.role then none
      else if bundle.scheduledRole point.trajectoryTimeS = some point.role then some point
      else none
    | _ => none

/-- The declared endpoint may lie beyond the validity interval of `sample`. -/
def sampleAtDeclaredEnd (bundle : CandidateBundle D F) : Option (TrajectoryPoint D) :=
  if !bundle.valid || !bundle.hasDeclaredEndpointMetadata then none
  else
    let endStampNs := if 0 < bundle.declaredEndNs then some bundle.declaredEndNs
      else secondsSumToNanoseconds bundle.startWallTimeS bundle.durationS
    match endStampNs with
    | none => none
    | some endStampNs =>
      if endStampNs ≤ 0 then none
      else
        match bundle.evaluator.bind
            (Evaluator.call · endStampNs (TrajectoryPoint.initial bundle.role)) with
        | some (true, point) =>
          if !point.finite || !bundle.sampledRoleAllowed point.role then none
          else if bundle.scheduledRole bundle.durationS = some point.role then
            some { point with finished := true }
          else none
        | _ => none

def sample (bundle : CandidateBundle D F) (stampNs : Int) : Option (TrajectoryPoint D) :=
  if !bundle.valid || stampNs < bundle.validFromNs || bundle.validUntilNs < stampNs then none
  else bundle.sampleAtDeclaredStamp stampNs

end Validity

section Facts
variable {D F : Type} [Floating D] {bundle : CandidateBundle D F}

variable (h : bundle.valid = true)
include h

theorem validFromNs_pos : 0 < bundle.validFromNs := by
  simp only [valid, Bool.and_eq_true, decide_eq_true_eq] at h
  omega

theorem roleScheduleValid_of_valid : bundle.roleScheduleValid = true := by
  simp only [valid, Bool.and_eq_true] at h
  tauto

/-- A valid bundle always declares its endpoint, and the declared nanosecond is
the one the renewal of its lease recomputes. -/
theorem declared_endpoint : bundle.hasDeclaredEndpointMetadata = true ∧
      secondsSumToNanoseconds bundle.startWallTimeS bundle.durationS =
        some bundle.declaredEndNs := by
  have hConsistent : bundle.endpointMetadataConsistent = true := by
    simp only [valid, Bool.and_eq_true] at h
    tauto
  simp only [endpointMetadataConsistent, Bool.and_eq_true, decide_eq_true_eq, beq_iff_eq]
    at hConsistent
  obtain ⟨⟨⟨hStartPos, _⟩, hStart⟩, hEnd⟩ := hConsistent
  obtain ⟨hStartFinite, hStartWall⟩ := pos_of_secondsToNanoseconds hStart hStartPos
  obtain ⟨hDurationFinite, hDuration⟩ := nonneg_of_secondsSumToNanoseconds hEnd
  refine ⟨?_, hEnd⟩
  simp [hasDeclaredEndpointMetadata, hStartFinite, hStartWall, hDurationFinite, hDuration]

end Facts

end CandidateBundle

structure ExecutionAnchor (D : Type) where
  activeBundleGeneration : Nat
  executionLineageVersion : Nat
  localizationEpoch : Nat
  goalEpoch : Nat
  requestId : Nat
  requestStampNs : Int
  activationStampNs : Int
  state : TrajectoryPoint D
  activeRole : CandidateRole
  activeMainEndNs : Int
  activeBundleEndNs : Int
  commandWorld : WorldSnapshotIdentity
deriving DecidableEq

def ExecutionAnchor.valid {D : Type} [FloatOps D] (anchor : ExecutionAnchor D) : Bool :=
  anchor.activeBundleGeneration != 0 && anchor.executionLineageVersion != 0 &&
    anchor.localizationEpoch != 0 && anchor.goalEpoch != 0 && anchor.requestId != 0 &&
    0 < anchor.requestStampNs && anchor.requestStampNs ≤ anchor.activationStampNs &&
    anchor.state.finite && candidateRoleValid anchor.activeRole &&
    anchor.activationStampNs ≤ anchor.activeMainEndNs &&
    anchor.activeMainEndNs ≤ anchor.activeBundleEndNs &&
    anchor.commandWorld.localizationEpoch == anchor.localizationEpoch &&
    anchor.commandWorld.published

/-! ## Exported commands

`Planner::exportStagedCommandCandidate` of `planner_core/planner.cpp` with its evaluator.
A trajectory is its start, its duration and its states. The search for the route boundary
is a parameter: it adds a constraint with its event, adds nothing, or fails. -/

structure StatePVAJ (D : Type) where
  position : Vec3 D
  velocity : Vec3 D
  acceleration : Vec3 D
  jerk : Vec3 D
deriving DecidableEq

def StatePVAJ.allFinite {D : Type} [FloatOps D] (state : StatePVAJ D) : Bool :=
  state.position.allFinite && state.velocity.allFinite && state.acceleration.allFinite &&
    state.jerk.allFinite

structure Trajectory (D : Type) where
  empty : Bool
  startWT : D
  totalDuration : D
  getState : D → StatePVAJ D

inductive CandidateTrajectoryRole where
  | main
  | backup
deriving DecidableEq

inductive BackupDisposition where
  | success
  | finish
  | noNeed
  | emergency
deriving DecidableEq

structure CommandRoleInterval (D : Type) where
  beginTT : D
  endTT : D
  role : CandidateTrajectoryRole
deriving DecidableEq

structure CandidateCommandBundle (D : Type) where
  position : Trajectory D
  yaw : Trajectory D
  roles : List (CommandRoleInterval D)
  localizationEpoch : Nat
  goalEpoch : Nat
  requestId : Nat
  backupSuffixAvailable : Bool
  backupStartTT : D
  terminalStop : Bool
  backupDisposition : BackupDisposition

structure CommandCertificate (D : Type) where
  pinnedWorld : WorldSnapshotIdentity
  validatedWorld : WorldSnapshotIdentity
  protectedRegion : AxisAlignedBox D
deriving DecidableEq

section Completeness
variable {D : Type} [FloatOps D]

/-- The loop of `candidateRoleScheduleIsComplete`: where the last interval ends. -/
def completeCursor : D → List (CommandRoleInterval D) → Option D
  | cursor, [] => some cursor
  | cursor, interval :: rest =>
    if !isFinite interval.beginTT || !isFinite interval.endTT || interval.beginTT < lit 0 ||
        interval.endTT ≤ interval.beginTT || !equal interval.beginTT cursor then none
    else completeCursor interval.endTT rest

def candidateRoleScheduleIsComplete (command : CandidateCommandBundle D) : Bool :=
  let duration := command.position.totalDuration
  if !isFinite duration || duration < lit 0 || command.roles.isEmpty then false
  else
    match completeCursor (lit 0) command.roles with
    | none => false
    | some cursor => equal cursor duration

end Completeness

structure CommandTrajectoryTime (D : Type) where
  finished : Bool
  trajectoryTimeS : D
deriving DecidableEq

section Evaluation
variable {D : Type}

def commandTrajectoryTime [FloatOps D] (stampNs startNs endNs : Int) (durationS : D) :
    CommandTrajectoryTime D :=
  if startNs ≤ 0 || endNs < startNs || !isFinite durationS || durationS < lit 0 then ⟨false, lit 0⟩
  else if endNs ≤ stampNs then ⟨endNs < stampNs, durationS⟩
  else ⟨false, ofInt (stampNs - startNs) * lit (1 / 1000000000)⟩

/-- `std::llround` of a time in nanoseconds. -/
def llroundNs [Floating D] (seconds : D) : Int :=
  toInt (round (Floating.widen seconds * (lit 1000000000 : Floating.LongDouble D)))

def evaluatesBackup [Floating D] (elapsedNs durationNs : Int) : List (CommandRoleInterval D) → Bool
  | [] => false
  | interval :: rest =>
    let atDeclaredEndpoint := elapsedNs == durationNs && rest.isEmpty
    (llroundNs interval.beginTT ≤ elapsedNs &&
      (elapsedNs < llroundNs interval.endTT || atDeclaredEndpoint) && interval.role == .backup) ||
      evaluatesBackup elapsedNs durationNs rest

/-- What the evaluator closure of an exported candidate captures. -/
structure CommandEvaluator (D : Type) where
  command : CandidateCommandBundle D
  emergencyCandidate : Bool
  startNs : Int
  endNs : Int

def CommandEvaluator.evaluate [Floating D] (e : CommandEvaluator D) (stampNs : Int)
    (point : TrajectoryPoint D) : Bool × TrajectoryPoint D :=
  let commandTime := commandTrajectoryTime stampNs e.startNs e.endNs e.command.position.totalDuration
  if commandTime.trajectoryTimeS < lit 0 then (false, point)
  else
    let state := e.command.position.getState commandTime.trajectoryTimeS
    let yawState := e.command.yaw.getState commandTime.trajectoryTimeS
    if !state.allFinite || !yawState.allFinite then (false, point)
    else
      (true,
        { positionWorld := state.position
          velocityWorld := state.velocity
          accelerationWorld := state.acceleration
          jerkWorld := state.jerk
          yaw := yawState.position.x
          yawRate := yawState.velocity.x
          finished := commandTime.finished
          trajectoryTimeS := commandTime.trajectoryTimeS
          role :=
            if e.emergencyCandidate then .emergency
            else if evaluatesBackup (stampNs - e.startNs) (e.endNs - e.startNs) e.command.roles
            then .backup else .main })

instance [Floating D] : Evaluator D (CommandEvaluator D) where
  call e stampNs point := some (e.evaluate stampNs point)

end Evaluation

/-! ## The export -/

inductive CandidateExportFailure where
  | invalidInputIdentity
  | stagedIdentityMismatch
  | invalidTrajectory
  | invalidTimeWindow
  | invalidEndpointMetadata
  | invalidRoleSchedule
  | incompleteRouteBoundary
  | invalidWorldIdentity
  | invalidProtectedRegion
  | invalidCandidate
deriving DecidableEq

structure RouteBoundary (D : Type) where
  constraint : Option (RouteBoundaryConstraint D)
  event : Option (RouteBoundaryEvent D)
deriving DecidableEq

structure ExportRequest where
  generation : Nat
  localizationEpoch : Nat
  goalEpoch : Nat
  requestId : Nat
  validFromNs : Int
  validUntilNs : Int
deriving DecidableEq

section Export
variable {D : Type} [Floating D]

def worldIdentityValid (identity : WorldSnapshotIdentity) : Bool :=
  identity.localizationEpoch != 0 && identity.published

def exportedRole (emergencyCandidate : Bool) (role : CandidateTrajectoryRole) : CandidateRole :=
  if emergencyCandidate then .emergency
  else if role == .backup then .backup
  else .main

def CandidateCommandBundle.emergencyCandidate (command : CandidateCommandBundle D) : Bool :=
  command.backupDisposition == .emergency

def buildCandidate (command : CandidateCommandBundle D) (certificate : CommandCertificate D)
    (request : ExportRequest) (startNs declaredEndNs : Int) :
    CandidateBundle D (CommandEvaluator D) :=
  let emergencyCandidate := command.emergencyCandidate
  let kind : CandidateBundleKind :=
    if emergencyCandidate then .emergencyBrake
    else if command.backupSuffixAvailable then .mainWithBackup else .terminalStop
  let candidateValidFromNs := Max.max request.validFromNs startNs
  { pinnedWorldIdentity := certificate.pinnedWorld
    worldIdentity := certificate.validatedWorld
    localizationEpoch := request.localizationEpoch
    goalEpoch := request.goalEpoch
    requestId := request.requestId
    bundleGeneration := request.generation
    activationStampNs := candidateValidFromNs
    startWallTimeS := command.position.startWT
    durationS := command.position.totalDuration
    declaredStartNs := startNs
    declaredEndNs := declaredEndNs
    backupStartTimeS := command.backupStartTT
    backupAvailable := command.backupSuffixAvailable
    terminalStop := command.terminalStop
    kind := kind
    certificates :=
      { dynamics := true
        flatness := true
        world := true
        terminalStop := kind == .terminalStop || command.terminalStop }
    protectedRegion := certificate.protectedRegion
    role := if emergencyCandidate then .emergency else .main
    roleSchedule := command.roles.map fun interval =>
      ⟨interval.beginTT, interval.endTT, exportedRole emergencyCandidate interval.role⟩
    validFromNs := candidateValidFromNs
    validUntilNs := Min.min request.validUntilNs declaredEndNs
    quality := none
    routeBoundaryConstraint := none
    routeBoundaryEvent := none
    evaluator := some ⟨command, emergencyCandidate, startNs, declaredEndNs⟩ }

def routeBoundaryIncomplete (candidate : CandidateBundle D (CommandEvaluator D)) : Bool :=
  (candidate.routeBoundaryConstraint.isNone && candidate.routeBoundaryEvent.isSome) ||
    (candidate.routeBoundaryConstraint.isSome &&
      (candidate.routeBoundaryEvent.isNone || !candidate.routeBoundaryConstraint.all (·.valid) ||
        !candidate.routeBoundaryEvent.all (·.valid)))

def checkExported (request : ExportRequest) (candidate : CandidateBundle D (CommandEvaluator D)) :
    Except CandidateExportFailure (CandidateBundle D (CommandEvaluator D)) :=
  if !candidate.hasDeclaredEndpointMetadata then .error .invalidEndpointMetadata
  else if !candidate.roleScheduleValid then .error .invalidRoleSchedule
  else if !candidate.protectedRegion.valid then .error .invalidProtectedRegion
  else if !worldIdentityValid candidate.pinnedWorldIdentity ||
      !worldIdentityValid candidate.worldIdentity ||
      candidate.pinnedWorldIdentity.localizationEpoch != request.localizationEpoch ||
      candidate.worldIdentity.localizationEpoch != request.localizationEpoch then
    .error .invalidWorldIdentity
  else if routeBoundaryIncomplete candidate then .error .incompleteRouteBoundary
  else if !candidate.valid then .error .invalidCandidate
  else .ok candidate

def exportBuilt (command : CandidateCommandBundle D) (certificate : CommandCertificate D)
    (request : ExportRequest) (boundary : Except CandidateExportFailure (RouteBoundary D))
    (startNs declaredEndNs : Int) :
    Except CandidateExportFailure (CandidateBundle D (CommandEvaluator D)) :=
  let candidate := buildCandidate command certificate request startNs declaredEndNs
  if candidate.validUntilNs < candidate.validFromNs then .error .invalidTimeWindow
  else
    match boundary with
    | .error failure => .error failure
    | .ok boundary => checkExported request { candidate with
        routeBoundaryConstraint := boundary.constraint
        routeBoundaryEvent := boundary.event }

/-- `exportStagedCommandCandidate`. `boundary` is the outcome of its search for the route
boundary. -/
def exportStagedCommandCandidate (command : CandidateCommandBundle D)
    (certificate : CommandCertificate D) (request : ExportRequest)
    (boundary : Except CandidateExportFailure (RouteBoundary D)) :
    Except CandidateExportFailure (CandidateBundle D (CommandEvaluator D)) :=
  if request.localizationEpoch == 0 || request.goalEpoch == 0 || request.requestId == 0 ||
      request.generation == 0 then .error .invalidInputIdentity
  else if request.validFromNs ≤ 0 || request.validUntilNs < request.validFromNs then
    .error .invalidTimeWindow
  else if !worldIdentityValid certificate.pinnedWorld ||
      !worldIdentityValid certificate.validatedWorld then .error .invalidWorldIdentity
  else if command.localizationEpoch != request.localizationEpoch ||
      command.goalEpoch != request.goalEpoch || command.requestId != request.requestId then
    .error .stagedIdentityMismatch
  else if command.position.empty || command.yaw.empty || !isFinite command.position.startWT ||
      !isFinite command.position.totalDuration || command.position.totalDuration < lit 0 then
    .error .invalidTrajectory
  else
    let startWallTimeS := command.position.startWT
    let endWallTimeS := startWallTimeS + command.position.totalDuration
    if !isFinite endWallTimeS || endWallTimeS < startWallTimeS then .error .invalidEndpointMetadata
    else
      match secondsToNanoseconds startWallTimeS, secondsToNanoseconds endWallTimeS,
          secondsSumToNanoseconds startWallTimeS command.position.totalDuration with
      | some startNs, some endNs, some declaredEndNs =>
        if endNs < startNs || declaredEndNs < startNs then .error .invalidEndpointMetadata
        else exportBuilt command certificate request boundary startNs declaredEndNs
      | _, _, _ => .error .invalidEndpointMetadata

theorem checkExported_ok {request : ExportRequest}
    {candidate exported : CandidateBundle D (CommandEvaluator D)}
    (h : checkExported request candidate = .ok exported) :
    exported = candidate ∧ candidate.valid = true := by
  revert h
  fun_cases checkExported
  all_goals intro h
  case case7 hValid =>
    cases h
    exact ⟨rfl, by simpa using hValid⟩
  all_goals cases h

variable {command : CandidateCommandBundle D} {certificate : CommandCertificate D}
  {request : ExportRequest} {boundary : Except CandidateExportFailure (RouteBoundary D)}
  {candidate : CandidateBundle D (CommandEvaluator D)}

theorem exportBuilt_ok {startNs declaredEndNs : Int}
    (h : exportBuilt command certificate request boundary startNs declaredEndNs = .ok candidate) :
    (∃ routeBoundary, candidate =
      { buildCandidate command certificate request startNs declaredEndNs with
        routeBoundaryConstraint := RouteBoundary.constraint routeBoundary
        routeBoundaryEvent := RouteBoundary.event routeBoundary }) ∧
      candidate.valid = true := by
  unfold exportBuilt at h
  dsimp only at h
  split at h
  · cases h
  · cases boundary with
    | error failure => cases h
    | ok routeBoundary =>
      obtain ⟨rfl, hValid⟩ := checkExported_ok h
      exact ⟨⟨routeBoundary, rfl⟩, hValid⟩

theorem exportStagedCommandCandidate_ok
    (h : exportStagedCommandCandidate command certificate request boundary = .ok candidate) :
    isFinite command.position.startWT = true ∧ isFinite command.position.totalDuration = true ∧
      ∃ startNs declaredEndNs, secondsToNanoseconds command.position.startWT = some startNs ∧
        secondsSumToNanoseconds command.position.startWT command.position.totalDuration =
          some declaredEndNs ∧
        startNs ≤ declaredEndNs ∧
        (∃ routeBoundary, candidate =
          { buildCandidate command certificate request startNs declaredEndNs with
            routeBoundaryConstraint := RouteBoundary.constraint routeBoundary
            routeBoundaryEvent := RouteBoundary.event routeBoundary }) ∧
        candidate.valid = true := by
  unfold exportStagedCommandCandidate at h
  split at h
  · cases h
  split at h
  · cases h
  split at h
  · cases h
  split at h
  · cases h
  split at h
  · cases h
  rename_i hTrajectory
  simp only [Bool.or_eq_true, Bool.not_eq_true', not_or, Bool.not_eq_false] at hTrajectory
  refine ⟨hTrajectory.1.1.2, hTrajectory.1.2, ?_⟩
  dsimp only at h
  split at h
  · cases h
  split at h
  · rename_i startNs endNs declaredEndNs hStart hEnd hDeclared
    split at h
    · cases h
    · rename_i hOrder
      simp only [Bool.or_eq_true, decide_eq_true_eq, not_or, not_lt] at hOrder
      obtain ⟨hBuilt, hValid⟩ := exportBuilt_ok h
      exact ⟨startNs, declaredEndNs, hStart, hDeclared, hOrder.2, hBuilt, hValid⟩
  · cases h

end Export

end UavNavigation
