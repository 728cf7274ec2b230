import UavNavigation.World

/-!
# The contract of a navigation command

`navigation_command_contract.hpp`, `execution_state_freshness.hpp` and the admission
headers of the PX4 external mode. Ages that only diagnostics show are left out.
-/

namespace UavNavigation.NavigationMode

set_option autoImplicit false

open FloatOps

structure Stamp where
  sec : Int
  nanosec : Nat
deriving DecidableEq

/-- `rosTimeToNanoseconds(stamp).value_or(0)`. -/
def Stamp.nanoseconds (stamp : Stamp) : Int := (rosTimeToNanoseconds stamp.sec stamp.nanosec).getD 0

/-- Any other value of the message is none of the three. -/
inductive CommandRole where
  | main
  | backup
  | emergency
  | unrecognized (value : Nat)
deriving DecidableEq

inductive CommandStatus where
  | empty
  | ready
  | braking
  | completed
  | rejected
  | handover
  | unrecognized (value : Nat)
deriving DecidableEq

inductive EmergencyAuthorization where
  | none
  | actualAnchorCertificateExceeded
  | projectedMainOnlyCertificateExceeded
  | otherInvalid
  | indeterminatePreStartTracking
  | clearanceExceeded
  | unrecognized (value : Nat)
deriving DecidableEq

structure NavigationCommand (D : Type) where
  stamp : Stamp
  frameId : String
  localizationEpoch : Nat
  goalEpoch : Nat
  modeActivationId : Nat
  missionId : String
  waypointIndex : Nat
  requestId : Nat
  worldGeneration : Nat
  worldRevision : Nat
  worldObservationStamp : Stamp
  bundleGeneration : Nat
  certifiedMainContinuation : Bool
  continuationBoundaryStampNs : Nat
  sampleId : Nat
  stateSourceStamp : Stamp
  validUntil : Stamp
  role : CommandRole
  status : CommandStatus
  position : Vec3 D
  velocity : Vec3 D
  acceleration : Vec3 D
  jerk : Vec3 D
  yaw : D
  yawRate : D
  trajectoryTimeS : D
  emergencyAuthorizationReason : EmergencyAuthorization
  emergencyCandidateCommitResult : Nat
deriving DecidableEq

inductive CommandContractReason where
  | valid
  | expectedFrameMissing
  | missionIdEmpty
  | frameMismatch
  | headerStampInvalid
  | validityWindowInvalid
  | worldStampInvalid
  | stateStampInvalid
  | localizationIdentityInvalid
  | goalIdentityInvalid
  | worldIdentityInvalid
  | sampleIdentityInvalid
  | statusInvalid
  | roleStatusMismatch
  | pvajOrYawNonFinite
  | continuationContractInvalid
  | trajectoryTimeInvalid
deriving DecidableEq

inductive CommandTemporalReason where
  | valid
  | nowInvalid
  | invalidWindow
  | notYetValid
  | expired
deriving DecidableEq

section Contract
variable {D : Type}

def assessCommandTemporalLease (command : NavigationCommand D) (nowNs : Int) :
    CommandTemporalReason :=
  let headerNs := command.stamp.nanoseconds
  let validUntilNs := command.validUntil.nanoseconds
  if nowNs ≤ 0 then .nowInvalid
  else if headerNs ≤ 0 || validUntilNs ≤ headerNs then .invalidWindow
  else if nowNs < headerNs then .notYetValid
  else if validUntilNs < nowNs then .expired
  else .valid

def commandValidAt (command : NavigationCommand D) (nowNs : Int) : Bool :=
  assessCommandTemporalLease command nowNs == .valid

def certifiedMainContinuationFieldsValid (command : NavigationCommand D) : Bool :=
  if !command.certifiedMainContinuation then command.continuationBoundaryStampNs == 0
  else
    command.role == .main && command.status == .ready && 0 < command.continuationBoundaryStampNs

def commandWorldIdentityNonRegressing (current previous : NavigationCommand D) : Bool :=
  if current.localizationEpoch < previous.localizationEpoch ||
      current.goalEpoch < previous.goalEpoch ||
      current.worldGeneration < previous.worldGeneration then false
  else if current.worldGeneration == previous.worldGeneration &&
      (current.worldRevision < previous.worldRevision || current.worldObservationStamp.nanoseconds <
          previous.worldObservationStamp.nanoseconds) then false
  else if current.localizationEpoch == previous.localizationEpoch &&
      current.stateSourceStamp.nanoseconds < previous.stateSourceStamp.nanoseconds then false
  else true

/-- The role fits the status, and a bundle is named unless the command is a rejection. -/
def roleValid (command : NavigationCommand D) : Bool :=
  ((command.status == .ready || command.status == .completed) &&
      (command.role == .main || command.role == .backup) && command.bundleGeneration != 0) ||
    (command.status == .braking && command.role == .emergency && command.bundleGeneration != 0) ||
    (command.status == .rejected && command.role == .emergency)

def statusValid (command : NavigationCommand D) : Bool :=
  command.status == .ready || command.status == .completed || command.status == .braking ||
    command.status == .rejected

variable [FloatOps D]

def pvajFinite (command : NavigationCommand D) : Bool :=
  command.position.allFinite && command.velocity.allFinite && command.acceleration.allFinite &&
    command.jerk.allFinite && isFinite command.yaw && isFinite command.yawRate &&
    isFinite command.trajectoryTimeS

def assessCommandContract (command : NavigationCommand D) (expectedFrame : String) :
    CommandContractReason :=
  let headerNs := command.stamp.nanoseconds
  if expectedFrame.isEmpty then .expectedFrameMissing
  else if command.missionId.isEmpty then .missionIdEmpty
  else if command.frameId != expectedFrame then .frameMismatch
  else if headerNs ≤ 0 then .headerStampInvalid
  else if command.validUntil.nanoseconds ≤ headerNs then .validityWindowInvalid
  else if command.worldObservationStamp.nanoseconds ≤ 0 then .worldStampInvalid
  else if command.stateSourceStamp.nanoseconds ≤ 0 then .stateStampInvalid
  else if command.localizationEpoch == 0 then .localizationIdentityInvalid
  else if command.goalEpoch == 0 then .goalIdentityInvalid
  else if command.worldGeneration == 0 || command.worldRevision == 0 then .worldIdentityInvalid
  else if command.sampleId == 0 then .sampleIdentityInvalid
  else if !statusValid command then .statusInvalid
  else if !roleValid command then .roleStatusMismatch
  else if !pvajFinite command then .pvajOrYawNonFinite
  else if !certifiedMainContinuationFieldsValid command then .continuationContractInvalid
  else if command.trajectoryTimeS < lit 0 then .trajectoryTimeInvalid
  else .valid

theorem sampleId_ne_zero_of_contract {command : NavigationCommand D} {expectedFrame : String}
    (h : assessCommandContract command expectedFrame = .valid) : command.sampleId ≠ 0 := by
  intro hZero
  unfold assessCommandContract at h
  simp only [hZero, beq_self_eq_true, if_true] at h
  repeat'
    split at h
    · cases h
  cases h

end Contract

inductive ExecutionStateFreshnessReason where
  | valid
  | invalidLimit
  | missingSourceStamp
  | missingReceiveStamp
  | sourceStale
  | sourceFuture
  | receiveStale
  | receiveFuture
deriving DecidableEq

def evaluateExecutionStateFreshness {D : Type} [Floating D]
    (nowRosNs sourceStampRosNs nowSteadyNs receiveStampSteadyNs : Int) (maximumAgeS : D) :
    ExecutionStateFreshnessReason :=
  if nowRosNs ≤ 0 || nowSteadyNs ≤ 0 || !isFinite maximumAgeS || maximumAgeS ≤ lit 0 ||
      ofInt (2 ^ 63 - 1) * lit (1 / 10 ^ 9) < maximumAgeS then .invalidLimit
  else if sourceStampRosNs ≤ 0 then .missingSourceStamp
  else if receiveStampSteadyNs ≤ 0 then .missingReceiveStamp
  else
    let maximumAgeNs := Floating.widen maximumAgeS * lit (10 ^ 9)
    let sourceAgeNs : Floating.LongDouble D := ofInt nowRosNs - ofInt sourceStampRosNs
    let receiveAgeNs : Floating.LongDouble D := ofInt nowSteadyNs - ofInt receiveStampSteadyNs
    if maximumAgeNs < sourceAgeNs then .sourceStale
    else if sourceAgeNs < -maximumAgeNs then .sourceFuture
    else if maximumAgeNs < receiveAgeNs then .receiveStale
    else if receiveAgeNs < lit 0 then .receiveFuture
    else .valid

inductive CommandAcceptanceGate where
  | accept
  | odometryStale
  | nonIncreasingMessageId
deriving DecidableEq

def classifyCommandAcceptance (odometryFreshness : ExecutionStateFreshnessReason)
    (incomingMessageId previousMessageId : Nat) : CommandAcceptanceGate :=
  if odometryFreshness != .valid then .odometryStale
  else if previousMessageId != 0 && incomingMessageId ≤ previousMessageId then
    .nonIncreasingMessageId
  else .accept

inductive AdmissionStage where
  | presence
  | contract
  | temporalLease
  | terminalOwnership
  | sessionIdentity
  | odometryFreshness
  | sampleOrdering
  | trackingEnvelope
  | commit
deriving DecidableEq

inductive AdmissionDisposition where
  | accept
  | rejectRetainPrevious
  | rejectFailNavigation
  | rejectSafetyStop
  | ignoreAfterTerminal
deriving DecidableEq

inductive SessionIdentityReason where
  | valid
  | healthEpochMismatch
  | modeActivationMismatch
  | missionSessionMismatch
  | requestRegression
  | worldIdentityRegression
deriving DecidableEq

inductive AdmissionReason where
  | none
  | messageMissing
  | contract (reason : CommandContractReason)
  | temporal (reason : CommandTemporalReason)
  | authorityClosed
  | session (reason : SessionIdentityReason)
  | freshness (reason : ExecutionStateFreshnessReason)
  | acceptanceGate (gate : CommandAcceptanceGate)
  | envelopeExceeded
deriving DecidableEq

structure CommandAdmissionAssessment where
  stage : AdmissionStage := .commit
  disposition : AdmissionDisposition := .accept
  reason : AdmissionReason := .none
deriving DecidableEq

def CommandAdmissionAssessment.accepted (a : CommandAdmissionAssessment) : Bool :=
  a.disposition == .accept

def estimatorHealthAllowsCommand (typedHealthSeen healthValid : Bool)
    (commandLocalizationEpoch healthLocalizationEpoch : Nat) : Bool :=
  typedHealthSeen && healthValid && commandLocalizationEpoch != 0 &&
    commandLocalizationEpoch == healthLocalizationEpoch

section Session
variable {D : Type}

/-- The goal of the same epoch is the same goal; another one does not go back. -/
def requestRegresses (incoming previous : NavigationCommand D) : Bool :=
  if incoming.goalEpoch == previous.goalEpoch then
    incoming.waypointIndex != previous.waypointIndex || incoming.requestId != previous.requestId
  else incoming.requestId < previous.requestId

def assessCommandSessionIdentity (incoming : NavigationCommand D)
    (previous : Option (NavigationCommand D)) (typedHealthSeen healthValid : Bool)
    (healthLocalizationEpoch modeActivationId : Nat) : SessionIdentityReason :=
  if !estimatorHealthAllowsCommand typedHealthSeen healthValid incoming.localizationEpoch
      healthLocalizationEpoch then .healthEpochMismatch
  else if modeActivationId != 0 && incoming.modeActivationId != modeActivationId then
    .modeActivationMismatch
  else if previous.any fun p => incoming.missionId != p.missionId then .missionSessionMismatch
  else if previous.any (requestRegresses incoming) then .requestRegression
  else if previous.any fun p => !commandWorldIdentityNonRegressing incoming p then
    .worldIdentityRegression
  else .valid

inductive CertifiedCommandTransition where
  | retain
  | commit
  | invalidate
deriving DecidableEq

def transitionCertifiedCommand (current candidate : Option (NavigationCommand D)) :
    CertifiedCommandTransition → Option (NavigationCommand D)
  | .retain => current
  | .commit => candidate
  | .invalidate => none

end Session

end UavNavigation.NavigationMode
