import UavNavigation.TrackingAdapter
import UavNavigation.CriticalSections

/-!
# The state of the PX4 navigation mode

`navigation_mode_node.cpp`: the members that decide what the mode does, and what the
critical sections of its callbacks do to them. Counters and records that only
diagnostics read are left out, with the sections that do nothing else.
-/

namespace UavNavigation.NavigationMode

set_option autoImplicit false

open FloatOps

/-! ## Messages and members -/

structure Odometry (D : Type) where
  stamp : Stamp
  frameId : String
  childFrameId : String
  position : Vec3 D
  orientation : Quaternion D
  linear : Vec3 D
deriving DecidableEq

structure PropagatedOdometry (D : Type) where
  odometry : Odometry D
  localizationEpoch : Nat
  sequence : Nat
deriving DecidableEq

structure VehicleLocalPosition (D : Type) where
  timestamp : Nat
  timestampSample : Nat
  xyValid : Bool
  zValid : Bool
  vXyValid : Bool
  vZValid : Bool
  position : Vec3 D
  velocity : Vec3 D
  heading : D
  headingVar : D
  headingGoodForControl : Bool
  deadReckoning : Bool
  resetCounters : Adapter.ResetCounters
deriving DecidableEq

inductive EstimatorState where
  | waitingForSensors
  | initializing
  | tracking
  | degraded
  | lost
  | resetting
  | unrecognized (value : Nat)
deriving DecidableEq

structure EstimatorHealth where
  stamp : Stamp
  localizationEpoch : Nat
  state : EstimatorState
  navigationValid : Bool
  covarianceValid : Bool
  observabilityValid : Bool
  correctionFresh : Bool
  propagationValid : Bool
deriving DecidableEq

inductive ProgressEvent where
  | goal
  | complete
  | unrecognized (value : Nat)
deriving DecidableEq

structure MissionProgress (D : Type) where
  stamp : Stamp
  frameId : String
  missionId : String
  routeRevision : Nat
  localizationEpoch : Nat
  modeActivationId : Nat
  waypointIndex : Nat
  requestId : Nat
  event : ProgressEvent
  waypointAccepted : Bool
  acceptedWaypointIndex : Nat
  acceptancePositionErrorM : D
  acceptanceSpeedMps : D
deriving DecidableEq

inductive StatusState where
  | active
  | braking
  | paused
  | complete
  | failed
deriving DecidableEq

inductive StatusReason where
  | none
  | safetyStop
  | operatorTakeover
  | odometryStale
  | trajectoryInvalid
deriving DecidableEq

/-- The parameters of the node; `holdHandover` says that the executor has set its callback. -/
structure Config (D : Type) where
  planningFrame : String
  bodyFrame : String
  trackingExperiment : TrackingExperimentPolicy D
  staleAfterNs : Int
  stateStaleAfterNs : Int
  plannerRecoveryWaitTimeoutNs : Int
  stateStaleAfterS : D
  trajectoryWaitTimeoutS : D
  holdHandover : Bool

/-- What the clocks and PX4 say while a section runs; `laterRosNs` is the ROS clock read
a second time. -/
structure Moment where
  rosNs : Int
  laterRosNs : Int
  steadyNs : Int
  armed : Bool
deriving DecidableEq

structure RecoveryEpisode where
  pending : Bool := false
  deadlineNs : Int := 0
  missionId : String := ""
  waypointIndex : Nat := 0
  requestId : Nat := 0
  bundleGeneration : Nat := 0
deriving DecidableEq

structure Mode (D : Type) where
  activationTimeNs : Int
  odometry : Option (Odometry D)
  px4LocalPositionNed : Option (Vec3 D)
  px4LocalVelocityNed : Option (Vec3 D)
  lioToPx4LocalTranslationNed : Option (Vec3 D)
  px4ResetCounters : Adapter.ResetCounters
  lastPx4TimestampUs : Nat
  lastPx4TimestampSampleUs : Nat
  lastPx4PositionReceiveSteadyNs : Int
  lastPx4LocalPositionReceiveSteadyNs : Int
  lastPx4XyValid : Bool
  lastPx4ZValid : Bool
  lastPx4VxyValid : Bool
  lastPx4VzValid : Bool
  lastPx4DeadReckoning : Bool
  lastPx4HeadingGoodForControl : Bool
  lastPx4HeadingValid : Bool
  lastPx4HeadingNed : D
  lastPx4HeadingVarianceRad2 : D
  px4LocalFrameAligned : Bool
  navigationCommand : Option (NavigationCommand D)
  lioHealthValid : Bool
  typedHealthSeen : Bool
  lastHealthNavigationValid : Bool
  lastHealthCovarianceValid : Bool
  lastHealthObservabilityValid : Bool
  lastHealthCorrectionFresh : Bool
  lastHealthPropagationValid : Bool
  lioLocalizationEpoch : Nat
  lastPropagatedStateStampNs : Int
  lastPropagatedStateSequence : Nat
  lastLioDiagnosticsNs : Int
  lastHealthSourceStampNs : Int
  lastHealthReceiveSteadyNs : Int
  failureReported : Bool
  modeActive : Bool
  missionCompletionReceipt : Option (MissionProgress D)
  modeActivationId : Nat
  handoverRequested : Bool
  plannerRecovery : RecoveryEpisode
  completionPosition : Option (Vec3 D)
  safetyHoldPosition : Option (Vec3 D)
  lastStatusState : StatusState
  lastOdometryReceiveSteadyNs : Int
  lastCommandReceiveNs : Int
  airborneStartNs : Int
  velocityOnlyPrevious : Option (VelocityOnly.Previous D)
  velocityOnlyLastResetCounters : Adapter.ResetCounters
  velocityOnlyResetCountersSeen : Bool
  velocityOnlyLastReason : String
deriving DecidableEq

section State
variable {D : Type} [Floating D]

def Mode.initial : Mode D where
  activationTimeNs := 0
  odometry := none
  px4LocalPositionNed := none
  px4LocalVelocityNed := none
  lioToPx4LocalTranslationNed := none
  px4ResetCounters := {}
  lastPx4TimestampUs := 0
  lastPx4TimestampSampleUs := 0
  lastPx4PositionReceiveSteadyNs := 0
  lastPx4LocalPositionReceiveSteadyNs := 0
  lastPx4XyValid := false
  lastPx4ZValid := false
  lastPx4VxyValid := false
  lastPx4VzValid := false
  lastPx4DeadReckoning := false
  lastPx4HeadingGoodForControl := false
  lastPx4HeadingValid := false
  lastPx4HeadingNed := lit 0
  lastPx4HeadingVarianceRad2 := lit 0
  px4LocalFrameAligned := false
  navigationCommand := none
  lioHealthValid := false
  typedHealthSeen := false
  lastHealthNavigationValid := false
  lastHealthCovarianceValid := false
  lastHealthObservabilityValid := false
  lastHealthCorrectionFresh := false
  lastHealthPropagationValid := false
  lioLocalizationEpoch := 0
  lastPropagatedStateStampNs := 0
  lastPropagatedStateSequence := 0
  lastLioDiagnosticsNs := 0
  lastHealthSourceStampNs := 0
  lastHealthReceiveSteadyNs := 0
  failureReported := false
  modeActive := false
  missionCompletionReceipt := none
  modeActivationId := 0
  handoverRequested := false
  plannerRecovery := {}
  completionPosition := none
  safetyHoldPosition := none
  lastStatusState := .paused
  lastOdometryReceiveSteadyNs := 0
  lastCommandReceiveNs := 0
  airborneStartNs := 0
  velocityOnlyPrevious := none
  velocityOnlyLastResetCounters := {}
  velocityOnlyResetCountersSeen := false
  velocityOnlyLastReason := ""

/-- The terminal test of `onNavigationCommand`. -/
def Mode.terminal (m : Mode D) : Bool :=
  m.failureReported || m.missionCompletionReceipt.isSome || m.handoverRequested

def checkedTimestampAdd (baseNs deltaNs : Int) : Option Int :=
  if (0 < deltaNs && 2 ^ 63 - 1 - deltaNs < baseNs) ||
      (deltaNs < 0 && baseNs < -2 ^ 63 - deltaNs) then none
  else some (baseNs + deltaNs)

def plannerRecoveryWaitExpired (r : RecoveryEpisode) (nowNs : Int) : Bool :=
  r.pending && 0 < r.deadlineNs && r.deadlineNs ≤ nowNs

def terminalRecoveryCommandMayBeHeld (completedCommand : Bool) (r : RecoveryEpisode) (nowNs : Int) :
    Bool :=
  completedCommand && r.pending && 0 < nowNs && 0 < r.deadlineNs && nowNs < r.deadlineNs

def plannerRecoveryEpisodeMatches (r : RecoveryEpisode) (command : NavigationCommand D) : Bool :=
  r.pending && command.missionId == r.missionId && command.waypointIndex == r.waypointIndex &&
    command.requestId == r.requestId && command.bundleGeneration == r.bundleGeneration

/-- The episode begins unless one is pending or its end has no stamp. -/
def beginRecovery (cfg : Config D) (command : NavigationCommand D) (nowNs : Int) (m : Mode D) :
    Mode D :=
  if m.plannerRecovery.pending then m
  else
    match checkedTimestampAdd nowNs cfg.plannerRecoveryWaitTimeoutNs with
    | none => m
    | some deadlineNs =>
      { m with
        plannerRecovery := ⟨true, deadlineNs, command.missionId, command.waypointIndex,
          command.requestId, command.bundleGeneration⟩ }

def recoveryDeadlineInvalid (cfg : Config D) (nowNs : Int) (m : Mode D) : Bool :=
  !m.plannerRecovery.pending && (checkedTimestampAdd nowNs cfg.plannerRecoveryWaitTimeoutNs).isNone

/-! ## State inputs -/

section Inputs
variable [MathLibrary D]

/-- `tryAlignPx4LocalFrameLocked`. -/
def Mode.tryAlignPx4LocalFrame (m : Mode D) (armed : Bool) : Mode D :=
  if m.px4LocalFrameAligned || !m.modeActive || !armed then m
  else
    match m.odometry, m.px4LocalPositionNed, m.px4LocalVelocityNed with
    | some odometry, some positionNed, some velocityNed =>
      if odometry.position.z ≤ lit (1 / 2) || !m.lastPx4XyValid || !m.lastPx4ZValid ||
          !m.lastPx4VxyValid || !m.lastPx4VzValid then m
      else if lit (3 / 20) < odometry.linear.norm || lit (3 / 20) < velocityNed.norm then m
      else
        match localNedTranslationFromStationaryPair odometry.position positionNed with
        | none => m
        | some translation =>
          if lit 2 < translation.norm then m
          else
            { m with
              lioToPx4LocalTranslationNed := some translation
              px4LocalFrameAligned := true }
    | _, _, _ => m

/-- The checks of `onOdometry` before the lock. -/
def odometryWellFormed (cfg : Config D) (message : PropagatedOdometry D) : Bool :=
  message.localizationEpoch != 0 && message.sequence != 0 &&
    message.odometry.frameId == cfg.planningFrame &&
    message.odometry.childFrameId == cfg.bodyFrame && 0 ≤ message.odometry.stamp.sec &&
    message.odometry.position.allFinite && message.odometry.linear.allFinite &&
    isNormalizableOdometryQuaternion message.odometry.orientation

def odometryAccepted (cfg : Config D) (m : Mode D) (message : PropagatedOdometry D) : Bool :=
  m.typedHealthSeen &&
    (m.lioHealthValid || cfg.trackingExperiment.suppressEstimatorHealthResponse) &&
    message.localizationEpoch == m.lioLocalizationEpoch &&
    !(0 < m.lastPropagatedStateSequence && message.sequence ≤ m.lastPropagatedStateSequence) &&
    0 < message.odometry.stamp.nanoseconds &&
    !(0 < m.lastPropagatedStateStampNs &&
      message.odometry.stamp.nanoseconds ≤ m.lastPropagatedStateStampNs)

def Mode.onOdometry (cfg : Config D) (m : Mode D) (message : Option (PropagatedOdometry D))
    (moment : Moment) : Mode D :=
  match message with
  | none => m
  | some message =>
    if !odometryWellFormed cfg message || !odometryAccepted cfg m message then m
    else
      Mode.tryAlignPx4LocalFrame
        { m with
          lastOdometryReceiveSteadyNs := moment.steadyNs
          lastPropagatedStateStampNs := message.odometry.stamp.nanoseconds
          lastPropagatedStateSequence := message.sequence
          odometry := some message.odometry }
        moment.armed

def localPositionWellFormed (message : VehicleLocalPosition D) : Bool :=
  message.velocity.allFinite && isFinite message.heading && isFinite message.headingVar &&
    message.timestamp != 0 && message.timestampSample != 0

def Mode.observePositionReset (m : Mode D) (counters : Adapter.ResetCounters) : Mode D :=
  if m.px4LocalFrameAligned &&
      (counters.xy != m.px4ResetCounters.xy || counters.z != m.px4ResetCounters.z) then
    { m with
      px4LocalFrameAligned := false
      lioToPx4LocalTranslationNed := none
      lastPx4PositionReceiveSteadyNs := 0 }
  else m

/-- An invalid position is forgotten, unless the frames are aligned. -/
def Mode.observePosition (m : Mode D) (message : VehicleLocalPosition D) (steadyNs : Int) :
    Mode D :=
  if message.xyValid && message.zValid && message.position.allFinite then
    { m with
      px4LocalPositionNed := some message.position
      lastPx4PositionReceiveSteadyNs := steadyNs }
  else if !m.px4LocalFrameAligned then { m with px4LocalPositionNed := none }
  else m

def Mode.onPx4LocalPosition (m : Mode D) (message : Option (VehicleLocalPosition D))
    (moment : Moment) : Mode D :=
  match message with
  | none => m
  | some message =>
    if !localPositionWellFormed message then m
    else
      let m := m.observePositionReset message.resetCounters
      let m := { m with px4LocalVelocityNed := some message.velocity }
      let m := m.observePosition message moment.steadyNs
      Mode.tryAlignPx4LocalFrame
        { m with
          px4ResetCounters := message.resetCounters
          lastPx4TimestampUs := message.timestamp
          lastPx4TimestampSampleUs := message.timestampSample
          lastPx4XyValid := message.xyValid
          lastPx4ZValid := message.zValid
          lastPx4VxyValid := message.vXyValid
          lastPx4VzValid := message.vZValid
          lastPx4DeadReckoning := message.deadReckoning
          lastPx4HeadingGoodForControl := message.headingGoodForControl
          lastPx4HeadingValid := isFinite message.heading
          lastPx4HeadingNed := message.heading
          lastPx4HeadingVarianceRad2 := message.headingVar
          lastPx4LocalPositionReceiveSteadyNs := moment.steadyNs }
        moment.armed

end Inputs

def EstimatorHealth.healthy (message : EstimatorHealth) : Bool :=
  message.state == .tracking && message.navigationValid && message.covarianceValid &&
    message.observabilityValid && message.correctionFresh && message.propagationValid

def Mode.healthIsNewer (m : Mode D) (message : EstimatorHealth) : Bool :=
  0 < message.stamp.nanoseconds &&
    !(0 < m.lastLioDiagnosticsNs && message.stamp.nanoseconds ≤ m.lastLioDiagnosticsNs)

def Mode.changesEpoch (m : Mode D) (message : EstimatorHealth) : Bool :=
  m.lioLocalizationEpoch != 0 && m.lioLocalizationEpoch != message.localizationEpoch

def Mode.leaveEpoch (m : Mode D) : Mode D :=
  { m with
    navigationCommand := transitionCertifiedCommand m.navigationCommand none .invalidate
    lastCommandReceiveNs := 0
    odometry := none
    lastOdometryReceiveSteadyNs := 0
    lastPropagatedStateStampNs := 0
    lastPropagatedStateSequence := 0
    px4LocalFrameAligned := false
    lioToPx4LocalTranslationNed := none
    velocityOnlyPrevious := none
    velocityOnlyResetCountersSeen := false }

def Mode.onEstimatorHealth (m : Mode D) (message : Option EstimatorHealth) (moment : Moment) :
    Mode D :=
  match message with
  | none => m
  | some message =>
    if message.localizationEpoch == 0 then m
    else
      let m := { m with typedHealthSeen := true }
      if message.stamp.nanoseconds ≤ 0 then
        { m with lioHealthValid := false, lastHealthReceiveSteadyNs := 0 }
      else if !m.healthIsNewer message then m
      else
        let m :=
          { m with
            lastHealthNavigationValid := message.navigationValid
            lastHealthCovarianceValid := message.covarianceValid
            lastHealthObservabilityValid := message.observabilityValid
            lastHealthCorrectionFresh := message.correctionFresh
            lastHealthPropagationValid := message.propagationValid
            lastHealthSourceStampNs := message.stamp.nanoseconds
            lastHealthReceiveSteadyNs := moment.steadyNs }
        let m := if m.changesEpoch message then m.leaveEpoch else m
        { m with
          lioLocalizationEpoch := message.localizationEpoch
          lioHealthValid := message.healthy
          lastLioDiagnosticsNs := message.stamp.nanoseconds }

inductive StateInput (D : Type) where
  | odometry (message : Option (PropagatedOdometry D)) (moment : Moment)
  | localPosition (message : Option (VehicleLocalPosition D)) (moment : Moment)
  | health (message : Option EstimatorHealth) (moment : Moment)

def Mode.input [MathLibrary D] (cfg : Config D) (m : Mode D) : StateInput D → Mode D
  | .odometry message moment => m.onOdometry cfg message moment
  | .localPosition message moment => m.onPx4LocalPosition message moment
  | .health message moment => m.onEstimatorHealth message moment

end State

/-! ## The callbacks of the PX4 navigation mode -/

open FloatOps Sections

structure StatusMessage (D : Type) where
  state : StatusState
  reason : StatusReason
  activationId : Nat
  missionId : String
  waypointIndex : Nat
  requestId : Nat
  airborne : Bool
  waypointAccepted : Bool
  acceptedWaypointIndex : Nat
  acceptancePositionErrorM : D
  acceptanceSpeedMps : D
deriving DecidableEq

structure AdmissionReceipt where
  modeActivationId : Nat
  missionId : String
  localizationEpoch : Nat
  goalEpoch : Nat
  waypointIndex : Nat
  requestId : Nat
  bundleGeneration : Nat
  sampleId : Nat
deriving DecidableEq

structure TrajectorySetpoint (D : Type) where
  position : Option (Vec3 D) := none
  velocity : Option (Vec3 D) := none
  acceleration : Option (Vec3 D) := none
  yawNedRad : Option D := none
  yawRateNedRadS : Option D := none
deriving DecidableEq

inductive ModeResult where
  | success
  | modeFailureOther
deriving DecidableEq

inductive Output (D : Type) where
  | status (message : StatusMessage D)
  | rejection (assessment : CommandAdmissionAssessment) (command : Option (NavigationCommand D))
  | admission (receipt : AdmissionReceipt)
  | setpoint (setpoint : TrajectorySetpoint D)
  | holdHandover
  | completed (result : ModeResult)
  | error (text : String)
deriving DecidableEq

section Callbacks
variable {D : Type} [Floating D] [MathLibrary D]

def odometryFreshness (cfg : Config D) (m : Mode D) (moment : Moment) :
    ExecutionStateFreshnessReason :=
  evaluateExecutionStateFreshness moment.rosNs
    (m.odometry.elim 0 fun odometry => odometry.stamp.nanoseconds) moment.steadyNs
    m.lastOdometryReceiveSteadyNs cfg.stateStaleAfterS

/-- `kCommandAnchorErrorLimitM`. -/
def commandAnchorErrorLimitM : D := lit (3 / 4)

/-- `kMainTrackingPhaseWindowS`. -/
def mainTrackingPhaseWindowS : D := lit (1 / 10)

def endpointAnchored (odometry : Odometry D) (command : NavigationCommand D) : Bool :=
  odometry.position.allFinite && command.position.allFinite &&
    (odometry.position - command.position).norm ≤ commandAnchorErrorLimitM

def measuredVelocity (odometry : Odometry D) : Vec3 D :=
  if isNormalizableOdometryQuaternion odometry.orientation then
    odometry.orientation.normalized.rotate odometry.linear
  else ⟨nan, nan, nan⟩

/-- `assessTrackingLocked`: the anchor of the command is not near the vehicle. -/
def anchorInvalid (cfg : Config D) (m : Mode D) (command : NavigationCommand D)
    (odometry : Odometry D) : Bool :=
  let mainPhaseTracking := command.role == .main && command.status == .ready &&
    !m.plannerRecovery.pending && m.missionCompletionReceipt.isNone
  let envelope := evaluateTrackingEnvelope odometry.position command.position command.velocity
    commandAnchorErrorLimitM (if mainPhaseTracking then mainTrackingPhaseWindowS else lit 0)
  let experiment := cfg.trackingExperiment
  let invalid :=
    if experiment.enabled && mainPhaseTracking then
      !experimentPermitsTracking experiment (assessAdaptiveTracking experiment odometry.position
        (measuredVelocity odometry) command.position command.velocity)
    else !envelope.valid
  invalid && !(experiment.enabled && experiment.suppressBraking && envelope.supportValid)

/-- The part of the admission behind the session, from the freshness of the odometry on. -/
def assessExecution (cfg : Config D) (m : Mode D) (moment : Moment)
    (message : NavigationCommand D) : CommandAdmissionAssessment :=
  match classifyCommandAcceptance (odometryFreshness cfg m moment) message.sampleId
      (m.navigationCommand.elim 0 NavigationCommand.sampleId) with
  | .odometryStale =>
    ⟨.odometryFreshness, .rejectFailNavigation, .freshness (odometryFreshness cfg m moment)⟩
  | .nonIncreasingMessageId =>
    ⟨.sampleOrdering, .rejectRetainPrevious, .acceptanceGate .nonIncreasingMessageId⟩
  | .accept =>
    let held := message.status == .completed && m.odometry.any (endpointAnchored · message)
    if message.status != .rejected && !held && m.odometry.any (anchorInvalid cfg m message) then
      ⟨.trackingEnvelope, .rejectSafetyStop, .envelopeExceeded⟩
    else {}

/-- The section of `onNavigationCommand` that decides. -/
def assessAdmission (cfg : Config D) (m : Mode D) (moment : Moment)
    (message : NavigationCommand D) : CommandAdmissionAssessment :=
  match assessCommandSessionIdentity message m.navigationCommand m.typedHealthSeen
      (m.lioHealthValid || cfg.trackingExperiment.suppressEstimatorHealthResponse)
      m.lioLocalizationEpoch m.modeActivationId with
  | .valid => assessExecution cfg m moment message
  | reason => ⟨.sessionIdentity, .rejectRetainPrevious, .session reason⟩

def terminalRecoveryNeeded (m : Mode D) (message : NavigationCommand D) : Bool :=
  message.status == .completed && m.odometry.any (!endpointAnchored · message)

def terminalHoldInsideAcceptance (m : Mode D) (message : NavigationCommand D) : Bool :=
  message.status == .completed && m.odometry.any (endpointAnchored · message) &&
    (message.role == .backup || message.role == .main)

/-! ## Critical sections -/

/-- The critical sections of the PX4 thread with what they write. A section without a
write only reads. -/
inductive Section (D : Type) where
  | activate
  | deactivate
  | boundary
  | status (state : StatusState)
  | receipt (message : MissionProgress D)
  | retain
  | terminalCheck
  | admission (message : NavigationCommand D)
  | admissionReceipt
  | acceptedRecovery (command : NavigationCommand D)
  | heldRecovery (command : NavigationCommand D) (nowNs : Int)
  | clearRecovery
  | failNavigation
  | safetyStop
  | velocityOnlyHold (reason : String)
  | snapshot
  | heading
  | terminalStream
  | airborneStart (nowNs : Int)
  | health
  | recoveryWindow
  | receiveTime
  | velocityOnlyReason (reason : String)
  | readReason
  | writeBack (previous : VelocityOnly.Previous D) (counters : Adapter.ResetCounters)
      (reason : String)
  | readAirborneStart
deriving DecidableEq

def Mode.navigating (m : Mode D) : Bool :=
  m.modeActive && !m.failureReported && !m.handoverRequested && m.missionCompletionReceipt.isNone

def receiptWellFormed (message : MissionProgress D) : Bool :=
  message.event == .complete && message.waypointAccepted &&
    message.acceptedWaypointIndex == message.waypointIndex && !message.missionId.isEmpty &&
    message.routeRevision != 0 && message.requestId != 0

def receiptAccepted (cfg : Config D) (m : Mode D) (message : MissionProgress D) : Bool :=
  m.navigating && message.modeActivationId == m.modeActivationId &&
    message.localizationEpoch == m.lioLocalizationEpoch && message.frameId == cfg.planningFrame &&
    m.activationTimeNs ≤ message.stamp.nanoseconds &&
    m.navigationCommand.all fun command =>
      command.missionId == message.missionId && command.waypointIndex == message.waypointIndex &&
        command.requestId == message.requestId

def Mode.holdPosition (m : Mode D) : Option (Vec3 D) :=
  match m.odometry with
  | none => m.safetyHoldPosition
  | some odometry =>
    if odometry.position.allFinite then some odometry.position else m.safetyHoldPosition

namespace Mode

def activate (m : Mode D) (moment : Moment) : Mode D :=
  { m with
    activationTimeNs := moment.rosNs
    failureReported := !(m.modeActivationId < 2 ^ 64 - 1)
    navigationCommand := transitionCertifiedCommand m.navigationCommand none .invalidate
    lastCommandReceiveNs := 0
    airborneStartNs := 0
    modeActive := true
    modeActivationId :=
      if m.modeActivationId < 2 ^ 64 - 1 then m.modeActivationId + 1 else m.modeActivationId
    missionCompletionReceipt := none
    handoverRequested := false
    plannerRecovery := {}
    px4LocalFrameAligned := false
    lioToPx4LocalTranslationNed := none
    completionPosition := none
    safetyHoldPosition := none
    velocityOnlyPrevious := none
    velocityOnlyResetCountersSeen := false
    velocityOnlyLastReason := "" }

def deactivate (m : Mode D) : Mode D :=
  { m with
    modeActive := false
    failureReported := true
    navigationCommand := transitionCertifiedCommand m.navigationCommand none .invalidate
    velocityOnlyPrevious := none
    velocityOnlyResetCountersSeen := false
    velocityOnlyLastReason := ""
    lastCommandReceiveNs := 0
    airborneStartNs := 0
    px4LocalFrameAligned := false
    lioToPx4LocalTranslationNed := none
    completionPosition := none
    safetyHoldPosition := none
    plannerRecovery := {} }

def acceptReceipt (m : Mode D) (message : MissionProgress D) : Mode D :=
  { m with
    missionCompletionReceipt := some message
    handoverRequested := true
    plannerRecovery := {}
    completionPosition :=
      match m.odometry, m.navigationCommand with
      | some odometry, _ => some odometry.position
      | none, some command => some command.position
      | none, none => m.completionPosition }

def commit (m : Mode D) (message : NavigationCommand D) (moment : Moment) : Mode D :=
  { m with
    navigationCommand := transitionCertifiedCommand m.navigationCommand (some message) .commit
    lastCommandReceiveNs := moment.laterRosNs
    failureReported := false }

/-- The section of `failNavigation` and of `safetyStopNavigation`. -/
def stop (m : Mode D) : Mode D :=
  if m.failureReported then m
  else
    { m with
      safetyHoldPosition := m.holdPosition
      failureReported := true
      handoverRequested := true
      navigationCommand := transitionCertifiedCommand m.navigationCommand none .invalidate }

/-- The section of `requestVelocityOnlyHold`. -/
def velocityOnlyHold (m : Mode D) (reason : String) : Mode D :=
  { m with
    safetyHoldPosition := m.holdPosition
    velocityOnlyLastReason := reason
    velocityOnlyPrevious := none
    velocityOnlyResetCountersSeen := false
    handoverRequested := true
    navigationCommand := transitionCertifiedCommand m.navigationCommand none .invalidate }

end Mode

def Section.effect (cfg : Config D) (l : Section D) (m : Mode D) (moment : Moment) : Mode D :=
  match l with
  | .activate => m.activate moment
  | .deactivate => m.deactivate
  | .boundary =>
    if m.navigating && plannerRecoveryWaitExpired m.plannerRecovery moment.rosNs then
      { m with plannerRecovery := {} }
    else m
  | .status state => { m with lastStatusState := state }
  | .receipt message => if receiptAccepted cfg m message then m.acceptReceipt message else m
  | .retain =>
    { m with navigationCommand := transitionCertifiedCommand m.navigationCommand none .retain }
  | .admission message =>
    if (assessAdmission cfg m moment message).accepted then m.commit message moment
    else
      { m with navigationCommand := transitionCertifiedCommand m.navigationCommand none .retain }
  | .acceptedRecovery command => beginRecovery cfg command moment.rosNs m
  | .heldRecovery command nowNs => beginRecovery cfg command nowNs m
  | .clearRecovery => { m with plannerRecovery := {} }
  | .failNavigation => m.stop
  | .safetyStop => m.stop
  | .velocityOnlyHold reason => m.velocityOnlyHold reason
  | .airborneStart nowNs => if m.airborneStartNs == 0 then { m with airborneStartNs := nowNs } else m
  | .velocityOnlyReason reason => { m with velocityOnlyLastReason := reason }
  | .writeBack previous counters reason =>
    { m with
      velocityOnlyPrevious := some previous
      velocityOnlyLastResetCounters := counters
      velocityOnlyResetCountersSeen := true
      velocityOnlyLastReason := reason }
  | .terminalCheck | .admissionReceipt | .snapshot | .heading | .terminalStream | .health
  | .recoveryWindow | .receiveTime | .readReason | .readAirborneStart => m

abbrev ModeProgram (D : Type) := Program (Mode D) Moment (Section D) (Output D)

def airborne (odometry : Odometry D) (moment : Moment) : Bool :=
  moment.armed && isFinite odometry.position.z && lit (1 / 2) < odometry.position.z

/-- The receipt takes the place of the command when the mission is complete. -/
def statusMessage (m : Mode D) (moment : Moment) (state : StatusState) (reason : StatusReason) :
    StatusMessage D :=
  let message : StatusMessage D :=
    { state
      reason
      activationId := m.modeActivationId
      missionId := m.navigationCommand.elim "" NavigationCommand.missionId
      waypointIndex := m.navigationCommand.elim 0 NavigationCommand.waypointIndex
      requestId := m.navigationCommand.elim 0 NavigationCommand.requestId
      airborne := m.odometry.any (airborne · moment)
      waypointAccepted := false
      acceptedWaypointIndex := 0
      acceptancePositionErrorM := lit 0
      acceptanceSpeedMps := lit 0 }
  match state, m.missionCompletionReceipt with
  | .complete, some receipt =>
    { message with
      missionId := receipt.missionId
      waypointIndex := receipt.waypointIndex
      requestId := receipt.requestId
      waypointAccepted := receipt.waypointAccepted
      acceptedWaypointIndex := receipt.acceptedWaypointIndex
      acceptancePositionErrorM := receipt.acceptancePositionErrorM
      acceptanceSpeedMps := receipt.acceptanceSpeedMps }
  | _, _ => message

def publishStatus (state : StatusState) (reason : StatusReason) (rest : ModeProgram D) :
    ModeProgram D :=
  .lock (.status state) fun m moment =>
    .emit (.status (statusMessage m moment state reason)) rest

def handOver (cfg : Config D) : ModeProgram D :=
  if cfg.holdHandover then .emit .holdHandover .done
  else .emit (.completed .modeFailureOther) .done

def safetyStopNavigation (cfg : Config D) (reason : String) : ModeProgram D :=
  .lock .safetyStop fun m _ =>
    if m.failureReported then .done
    else
      publishStatus .paused .safetyStop
        (.emit (.error (reason ++ "; safety hold then handover to PX4 Hold")) (handOver cfg))

def failureStatusReason (reason : String) : StatusReason :=
  if 1 < (reason.splitOn "odometry").length then .odometryStale else .trajectoryInvalid

def failNavigation (cfg : Config D) (reason : String) : ModeProgram D :=
  .lock .failNavigation fun m _ =>
    if m.failureReported then .done
    else
      publishStatus .failed (failureStatusReason reason)
        (.emit (.error (reason ++ "; handing over to PX4 Hold")) (handOver cfg))

def requestVelocityOnlyHold (cfg : Config D) (reason : String) : ModeProgram D :=
  .lock (.velocityOnlyHold reason) fun _ _ => publishStatus .paused .safetyStop (handOver cfg)

def updateBoundary (cfg : Config D) : ModeProgram D :=
  .lock .boundary fun m moment =>
    if !m.navigating then .done
    else if plannerRecoveryWaitExpired m.plannerRecovery moment.rosNs then
      safetyStopNavigation cfg "planner backend terminal endpoint exceeded bounded recovery window"
    else publishStatus .active .none .done

def onActivate (cfg : Config D) : ModeProgram D :=
  .lock .activate fun _ _ => publishStatus .active .none (updateBoundary cfg)

def onDeactivate : ModeProgram D :=
  .lock .deactivate fun m _ =>
    if m.lastStatusState != .paused && m.lastStatusState != .complete &&
        m.lastStatusState != .failed then
      publishStatus .paused .operatorTakeover .done
    else .done

def onMissionProgress (cfg : Config D) (message : Option (MissionProgress D)) : ModeProgram D :=
  match message with
  | none => .done
  | some message =>
    if !receiptWellFormed message then .done
    else
      .lock (.receipt message) fun m _ =>
        if receiptAccepted cfg m message then
          publishStatus .complete .none (.emit (.completed .success) .done)
        else .done

def assessMessage (cfg : Config D) (message : Option (NavigationCommand D)) (nowNs : Int) :
    CommandAdmissionAssessment :=
  match message with
  | none => ⟨.presence, .rejectRetainPrevious, .messageMissing⟩
  | some message =>
    if assessCommandContract message cfg.planningFrame != .valid then
      ⟨.contract, .rejectRetainPrevious,
        .contract (assessCommandContract message cfg.planningFrame)⟩
    else if assessCommandTemporalLease message nowNs != .valid then
      ⟨.temporalLease, .rejectRetainPrevious, .temporal (assessCommandTemporalLease message nowNs)⟩
    else {}

def admissionReceipt (activationId : Nat) (command : NavigationCommand D) : AdmissionReceipt where
  modeActivationId := activationId
  missionId := command.missionId
  localizationEpoch := command.localizationEpoch
  goalEpoch := command.goalEpoch
  waypointIndex := command.waypointIndex
  requestId := command.requestId
  bundleGeneration := command.bundleGeneration
  sampleId := command.sampleId

def settleRecovery (cfg : Config D) (command : NavigationCommand D)
    (recoveryNeeded holdInsideAcceptance : Bool) : ModeProgram D :=
  if command.status == .completed && recoveryNeeded then
    .lock (.acceptedRecovery command) fun m moment =>
      if recoveryDeadlineInvalid cfg moment.rosNs m then
        safetyStopNavigation cfg "planner recovery deadline is not representable"
      else .done
  else if command.status != .completed || holdInsideAcceptance then
    .lock .clearRecovery fun _ _ => .done
  else .done

def finishAcceptedCommand (cfg : Config D) (command : NavigationCommand D)
    (recoveryNeeded holdInsideAcceptance : Bool) : ModeProgram D :=
  .lock .admissionReceipt fun m _ =>
    .emit (.admission (admissionReceipt m.modeActivationId command))
      (settleRecovery cfg command recoveryNeeded holdInsideAcceptance)

/-- What `onNavigationCommand` does with its assessment. -/
def concludeAdmission (cfg : Config D) (m : Mode D) (message : NavigationCommand D)
    (assessment : CommandAdmissionAssessment) : ModeProgram D :=
  match assessment.disposition with
  | .rejectRetainPrevious => .emit (.rejection assessment (some message)) .done
  | .rejectFailNavigation =>
    .emit (.rejection assessment (some message))
      (failNavigation cfg "navigation odometry stale at command acceptance")
  | .rejectSafetyStop =>
    .emit (.rejection assessment (some message))
      (safetyStopNavigation cfg "planner backend PVA command anchor is not near vehicle")
  | .accept =>
    finishAcceptedCommand cfg message (terminalRecoveryNeeded m message)
      (terminalHoldInsideAcceptance m message)
  | .ignoreAfterTerminal => .done

def admitCommand (cfg : Config D) (message : NavigationCommand D) : ModeProgram D :=
  .lock .terminalCheck fun m _ =>
    if m.terminal then
      .emit (.rejection ⟨.terminalOwnership, .ignoreAfterTerminal, .authorityClosed⟩ (some message))
        .done
    else
      .lock (.admission message) fun m moment =>
        concludeAdmission cfg m message (assessAdmission cfg m moment message)

def onNavigationCommand (cfg : Config D) (message : Option (NavigationCommand D))
    (moment : Moment) : ModeProgram D :=
  let assessment := assessMessage cfg message moment.rosNs
  match message, assessment.accepted with
  | some command, true => admitCommand cfg command
  | _, _ => .lock .retain fun _ _ => .emit (.rejection assessment message) .done

end Callbacks

end UavNavigation.NavigationMode
