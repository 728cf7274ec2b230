import UavNavigation.NavigationMode

/-!
# The setpoint update of the PX4 navigation mode

`updateSetpoint` and `publishVelocityOnlySetpoint` of `navigation_mode_node.cpp`, and the
system of the two threads. What a section copies out of the members is a local value of
the program behind it.
-/

namespace UavNavigation.NavigationMode

set_option autoImplicit false

open FloatOps Sections

section Callbacks
variable {D : Type} [Floating D] [MathLibrary D]

structure VelocityOnlySnapshot (D : Type) where
  odometry : Odometry D
  px4 : Adapter.RawPx4State D
  previous : Option (VelocityOnly.Previous D)
  lastResetCounters : Adapter.ResetCounters
  resetCountersSeen : Bool
  lioLocalizationEpoch : Nat
  lioSequence : Nat
  lioReceiveSteadyNs : Int
  healthNavigationValid : Bool
  healthCovarianceValid : Bool
  healthObservabilityValid : Bool
  healthCorrectionFresh : Bool
  healthPropagationValid : Bool
deriving DecidableEq

/-- The local values of `updateSetpoint` behind its two copies. -/
structure Locals (D : Type) where
  nowNs : Int
  navigationCommand : Option (NavigationCommand D)
  odometry : Option (Odometry D)
  velocityOnlySnapshot : Option (VelocityOnlySnapshot D)
  odometryReceiveSteadyNs : Int
  lioToPx4LocalTranslationNed : Option (Vec3 D)
  currentPx4YawNed : Option D

def Mode.rawPx4State (m : Mode D) : Adapter.RawPx4State D where
  positionNed := m.px4LocalPositionNed.getD ⟨nan, nan, nan⟩
  velocityNed := m.px4LocalVelocityNed.getD ⟨nan, nan, nan⟩
  yawNed := m.lastPx4HeadingNed
  xyValid := m.lastPx4XyValid
  zValid := m.lastPx4ZValid
  vxyValid := m.lastPx4VxyValid
  vzValid := m.lastPx4VzValid
  headingValid := m.lastPx4HeadingValid
  headingGoodForControl := m.lastPx4HeadingGoodForControl
  deadReckoning := m.lastPx4DeadReckoning
  headingVarianceRad2 := m.lastPx4HeadingVarianceRad2
  timestampUs := m.lastPx4TimestampUs
  timestampSampleUs := m.lastPx4TimestampSampleUs
  receiveSteadyNs := m.lastPx4LocalPositionReceiveSteadyNs
  resetCounters := m.px4ResetCounters

def Mode.velocityOnlySnapshot (m : Mode D) (odometry : Odometry D) : VelocityOnlySnapshot D where
  odometry
  px4 := m.rawPx4State
  previous := m.velocityOnlyPrevious
  lastResetCounters := m.velocityOnlyLastResetCounters
  resetCountersSeen := m.velocityOnlyResetCountersSeen
  lioLocalizationEpoch := m.lioLocalizationEpoch
  lioSequence := m.lastPropagatedStateSequence
  lioReceiveSteadyNs := m.lastOdometryReceiveSteadyNs
  healthNavigationValid := m.lastHealthNavigationValid
  healthCovarianceValid := m.lastHealthCovarianceValid
  healthObservabilityValid := m.lastHealthObservabilityValid
  healthCorrectionFresh := m.lastHealthCorrectionFresh
  healthPropagationValid := m.lastHealthPropagationValid

def Mode.freshTranslation (cfg : Config D) (m : Mode D) (steadyNs : Int) : Option (Vec3 D) :=
  if m.px4LocalFrameAligned && 0 < m.lastPx4PositionReceiveSteadyNs &&
      m.lastPx4PositionReceiveSteadyNs ≤ steadyNs &&
      steadyNs - m.lastPx4PositionReceiveSteadyNs ≤ cfg.stateStaleAfterNs then
    m.lioToPx4LocalTranslationNed
  else none

def Mode.copyLocals (cfg : Config D) (m : Mode D) (nowNs : Int) (moment : Moment) : Locals D where
  nowNs
  navigationCommand := m.navigationCommand
  odometry := m.odometry
  velocityOnlySnapshot :=
    if cfg.trackingExperiment.velocityOnlyEnabled then m.odometry.map m.velocityOnlySnapshot
    else none
  odometryReceiveSteadyNs := m.lastOdometryReceiveSteadyNs
  lioToPx4LocalTranslationNed := m.freshTranslation cfg moment.steadyNs
  currentPx4YawNed := none

def Locals.withHeading (cfg : Config D) (x : Locals D) (m : Mode D) : Locals D :=
  if cfg.trackingExperiment.velocityOnlyEnabled && m.lastPx4HeadingValid &&
      m.lastPx4HeadingGoodForControl && floatRepresentable m.lastPx4HeadingNed then
    { x with currentPx4YawNed := some (MathLibrary.toFloat m.lastPx4HeadingNed) }
  else x

def Locals.lioPositionToPx4Ned (x : Locals D) (positionEnu : Vec3 D) : Option (Vec3 D) :=
  (x.lioToPx4LocalTranslationNed.bind (lioPositionToLocalNed positionEnu)).bind castToFloat

/-- The yaw of the odometry with a yaw rate of zero, where there is one. -/
def withOdometryYaw (odometry : Option (Odometry D)) (setpoint : TrajectorySetpoint D) :
    TrajectorySetpoint D :=
  match odometry with
  | none => setpoint
  | some odometry =>
    if isNormalizableOdometryQuaternion odometry.orientation &&
        floatRepresentable (yawOf odometry.orientation.normalized) then
      { setpoint with
        yawNedRad :=
          some (MathLibrary.yawEnuToNed (MathLibrary.toFloat (yawOf odometry.orientation.normalized)))
        yawRateNedRadS := some (lit 0) }
    else setpoint

def Locals.stationaryPosition (x : Locals D) (positionEnu : Option (Vec3 D)) :
    TrajectorySetpoint D :=
  match positionEnu.bind x.lioPositionToPx4Ned with
  | some positionNed => { position := some positionNed, acceleration := some .zero }
  | none => {}

/-- `publishStationary`. -/
def Locals.stationary (cfg : Config D) (x : Locals D) (positionEnu : Option (Vec3 D)) :
    TrajectorySetpoint D :=
  let setpoint := { x.stationaryPosition positionEnu with velocity := some .zero }
  if cfg.trackingExperiment.velocityOnlyEnabled then
    match x.currentPx4YawNed with
    | some yaw => { setpoint with yawNedRad := some yaw, yawRateNedRadS := some (lit 0) }
    | none => setpoint
  else withOdometryYaw x.odometry setpoint

def Locals.stationaryUnrepresentable (x : Locals D) (positionEnu : Option (Vec3 D)) : Bool :=
  positionEnu.any fun position => (x.lioPositionToPx4Ned position).isNone

/-- `publishPositionHold`. -/
def Locals.positionHold (x : Locals D) (positionEnu : Vec3 D) : Option (TrajectorySetpoint D) :=
  (x.lioPositionToPx4Ned positionEnu).map fun positionNed =>
    withOdometryYaw x.odometry { position := some positionNed, velocity := some .zero }

def Locals.tracking (x : Locals D) (command : NavigationCommand D) :
    Option (TrajectorySetpoint D) :=
  match x.lioPositionToPx4Ned command.position, checkedEnuToNed command.velocity,
      checkedEnuToNed command.acceleration with
  | some positionNed, some velocityNed, some accelerationNed =>
    if floatRepresentable command.yaw && floatRepresentable command.yawRate then
      some
        { position := some positionNed
          velocity := some velocityNed
          acceleration := some accelerationNed
          yawNedRad := some (MathLibrary.yawEnuToNed (MathLibrary.toFloat command.yaw))
          yawRateNedRadS := some (MathLibrary.yawRateEnuToNed (MathLibrary.toFloat command.yawRate)) }
    else none
  | _, _, _ => none

/-! ## The velocity-only setpoint -/

def continuityRole : CommandRole → VelocityOnly.Role
  | .main => .main
  | .backup => .backup
  | _ => .emergency

def certifiedEmergency (command : NavigationCommand D) : Bool :=
  command.role == .emergency && command.status == .braking &&
    (command.emergencyAuthorizationReason == .actualAnchorCertificateExceeded ||
      command.emergencyAuthorizationReason == .clearanceExceeded) &&
    command.emergencyCandidateCommitResult == 1

def referenceOf (command : NavigationCommand D) : Adapter.Reference D where
  identity :=
    { localizationEpoch := command.localizationEpoch
      missionId := command.missionId
      waypointIndex := command.waypointIndex
      goalEpoch := command.goalEpoch
      requestId := command.requestId
      bundleGeneration := command.bundleGeneration
      sampleId := command.sampleId
      role := continuityRole command.role
      referenceSampleTimeNs := command.stamp.nanoseconds
      leaseValidUntilNs := command.validUntil.nanoseconds }
  positionEnu := command.position
  velocityEnu := command.velocity
  accelerationEnu := command.acceleration
  yawEnu := command.yaw
  yawRateEnuRadS := command.yawRate

def lioStateOf (s : VelocityOnlySnapshot D) : Adapter.LioState D :=
  let normalized := s.odometry.orientation.normalized
  { positionEnu := s.odometry.position
    velocityEnu := normalized.rotate s.odometry.linear
    yawEnu := yawOf normalized
    positionValid := s.odometry.position.allFinite
    velocityValid := (normalized.rotate s.odometry.linear).allFinite
    orientationValid := s.odometry.orientation.allFinite
    navigationValid := s.healthNavigationValid
    covarianceValid := s.healthCovarianceValid
    observabilityValid := s.healthObservabilityValid
    correctionFresh := s.healthCorrectionFresh
    propagationValid := s.healthPropagationValid
    relativeHeadingValid := s.px4.headingValid && s.px4.headingGoodForControl
    tiltValid := s.odometry.orientation.allFinite
    extrinsicValid := true
    localizationEpoch := s.lioLocalizationEpoch
    sequence := s.lioSequence
    sourceStampNs := s.odometry.stamp.nanoseconds
    receiveSteadyNs := s.lioReceiveSteadyNs }

def px4SampleNs (raw : Adapter.RawPx4State D) : Int :=
  if raw.timestampSampleUs ≤ (2 ^ 63 - 1) / 1000 then raw.timestampSampleUs * 1000 else 0

def secondsBetween (laterNs earlierNs : Int) : D := ofInt (laterNs - earlierNs) * lit (1 / 10 ^ 9)

def receiveAge (nowSteadyNs receiveSteadyNs : Int) : D :=
  if 0 < receiveSteadyNs && receiveSteadyNs ≤ nowSteadyNs then
    secondsBetween nowSteadyNs receiveSteadyNs
  else lit (-1)

def timingOf (cfg : Config D) (command : NavigationCommand D) (s : VelocityOnlySnapshot D)
    (nowNs nowSteadyNs : Int) : Adapter.TimingWitness D :=
  let sourceNs := s.odometry.stamp.nanoseconds
  let referenceNs := command.stamp.nanoseconds
  let sampleNs := px4SampleNs s.px4
  let timing : Adapter.TimingWitness D :=
    { referenceSampleId := command.sampleId
      lioLocalizationEpoch := s.lioLocalizationEpoch
      lioSequence := s.lioSequence
      px4TimestampUs := s.px4.timestampUs
      px4TimestampSampleUs := s.px4.timestampSampleUs
      clockMappingGeneration := 1
      conservativeBoundModel := 1
      commonTimeContractValid :=
        decide (sourceNs ≤ nowNs) && decide (referenceNs ≤ nowNs) && decide (sampleNs ≤ nowNs)
      clockMappingUncertaintyS := lit 0
      expectedReferenceUseTimeNs := nowNs
      referenceAgeS := secondsBetween nowNs referenceNs
      pairSkewS := FloatOps.abs (ofInt (sourceNs - sampleNs)) * lit (1 / 10 ^ 9)
      lioSourceAgeS := secondsBetween nowNs sourceNs
      lioReceiveAgeS := receiveAge nowSteadyNs s.lioReceiveSteadyNs
      px4SourceAgeS := secondsBetween nowNs sampleNs
      px4ReceiveAgeS := receiveAge nowSteadyNs s.px4.receiveSteadyNs
      predictedAnchorAgeS := max (secondsBetween nowNs sourceNs) (secondsBetween nowNs sampleNs)
      outputTransportAgeS := cfg.trackingExperiment.velocityOnlyOutputTransportBoundS
      px4ConsumeAgeS := cfg.trackingExperiment.velocityOnlyPx4ConsumeBoundS
      totalBoundS := lit 0 }
  { timing with
    totalBoundS :=
      Adapter.overlappingAge timing + timing.outputTransportAgeS + timing.px4ConsumeAgeS }

def adapterPolicy (cfg : Config D) (s : VelocityOnlySnapshot D) : Adapter.Policy D where
  mode := .levelA
  boundary := .velocityOnly
  experimentId := "velocity-only-lio-owned-v1"
  velocityLambda := lit 0
  lioPositionFeedbackGainSInv := cfg.trackingExperiment.velocityOnlyGainSInv
  maximumVelocityMps := some cfg.trackingExperiment.velocityOnlyCapMps
  maximumTimingBoundS := some cfg.trackingExperiment.velocityOnlyMaxTimingBoundS
  maximumReferenceAgeS := some cfg.trackingExperiment.velocityOnlyMaxReferenceAgeS
  expectedPx4ResetCounters := some s.px4.resetCounters
  expectedLioLocalizationEpoch := some s.lioLocalizationEpoch
  rejectDeadReckoning := true

def continuityIdentity (command : NavigationCommand D) : VelocityOnly.Identity where
  missionId := command.missionId
  waypointIndex := command.waypointIndex
  requestId := command.requestId
  bundleGeneration := command.bundleGeneration
  role := continuityRole command.role

def continuityPolicy (cfg : Config D) : VelocityOnly.Policy D where
  maximumVelocityMps := cfg.trackingExperiment.velocityOnlyCapMps
  maximumAccelerationMps2 := cfg.trackingExperiment.velocityOnlyMaxAccelerationMps2
  maximumJerkMps3 := cfg.trackingExperiment.velocityOnlyMaxJerkMps3

def velocityOnlyRefusal (command : NavigationCommand D) (s : VelocityOnlySnapshot D)
    (nowNs nowSteadyNs : Int) : Option String :=
  let sourceNs := s.odometry.stamp.nanoseconds
  let referenceNs := command.stamp.nanoseconds
  let sampleNs := px4SampleNs s.px4
  if command.role != .main && command.role != .backup && !certifiedEmergency command then
    some "role_not_authorized_for_velocity_boundary"
  else if command.status != .ready then some "status_requires_native_px4_hold"
  else if sourceNs ≤ 0 || referenceNs ≤ 0 || command.validUntil.nanoseconds ≤ 0 || nowNs ≤ 0 ||
      nowNs < sourceNs || nowNs < referenceNs || nowSteadyNs ≤ 0 then
    some "timestamp_contract_invalid"
  else if !isNormalizableOdometryQuaternion s.odometry.orientation then
    some "lio_orientation_invalid"
  else if sampleNs ≤ 0 || nowNs < sampleNs then some "px4_timestamp_contract_invalid"
  else if s.px4.resetCounters != s.lastResetCounters && s.resetCountersSeen then
    some "px4_reset_requires_new_velocity_epoch"
  else none

structure VelocityOnlySetpoint (D : Type) where
  previous : VelocityOnly.Previous D
  counters : Adapter.ResetCounters
  reason : String
  setpoint : TrajectorySetpoint D
deriving DecidableEq

def limitAdapted (cfg : Config D) (command : NavigationCommand D) (s : VelocityOnlySnapshot D)
    (nowNs : Int) (adapted : Adapter.AdaptedReference D) :
    Except String (VelocityOnlySetpoint D) :=
  let limited := VelocityOnly.limit adapted.velocityCommandLioEnu nowNs
    (continuityIdentity command) (continuityPolicy cfg) s.previous
  if !limited.success then
    .error ("continuity_rejected:" ++ VelocityOnly.failureName limited.failure)
  else
    match castToFloat (adapted.rotationLioEnuToPx4Ned.apply limited.velocityEnu) with
    | some velocityNed =>
      if !floatRepresentable adapted.yawNed || !floatRepresentable adapted.yawRateNedRadS then
        .error "velocity_or_yaw_not_representable"
      else
        .ok
          { previous :=
              ⟨continuityIdentity command, limited.velocityEnu, limited.accelerationEnu, nowNs⟩
            counters := s.px4.resetCounters
            reason := if limited.limited then "continuity_limited" else "accepted"
            setpoint :=
              { velocity := some velocityNed
                yawNedRad := some (MathLibrary.toFloat adapted.yawNed)
                yawRateNedRadS := some (MathLibrary.toFloat adapted.yawRateNedRadS) } }
    | none => .error "velocity_or_yaw_not_representable"

/-- The part of `publishVelocityOnlySetpoint` that is a function of its arguments. -/
def velocityOnlySetpoint (cfg : Config D) (command : NavigationCommand D)
    (s : VelocityOnlySnapshot D) (nowNs nowSteadyNs : Int) :
    Except String (VelocityOnlySetpoint D) :=
  match velocityOnlyRefusal command s nowNs nowSteadyNs with
  | some reason => .error reason
  | none =>
    match Adapter.adapt (referenceOf command) (lioStateOf s) s.px4
        (timingOf cfg command s nowNs nowSteadyNs) (adapterPolicy cfg s) with
    | .error _ => .error "adapter_rejected"
    | .ok adapted => limitAdapted cfg command s nowNs adapted

/-! ## The program -/

def refuseVelocityOnly (cfg : Config D) : ModeProgram D :=
  .lock .readReason fun m _ =>
    requestVelocityOnlyHold cfg
      (if m.velocityOnlyLastReason.isEmpty then "velocity-only setpoint unavailable"
        else m.velocityOnlyLastReason)

def updateVelocityOnly (cfg : Config D) (x : Locals D) (command : NavigationCommand D)
    (nowSteadyNs : Int) : ModeProgram D :=
  match x.velocityOnlySnapshot with
  | none => refuseVelocityOnly cfg
  | some s =>
    match velocityOnlySetpoint cfg command s x.nowNs nowSteadyNs with
    | .error reason => .lock (.velocityOnlyReason reason) fun _ _ => refuseVelocityOnly cfg
    | .ok r =>
      .lock (.writeBack r.previous r.counters r.reason) fun _ _ => .emit (.setpoint r.setpoint) .done

/-- The exit of a completed command; the receipt is a member that only this thread writes. -/
def updateCompleted (cfg : Config D) (x : Locals D) (command : NavigationCommand D)
    (hasReceipt : Bool) : ModeProgram D :=
  if cfg.trackingExperiment.velocityOnlyEnabled then
    requestVelocityOnlyHold cfg "terminal command requires native PX4 Hold"
  else
    match x.positionHold command.position with
    | none =>
      safetyStopNavigation cfg "completed command position is not representable by PX4"
    | some setpoint =>
      .emit (.setpoint setpoint) (if (command.role == .backup || command.role == .main) &&
            !x.odometry.any (endpointAnchored · command) && !hasReceipt then
          .lock (.heldRecovery command x.nowNs) fun m _ =>
            if recoveryDeadlineInvalid cfg x.nowNs m then
              safetyStopNavigation cfg "planner recovery deadline is not representable"
            else .done
        else .done)

def updateTracking (cfg : Config D) (x : Locals D) (command : NavigationCommand D) :
    ModeProgram D :=
  match x.tracking command with
  | none => safetyStopNavigation cfg "planner backend PVA command is not representable by PX4"
  | some setpoint => .emit (.setpoint setpoint) .done

def commandRefusal (cfg : Config D) (nowNs receiveNs : Int) (windowOpen : Bool)
    (command : NavigationCommand D) : Option String :=
  let stampNs := command.stamp.nanoseconds
  if 0 < receiveNs && receiveNs ≤ nowNs && cfg.staleAfterNs < nowNs - receiveNs && !windowOpen then
    some "planner backend PVA command stale"
  else if stampNs ≤ 0 || nowNs < stampNs || (cfg.staleAfterNs < nowNs - stampNs && !windowOpen) then
    some "planner backend PVA command timestamp invalid or stale"
  else if !windowOpen && !commandValidAt command nowNs then
    some "planner backend command validity window expired"
  else if command.status == .rejected then
    some "planner backend planner failed without a valid backup trajectory"
  else none

def updateCommand (cfg : Config D) (x : Locals D) (command : NavigationCommand D) : ModeProgram D :=
  .lock .recoveryWindow fun m _ =>
    let windowOpen :=
      terminalRecoveryCommandMayBeHeld (command.status == .completed) m.plannerRecovery x.nowNs &&
        plannerRecoveryEpisodeMatches m.plannerRecovery command
    .lock .receiveTime fun m moment =>
      match commandRefusal cfg x.nowNs m.lastCommandReceiveNs windowOpen command with
      | some reason => safetyStopNavigation cfg reason
      | none =>
        if command.status == .completed then
          updateCompleted cfg x command m.missionCompletionReceipt.isSome
        else if cfg.trackingExperiment.velocityOnlyEnabled then
          updateVelocityOnly cfg x command moment.steadyNs
        else updateTracking cfg x command

def seconds (ns : Int) : D := ofInt ns / lit (10 ^ 9)

def updateAcquisition (cfg : Config D) (x : Locals D) : ModeProgram D :=
  .lock .readAirborneStart fun m _ =>
    if 0 < m.airborneStartNs && m.airborneStartNs ≤ x.nowNs &&
        (seconds (x.nowNs - m.airborneStartNs) : D) ≤ cfg.trajectoryWaitTimeoutS then
      .emit (.setpoint (x.stationary cfg (x.odometry.map Odometry.position))) .done
    else safetyStopNavigation cfg "planner backend PVA command unavailable"

inductive HealthGate where
  | wait
  | fail
  | pass
deriving DecidableEq

/-- The health gate of `updateSetpoint`. -/
def healthGate (cfg : Config D) (m : Mode D) (nowNs nowSteadyNs : Int) (sinceActivationS : D) :
    HealthGate :=
  let fresh := evaluateExecutionStateFreshness nowNs m.lastHealthSourceStampNs nowSteadyNs
    m.lastHealthReceiveSteadyNs cfg.stateStaleAfterS == .valid
  let missing := !m.typedHealthSeen || m.lastHealthSourceStampNs ≤ 0 ||
    m.lastHealthReceiveSteadyNs ≤ 0
  let waitS := min (lit (1 / 2)) (max (lit 0) cfg.trajectoryWaitTimeoutS)
  if missing && !m.typedHealthSeen && sinceActivationS ≤ waitS then .wait
  else if (!missing && !m.lioHealthValid &&
        !(cfg.trackingExperiment.suppressEstimatorHealthResponse && fresh)) ||
      (!missing && !fresh) || (missing && (m.typedHealthSeen || waitS < sinceActivationS)) then .fail
  else .pass

def updateHealthy (cfg : Config D) (x : Locals D) (sinceActivationS : D) : ModeProgram D :=
  .lock .health fun m moment =>
    match healthGate cfg m x.nowNs moment.steadyNs sinceActivationS with
    | .wait => .emit (.setpoint (x.stationary cfg none)) .done
    | .fail => failNavigation cfg "FAST-LIO navigation health invalid or stale"
    | .pass =>
      match x.navigationCommand with
      | some command => updateCommand cfg x command
      | none => updateAcquisition cfg x

def updateAirborne (cfg : Config D) (x : Locals D) (armed : Bool) (sinceActivationS : D) :
    ModeProgram D :=
  match x.odometry with
  | none => .emit (.setpoint (x.stationary cfg none)) .done
  | some odometry =>
    if !armed || odometry.position.z ≤ lit (1 / 2) then
      .emit (.setpoint (x.stationary cfg none)) .done
    else
      .lock (.airborneStart x.nowNs) fun _ moment =>
        if evaluateExecutionStateFreshness x.nowNs odometry.stamp.nanoseconds moment.steadyNs
            x.odometryReceiveSteadyNs cfg.stateStaleAfterS != .valid then
          failNavigation cfg "navigation odometry stale before setpoint update"
        else updateHealthy cfg x sinceActivationS

def terminalPosition (m : Mode D) (x : Locals D) : Option (Vec3 D) :=
  if m.failureReported then m.safetyHoldPosition
  else if m.missionCompletionReceipt.isSome then m.completionPosition
  else
    match m.safetyHoldPosition with
    | some position => some position
    | none => x.odometry.map Odometry.position

def updateTerminal (cfg : Config D) (x : Locals D) : ModeProgram D :=
  .lock .terminalStream fun m moment =>
    if m.terminal then
      .emit (.setpoint (x.stationary cfg (terminalPosition m x)))
        (if x.stationaryUnrepresentable (terminalPosition m x) then
          safetyStopNavigation cfg "terminal hold position is not representable by PX4"
        else .done)
    else updateAirborne cfg x moment.armed (seconds (x.nowNs - m.activationTimeNs))

def updateSetpoint (cfg : Config D) (moment : Moment) : ModeProgram D :=
  .lock .snapshot fun m copied =>
    let x := m.copyLocals cfg moment.rosNs copied
    .lock .heading fun m _ => updateTerminal cfg (x.withHeading cfg m)

inductive Callback (D : Type) where
  | activate
  | deactivate
  | navigationCommand (message : Option (NavigationCommand D))
  | missionProgress (message : Option (MissionProgress D))
  | boundary
  | setpoint

def callback (cfg : Config D) : Callback D → Moment → ModeProgram D
  | .activate, _ => onActivate cfg
  | .deactivate, _ => onDeactivate
  | .navigationCommand message, moment => onNavigationCommand cfg message moment
  | .missionProgress message, _ => onMissionProgress cfg message
  | .boundary, _ => updateBoundary cfg
  | .setpoint, moment => updateSetpoint cfg moment

def system (cfg : Config D) :
    System (Mode D) Moment (Section D) (Output D) (Callback D) (StateInput D) where
  effect := Section.effect cfg
  callback := callback cfg
  input := Mode.input cfg

abbrev ModeOperation (D : Type) := Operation (Callback D) (StateInput D) Moment

abbrev ModeThreads (D : Type) := Threads (Mode D) Moment (Section D) (Output D)

abbrev ModeStep (D : Type) :=
  System.Step (Mode D) Moment (Section D) (Output D) (Callback D) (StateInput D)

def initialThreads : ModeThreads D := ⟨.initial, .done⟩

end Callbacks

/-- The time limits that the constructor demands, and the experiment `velocity-only`. -/
def velocityOnlyConfig : Config (ExactReal ℚ) where
  planningFrame := "lio_odom"
  bodyFrame := "base_link"
  trackingExperiment :=
    { enabled := true
      suppressBraking := false
      suppressEstimatorHealthResponse := false
      baseM := lit (1 / 2)
      lateralAlphaS := lit 0
      longitudinalBetaS := lit 0
      velocityOnlyEnabled := true
      velocityOnlyGainSInv := lit 1
      velocityOnlyCapMps := lit 2
      velocityOnlyMaxAccelerationMps2 := lit 2
      velocityOnlyMaxJerkMps3 := lit 4
      velocityOnlyMaxTimingBoundS := lit (1 / 5)
      velocityOnlyMaxReferenceAgeS := lit (1 / 10)
      velocityOnlyOutputTransportBoundS := lit 0
      velocityOnlyPx4ConsumeBoundS := lit 0 }
  staleAfterNs := 100000000
  stateStaleAfterNs := 200000000
  plannerRecoveryWaitTimeoutNs := 5000000000
  stateStaleAfterS := lit (1 / 5)
  trajectoryWaitTimeoutS := lit 5
  holdHandover := true

def noon : Moment := ⟨1000000000, 1000000000, 1000000000, true⟩

def trackingHealth (stamp : Stamp) (localizationEpoch : Nat) : EstimatorHealth where
  stamp
  localizationEpoch
  state := .tracking
  navigationValid := true
  covarianceValid := true
  observabilityValid := true
  correctionFresh := true
  propagationValid := true

def hoveringOdometry (localizationEpoch : Nat) : PropagatedOdometry (ExactReal ℚ) where
  odometry :=
    { stamp := ⟨1, 0⟩
      frameId := "lio_odom"
      childFrameId := "base_link"
      position := ⟨lit 0, lit 0, lit 1⟩
      orientation := ⟨lit 0, lit 0, lit 0, lit 1⟩
      linear := .zero }
  localizationEpoch
  sequence := 1

def hoveringLocalPosition : VehicleLocalPosition (ExactReal ℚ) where
  timestamp := 1000000
  timestampSample := 1000000
  xyValid := true
  zValid := true
  vXyValid := true
  vZValid := true
  position := ⟨lit 0, lit 0, lit (-1)⟩
  velocity := .zero
  heading := lit (884279719003555 / 2 ^ 49)
  headingVar := lit 0
  headingGoodForControl := true
  deadReckoning := false
  resetCounters := {}

def eastboundCommand (localizationEpoch sampleId : Nat) : NavigationCommand (ExactReal ℚ) where
  stamp := ⟨1, 0⟩
  frameId := "lio_odom"
  localizationEpoch
  goalEpoch := 1
  modeActivationId := 1
  missionId := "survey"
  waypointIndex := 0
  requestId := 1
  worldGeneration := 1
  worldRevision := 1
  worldObservationStamp := ⟨1, 0⟩
  bundleGeneration := 1
  certifiedMainContinuation := false
  continuationBoundaryStampNs := 0
  sampleId
  stateSourceStamp := ⟨1, 0⟩
  validUntil := ⟨2, 0⟩
  role := .main
  status := .ready
  position := ⟨lit 0, lit 0, lit 1⟩
  velocity := ⟨lit (1 / 2), lit 0, lit 0⟩
  acceleration := .zero
  jerk := .zero
  yaw := lit 0
  yawRate := lit 0
  trajectoryTimeS := lit 0
  emergencyAuthorizationReason := .none
  emergencyCandidateCommitResult := 0

def activation {D : Type} (moment : Moment) : List (ModeOperation D) :=
  .call .activate moment :: List.replicate 4 (.advance moment)

def sensing : List (ModeOperation (ExactReal ℚ)) :=
  [.input (.health (some (trackingHealth ⟨1, 0⟩ 1)) noon),
    .input (.odometry (some (hoveringOdometry 1)) noon),
    .input (.localPosition (some hoveringLocalPosition) noon)]

def commanding (localizationEpoch sampleId : Nat) : List (ModeOperation (ExactReal ℚ)) :=
  [.call (.navigationCommand (some (eastboundCommand localizationEpoch sampleId))) noon,
    .advance noon]

def updating : List (ModeOperation (ExactReal ℚ)) :=
  .call .setpoint noon :: List.replicate 7 (.advance noon)

/-! ## Callbacks that write nothing back -/

section Callbacks
variable {D : Type} [Floating D] {cfg : Config D}

def Section.plain : Section D → Prop
  | .writeBack _ _ _ => False
  | _ => True

def harmless : Output D → Prop
  | .rejection assessment _ => assessment.disposition ≠ .rejectRetainPrevious
  | _ => True

/-- Neither a write-back nor a section that comes back to a command. -/
def Section.closing : Section D → Prop
  | .writeBack _ _ _ | .receiveTime | .heldRecovery _ _ | .acceptedRecovery _ => False
  | _ => True

/-- Neither a setpoint nor a rejection that keeps the command. -/
def quiet : Output D → Prop
  | .setpoint _ => False
  | o => harmless o

abbrev Closes (p : ModeProgram D) : Prop := p.Always Section.closing quiet

omit [Floating D] in
theorem Closes.plain {p : ModeProgram D} (h : Closes p) : p.Always Section.plain harmless := by
  refine h.mono (fun label hLabel => ?_) fun o hOutput => ?_
  · cases label <;> first | exact hLabel | trivial
  · cases o <;> first | exact hOutput | trivial

theorem publishStatus_closes {state : StatusState} {reason : StatusReason} {rest : ModeProgram D}
    (hRest : Closes rest) : Closes (publishStatus state reason rest) :=
  ⟨trivial, fun _ _ => ⟨trivial, hRest⟩⟩

omit [Floating D] in
theorem handOver_closes : Closes (handOver cfg) := by
  unfold handOver
  split <;> exact ⟨trivial, trivial⟩

theorem safetyStopNavigation_closes (reason : String) : Closes (safetyStopNavigation cfg reason) := by
  refine ⟨trivial, fun m moment => ?_⟩
  dsimp only
  split
  · trivial
  · exact publishStatus_closes ⟨trivial, handOver_closes⟩

theorem failNavigation_closes (reason : String) : Closes (failNavigation cfg reason) := by
  refine ⟨trivial, fun m moment => ?_⟩
  dsimp only
  split
  · trivial
  · exact publishStatus_closes ⟨trivial, handOver_closes⟩

theorem requestVelocityOnlyHold_closes (reason : String) :
    Closes (requestVelocityOnlyHold cfg reason) :=
  ⟨trivial, fun _ _ => publishStatus_closes handOver_closes⟩

theorem updateBoundary_closes : Closes (updateBoundary cfg) := by
  refine ⟨trivial, fun m moment => ?_⟩
  dsimp only
  split
  · trivial
  split
  · exact safetyStopNavigation_closes _
  · exact publishStatus_closes trivial

theorem onActivate_closes : Closes (onActivate cfg) :=
  ⟨trivial, fun _ _ => publishStatus_closes updateBoundary_closes⟩

theorem onDeactivate_closes : Closes (onDeactivate : ModeProgram D) := by
  refine ⟨trivial, fun m moment => ?_⟩
  dsimp only
  split
  · exact publishStatus_closes trivial
  · trivial

theorem onMissionProgress_closes (message : Option (MissionProgress D)) : Closes (onMissionProgress cfg message) := by
  unfold onMissionProgress
  split
  · trivial
  split
  · trivial
  refine ⟨trivial, fun m moment => ?_⟩
  dsimp only
  split
  · exact publishStatus_closes ⟨trivial, trivial⟩
  · trivial

theorem settleRecovery_plain (command : NavigationCommand D) (recoveryNeeded inside : Bool) :
    (settleRecovery cfg command recoveryNeeded inside).Always Section.plain harmless := by
  unfold settleRecovery
  split
  · refine ⟨trivial, fun m moment => ?_⟩
    dsimp only
    split
    · exact (safetyStopNavigation_closes _).plain
    · trivial
  split
  · exact ⟨trivial, fun _ _ => trivial⟩
  · trivial

theorem refuseVelocityOnly_plain : (refuseVelocityOnly cfg).Always Section.plain harmless :=
  ⟨trivial, fun _ _ => (requestVelocityOnlyHold_closes _).plain⟩

variable [MathLibrary D]

section
variable (x : Locals D) (command : NavigationCommand D)

theorem updateCompleted_plain (hasReceipt : Bool) :
    (updateCompleted cfg x command hasReceipt).Always Section.plain harmless := by
  unfold updateCompleted
  split
  · exact (requestVelocityOnlyHold_closes _).plain
  split
  · exact (safetyStopNavigation_closes _).plain
  refine ⟨trivial, ?_⟩
  split
  · refine ⟨trivial, fun m moment => ?_⟩
    dsimp only
    split
    · exact (safetyStopNavigation_closes _).plain
    · trivial
  · trivial

theorem updateTracking_plain : (updateTracking cfg x command).Always Section.plain harmless := by
  unfold updateTracking
  split
  · exact (safetyStopNavigation_closes _).plain
  · exact ⟨trivial, trivial⟩

theorem updateAcquisition_plain : (updateAcquisition cfg x).Always Section.plain harmless := by
  refine ⟨trivial, fun m moment => ?_⟩
  dsimp only
  split
  · exact ⟨trivial, trivial⟩
  · exact (safetyStopNavigation_closes _).plain

end

abbrev WritesNothingBack (p : ModeProgram D) : Prop := p.Always Section.plain fun _ => True

omit [Floating D] [MathLibrary D] in
theorem writesNothingBack {p : ModeProgram D} (h : p.Always Section.plain harmless) :
    WritesNothingBack p :=
  h.mono (fun _ => id) fun _ _ => trivial

omit [MathLibrary D] in
theorem concludeAdmission_writesNothingBack (m : Mode D) (message : NavigationCommand D)
    (assessment : CommandAdmissionAssessment) :
    WritesNothingBack (concludeAdmission cfg m message assessment) := by
  unfold concludeAdmission
  split
  · exact ⟨trivial, trivial⟩
  · exact ⟨trivial, writesNothingBack (failNavigation_closes _).plain⟩
  · exact ⟨trivial, writesNothingBack (safetyStopNavigation_closes _).plain⟩
  · exact ⟨trivial, fun _ _ => ⟨trivial, writesNothingBack (settleRecovery_plain _ _ _)⟩⟩
  · trivial

theorem onNavigationCommand_writesNothingBack (message : Option (NavigationCommand D))
    (moment : Moment) : WritesNothingBack (onNavigationCommand cfg message moment) := by
  unfold onNavigationCommand
  dsimp only
  split
  · refine ⟨trivial, fun m later => ?_⟩
    dsimp only
    split
    · exact ⟨trivial, trivial⟩
    · exact ⟨trivial, fun n last => concludeAdmission_writesNothingBack n _ _⟩
  · exact ⟨trivial, fun _ _ => ⟨trivial, trivial⟩⟩

section
variable (x : Locals D) (command : NavigationCommand D)

theorem updateVelocityOnly_harmless (nowSteadyNs : Int) :
    (updateVelocityOnly cfg x command nowSteadyNs).Always (fun _ => True) harmless := by
  fun_cases updateVelocityOnly
  · exact refuseVelocityOnly_plain.any
  · exact ⟨trivial, fun _ _ => refuseVelocityOnly_plain.any⟩
  · exact ⟨trivial, fun _ _ => ⟨trivial, trivial⟩⟩

theorem updateCommand_harmless : (updateCommand cfg x command).Always (fun _ => True) harmless := by
  refine ⟨trivial, fun m moment => ⟨trivial, fun n later => ?_⟩⟩
  dsimp only
  split
  · exact (safetyStopNavigation_closes _).plain.any
  split
  · exact (updateCompleted_plain x command _).any
  split
  · exact updateVelocityOnly_harmless x command _
  · exact (updateTracking_plain x command).any

theorem updateHealthy_harmless (sinceActivationS : D) :
    (updateHealthy cfg x sinceActivationS).Always (fun _ => True) harmless := by
  refine ⟨trivial, fun m moment => ?_⟩
  dsimp only
  split
  · exact ⟨trivial, trivial⟩
  · exact (failNavigation_closes _).plain.any
  split
  · exact updateCommand_harmless x _
  · exact (updateAcquisition_plain x).any

theorem updateAirborne_harmless (armed : Bool) (sinceActivationS : D) :
    (updateAirborne cfg x armed sinceActivationS).Always (fun _ => True) harmless := by
  unfold updateAirborne
  split
  · exact ⟨trivial, trivial⟩
  split
  · exact ⟨trivial, trivial⟩
  refine ⟨trivial, fun m moment => ?_⟩
  dsimp only
  split
  · exact (failNavigation_closes _).plain.any
  · exact updateHealthy_harmless x sinceActivationS

theorem updateTerminal_harmless : (updateTerminal cfg x).Always (fun _ => True) harmless := by
  refine ⟨trivial, fun m moment => ?_⟩
  dsimp only
  split
  · refine ⟨trivial, ?_⟩
    split
    · exact (safetyStopNavigation_closes _).plain.any
    · trivial
  · exact updateAirborne_harmless x _ _

end

theorem updateSetpoint_harmless (moment : Moment) :
    (updateSetpoint cfg moment).Always (fun _ => True) harmless :=
  ⟨trivial, fun _ _ => ⟨trivial, fun _ _ => updateTerminal_harmless _⟩⟩

end Callbacks

/-! ## Rejections that retain the command -/

open FloatOps Runs Sections

section Callbacks
variable {D : Type} [Floating D] [MathLibrary D] {cfg : Config D}

/-- A rejection that retains the command comes from a section that keeps it. -/
def rejectsInPlace (cfg : Config D) (l : Section D) (m : Mode D) (moment : Moment) (o : Output D) :
    Prop :=
  harmless o ∨ l = .retain ∨
    ∃ c, l = .admission c ∧ (assessAdmission cfg m moment c).accepted = false

theorem always_rejectsInPlace {p : ModeProgram D} {enter : Section D → Prop}
    (h : p.Always enter harmless) {first : Output D → Prop} (hFirst : ∀ o, harmless o → first o) :
    p.Speaks (rejectsInPlace cfg) first :=
  h.speaks hFirst fun _ _ _ _ ho => .inl ho

theorem concludeAdmission_speaks (message : NavigationCommand D) (m : Mode D) (moment : Moment) :
    (concludeAdmission cfg m message (assessAdmission cfg m moment message)).Speaks
      (rejectsInPlace cfg) (rejectsInPlace cfg (.admission message) m moment) := by
  unfold concludeAdmission
  split
  · rename_i hDisposition
    have hRejected : (assessAdmission cfg m moment message).accepted = false := by
      unfold CommandAdmissionAssessment.accepted
      rw [hDisposition]
      rfl
    exact ⟨.inr (.inr ⟨message, rfl, hRejected⟩), trivial⟩
  · rename_i hDisposition
    refine ⟨.inl ?_, always_rejectsInPlace (failNavigation_closes _).plain fun _ => .inl⟩
    change (assessAdmission cfg m moment message).disposition ≠ .rejectRetainPrevious
    rw [hDisposition]
    simp
  · rename_i hDisposition
    refine ⟨.inl ?_, always_rejectsInPlace (safetyStopNavigation_closes _).plain fun _ => .inl⟩
    change (assessAdmission cfg m moment message).disposition ≠ .rejectRetainPrevious
    rw [hDisposition]
    simp
  · intro n later
    exact ⟨.inl trivial, always_rejectsInPlace (settleRecovery_plain _ _ _) fun _ => .inl⟩
  · trivial

theorem admitCommand_speaks (message : NavigationCommand D) (first : Output D → Prop) :
    (admitCommand cfg message).Speaks (rejectsInPlace cfg) first := by
  intro m moment
  dsimp only
  split
  · refine ⟨.inl ?_, trivial⟩
    intro h
    cases h
  · exact fun n later => concludeAdmission_speaks message n later

theorem onNavigationCommand_speaks (message : Option (NavigationCommand D)) (moment : Moment)
    (first : Output D → Prop) :
    (onNavigationCommand cfg message moment).Speaks (rejectsInPlace cfg) first := by
  unfold onNavigationCommand
  dsimp only
  split
  · exact admitCommand_speaks _ first
  · exact fun _ _ => ⟨.inr (.inl rfl), trivial⟩

theorem callback_speaks (c : Callback D) (moment : Moment) :
    ((system cfg).callback c moment).Speaks (rejectsInPlace cfg) fun _ => False := by
  have hRelation : ∀ l m later (o : Output D), harmless o → rejectsInPlace cfg l m later o :=
    fun _ _ _ _ => .inl
  cases c with
  | activate => exact onActivate_closes.plain.speaks_silent rfl hRelation
  | deactivate => exact onDeactivate_closes.plain.speaks_silent rfl hRelation
  | navigationCommand message => exact onNavigationCommand_speaks message moment _
  | missionProgress message =>
    refine (onMissionProgress_closes message).plain.speaks_silent ?_ hRelation
    unfold onMissionProgress
    split
    · rfl
    split <;> rfl
  | boundary => exact updateBoundary_closes.plain.speaks_silent rfl hRelation
  | setpoint => exact (updateSetpoint_harmless moment).speaks_silent rfl hRelation

/-- The command, its receive time and the terminal flags. -/
structure Retained (m n : Mode D) : Prop where
  navigationCommand : n.navigationCommand = m.navigationCommand
  lastCommandReceiveNs : n.lastCommandReceiveNs = m.lastCommandReceiveNs
  failureReported : n.failureReported = m.failureReported
  handoverRequested : n.handoverRequested = m.handoverRequested
  missionCompletionReceipt : n.missionCompletionReceipt = m.missionCompletionReceipt

theorem retained_of_rejection {ops : List (ModeOperation D)} {e : ModeStep D}
    (he : e ∈ events (system cfg).step initialThreads ops)
    {assessment : CommandAdmissionAssessment} {message : Option (NavigationCommand D)}
    (hOutput : Output.rejection assessment message ∈ e.result.outputs)
    (hDisposition : assessment.disposition = .rejectRetainPrevious) :
    Retained e.before.shared e.after.shared := by
  obtain ⟨label, moment, -, -, hShared, hHarmless | rfl | ⟨c, rfl, hRejected⟩⟩ :=
    events_spoken callback_speaks e he _ hOutput
  · exact absurd hDisposition hHarmless
  · rw [hShared]
    exact ⟨rfl, rfl, rfl, rfl, rfl⟩
  · rw [hShared]
    change Retained e.before.shared (Section.effect cfg (.admission c) e.before.shared moment)
    unfold Section.effect
    dsimp only
    rw [if_neg (by rw [hRejected]; simp)]
    exact ⟨rfl, rfl, rfl, rfl, rfl⟩

theorem retained_of_terminalCheck {s : ModeThreads D} {op : ModeOperation D}
    (hLabel : ((system cfg).step s op).2.label = some .terminalCheck) :
    Retained s.shared ((system cfg).step s op).1.shared := by
  change Retained s.shared (eventAt (system cfg).step s op).after.shared
  rcases step_effect (system cfg) s op with ⟨-, hShared⟩ | ⟨l, moment, -, hLocked, hShared⟩ |
    ⟨input, -, hNone, -, -⟩
  · rw [hShared]
    exact ⟨rfl, rfl, rfl, rfl, rfl⟩
  · rw [eventAt_result, hLabel] at hLocked
    cases hLocked
    rw [hShared]
    exact ⟨rfl, rfl, rfl, rfl, rfl⟩
  · rw [eventAt_result, hLabel] at hNone
    cases hNone

end Callbacks

end UavNavigation.NavigationMode
