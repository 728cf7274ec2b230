import UavNavigation.NavigationMode

/-!
# The external odometry bridge

The propagated odometry of the estimator becomes visual odometry of PX4. The epoch of
the world arrives on two streams, with the samples and with the health of the
estimator. A sample is published when its identity is new, its conversion succeeds, its
time can be mapped, the health allows it and it continues the samples before it.

A call of `onLio` is given the time and the number of subscriptions that it reads. The
casts to single precision and the angle between two attitudes are parameters; what only
the log reads is left out.
-/

namespace UavNavigation.ExternalOdometry

set_option autoImplicit false

open FloatOps NavigationMode

def strictlyNewerSourceIdentity (highestEpoch highestSequence epoch sequence : Nat) : Bool :=
  if epoch = 0 ∨ sequence = 0 then false
  else if highestEpoch = 0 then true
  else highestEpoch < epoch || (epoch == highestEpoch && highestSequence < sequence)

structure ExternalLioHealthSnapshot where
  sourceStampNs : Int
  publicFrameGeneration : Nat
  publicFrameGenerationValid : Bool
  lioValid : Bool
  covarianceValid : Bool
deriving DecidableEq

def externalLioHealthSnapshot (message : EstimatorHealth) : Option ExternalLioHealthSnapshot :=
  match rosTimeToNanoseconds message.stamp.sec message.stamp.nanosec with
  | none => none
  | some sourceStampNs =>
    if sourceStampNs ≤ 0 ∨ message.localizationEpoch = 0 then none
    else
      some {
        sourceStampNs
        publicFrameGeneration := message.localizationEpoch
        publicFrameGenerationValid := true
        lioValid := decide (message.state = .tracking) && message.navigationValid &&
          message.observabilityValid && message.correctionFresh && message.propagationValid
        covarianceValid := message.covarianceValid }

structure GeometricJumpLatch where
  latched : Bool := false
  lastGeneration : Nat := 0
  generationKnown : Bool := false
deriving DecidableEq

namespace GeometricJumpLatch

def observeGeometricJump (latch : GeometricJumpLatch) (jump : Bool) : GeometricJumpLatch :=
  if !jump || latch.latched then latch else { latch with latched := true }

def observePublicFrameGeneration (latch : GeometricJumpLatch) (valid : Bool) (generation : Nat) :
    GeometricJumpLatch × Bool :=
  if !valid || generation == 0 then (latch, false)
  else if !latch.generationKnown then
    ({ latch with generationKnown := true, lastGeneration := generation }, false)
  else if generation ≤ latch.lastGeneration then (latch, false)
  else ({ latch with lastGeneration := generation, latched := false }, true)

end GeometricJumpLatch

def publicFrameGenerationToResetCounter (generation : Nat) : Nat := generation % 256

inductive TimestampMappingMode where
  | unresolved
  | simulationIdentity
  | realtimeTransport
deriving DecidableEq

structure TimestampConversionResult where
  valid : Bool := false
  suppressed : Bool := false
  sourceDomain : String := "UNRESOLVED"
  targetDomain : String := "PX4_TIME_UNRESOLVED"
  measurementTimeUs : Nat := 0
  publicationTimeUs : Nat := 0
  timestampMappingGeneration : Nat := 0
  timestampAgeNs : Int := 0
  reason : String := "TIME_DOMAIN_UNRESOLVED"
deriving DecidableEq

structure TimestampConverter where
  maximumAgeNs : Int
  lastMeasurementTimeUs : Option Nat := none
  lastPublicationTimeUs : Option Nat := none
  lastTimestampMappingGeneration : Option Nat := none
deriving DecidableEq

namespace TimestampConverter

def mapped (converter : TimestampConverter) (generation : Nat) : TimestampConverter :=
  if converter.lastTimestampMappingGeneration = some generation then converter
  else
    { converter with
      lastTimestampMappingGeneration := some generation
      lastMeasurementTimeUs := none
      lastPublicationTimeUs := none }

def validResult (mode : TimestampMappingMode) (measurementUs publicationUs generation : Nat)
    (ageNs : Int) : TimestampConversionResult where
  valid := true
  sourceDomain := if mode = .simulationIdentity then "ROS_SIMULATION_TIME" else "ROS_SYSTEM_TIME"
  targetDomain :=
    if mode = .simulationIdentity then "PX4_SIMULATION_TIME" else "PX4_TIME_VIA_UXRCE_TIMESYNC"
  measurementTimeUs := measurementUs
  publicationTimeUs := publicationUs
  timestampMappingGeneration := generation
  timestampAgeNs := ageNs
  reason := if mode = .simulationIdentity then "VALID_SIMULATION_TIME_EQUIVALENCE"
    else "VALID_REALTIME_UXRCE_MAPPING"

/-- What is said of two times against those of the last valid conversion. -/
def order (converter : TimestampConverter) (measurementUs publicationUs : Nat) : Option String :=
  if converter.lastMeasurementTimeUs.any fun last => measurementUs < last then
    some "TIMESTAMP_SAMPLE_REGRESSION"
  else if converter.lastMeasurementTimeUs.any fun last => measurementUs == last then
    some "DUPLICATE_MEASUREMENT_SUPPRESSED"
  else if converter.lastPublicationTimeUs.any fun last => publicationUs < last then
    some "PUBLICATION_TIMESTAMP_REGRESSION"
  else none

def convert (converter : TimestampConverter) (measurementTimeNs publicationTimeNs : Int)
    (mode : TimestampMappingMode) (generation : Nat) :
    TimestampConverter × TimestampConversionResult :=
  let fail (reason : String) : TimestampConversionResult :=
    { timestampMappingGeneration := generation, reason }
  if mode = .unresolved then (converter, fail "TIME_DOMAIN_UNRESOLVED")
  else if generation = 0 then (converter, fail "TIMESTAMP_MAPPING_GENERATION_INVALID")
  else
    let mapped := converter.mapped generation
    match nanosecondsToMicroseconds measurementTimeNs,
      nanosecondsToMicroseconds publicationTimeNs with
    | some measurementUs, some publicationUs =>
      match checkedDifference publicationTimeNs measurementTimeNs with
      | none => (mapped, fail "TIMESTAMP_DELTA_OVERFLOW")
      | some ageNs =>
        if mapped.maximumAgeNs < ageNs then (mapped, fail "TIMESTAMP_STALE")
        else if ageNs < -mapped.maximumAgeNs then (mapped, fail "TIMESTAMP_FUTURE")
        else
          match mapped.order measurementUs publicationUs with
          | some reason =>
            if reason = "DUPLICATE_MEASUREMENT_SUPPRESSED" then
              (mapped, { fail reason with
                suppressed := true
                measurementTimeUs := measurementUs
                publicationTimeUs := publicationUs
                timestampAgeNs := ageNs })
            else (mapped, fail reason)
          | none =>
            ({ mapped with
                lastMeasurementTimeUs := some measurementUs
                lastPublicationTimeUs := some publicationUs },
              validResult mode measurementUs publicationUs generation ageNs)
    | _, _ => (mapped, fail "TIMESTAMP_ZERO_OR_OVERFLOW")

end TimestampConverter

/-! ## The continuity of the samples -/

structure GeometricJumpContinuityConfig (D : Type) where
  positionJumpMarginM : D
  orientationJumpMarginRad : D
  maximumExpectedSpeedMps : D
  maximumExpectedAngularRateRadS : D
  minimumContinuityDtS : D
  maximumContinuityDtS : D
deriving DecidableEq

inductive GeometricJumpContinuityReason where
  | noBaseline
  | sourceInvalid
  | generationInvalid
  | generationChanged
  | previousFrameInvalid
  | currentFrameInvalid
  | timestampNotIncreasing
  | dtTooSmall
  | dtTooLarge
  | thresholdOverflow
  | withinThreshold
  | jumpDetected
deriving DecidableEq

structure GeometricJumpContinuityObservation (D : Type) where
  evaluated : Bool
  jumped : Bool
  baselineReseeded : Bool
  sampleAdmissible : Bool
  reason : GeometricJumpContinuityReason
  dtS : D
  positionDeltaM : D
  allowedPositionDeltaM : D
  orientationDeltaRad : D
  allowedOrientationDeltaRad : D
deriving DecidableEq

structure GeometricJumpContinuityState (D : Type) where
  lastReceived : Option (ExternalOdometryFrame D) := none
  lastGeneration : Nat := 0
  lastGenerationValid : Bool := false
  continuityTrusted : Bool := false
deriving DecidableEq

def unevaluated {D : Type} [FloatOps D] (reason : GeometricJumpContinuityReason) :
    GeometricJumpContinuityObservation D where
  evaluated := false
  jumped := false
  baselineReseeded := false
  sampleAdmissible := true
  reason := reason
  dtS := lit 0
  positionDeltaM := lit 0
  allowedPositionDeltaM := lit 0
  orientationDeltaRad := lit 0
  allowedOrientationDeltaRad := lit 0

section Continuity
variable {D : Type} [Floating D] [Narrowing D]

/-- The largest displacement that is expected in a time, in `long double`. -/
def displacementBound (margin rate dt : D) : Floating.LongDouble D :=
  Floating.widen margin + Floating.widen rate * Floating.widen dt

def GeometricJumpContinuityConfig.valid (config : GeometricJumpContinuityConfig D) : Bool :=
  let usable (value : D) : Bool := isFinite value && lit 0 ≤ value
  let positionBound := displacementBound config.positionJumpMarginM config.maximumExpectedSpeedMps
    config.maximumContinuityDtS
  let orientationBound := displacementBound config.orientationJumpMarginRad
    config.maximumExpectedAngularRateRadS config.maximumContinuityDtS
  let largest : Floating.LongDouble D := Floating.widen NumericLimits.double.max
  usable config.positionJumpMarginM && usable config.orientationJumpMarginRad &&
    usable config.maximumExpectedSpeedMps && usable config.maximumExpectedAngularRateRadS &&
    (isFinite config.minimumContinuityDtS && lit 0 < config.minimumContinuityDtS) &&
    (isFinite config.maximumContinuityDtS &&
      config.minimumContinuityDtS ≤ config.maximumContinuityDtS) &&
    (isFinite positionBound && positionBound ≤ largest) &&
    (isFinite orientationBound && orientationBound ≤ largest)

def continuityFrameValid (frame : ExternalOdometryFrame D) : Bool :=
  let quaternionSquaredNorm := frame.orientationNed.squaredNorm
  decide (0 < frame.timestampNs) && frame.positionNed.allFinite && frame.velocityNed.allFinite &&
    frame.angularVelocityBodyFrd.allFinite && frame.orientationNed.allFinite &&
    isFinite quaternionSquaredNorm &&
    (FloatOps.abs (quaternionSquaredNorm - lit 1) ≤ lit (1 / 10 ^ 6))

def reseed (current : ExternalOdometryFrame D) (generationValid : Bool) (generation : Nat)
    (reason : GeometricJumpContinuityReason) (continuityTrusted : Bool) :
    GeometricJumpContinuityObservation D × GeometricJumpContinuityState D :=
  ({ unevaluated reason with baselineReseeded := true },
    { lastReceived := some current
      lastGeneration := generation
      lastGenerationValid := generationValid
      continuityTrusted := continuityTrusted })

/-- The observation of a sample against a baseline that lies `dtNs` before it. -/
def evaluateContinuity (angularDistance : Quaternion D → Quaternion D → D)
    (current previous : ExternalOdometryFrame D) (generationValid : Bool) (generation : Nat)
    (config : GeometricJumpContinuityConfig D) (dtNs : Int)
    (state : GeometricJumpContinuityState D) :
    GeometricJumpContinuityObservation D × GeometricJumpContinuityState D :=
  let dtS : D := ofInt dtNs * lit (1 / 10 ^ 9)
  if dtS < config.minimumContinuityDtS then
    ({ unevaluated .dtTooSmall with sampleAdmissible := false, dtS := dtS }, state)
  else if config.maximumContinuityDtS < dtS then
    let reseeded := reseed current generationValid generation .dtTooLarge false
    ({ reseeded.1 with dtS := dtS }, reseeded.2)
  else
    let positionDeltaM := (current.positionNed - previous.positionNed).norm
    let orientationDeltaRad := angularDistance previous.orientationNed current.orientationNed
    let allowedPositionDeltaM := Narrowing.narrow
      (displacementBound config.positionJumpMarginM config.maximumExpectedSpeedMps dtS)
    let allowedOrientationDeltaRad := Narrowing.narrow
      (displacementBound config.orientationJumpMarginRad config.maximumExpectedAngularRateRadS dtS)
    if !isFinite allowedPositionDeltaM || !isFinite allowedOrientationDeltaRad then
      reseed current generationValid generation .thresholdOverflow false
    else
      let jumped := decide (allowedPositionDeltaM < positionDeltaM) ||
        decide (allowedOrientationDeltaRad < orientationDeltaRad)
      ({ evaluated := true
         jumped := jumped
         baselineReseeded := false
         sampleAdmissible := true
         reason := if jumped then .jumpDetected else .withinThreshold
         dtS := dtS
         positionDeltaM := positionDeltaM
         allowedPositionDeltaM := allowedPositionDeltaM
         orientationDeltaRad := orientationDeltaRad
         allowedOrientationDeltaRad := allowedOrientationDeltaRad },
        { lastReceived := some current
          lastGeneration := generation
          lastGenerationValid := generationValid
          continuityTrusted := true })

def observeGeometricJumpContinuity (angularDistance : Quaternion D → Quaternion D → D)
    (current : ExternalOdometryFrame D) (sourceValid generationValid : Bool) (generation : Nat)
    (config : GeometricJumpContinuityConfig D) (state : GeometricJumpContinuityState D) :
    GeometricJumpContinuityObservation D × GeometricJumpContinuityState D :=
  if !config.valid || !continuityFrameValid current then
    reseed current false generation .currentFrameInvalid false
  else if !sourceValid then reseed current generationValid generation .sourceInvalid false
  else if !generationValid || generation == 0 then
    reseed current generationValid generation .generationInvalid false
  else if !current.frameValid then
    reseed current generationValid generation .currentFrameInvalid false
  else
    match state.lastReceived with
    | none => reseed current generationValid generation .noBaseline true
    | some previous =>
      if !state.lastGenerationValid || !state.continuityTrusted then
        reseed current generationValid generation .noBaseline true
      else if !previous.frameValid || !continuityFrameValid previous then
        reseed current generationValid generation .previousFrameInvalid true
      else if state.lastGeneration ≠ generation then
        reseed current generationValid generation .generationChanged true
      else
        match checkedDifference current.timestampNs previous.timestampNs with
        | none => ({ unevaluated .timestampNotIncreasing with sampleAdmissible := false }, state)
        | some dtNs =>
          if dtNs ≤ 0 then
            ({ unevaluated .timestampNotIncreasing with sampleAdmissible := false }, state)
          else
            evaluateContinuity angularDistance current previous generationValid generation config
              dtNs state

end Continuity

structure ExternalOdometryGateInput where
  nodeReady : Bool
  transportReady : Bool
  timestampReady : Bool
  covarianceReady : Bool
  publicFrameGenerationValid : Bool
  lioValid : Bool
  lioFresh : Bool
  frameValid : Bool
  geometricContinuityTrusted : Bool
  geometricJumpLatched : Bool
  geometricSampleAdmissible : Bool
deriving DecidableEq

namespace ExternalOdometryGateInput

def publisherReady (input : ExternalOdometryGateInput) : Bool :=
  input.nodeReady && input.transportReady

def publicationReady (input : ExternalOdometryGateInput) : Bool :=
  input.publisherReady && input.timestampReady && input.covarianceReady && input.lioValid &&
    input.publicFrameGenerationValid && input.lioFresh && input.frameValid &&
    input.geometricContinuityTrusted && !input.geometricJumpLatched &&
    input.geometricSampleAdmissible

def reason (input : ExternalOdometryGateInput) : String :=
  if input.publicationReady then "READY"
  else if input.geometricJumpLatched then "GEOMETRIC_JUMP_LATCHED"
  else if !input.geometricSampleAdmissible then "GEOMETRIC_SAMPLE_NOT_ADMISSIBLE"
  else if !input.geometricContinuityTrusted then "GEOMETRIC_CONTINUITY_UNTRUSTED"
  else if !input.lioValid then "LIO_INVALID"
  else if !input.publicFrameGenerationValid then "PUBLIC_FRAME_GENERATION_INVALID"
  else if !input.timestampReady then "TIMESTAMP_INVALID"
  else if !input.covarianceReady then "COVARIANCE_INVALID"
  else if !input.lioFresh then "LIO_ODOMETRY_STALE"
  else if !input.frameValid then "FRAME_INVALID"
  else if !input.transportReady then "PX4_INPUT_TRANSPORT_NOT_READY"
  else "NODE_NOT_READY"

end ExternalOdometryGateInput

/-! ## The node -/

structure PropagatedLioOdometry (D : Type) where
  odometry : LioOdometry D
  localizationEpoch : Nat
  sequence : Nat

/-- `px4_msgs/VehicleOdometry` as the bridge fills it. -/
structure VehicleVisualOdometry (D : Type) where
  timestamp : Nat
  timestampSample : Nat
  poseFrame : PoseFrame := .ned
  velocityFrame : VelocityFrame := .ned
  position : Vec3 D
  q : Quaternion D
  velocity : Vec3 D
  angularVelocity : Vec3 D
  positionVariance : Vec3 D
  orientationVariance : Vec3 D
  velocityVariance : Vec3 D
  resetCounter : Nat
  quality : Int
deriving DecidableEq

/-- A converted sample whose values fit the single precision of PX4. -/
structure Px4Sample (D : Type) where
  frame : ExternalOdometryFrame D
  positionVariance : Vec3 D
  orientationVariance : Vec3 D
  velocityVariance : Vec3 D
deriving DecidableEq

/-- The check of the constructor: every bound is finite and positive. -/
def GeometricJumpContinuityConfig.accepted {D : Type} [FloatOps D]
    (config : GeometricJumpContinuityConfig D) : Bool :=
  let positive (value : D) : Bool := isFinite value && lit 0 < value
  positive config.positionJumpMarginM && positive config.orientationJumpMarginRad &&
    positive config.maximumExpectedSpeedMps && positive config.maximumExpectedAngularRateRadS &&
    positive config.minimumContinuityDtS &&
    (isFinite config.maximumContinuityDtS &&
      config.minimumContinuityDtS ≤ config.maximumContinuityDtS)

/-- The parameters of the node, as its constructor accepts them. -/
structure Px4ExternalOdometryBridgeNode (D : Type) [Floating D] where
  maxAgeNs : Int
  healthMaxAgeNs : Int
  timestampMappingMode : TimestampMappingMode
  jumpContinuityConfig : GeometricJumpContinuityConfig D
  toFloat : D → D
  angularDistance : Quaternion D → Quaternion D → D
  maxAgePositive : 0 < maxAgeNs
  healthMaxAgePositive : 0 < healthMaxAgeNs
  mappingResolved : timestampMappingMode ≠ .unresolved
  boundsAccepted : jumpContinuityConfig.accepted = true

structure BridgeState (D : Type) where
  lastReceived : Option (ExternalOdometryFrame D) := none
  jumpContinuityState : GeometricJumpContinuityState D := {}
  timestampConverter : TimestampConverter
  jumpLatch : GeometricJumpLatch := {}
  lioPublicFrameGeneration : Nat := 0
  lioPublicFrameGenerationValid : Bool := false
  highestReceivedLioEpoch : Nat := 0
  highestReceivedLioSequence : Nat := 0
  lastLioHealthNs : Int := 0
  lastLioHealthStampNs : Int := 0
  lioValid : Bool := false
  lioCovarianceValid : Bool := false
deriving DecidableEq

def kTransportTimestampMappingGeneration : Nat := 1

def castVector {D : Type} (toFloat : D → D) (v : Vec3 D) : Vec3 D :=
  ⟨toFloat v.x, toFloat v.y, toFloat v.z⟩

def castQuaternion {D : Type} (toFloat : D → D) (q : Quaternion D) : Quaternion D :=
  ⟨toFloat q.x, toFloat q.y, toFloat q.z, toFloat q.w⟩

namespace BridgeState
variable {D : Type}

def untrusted (s : BridgeState D) : BridgeState D :=
  { s with jumpContinuityState := { s.jumpContinuityState with continuityTrusted := false } }

def lioHealthFresh (s : BridgeState D) (healthMaxAgeNs nowNs : Int) : Bool :=
  if s.lastLioHealthNs ≤ 0 ∨ nowNs ≤ 0 then false
  else
    match checkedDifference nowNs s.lastLioHealthNs with
    | none => false
    | some age => 0 ≤ age && age ≤ healthMaxAgeNs

def publicGeneration (s : BridgeState D) : Nat :=
  if s.lioPublicFrameGenerationValid then s.lioPublicFrameGeneration else 0

/-- The identity of a sample is taken before anything else is looked at. A new epoch is
the boundary of a reset. -/
def received (s : BridgeState D) (localizationEpoch sequence : Nat) : BridgeState D :=
  let epochChanged := s.highestReceivedLioEpoch ≠ 0 && localizationEpoch ≠ s.highestReceivedLioEpoch
  let marked := { s with
    highestReceivedLioEpoch := localizationEpoch
    highestReceivedLioSequence := sequence }
  if epochChanged then
    { marked with
      lastReceived := none
      jumpContinuityState := {}
      jumpLatch := (marked.jumpLatch.observePublicFrameGeneration true localizationEpoch).1 }
  else marked

def heard (s : BridgeState D) (health : ExternalLioHealthSnapshot) : BridgeState D :=
  let observed := s.jumpLatch.observePublicFrameGeneration health.publicFrameGenerationValid
    health.publicFrameGeneration
  let reopened := if observed.2 then s.untrusted else s
  { reopened with
    lastLioHealthStampNs := health.sourceStampNs
    jumpLatch := observed.1
    lioPublicFrameGeneration := health.publicFrameGeneration
    lioPublicFrameGenerationValid := health.publicFrameGenerationValid
    lioValid := health.lioValid
    lioCovarianceValid := health.covarianceValid
    lastLioHealthNs := health.sourceStampNs }

end BridgeState

namespace Px4ExternalOdometryBridgeNode
variable {D : Type} [Floating D]

def initial (b : Px4ExternalOdometryBridgeNode D) : BridgeState D where
  timestampConverter := { maximumAgeNs := b.maxAgeNs }

def fitsPx4Float (b : Px4ExternalOdometryBridgeNode D) (frame : ExternalOdometryFrame D) : Bool :=
  (castVector b.toFloat frame.positionNed).allFinite &&
    (castQuaternion b.toFloat frame.orientationNed).allFinite &&
    (castVector b.toFloat frame.velocityNed).allFinite &&
    (castVector b.toFloat frame.angularVelocityBodyFrd).allFinite

def positiveVarianceToPx4Float (b : Px4ExternalOdometryBridgeNode D) (value : D) : Option D :=
  if !validVariance value then none
  else
    let converted := b.toFloat value
    if !isFinite converted || converted ≤ lit 0 then none else some converted

def positiveVariancesToPx4Float (b : Px4ExternalOdometryBridgeNode D) (values : Vec3 D) :
    Option (Vec3 D) := do
  let x ← b.positiveVarianceToPx4Float values.x
  let y ← b.positiveVarianceToPx4Float values.y
  let z ← b.positiveVarianceToPx4Float values.z
  return ⟨x, y, z⟩

def px4Sample [SelfAdjointEigenSolver D] (b : Px4ExternalOdometryBridgeNode D)
    (odometry : LioOdometry D) : Except String (Px4Sample D) :=
  match convertRosLioOdometry odometry with
  | none => .error "EXTERNAL_ODOMETRY_CONVERSION_REJECTED"
  | some frame =>
    if !b.fitsPx4Float frame then .error "EXTERNAL_ODOMETRY_NOT_FLOAT_REPRESENTABLE"
    else
      match b.positiveVariancesToPx4Float frame.positionVariance,
        b.positiveVariancesToPx4Float frame.orientationVariance,
        b.positiveVariancesToPx4Float frame.velocityVariance with
      | some positionVariance, some orientationVariance, some velocityVariance =>
        .ok ⟨frame, positionVariance, orientationVariance, velocityVariance⟩
      | _, _, _ => .error "COVARIANCE_NOT_FLOAT_REPRESENTABLE"

structure Observation (D : Type) where
  timestamps : TimestampConversionResult
  geometric : GeometricJumpContinuityObservation D
  after : BridgeState D

def observe [Narrowing D] (b : Px4ExternalOdometryBridgeNode D) (s : BridgeState D)
    (frame : ExternalOdometryFrame D) (nowNs : Int) : Observation D :=
  let times := s.timestampConverter.convert frame.timestampNs nowNs b.timestampMappingMode
    kTransportTimestampMappingGeneration
  let generationValid := s.lioPublicFrameGenerationValid && decide (0 < s.publicGeneration)
  let geometric := observeGeometricJumpContinuity b.angularDistance frame
    (s.lioValid && frame.frameValid && s.lioPublicFrameGenerationValid &&
      decide (0 < s.publicGeneration))
    generationValid s.publicGeneration b.jumpContinuityConfig
    { s.jumpContinuityState with lastReceived := s.lastReceived }
  { timestamps := times.2
    geometric := geometric.1
    after := { s with
      timestampConverter := times.1
      jumpContinuityState := geometric.2
      lastReceived := geometric.2.lastReceived
      jumpLatch := s.jumpLatch.observeGeometricJump geometric.1.jumped } }

def gateInput (b : Px4ExternalOdometryBridgeNode D) (observation : Observation D)
    (frame : ExternalOdometryFrame D) (nowNs : Int) (subscriptions : Nat) :
    ExternalOdometryGateInput :=
  let s := observation.after
  { nodeReady := true -- set at the end of the constructor, before any call
    transportReady := decide (0 < subscriptions)
    timestampReady := observation.timestamps.valid
    covarianceReady := frame.covarianceValid && s.lioCovarianceValid
    publicFrameGenerationValid :=
      s.lioPublicFrameGenerationValid && decide (0 < s.publicGeneration)
    lioValid := s.lioValid
    lioFresh := s.lioHealthFresh b.healthMaxAgeNs nowNs
    frameValid := frame.frameValid
    geometricContinuityTrusted := s.jumpContinuityState.continuityTrusted
    geometricJumpLatched := s.jumpLatch.latched
    geometricSampleAdmissible := observation.geometric.sampleAdmissible }

def vehicleOdometry (b : Px4ExternalOdometryBridgeNode D) (observation : Observation D)
    (sample : Px4Sample D) : VehicleVisualOdometry D where
  timestamp := observation.timestamps.publicationTimeUs
  timestampSample := observation.timestamps.measurementTimeUs
  position := castVector b.toFloat sample.frame.positionNed
  q := castQuaternion b.toFloat sample.frame.orientationNed
  velocity := castVector b.toFloat sample.frame.velocityNed
  angularVelocity := castVector b.toFloat sample.frame.angularVelocityBodyFrd
  positionVariance := sample.positionVariance
  orientationVariance := sample.orientationVariance
  velocityVariance := sample.velocityVariance
  resetCounter := publicFrameGenerationToResetCounter observation.after.publicGeneration
  quality := if observation.after.lioValid then 100 else 50

def onLioHealth (s : BridgeState D) (message : EstimatorHealth) : BridgeState D :=
  match externalLioHealthSnapshot message with
  | none => s
  | some health => if health.sourceStampNs ≤ s.lastLioHealthStampNs then s else s.heard health

variable [Narrowing D] [SelfAdjointEigenSolver D]

def onLio (b : Px4ExternalOdometryBridgeNode D) (s : BridgeState D)
    (message : PropagatedLioOdometry D) (nowNs : Int) (subscriptions : Nat) :
    BridgeState D × Except String (VehicleVisualOdometry D) :=
  if !strictlyNewerSourceIdentity s.highestReceivedLioEpoch s.highestReceivedLioSequence
      message.localizationEpoch message.sequence then
    (s, .error "PROPAGATED_STATE_IDENTITY_REJECTED")
  else
    let marked := s.received message.localizationEpoch message.sequence
    match b.px4Sample message.odometry with
    | .error reason => (marked.untrusted, .error reason)
    | .ok sample =>
      let observation := b.observe marked sample.frame nowNs
      let input := b.gateInput observation sample.frame nowNs subscriptions
      if input.publicationReady then (observation.after, .ok (b.vehicleOdometry observation sample))
      else (observation.after, .error input.reason)

inductive BridgeMessage (D : Type) where
  | lio (message : PropagatedLioOdometry D) (nowNs : Int) (subscriptions : Nat)
  | lioHealth (message : EstimatorHealth)

def BridgeMessage.sample : BridgeMessage D → Option (PropagatedLioOdometry D)
  | .lio message _ _ => some message
  | .lioHealth _ => none

def step (b : Px4ExternalOdometryBridgeNode D) (s : BridgeState D) :
    BridgeMessage D → BridgeState D × Option (VehicleVisualOdometry D)
  | .lio message nowNs subscriptions =>
    let outcome := b.onLio s message nowNs subscriptions
    (outcome.1, outcome.2.toOption)
  | .lioHealth message => (onLioHealth s message, none)

end Px4ExternalOdometryBridgeNode

end UavNavigation.ExternalOdometry
