import UavNavigation.FrameConverter
import UavNavigation.VelocityContinuity

/-!
# Tracking envelope and setpoint adapter

`tracking_envelope.hpp`, `tracking_experiment.hpp`, `local_frame_alignment.hpp` and
`px4_tracking_adapter.hpp`.
-/

namespace UavNavigation

set_option autoImplicit false

open FloatOps

/-- `cmath`, the conversion to `float` and the two yaw conversions of `px4_ros2`. -/
class MathLibrary (D : Type) extends Trigonometry D where
  hypot : D → D → D
  atan2 : D → D → D
  remainder : D → D → D
  pi : D
  floatMax : D
  toFloat : D → D
  yawEnuToNed : D → D
  yawRateEnuToNed : D → D

namespace NavigationMode

section Policy
variable {D : Type}

structure TrackingExperimentPolicy (D : Type) where
  enabled : Bool
  suppressBraking : Bool
  suppressEstimatorHealthResponse : Bool
  baseM : D
  lateralAlphaS : D
  longitudinalBetaS : D
  velocityOnlyEnabled : Bool
  velocityOnlyGainSInv : D
  velocityOnlyCapMps : D
  velocityOnlyMaxAccelerationMps2 : D
  velocityOnlyMaxJerkMps3 : D
  velocityOnlyMaxTimingBoundS : D
  velocityOnlyMaxReferenceAgeS : D
  velocityOnlyOutputTransportBoundS : D
  velocityOnlyPx4ConsumeBoundS : D
deriving DecidableEq

variable [FloatOps D]

def validNonNegative (value : D) : Bool := isFinite value && lit 0 ≤ value

def validPositive (value : D) : Bool := isFinite value && lit 0 < value

def TrackingExperimentPolicy.valid (p : TrackingExperimentPolicy D) : Bool :=
  validNonNegative p.baseM && validNonNegative p.lateralAlphaS &&
    validNonNegative p.longitudinalBetaS && (!p.suppressBraking || p.enabled) &&
    (!p.suppressEstimatorHealthResponse || p.enabled) &&
    (!p.velocityOnlyEnabled ||
      (validPositive p.velocityOnlyGainSInv && validPositive p.velocityOnlyCapMps &&
        validPositive p.velocityOnlyMaxAccelerationMps2 &&
        validPositive p.velocityOnlyMaxJerkMps3 && validPositive p.velocityOnlyMaxTimingBoundS &&
        validPositive p.velocityOnlyMaxReferenceAgeS &&
        validNonNegative p.velocityOnlyOutputTransportBoundS &&
        validNonNegative p.velocityOnlyPx4ConsumeBoundS))

end Policy

/-! ## The envelope around a command -/

section Envelope
variable {D : Type} [FloatOps D] [MathLibrary D]

/-- `stableVectorNorm` and `trackingVectorNorm`. -/
def stableVectorNorm (v : Vec3 D) : D := MathLibrary.hypot (MathLibrary.hypot v.x v.y) v.z

structure TrackingEnvelopeResult (D : Type) where
  supportValid : Bool
  valid : Bool
  longitudinalErrorM : D
  reverseErrorM : D
  lateralErrorM : D
  longitudinalLimitM : D
  reverseLimitM : D
  lateralLimitM : D
deriving DecidableEq

def TrackingEnvelopeResult.unsupported : TrackingEnvelopeResult D :=
  ⟨false, false, lit 0, lit 0, lit 0, lit 0, lit 0, lit 0⟩

def evaluateMovingEnvelope (error commandVelocity : Vec3 D) (speed geometricLimitM phaseWindowS : D)
    (result : TrackingEnvelopeResult D) : TrackingEnvelopeResult D :=
  let longitudinalLimitM := result.longitudinalLimitM + speed * phaseWindowS
  let result := { result with longitudinalLimitM, reverseLimitM := longitudinalLimitM }
  if !isFinite longitudinalLimitM then result
  else
    let tangent := commandVelocity.divide speed
    let signed := error.dot tangent
    if !isFinite signed then result
    else
      let result :=
        { result with
          longitudinalErrorM := max (lit 0) signed
          lateralErrorM := stableVectorNorm (error - Vec3.scale signed tangent)
          reverseErrorM := max (lit 0) (-signed) }
      if !isFinite result.lateralErrorM || !isFinite result.reverseErrorM then result
      else
        { result with
          supportValid := true
          valid := result.longitudinalErrorM ≤ result.longitudinalLimitM &&
            result.reverseErrorM ≤ result.reverseLimitM && result.lateralErrorM ≤ geometricLimitM }

def evaluateTrackingEnvelope (measuredPosition commandPosition commandVelocity : Vec3 D)
    (geometricLimitM phaseWindowS : D) : TrackingEnvelopeResult D :=
  let error := commandPosition - measuredPosition
  let speed := stableVectorNorm commandVelocity
  if !measuredPosition.allFinite || !commandPosition.allFinite || !commandVelocity.allFinite ||
      !isFinite geometricLimitM || geometricLimitM ≤ lit 0 || !isFinite phaseWindowS ||
      phaseWindowS < lit 0 then .unsupported
  else if !error.allFinite || !isFinite speed then .unsupported
  else
    let result : TrackingEnvelopeResult D :=
      ⟨false, false, lit 0, lit 0, lit 0, geometricLimitM, geometricLimitM, geometricLimitM⟩
    if speed ≤ lit (1 / 10 ^ 3) then
      let result := { result with longitudinalErrorM := stableVectorNorm error }
      if !isFinite result.longitudinalErrorM then result
      else
        { result with
          supportValid := true
          valid := result.longitudinalErrorM ≤ geometricLimitM }
    else evaluateMovingEnvelope error commandVelocity speed geometricLimitM phaseWindowS result

structure AdaptiveTrackingAssessment where
  valid : Bool
  withinLimits : Bool
deriving DecidableEq

def assessAdaptiveTracking (policy : TrackingExperimentPolicy D)
    (measuredPosition measuredVelocity referencePosition referenceVelocity : Vec3 D) :
    AdaptiveTrackingAssessment :=
  let error := measuredPosition - referencePosition
  let measuredSpeed := stableVectorNorm measuredVelocity
  let referenceSpeed := stableVectorNorm referenceVelocity
  let speed := max measuredSpeed referenceSpeed
  let lateralLimitM := policy.baseM + policy.lateralAlphaS * speed
  let longitudinalLimitM := policy.baseM + policy.longitudinalBetaS * speed
  if !policy.valid || !measuredPosition.allFinite || !measuredVelocity.allFinite ||
      !referencePosition.allFinite || !referenceVelocity.allFinite then ⟨false, false⟩
  else if !error.allFinite || !isFinite speed || !isFinite lateralLimitM ||
      !isFinite longitudinalLimitM then ⟨false, false⟩
  else
    let tangent :=
      if lit (1 / 10 ^ 6) < referenceSpeed then referenceVelocity.divide referenceSpeed
      else measuredVelocity.divide measuredSpeed
    let along := error.dot tangent
    let resting := speed ≤ lit (1 / 10 ^ 6)
    let lateralErrorM :=
      if resting then stableVectorNorm error
      else stableVectorNorm (error - Vec3.scale along tangent)
    let longitudinalErrorM := if resting then lateralErrorM else abs along
    let valid := isFinite lateralErrorM && isFinite longitudinalErrorM
    ⟨valid, valid && lateralErrorM ≤ lateralLimitM && longitudinalErrorM ≤ longitudinalLimitM⟩

def experimentPermitsTracking (p : TrackingExperimentPolicy D) (r : AdaptiveTrackingAssessment) :
    Bool :=
  p.enabled && r.valid && (r.withinLimits || p.suppressBraking)

def isNormalizableOdometryQuaternion (q : Quaternion D) : Bool :=
  q.allFinite && isFinite q.squaredNorm && lit (1 / 10 ^ 12) < q.squaredNorm

def floatRepresentable (value : D) : Bool :=
  isFinite value && abs value ≤ MathLibrary.floatMax

def castToFloat (v : Vec3 D) : Option (Vec3 D) :=
  if v.allFinite && abs v.x ≤ MathLibrary.floatMax && abs v.y ≤ MathLibrary.floatMax &&
      abs v.z ≤ MathLibrary.floatMax then
    some ⟨MathLibrary.toFloat v.x, MathLibrary.toFloat v.y, MathLibrary.toFloat v.z⟩
  else none

def enuToNed (v : Vec3 D) : Vec3 D := cEnuNed.apply v

def checkedEnuToNed (v : Vec3 D) : Option (Vec3 D) :=
  if !v.allFinite then none else castToFloat (enuToNed v)

def localNedTranslationFromStationaryPair (lioPositionEnu px4PositionNed : Vec3 D) :
    Option (Vec3 D) :=
  if !lioPositionEnu.allFinite || !px4PositionNed.allFinite then none
  else
    let translation := px4PositionNed - enuToNed lioPositionEnu
    if !translation.allFinite then none else some translation

def lioPositionToLocalNed (lioPositionEnu translationNed : Vec3 D) : Option (Vec3 D) :=
  if !lioPositionEnu.allFinite || !translationNed.allFinite then none
  else
    let positionNed := enuToNed lioPositionEnu + translationNed
    if !positionNed.allFinite then none else some positionNed

def yawOf (q : Quaternion D) : D :=
  MathLibrary.atan2 (lit 2 * (q.w * q.z + q.x * q.y)) (lit 1 - lit 2 * (q.y * q.y + q.z * q.z))

end Envelope

/-! ## The adapter -/

namespace Adapter

inductive Mode where
  | off
  | shadow
  | levelA
deriving DecidableEq

inductive SetpointBoundary where
  | positionVelocityAcceleration
  | velocityOnly
deriving DecidableEq

inductive FailureReason where
  | none
  | policyDisabled
  | invalidPolicy
  | invalidReference
  | invalidLioState
  | invalidPx4State
  | invalidTiming
  | resetMismatch
  | relativeHeadingInvalid
  | deadReckoning
  | nonFiniteOutput
deriving DecidableEq

/-- The reference frame is always that of the localization. -/
structure Identity where
  localizationEpoch : Nat
  missionId : String
  waypointIndex : Nat
  goalEpoch : Nat
  requestId : Nat
  bundleGeneration : Nat
  sampleId : Nat
  role : VelocityOnly.Role
  referenceSampleTimeNs : Int
  leaseValidUntilNs : Int
deriving DecidableEq

structure Reference (D : Type) where
  identity : Identity
  positionEnu : Vec3 D
  velocityEnu : Vec3 D
  accelerationEnu : Vec3 D
  yawEnu : D
  yawRateEnuRadS : D
deriving DecidableEq

structure LioState (D : Type) where
  positionEnu : Vec3 D
  velocityEnu : Vec3 D
  yawEnu : D
  positionValid : Bool
  velocityValid : Bool
  orientationValid : Bool
  navigationValid : Bool
  covarianceValid : Bool
  observabilityValid : Bool
  correctionFresh : Bool
  propagationValid : Bool
  relativeHeadingValid : Bool
  tiltValid : Bool
  extrinsicValid : Bool
  localizationEpoch : Nat
  sequence : Nat
  sourceStampNs : Int
  receiveSteadyNs : Int
deriving DecidableEq

structure ResetCounters where
  xy : Nat := 0
  z : Nat := 0
  vxy : Nat := 0
  vz : Nat := 0
  heading : Nat := 0
deriving DecidableEq

/-- The validity flags of the first two axes are one flag in the message. -/
structure RawPx4State (D : Type) where
  positionNed : Vec3 D
  velocityNed : Vec3 D
  yawNed : D
  xyValid : Bool
  zValid : Bool
  vxyValid : Bool
  vzValid : Bool
  headingValid : Bool
  headingGoodForControl : Bool
  deadReckoning : Bool
  headingVarianceRad2 : D
  timestampUs : Nat
  timestampSampleUs : Nat
  receiveSteadyNs : Int
  resetCounters : ResetCounters
deriving DecidableEq

structure TimingWitness (D : Type) where
  referenceSampleId : Nat
  lioLocalizationEpoch : Nat
  lioSequence : Nat
  px4TimestampUs : Nat
  px4TimestampSampleUs : Nat
  clockMappingGeneration : Nat
  conservativeBoundModel : Nat
  commonTimeContractValid : Bool
  clockMappingUncertaintyS : D
  expectedReferenceUseTimeNs : Int
  referenceAgeS : D
  pairSkewS : D
  lioSourceAgeS : D
  lioReceiveAgeS : D
  px4SourceAgeS : D
  px4ReceiveAgeS : D
  predictedAnchorAgeS : D
  outputTransportAgeS : D
  px4ConsumeAgeS : D
  totalBoundS : D
deriving DecidableEq

structure Policy (D : Type) where
  mode : Mode
  boundary : SetpointBoundary
  experimentId : String
  velocityLambda : D
  lioPositionFeedbackGainSInv : D
  maximumVelocityMps : Option D
  maximumTimingBoundS : Option D
  maximumReferenceAgeS : Option D
  expectedPx4ResetCounters : Option ResetCounters
  expectedLioLocalizationEpoch : Option Nat
  rejectDeadReckoning : Bool
deriving DecidableEq

/-- The rotation and the velocity of the witness, with the reference that was adapted. -/
structure AdaptedReference (D : Type) where
  positionNed : Vec3 D
  velocityNed : Vec3 D
  accelerationNed : Vec3 D
  yawNed : D
  yawRateNedRadS : D
  rotationLioEnuToPx4Ned : Matrix3 D
  velocityCommandLioEnu : Vec3 D
  velocityLimited : Bool
deriving DecidableEq

def validIdentity (identity : Identity) : Bool :=
  0 < identity.localizationEpoch && !identity.missionId.isEmpty && 0 < identity.goalEpoch &&
    0 < identity.requestId && 0 < identity.bundleGeneration && 0 < identity.sampleId &&
    0 < identity.referenceSampleTimeNs &&
    identity.referenceSampleTimeNs ≤ identity.leaseValidUntilNs

section Adapt
variable {D : Type} [FloatOps D] [MathLibrary D]

def wrapPi (angle : D) : D :=
  if !isFinite angle then nan else MathLibrary.remainder angle (lit 2 * MathLibrary.pi)

def validTiming (t : TimingWitness D) : Bool :=
  0 < t.referenceSampleId && 0 < t.lioLocalizationEpoch && 0 < t.lioSequence &&
    0 < t.px4TimestampUs && 0 < t.px4TimestampSampleUs && 0 < t.clockMappingGeneration &&
    t.conservativeBoundModel == 1 && t.commonTimeContractValid &&
    0 < t.expectedReferenceUseTimeNs && validNonNegative t.clockMappingUncertaintyS &&
    validNonNegative t.referenceAgeS && validNonNegative t.pairSkewS &&
    validNonNegative t.lioSourceAgeS && validNonNegative t.lioReceiveAgeS &&
    validNonNegative t.px4SourceAgeS && validNonNegative t.px4ReceiveAgeS &&
    validNonNegative t.predictedAnchorAgeS && validNonNegative t.outputTransportAgeS &&
    validNonNegative t.px4ConsumeAgeS && validNonNegative t.totalBoundS

def validTimingSnapshotTuple (t : TimingWitness D) (reference : Reference D) (lio : LioState D)
    (rawPx4 : RawPx4State D) : Bool :=
  t.referenceSampleId == reference.identity.sampleId &&
    t.lioLocalizationEpoch == lio.localizationEpoch && t.lioSequence == lio.sequence &&
    t.px4TimestampUs == rawPx4.timestampUs && t.px4TimestampSampleUs == rawPx4.timestampSampleUs

def referenceAgeMatchesSampleAndEvaluation (t : TimingWitness D) (reference : Reference D) : Bool :=
  if t.expectedReferenceUseTimeNs < reference.identity.referenceSampleTimeNs then false
  else
    let computedAgeS : D :=
      ofInt (t.expectedReferenceUseTimeNs - reference.identity.referenceSampleTimeNs) *
        lit (1 / 10 ^ 9)
    isFinite computedAgeS && abs (computedAgeS - t.referenceAgeS) ≤ lit (1 / 10 ^ 9)

/-- `std::max` over the ages that overlap, from the left. -/
def overlappingAge (t : TimingWitness D) : D :=
  max (max (max (max (max (max t.referenceAgeS t.pairSkewS) t.lioSourceAgeS) t.lioReceiveAgeS)
    t.px4SourceAgeS) t.px4ReceiveAgeS) t.predictedAnchorAgeS

def conservativeTimingBoundV1 (t : TimingWitness D) : D :=
  t.clockMappingUncertaintyS + overlappingAge t + t.outputTransportAgeS + t.px4ConsumeAgeS

def yawRotation (yaw : D) : Matrix3 D :=
  let c := Trigonometry.cos yaw
  let s := Trigonometry.sin yaw
  ⟨⟨c, -s, lit 0⟩, ⟨s, c, lit 0⟩, ⟨lit 0, lit 0, lit 1⟩⟩

def validBoundary (p : Policy D) : Bool :=
  match p.boundary with
  | .velocityOnly =>
    validPositive p.lioPositionFeedbackGainSInv && p.maximumVelocityMps.any validPositive
  | .positionVelocityAcceleration =>
    isFinite p.lioPositionFeedbackGainSInv && equal p.lioPositionFeedbackGainSInv (lit 0) &&
      p.maximumVelocityMps.all validPositive

def validPolicy (p : Policy D) : Bool :=
  (p.mode == .shadow || p.mode == .levelA) && !p.experimentId.isEmpty &&
    isFinite p.velocityLambda && abs p.velocityLambda ≤ lit (1 / 10 ^ 12) && validBoundary p &&
    p.maximumTimingBoundS.all validNonNegative && p.maximumReferenceAgeS.all validNonNegative &&
    (p.mode != .levelA || (p.maximumTimingBoundS.isSome && p.maximumReferenceAgeS.isSome &&
        p.expectedPx4ResetCounters.isSome))

def validReference (r : Reference D) : Bool :=
  validIdentity r.identity && r.positionEnu.allFinite && r.velocityEnu.allFinite &&
    r.accelerationEnu.allFinite && isFinite r.yawEnu && isFinite r.yawRateEnuRadS

def validLioState (lio : LioState D) (reference : Reference D) (p : Policy D) : Bool :=
  lio.positionEnu.allFinite && lio.velocityEnu.allFinite && isFinite lio.yawEnu &&
    lio.positionValid && lio.velocityValid && lio.orientationValid && lio.navigationValid &&
    lio.covarianceValid && lio.observabilityValid && lio.correctionFresh && lio.propagationValid &&
    lio.localizationEpoch != 0 && lio.sequence != 0 && 0 < lio.sourceStampNs &&
    0 < lio.receiveSteadyNs && lio.localizationEpoch == reference.identity.localizationEpoch &&
    p.expectedLioLocalizationEpoch.all (lio.localizationEpoch == ·)

def validPx4State (raw : RawPx4State D) (p : Policy D) : Bool :=
  (p.boundary != .positionVelocityAcceleration ||
      (raw.positionNed.allFinite && raw.xyValid && raw.zValid)) &&
    raw.velocityNed.allFinite && isFinite raw.yawNed && raw.vxyValid && raw.vzValid &&
    raw.headingValid && raw.headingGoodForControl && isFinite raw.headingVarianceRad2 &&
    !(raw.headingVarianceRad2 < lit 0) && raw.timestampUs != 0 && raw.timestampSampleUs != 0 &&
    0 < raw.receiveSteadyNs

def checkInputs (reference : Reference D) (lio : LioState D) (raw : RawPx4State D)
    (t : TimingWitness D) (p : Policy D) : FailureReason :=
  if p.mode == .off then .policyDisabled
  else if !validPolicy p then .invalidPolicy
  else if !validReference reference then .invalidReference
  else if !validLioState lio reference p then .invalidLioState
  else if !validPx4State raw p then .invalidPx4State
  else if p.rejectDeadReckoning && raw.deadReckoning then .deadReckoning
  else if !lio.relativeHeadingValid || !lio.tiltValid || !lio.extrinsicValid then
    .relativeHeadingInvalid
  else if !validTiming t then .invalidTiming
  else if !validTimingSnapshotTuple t reference lio raw ||
      !referenceAgeMatchesSampleAndEvaluation t reference ||
      t.totalBoundS + lit (1 / 10 ^ 12) < conservativeTimingBoundV1 t then .invalidTiming
  else if p.maximumReferenceAgeS.any (· < t.referenceAgeS) then .invalidTiming
  else if p.maximumTimingBoundS.any (· < t.totalBoundS) then .invalidTiming
  else if p.expectedPx4ResetCounters.any (raw.resetCounters != ·) then .resetMismatch
  else if reference.identity.leaseValidUntilNs < t.expectedReferenceUseTimeNs then .invalidReference
  else if raw.timestampUs < raw.timestampSampleUs then .invalidPx4State
  else .none

def cappedVelocity (velocity : Vec3 D) (maximumVelocityMps : Option D) : Vec3 D × Bool :=
  match maximumVelocityMps with
  | none => (velocity, false)
  | some cap =>
    if cap < velocity.norm then (Vec3.scale (cap / velocity.norm) velocity, true)
    else (velocity, false)

def transformReference (reference : Reference D) (lio : LioState D) (raw : RawPx4State D)
    (p : Policy D) : Option (AdaptedReference D) :=
  let px4YawEnu := wrapPi (MathLibrary.pi / lit 2 - raw.yawNed)
  let delta := wrapPi (px4YawEnu - lio.yawEnu)
  let rotation := (cEnuNed : Matrix3 D).mul (yawRotation delta)
  let errorLio := reference.positionEnu - lio.positionEnu
  let withFeedback :=
    reference.velocityEnu + Vec3.scale p.lioPositionFeedbackGainSInv errorLio
  let velocityOnly := p.boundary == .velocityOnly
  if velocityOnly && !isFinite withFeedback.norm then none
  else
    let command :=
      if velocityOnly then cappedVelocity withFeedback p.maximumVelocityMps
      else (reference.velocityEnu, false)
    let adapted : AdaptedReference D :=
      { positionNed :=
          if velocityOnly then ⟨nan, nan, nan⟩ else raw.positionNed + rotation.apply errorLio
        velocityNed := rotation.apply command.1
        accelerationNed :=
          if velocityOnly then ⟨nan, nan, nan⟩ else rotation.apply reference.accelerationEnu
        yawNed := wrapPi (raw.yawNed - wrapPi (reference.yawEnu - lio.yawEnu))
        yawRateNedRadS := -reference.yawRateEnuRadS
        rotationLioEnuToPx4Ned := rotation
        velocityCommandLioEnu := command.1
        velocityLimited := command.2 }
    if (!velocityOnly && (!adapted.positionNed.allFinite || !adapted.accelerationNed.allFinite)) ||
        !adapted.velocityNed.allFinite || !isFinite adapted.yawNed ||
        !isFinite adapted.yawRateNedRadS then none
    else some adapted

def adapt (reference : Reference D) (lio : LioState D) (raw : RawPx4State D)
    (t : TimingWitness D) (p : Policy D) : Except FailureReason (AdaptedReference D) :=
  match checkInputs reference lio raw t p with
  | .none =>
    match transformReference reference lio raw p with
    | some adapted => .ok adapted
    | none => .error .nonFiniteOutput
  | failure => .error failure

end Adapt

end Adapter

/-- The mathematical functions with the sines at zero, and the angle of the positive
first axis, alone. -/
@[reducible] def mathLibraryAtZero : MathLibrary (ExactReal ℚ) where
  cos angle := if angle = .finite 0 then .finite 1 else .nonFinite
  sin angle := if angle = .finite 0 then .finite 0 else .nonFinite
  hypot x y := sqrt (x * x + y * y)
  atan2 y x := if y = .finite 0 ∧ .finite 0 < x then .finite 0 else .nonFinite
  remainder x y := x - y * round (x / y)
  pi := .finite (884279719003555 / 2 ^ 48)
  floatMax := .finite ((2 ^ 24 - 1) * 2 ^ 104)
  toFloat x := x
  yawEnuToNed yaw := .finite (884279719003555 / 2 ^ 49) - yaw
  yawRateEnuToNed rate := -rate

end NavigationMode

end UavNavigation
