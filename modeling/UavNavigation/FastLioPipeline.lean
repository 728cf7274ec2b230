import UavNavigation.MeasurementBuffer

/-!
# The pipeline of the estimator

The pipeline with its parts: the initializer, the local map, the lifecycle, and the
calls that push inputs and process a group. The estimator may start from a prior of
its pose and velocity, from the configuration or from a topic. A prior from a topic
waits in a mailbox until the sensor time reaches it, and is dropped when it is too
old by then.
-/

namespace UavNavigation.FastLio

set_option autoImplicit false

inductive InitialStatePriorSource where
  | zero
  | fixed
  | topic
deriving DecidableEq

inductive InitialStatePriorContext where
  | groundStartup
  | inFlightReinitialization
deriving DecidableEq

inductive PriorAttitudeMode where
  | none
  | yawOnly
  | full
deriving DecidableEq

inductive InitialPriorFallback where
  | reject
  | zero
  | fixed
deriving DecidableEq

inductive InitialPriorStatus where
  | notRequired
  | waiting
  | candidateAvailable
  | applied
  | fallbackApplied
  | rejected
  | closed
deriving DecidableEq

structure InitialStatePriorMask where
  position : Bool := false
  velocity : Bool := false
  attitude : PriorAttitudeMode := .none
deriving DecidableEq

def lioOdomFrame : String := "lio_odom"

def baseFrame : String := "base_link"

variable {D C : Type} [FloatOps D]

structure InitialStatePrior (D C : Type) [FloatOps D] where
  sampleTime : Timestamp := {}
  referenceFrame : String := lioOdomFrame
  bodyFrame : String := baseFrame
  source : InitialStatePriorSource := .zero
  context : InitialStatePriorContext := .groundStartup
  mask : InitialStatePriorMask := {}
  positionOdomBaseM : Vec3 D := Vec3.zero
  orientationOdomBase : Quaternion D := Quaternion.identity
  linearVelocityBaseMS : Option (Vec3 D) := none
  angularVelocityBaseRadS : Option (Vec3 D) := none
  covariance : Option C := none
  generation : Nat := 0
deriving DecidableEq

def InitialStatePrior.allFinite (covarianceFinite : C → Bool) (prior : InitialStatePrior D C) :
    Bool :=
  let orientationSquaredNorm := prior.orientationOdomBase.squaredNorm
  prior.positionOdomBaseM.allFinite && prior.orientationOdomBase.allFinite &&
    FloatOps.isFinite orientationSquaredNorm &&
    decide (FloatOps.abs (orientationSquaredNorm - FloatOps.lit 1) ≤ FloatOps.lit (1 / 10 ^ 6)) &&
    prior.linearVelocityBaseMS.all Vec3.allFinite &&
    prior.angularVelocityBaseRadS.all Vec3.allFinite && prior.covariance.all covarianceFinite

structure InitialStatePriorPolicy (D C : Type) [FloatOps D] where
  source : InitialStatePriorSource := .zero
  context : InitialStatePriorContext := .groundStartup
  mask : InitialStatePriorMask := ⟨true, true, .yawOnly⟩
  topicWaitTimeoutNs : Int := 2000000000
  maximumTopicPriorAgeNs : Int := 500000000
  groundFallback : InitialPriorFallback := .zero
  maximumFullAttitudeTiltDisagreementRad : D := FloatOps.lit 0.17453292519943295
  fixedPrior : InitialStatePrior D C := {}
deriving DecidableEq

/-- `validate`: what is wrong with the policy. -/
def InitialStatePriorPolicy.fault (covarianceFinite : C → Bool)
    (policy : InitialStatePriorPolicy D C) : Option Status :=
  let tilt := policy.maximumFullAttitudeTiltDisagreementRad
  let fixedUnusable := policy.fixedPrior.source ≠ .fixed ∨ policy.fixedPrior.referenceFrame = "" ∨
    policy.fixedPrior.bodyFrame = "" ∨ policy.fixedPrior.allFinite covarianceFinite = false
  if policy.topicWaitTimeoutNs < 0 ∨ policy.maximumTopicPriorAgeNs < 0 ∨
      FloatOps.isFinite tilt = false ∨ tilt < FloatOps.lit 0 ∨
      FloatOps.lit 3.14159265358979323846 < tilt then
    some ⟨.invalidArgument, "invalid initial-state prior timing/tilt policy"⟩
  else if policy.source = .topic ∧ policy.context = .inFlightReinitialization ∧
      policy.groundFallback ≠ .reject then
    some ⟨.invalidArgument, "in-flight initial-state prior must reject on topic timeout"⟩
  else if policy.source = .fixed ∧ (policy.fixedPrior.context ≠ policy.context ∨ fixedUnusable) then
    some ⟨.invalidArgument, "fixed initial-state prior has wrong source"⟩
  else if policy.groundFallback = .fixed ∧ fixedUnusable then
    some ⟨.invalidArgument, "fixed fallback requires a valid fixed initial-state prior"⟩
  else none

def makeZeroPrior (policy : InitialStatePriorPolicy D C) (sampleTime : Timestamp) :
    InitialStatePrior D C where
  sampleTime := sampleTime
  source := .zero
  context := policy.context
  mask := policy.mask
  linearVelocityBaseMS := some Vec3.zero
  angularVelocityBaseRadS := some Vec3.zero

def makeFixedPrior (policy : InitialStatePriorPolicy D C) (sampleTime : Timestamp) :
    InitialStatePrior D C :=
  { policy.fixedPrior with
    sampleTime := sampleTime
    source := .fixed
    context := policy.context
    mask := policy.mask }

structure InitialPriorMailbox (D C : Type) [FloatOps D] where
  candidate : Option (InitialStatePrior D C) := none
  lastCandidateTime : Option Timestamp := none
deriving DecidableEq

/-- `submitInitialStatePrior` while the gate is open. -/
def InitialPriorMailbox.submit (covarianceFinite : C → Bool)
    (context : InitialStatePriorContext) (prior : InitialStatePrior D C)
    (mailbox : InitialPriorMailbox D C) : InitialPriorMailbox D C × Except Status Unit :=
  if prior.source ≠ .topic ∨ prior.context ≠ context ∨ prior.referenceFrame ≠ lioOdomFrame ∨
      prior.bodyFrame ≠ baseFrame then
    (mailbox, .error ⟨.frameMismatch, "initial-state topic prior contract rejected"⟩)
  else if prior.sampleTime.nanoseconds = 0 ∨ prior.allFinite covarianceFinite = false then
    (mailbox, .error ⟨.invalidArgument, "initial-state topic prior is zero or non-finite"⟩)
  else if mailbox.lastCandidateTime.any fun last => !prior.sampleTime.sameClockDomain last then
    (mailbox, .error ⟨.clockDomainMismatch, "initial-state prior clock domain changed"⟩)
  else if mailbox.lastCandidateTime.any fun last =>
      prior.sampleTime.nanoseconds ≤ last.nanoseconds then
    (mailbox, .error ⟨.timestampRegression, "initial-state prior timestamp is not monotonic"⟩)
  else (⟨some prior, some prior.sampleTime⟩, .ok ())

structure InitialPriorDiagnostics where
  status : InitialPriorStatus
  reason : String := ""
  waitingForSensorTime : Bool := false
  waitTimeoutCount : Nat := 0
  applied : Bool := false
  fallbackApplied : Bool := false
  propagatedToApplication : Bool := false
deriving DecidableEq

/-! ## The parts of the pipeline

The numerical parts (states, covariances, the filter, the deskewer, the preprocessor and
the map) are parameters. The local map manager freezes the map when a crop leaves too
many points. -/

/-- `IkfomEstimator::correct` as far as the pipeline reads it. -/
structure IkfomCorrectionResult (State : Type) where
  successful : Bool
  finite : Bool
  converged : Bool
  reason : String
  correctedState : State

/-- The numerical parts of one configured pipeline. -/
structure Numerics (D : Type) [FloatOps D] where
  State : Type
  Covariance : Type
  Estimator : Type
  InitializationResult : Type
  RigidTransform : Type
  ImuTrajectory : Type
  RegistrationMap : Type
  /-- The default state with the extrinsics of the configuration. -/
  mountedState : State
  stateFinite : State → Bool
  normalize : State → State
  positionOdomImu : State → Vec3 D
  transformLidarPointToOdom : State → Vec3 D → Vec3 D
  /-- Sets orientation, biases and gravity found by the initialization, and the extrinsics. -/
  setInitialization : InitializationResult → State → State
  identityCovariance : Covariance
  covarianceFinite : Covariance → Bool
  /-- The symmetric part of a covariance that is positive semidefinite up to rounding. -/
  positiveSemidefinite : Covariance → Option Covariance
  /-- `inflateRecoveryCovariance` and whether it was successful. -/
  inflateRecoveryCovariance : Covariance → D → Covariance × Bool
  tryInitialize : List (ImuSample D) → Except Status InitializationResult
  /-- The collected samples have a finite mean acceleration that is not too small. -/
  evidenceValid : List (ImuSample D) → Bool
  /-- The result in flight: no rotation, no biases, standard gravity. -/
  inFlightInitialization : List (ImuSample D) → InitializationResult
  identityGeometry : RigidTransform
  /-- What `setGeometry` finds wrong with a transform. -/
  geometryFault : RigidTransform → Option Status
  applyPrior : RigidTransform → InitialStatePrior D Covariance → State → D → Except Status State
  estimator : Estimator
  initializeState : Estimator → State → Estimator
  rebase : Estimator → State → Covariance → Estimator
  stateView : Estimator → State
  estimatorCovariance : Estimator → Covariance
  predict : Estimator → List (ImuSample D) → Timestamp → Timestamp →
    Estimator × Except Status ImuTrajectory
  correct : Estimator → List (Vec3 D) → RegistrationMap → Estimator × IkfomCorrectionResult State
  deskew : LidarScan D → ImuTrajectory → State → Except Status (LidarScan D)
  preprocess : LidarScan D → Except Status (LidarScan D)
  emptyMap : RegistrationMap
  mapSize : RegistrationMap → Nat
  insert : RegistrationMap → List (Vec3 D) → RegistrationMap
  /-- The map after a crop around a centre to a half extent. -/
  cropLocal : RegistrationMap → Vec3 D → Vec3 D → RegistrationMap

@[ext] structure ImuInitializerConfig where
  minimumImuSamples : Nat := 200
  maximumImuSamples : Nat := 1000
  minimumPositive : 0 < minimumImuSamples := by decide
  ordered : minimumImuSamples ≤ maximumImuSamples := by decide

instance : DecidableEq ImuInitializerConfig := fun _ _ => decidable_of_iff _ ImuInitializerConfig.ext_iff.symm

structure ImuInitializer (D : Type) where
  config : ImuInitializerConfig
  samples : List (ImuSample D) := []
  timestampValidator : TimestampValidator := { config := { allowEqualTimestamps := false } }
deriving DecidableEq

namespace ImuInitializer

def addSample (i : ImuInitializer D) (sample : ImuSample D) :
    ImuInitializer D × Except Status Unit :=
  match sample.fault with
  | some status => (i, .error status)
  | none =>
    match i.timestampValidator.validate sample.time with
    | .error status => (i, .error status)
    | .ok timestampValidator =>
      let samples := i.samples ++ [sample]
      ({ i with
          samples := samples.drop (samples.length - i.config.maximumImuSamples)
          timestampValidator := timestampValidator }, .ok ())

def hasEnoughSamples (i : ImuInitializer D) : Bool :=
  decide (i.config.minimumImuSamples ≤ i.samples.length)

def reset (i : ImuInitializer D) : ImuInitializer D := { config := i.config }

end ImuInitializer

@[ext] structure LocalMapManagerConfig (D : Type) [FloatOps D] where
  halfExtentM : Vec3 D := ⟨FloatOps.lit 50, FloatOps.lit 50, FloatOps.lit 25⟩
  cropTriggerDistanceM : D := FloatOps.lit 5
  absoluteMapPointGuard : Nat := 250000
  guardPositive : 0 < absoluteMapPointGuard := by decide

instance [DecidableEq D] : DecidableEq (LocalMapManagerConfig D) :=
  fun _ _ => decidable_of_iff _ LocalMapManagerConfig.ext_iff.symm

structure LocalMapUpdate where
  cropPerformed : Bool := false
  absoluteGuardTriggered : Bool := false
  absoluteGuardRecoveryFailed : Bool := false
  insertionFrozen : Bool := false
  mapCountBefore : Nat := 0
  mapCountAfterCrop : Nat := 0
  cropTriggeredByMotion : Bool := false
deriving DecidableEq

structure LocalMapManager (D : Type) [FloatOps D] where
  config : LocalMapManagerConfig D
  lastCropCenterOdomM : Vec3 D := Vec3.zero
  hasCropCenter : Bool := false
  insertionFrozen : Bool := false
deriving DecidableEq

namespace LocalMapManager

def insertionAllowed (m : LocalMapManager D) : Bool := !m.insertionFrozen

def update (N : Numerics D) (m : LocalMapManager D) (map : N.RegistrationMap)
    (currentPositionOdomM : Vec3 D) :
    LocalMapManager D × N.RegistrationMap × LocalMapUpdate :=
  if !currentPositionOdomM.allFinite then (m, map, {})
  else
    let mapCountBefore := N.mapSize map
    let movedBeyondTrigger := !m.hasCropCenter ||
      decide (m.config.cropTriggerDistanceM ≤ (currentPositionOdomM - m.lastCropCenterOdomM).norm)
    let absoluteGuardTriggered := decide (m.config.absoluteMapPointGuard < mapCountBefore)
    if !movedBeyondTrigger && !absoluteGuardTriggered then
      (m, map, {
        absoluteGuardTriggered := absoluteGuardTriggered
        mapCountBefore := mapCountBefore
        mapCountAfterCrop := mapCountBefore })
    else
      let map := N.cropLocal map currentPositionOdomM m.config.halfExtentM
      let mapCountAfterCrop := N.mapSize map
      let recoveryFailed := decide (m.config.absoluteMapPointGuard < mapCountAfterCrop)
      let insertionFrozen := m.insertionFrozen || recoveryFailed
      ({ m with
          lastCropCenterOdomM := currentPositionOdomM
          hasCropCenter := true
          insertionFrozen := insertionFrozen }, map, {
        cropPerformed := true
        absoluteGuardTriggered := absoluteGuardTriggered
        absoluteGuardRecoveryFailed := recoveryFailed
        insertionFrozen := insertionFrozen
        mapCountBefore := mapCountBefore
        mapCountAfterCrop := mapCountAfterCrop
        cropTriggeredByMotion := movedBeyondTrigger })

def reset (m : LocalMapManager D) : LocalMapManager D := { config := m.config }

theorem update_frozen (N : Numerics D) (m : LocalMapManager D) (map : N.RegistrationMap)
    (position : Vec3 D) :
    (m.update N map position).1.insertionFrozen =
      (m.insertionFrozen || (m.update N map position).2.2.absoluteGuardRecoveryFailed) := by
  fun_cases update
  case case3 => rfl
  all_goals simp

end LocalMapManager

structure MapInsertionContext where
  estimatorTracking : Bool := false
  lidarUpdateSuccessful : Bool := false
  correctionUsable : Bool := false
  transformFinite : Bool := false
  filteredPointCount : Nat := 0
deriving DecidableEq

/-- `MapInsertionPolicy::permits`. -/
def MapInsertionContext.permitted (minimumPointCount : Nat) (context : MapInsertionContext) :
    Bool :=
  context.estimatorTracking && context.lidarUpdateSuccessful && context.correctionUsable &&
    context.transformFinite && decide (minimumPointCount ≤ context.filteredPointCount)

/-! ## The pipeline -/

variable {D : Type} [FloatOps D]

@[ext] structure TrackingConfig (D : Type) [FloatOps D] where
  maximumRecoverableImuGapNs : Int := 50000000
  recoveryConfirmationUpdates : Nat := 3
  discontinuityCovarianceInflation : D := FloatOps.lit 10
  gapPositive : 0 < maximumRecoverableImuGapNs := by decide
  updatesPositive : 0 < recoveryConfirmationUpdates := by decide

instance [DecidableEq D] : DecidableEq (TrackingConfig D) := fun _ _ => decidable_of_iff _ TrackingConfig.ext_iff.symm

structure EstimatorConfig (N : Numerics D) where
  measurementBuffer : MeasurementBufferConfig := {}
  synchronization : MeasurementSynchronizerConfig := {}
  initialization : ImuInitializerConfig := {}
  initialPrior : InitialStatePriorPolicy D N.Covariance := {}
  localMap : LocalMapManagerConfig D := {}
  minimumPointCount : Nat := 20
  lifecycle : LifecycleConfig := {}
  tracking : TrackingConfig D := {}
  priorValid : initialPrior.fault N.covarianceFinite = none
  pointsPositive : 0 < minimumPointCount := by decide
  inflationFinite : FloatOps.isFinite tracking.discontinuityCovarianceInflation = true
  inflationLower : ¬ tracking.discontinuityCovarianceInflation < FloatOps.lit 1
  inflationUpper : ¬ (FloatOps.lit 1000 : D) < tracking.discontinuityCovarianceInflation
  gapsOrdered : synchronization.maximumImuGapNs ≤ tracking.maximumRecoverableImuGapNs := by decide

inductive EstimateValidity where
  | unavailable
  | predictedOnly
  | corrected
deriving DecidableEq

inductive LidarUpdateStatus where
  | notAttempted
  | rejected
  | succeeded
deriving DecidableEq

def Numerics.estimateFinite (N : Numerics D) (e : StateEstimate N.State N.Covariance) : Bool :=
  e.allFinite N.stateFinite N.covarianceFinite

structure ProcessResult (N : Numerics D) where
  statusBefore : EstimatorStatus
  statusAfter : EstimatorStatus := .waitingForSensors
  scanTime : Option Timestamp := none
  estimateValidity : EstimateValidity := .unavailable
  lidarUpdateStatus : LidarUpdateStatus := .notAttempted
  predictedEstimate : Option (StateEstimate N.State N.Covariance) := none
  correctedEstimate : Option (StateEstimate N.State N.Covariance) := none
  lastLidarCorrectionTime : Option Timestamp := none
  registeredPointsOdomM : List (Vec3 D) := []
  /-- What the local map manager reported, when it was asked. -/
  localMapUpdate : Option LocalMapUpdate := none
  navigationValid : Bool := false
  initialPriorApplied : Bool := false
  lioGeneration : Nat := 0
  rejectionReason : String := ""

def ProcessResult.hasCorrectedOutput {N : Numerics D} (r : ProcessResult N) : Bool :=
  r.correctedEstimate.any N.estimateFinite && r.estimateValidity = .corrected &&
    r.lidarUpdateStatus = .succeeded

structure FastLioPipeline (N : Numerics D) where
  config : EstimatorConfig N
  feed : SensorFeed D
  initializer : ImuInitializer D
  estimator : N.Estimator
  registrationMap : N.RegistrationMap
  bootstrapMap : N.RegistrationMap
  localMapManager : LocalMapManager D
  lifecycle : Lifecycle := {}
  state : N.State
  covariance : N.Covariance
  stateTime : Option Timestamp := none
  initialPriorStateTime : Option Timestamp := none
  priorImuHistory : List (ImuSample D) := []
  lastInitializationImuTime : Option Timestamp := none
  lastCorrectionTime : Option Timestamp := none
  /-- The steady clock at the last accepted scan. -/
  lastLidarArrival : Option Int := none
  bootstrapReferencePointsOdomM : List (Vec3 D) := []
  priorGeometry : N.RigidTransform
  mailbox : InitialPriorMailbox D N.Covariance := {}
  imuInitializationResult : Option N.InitializationResult := none
  priorWaitStartTime : Option Timestamp := none
  estimatorInitialized : Bool := false
  initialPriorGateClosed : Bool := false
  initialPriorFallbackApplied : Bool := false
  initialPrior : InitialPriorDiagnostics
  generation : Nat := 1

variable {N : Numerics D}

def initialPriorDiagnostics (config : EstimatorConfig N) : InitialPriorDiagnostics where
  status := if config.initialPrior.source = .zero then .notRequired else .waiting

namespace FastLioPipeline

def create (config : EstimatorConfig N) : FastLioPipeline N where
  config := config
  feed := SensorFeed.create config.measurementBuffer config.synchronization
  initializer := { config := config.initialization }
  estimator := N.estimator
  registrationMap := N.emptyMap
  bootstrapMap := N.emptyMap
  localMapManager := { config := config.localMap }
  state := N.mountedState
  covariance := N.identityCovariance
  priorGeometry := N.identityGeometry
  initialPrior := initialPriorDiagnostics config

abbrev status (p : FastLioPipeline N) : EstimatorStatus := p.lifecycle.status

def navigationValid (p : FastLioPipeline N) : Bool := p.lifecycle.navigationValid

def setReason (reason : String) (p : FastLioPipeline N) : FastLioPipeline N :=
  { p with lifecycle := p.lifecycle.setReason reason }

def startUp (next : EstimatorStatus) (reason : String) (p : FastLioPipeline N) :
    FastLioPipeline N :=
  { p with lifecycle := p.lifecycle.startUp next reason }

def recordUncorrectedUpdate (failureClass : LidarUpdateFailureClass) (p : FastLioPipeline N) :
    FastLioPipeline N :=
  { p with lifecycle := p.lifecycle.recordUncorrectedUpdate p.config.lifecycle failureClass }

/-- How most failures end a call: the reason is set, then the update is recorded. -/
def failUpdate (failureClass : LidarUpdateFailureClass) (reason : String) (p : FastLioPipeline N) :
    FastLioPipeline N :=
  (p.setReason reason).recordUncorrectedUpdate failureClass

def retainPriorImuSample (sample : ImuSample D) (p : FastLioPipeline N) : FastLioPipeline N :=
  { p with priorImuHistory := FastLio.retainPriorImuSample p.priorImuHistory sample }

def setInitialPrior (diagnostics : InitialPriorDiagnostics) (p : FastLioPipeline N) :
    FastLioPipeline N :=
  { p with initialPrior := diagnostics }

def submitInitialStatePrior (prior : InitialStatePrior D N.Covariance) (p : FastLioPipeline N) :
    FastLioPipeline N × Except Status Unit :=
  if p.initialPriorGateClosed || p.estimatorInitialized then
    (p, .error ⟨.notReady, "initial-state prior gate is closed"⟩)
  else
    let answer := p.mailbox.submit N.covarianceFinite p.config.initialPrior.context prior
    ({ p with mailbox := answer.1 }, answer.2)

def setInitialStatePriorGeometry (baseToImu : N.RigidTransform) (p : FastLioPipeline N) :
    FastLioPipeline N × Except Status Unit :=
  if p.estimatorInitialized || p.initialPriorGateClosed then
    (p, .error ⟨.notReady, "initial-state prior geometry can only be set before startup"⟩)
  else
    match N.geometryFault baseToImu with
    | some status => (p, .error status)
    | none => ({ p with priorGeometry := baseToImu }, .ok ())

/-- What the candidate says at the application time. -/
inductive CandidateVerdict where
  | accepted
  | waiting
  | dropped (reason : String)
deriving DecidableEq

def judgeCandidate (maximumAgeNs : Int) (candidate : InitialStatePrior D N.Covariance)
    (applicationTime : Timestamp) : CandidateVerdict :=
  if !candidate.sampleTime.sameClockDomain applicationTime then
    .dropped "TOPIC_PRIOR_CLOCK_DOMAIN_MISMATCH"
  else
    match checkedDifference applicationTime candidate.sampleTime with
    | .error _ => .dropped "TOPIC_PRIOR_TIMESTAMP_OVERFLOW"
    | .ok ageNs =>
      if applicationTime.nanoseconds < candidate.sampleTime.nanoseconds then .waiting
      else if ageNs ≤ maximumAgeNs then .accepted
      else .dropped "TOPIC_PRIOR_STALE"

/-- The part of `resolveInitialStatePrior` after no candidate was accepted. -/
def awaitPrior (candidate : Option (InitialStatePrior D N.Covariance))
    (applicationTime : Timestamp) (p : FastLioPipeline N) : FastLioPipeline N × Bool :=
  let policy := p.config.initialPrior
  let p := p.setInitialPrior { p.initialPrior with status := .waiting }
  let waitStart := p.priorWaitStartTime.getD applicationTime
  let rejected (reason : String) (p : FastLioPipeline N) : FastLioPipeline N × Bool :=
    (p.setInitialPrior { p.initialPrior with status := .rejected, reason := reason }, false)
  if !waitStart.sameClockDomain applicationTime then
    rejected "TOPIC_PRIOR_WAIT_CLOCK_DOMAIN_MISMATCH" p
  else
    match checkedDifference applicationTime waitStart with
    | .error _ => rejected "TOPIC_PRIOR_WAIT_TIMESTAMP_OVERFLOW" p
    | .ok elapsedNs =>
      if elapsedNs < policy.topicWaitTimeoutNs then (p, false)
      else
        let p := p.setInitialPrior
          { p.initialPrior with waitTimeoutCount := p.initialPrior.waitTimeoutCount + 1 }
        if candidate.any fun prior => prior.sampleTime.sameClockDomain applicationTime &&
            decide (applicationTime.nanoseconds < prior.sampleTime.nanoseconds) then
          -- the candidate becomes applicable when the sensor time catches up
          (p.setInitialPrior { p.initialPrior with
            status := .waiting
            waitingForSensorTime := true
            reason := "TOPIC_PRIOR_WAITING_FOR_SENSOR_TIME" }, false)
        else if policy.context = .inFlightReinitialization ∨ policy.groundFallback = .reject then
          rejected "TOPIC_PRIOR_TIMEOUT_REJECTED" p
        else
          ({ p with initialPriorFallbackApplied := true }.setInitialPrior { p.initialPrior with
            status := .fallbackApplied
            reason :=
              if policy.groundFallback = InitialPriorFallback.fixed then "TOPIC_PRIOR_TIMEOUT_FIXED_FALLBACK"
              else "TOPIC_PRIOR_TIMEOUT_ZERO_FALLBACK" }, true)

def resolveInitialStatePrior (applicationTime : Timestamp) (p : FastLioPipeline N) :
    FastLioPipeline N × Bool :=
  let policy := p.config.initialPrior
  let p := p.setInitialPrior { p.initialPrior with waitingForSensorTime := false }
  let accepted (reason : String) : FastLioPipeline N × Bool :=
    (p.setInitialPrior { p.initialPrior with status := .applied, reason := reason }, true)
  match policy.source with
  | .fixed => accepted "FIXED_PRIOR_ACCEPTED"
  | .zero => accepted "ZERO_PRIOR_ACCEPTED"
  | .topic =>
    match p.mailbox.candidate with
    | none => p.awaitPrior none applicationTime
    | some candidate =>
      match judgeCandidate policy.maximumTopicPriorAgeNs candidate applicationTime with
      | .accepted => accepted "TOPIC_PRIOR_ACCEPTED"
      | .waiting =>
        (p.setInitialPrior { p.initialPrior with
          waitingForSensorTime := true
          status := .waiting
          reason := "TOPIC_PRIOR_WAITING_FOR_SENSOR_TIME" }).awaitPrior candidate applicationTime
      | .dropped reason =>
        ({ p with mailbox := { p.mailbox with candidate := none } }.setInitialPrior
          { p.initialPrior with reason := reason }).awaitPrior candidate applicationTime

/-! ## The initialization -/

def rejectPrior (reason : String) (p : FastLioPipeline N) : FastLioPipeline N :=
  (p.setInitialPrior { p.initialPrior with status := .rejected, reason := reason }).setReason reason

def addInitializationSample (sample : ImuSample D) (p : FastLioPipeline N) :
    FastLioPipeline N × Except Status Unit :=
  if p.lastInitializationImuTime.any fun last => !sample.time.sameClockDomain last then
    (p, .error ⟨.clockDomainMismatch, "Initialization IMU clock domain changed"⟩)
  else if p.lastInitializationImuTime.any fun last =>
      sample.time.nanoseconds ≤ last.nanoseconds then
    -- synchronized groups overlap at bracket samples
    (p, .ok ())
  else
    match p.initializer.addSample sample with
    | (_, .error status) => (p, .error status)
    | (initializer, .ok ()) =>
      let p := { p with
        initializer := initializer
        lastInitializationImuTime := some sample.time }
      if p.initializer.hasEnoughSamples && p.status = .collectingImu then
        (p.startUp .initializingImu "MINIMUM_IMU_SAMPLES_COLLECTED", .ok ())
      else (p, .ok ())

def addInitializationSamples : List (ImuSample D) → FastLioPipeline N →
    FastLioPipeline N × Except Status Unit
  | [], p => (p, .ok ())
  | sample :: samples, p =>
    match p.addInitializationSample sample with
    | (p, .error status) => (p, .error status)
    | (p, .ok ()) => addInitializationSamples samples p

def applicationTime (progressTime : Option Timestamp) (p : FastLioPipeline N) : Timestamp :=
  progressTime.getD (p.priorWaitStartTime.getD (p.lastInitializationImuTime.getD {}))

def beginInitialization (progressTime : Option Timestamp) (p : FastLioPipeline N) :
    FastLioPipeline N :=
  { p.startUp .initializingImu "EVALUATING_IMU_INITIALIZATION" with
    priorWaitStartTime := progressTime.or p.lastInitializationImuTime }

/-- In flight the prior drives the initialization, never the stationary initializer. -/
def obtainInFlight (progressTime : Option Timestamp) (p : FastLioPipeline N) :
    FastLioPipeline N × Option N.InitializationResult :=
  match p.resolveInitialStatePrior (p.applicationTime progressTime) with
  | (p, false) => (p, none)
  | (p, true) =>
    if (p.mailbox.candidate.getD {}).mask.attitude ≠ .full then
      (p.rejectPrior "IN_FLIGHT_PRIOR_REQUIRES_FULL_ATTITUDE", none)
    else if p.initializer.samples.isEmpty || !N.evidenceValid p.initializer.samples then
      (p.rejectPrior "IN_FLIGHT_PRIOR_IMU_EVIDENCE_INVALID", none)
    else
      let result := N.inFlightInitialization p.initializer.samples
      ({ p with imuInitializationResult := some result }, some result)

/-- The part of `tryCompleteImuInitialization` that finds an initialization result. -/
def obtainInitialization (progressTime : Option Timestamp) (p : FastLioPipeline N) :
    FastLioPipeline N × Option N.InitializationResult :=
  match p.imuInitializationResult with
  | some result => (p, some result)
  | none =>
    let p := p.beginInitialization progressTime
    if p.config.initialPrior.context = .inFlightReinitialization then p.obtainInFlight progressTime
    else
      match N.tryInitialize p.initializer.samples with
      | .error status => (p.setReason status.message, none)
      | .ok result => ({ p with imuInitializationResult := some result }, some result)

def selectPrior (candidate : Option (InitialStatePrior D N.Covariance))
    (applicationTime : Timestamp) (p : FastLioPipeline N) : InitialStatePrior D N.Covariance :=
  let policy := p.config.initialPrior
  match policy.source with
  | .zero => makeZeroPrior policy applicationTime
  | .fixed => makeFixedPrior policy applicationTime
  | .topic =>
    if p.initialPriorFallbackApplied then
      if policy.groundFallback = .fixed then makeFixedPrior policy applicationTime
      else makeZeroPrior policy applicationTime
    else candidate.getD {}

def startEstimator (appliedState : N.State) (prior : InitialStatePrior D N.Covariance)
    (priorCovariance : Option N.Covariance) (p : FastLioPipeline N) : FastLioPipeline N :=
  let estimator := N.initializeState p.estimator appliedState
  let p := { p with
    state := appliedState
    estimatorInitialized := true
    initialPriorStateTime := some prior.sampleTime
    covariance := priorCovariance.getD (N.estimatorCovariance estimator)
    estimator :=
      match priorCovariance with
      | none => estimator
      | some covariance => N.rebase estimator appliedState covariance
    initialPrior := { p.initialPrior with
      applied := true
      fallbackApplied := p.initialPriorFallbackApplied
      propagatedToApplication := false } }
  p.startUp .initializingMap
    (if p.initialPriorFallbackApplied then "IMU_INITIALIZATION_PRIOR_FALLBACK_ACCEPTED"
      else "IMU_INITIALIZATION_PRIOR_ACCEPTED")

/-- The part of `tryCompleteImuInitialization` after the prior was resolved. -/
def applyInitialStatePrior (result : N.InitializationResult)
    (prior : InitialStatePrior D N.Covariance) (p : FastLioPipeline N) : FastLioPipeline N :=
  let p := { p with state := N.setInitialization result p.state }
  let priorState := N.normalize (N.setInitialization result N.mountedState)
  match N.applyPrior p.priorGeometry prior priorState
      p.config.initialPrior.maximumFullAttitudeTiltDisagreementRad with
  | .error status => p.rejectPrior status.message
  | .ok appliedState =>
    match prior.covariance with
    | none => p.startEstimator appliedState prior none
    | some covariance =>
      match N.positiveSemidefinite covariance with
      | none => p.rejectPrior "INITIAL_PRIOR_COVARIANCE_NOT_PSD"
      | some symmetric => p.startEstimator appliedState prior (some symmetric)

def tryCompleteImuInitialization (progressTime : Option Timestamp) (p : FastLioPipeline N) :
    FastLioPipeline N :=
  if !p.initializer.hasEnoughSamples || p.status.usesEstimatorState then p
  else
    match p.obtainInitialization progressTime with
    | (p, none) => p
    | (p, some result) =>
      let applicationTime := p.applicationTime progressTime
      match p.resolveInitialStatePrior applicationTime with
      | (p, false) => p
      | (p, true) =>
        p.applyInitialStatePrior result (p.selectPrior p.mailbox.candidate applicationTime)

/-- What `pushImu` does behind the buffer and the history of samples. -/
def collectImu (sample : ImuSample D) (p : FastLioPipeline N) :
    FastLioPipeline N × Except Status Unit :=
  let p := if p.status = .waitingForSensors then
    p.startUp .collectingImu "FIRST_IMU_SAMPLE_ACCEPTED" else p
  if p.status = .collectingImu ∨ p.status = .initializingImu then
    match p.addInitializationSample sample with
    | (p, .error status) => (p.setReason status.message, .error status)
    | (p, .ok ()) => (p.tryCompleteImuInitialization (some sample.time), .ok ())
  else (p, .ok ())

def pushImu (sample : ImuSample D) (p : FastLioPipeline N) :
    FastLioPipeline N × Except Status Unit :=
  match p.feed.buffer.pushImu sample with
  | (buffer, .error status) =>
    ({ p with feed := { p.feed with buffer := buffer } }.setReason status.message, .error status)
  | (buffer, .ok ()) =>
    ({ p with feed := { p.feed with buffer := buffer } }.retainPriorImuSample sample).collectImu sample

/-- `pushLidar` when the steady clock reads `now`. -/
def pushLidar (now : Int) (scan : LidarScan D) (p : FastLioPipeline N) :
    FastLioPipeline N × Except Status Unit :=
  match p.feed.buffer.pushLidar scan with
  | (buffer, .error status) =>
    ({ p with feed := { p.feed with buffer := buffer } }.setReason status.message, .error status)
  | (buffer, .ok ()) =>
    ({ p with
        feed := { p.feed with buffer := buffer }
        lastLidarArrival := some now }, .ok ())

/-- `superviseLidarTimeout` when the steady clock reads `now`. -/
def superviseLidarTimeout (now : Int) (p : FastLioPipeline N) : FastLioPipeline N :=
  match p.lastLidarArrival with
  | none => p
  | some arrival =>
    { p with lifecycle := p.lifecycle.superviseLidarTimeout p.config.lifecycle (now - arrival) }

end FastLioPipeline

/-! ## Processing a group -/

variable {D : Type} [FloatOps D] {N : Numerics D}

namespace FastLioPipeline

def imuFault (scanStart : Timestamp) : Option Timestamp → List (ImuSample D) → Option String
  | _, [] => none
  | previous, sample :: rest =>
    match sample.fault with
    | some status => some status.message
    | none =>
      if !sample.time.sameClockDomain scanStart ||
          previous.any fun t => decide (sample.time.nanoseconds ≤ t.nanoseconds) then
        some "INVALID_IMU_TIME_SEQUENCE"
      else imuFault scanStart (some sample.time) rest

/-- Whether a time lies before another one that it cannot be subtracted from safely. -/
def intervalInvalid (later earlier : Timestamp) : Bool :=
  match checkedDifference later earlier with
  | .error _ => true
  | .ok durationNs => decide (durationNs < 0)

def groupFault (group : MeasurementGroup D) : Option String :=
  if intervalInvalid group.scan.endTime group.scan.startTime then
    some "INVALID_SCAN_TIME_INTERVAL"
  else if intervalInvalid group.scan.endTime group.propagationStartTime then
    some "INVALID_PROPAGATION_START_TIME"
  else if !group.fullyBracketed then some "MEASUREMENT_GROUP_NOT_FULLY_BRACKETED"
  else
    match group.scan.fault with
    | some status => some status.message
    | none => imuFault group.scan.startTime none group.imuSamples

def retainGroup (group : MeasurementGroup D) (p : FastLioPipeline N) : FastLioPipeline N :=
  group.imuSamples.foldl (fun p sample => p.retainPriorImuSample sample) p

def initializeFromGroup (group : MeasurementGroup D) (imuSamplesAlreadyIngested : Bool)
    (p : FastLioPipeline N) : FastLioPipeline N × Except String Unit :=
  let p := if p.status = .waitingForSensors then
    p.startUp .collectingImu "SYNCHRONIZED_MEASUREMENT_RECEIVED" else p
  if p.status = .collectingImu ∨ p.status = .initializingImu then
    match p.addInitializationSamples (if imuSamplesAlreadyIngested then [] else group.imuSamples) with
    | (p, .error status) => (p.setReason status.message, .error status.message)
    | (p, .ok ()) =>
      let progressTime :=
        (group.imuSamples.getLast?.map ImuSample.time).or p.lastInitializationImuTime
      let p := p.tryCompleteImuInitialization progressTime
      if p.status ≠ .initializingMap then
        let reason :=
          if p.imuInitializationResult.isSome ∨
              p.config.initialPrior.context = .inFlightReinitialization ∧
                p.initialPrior.status = .waiting then "INITIAL_STATE_PRIOR_PENDING"
          else "IMU_INITIALIZATION_NOT_READY"
        (p.setReason reason, .error reason)
      else (p, .ok ())
  else if !p.status.usesEstimatorState then
    (p.setReason "ESTIMATOR_STATE_NOT_PROCESSABLE", .error "ESTIMATOR_STATE_NOT_PROCESSABLE")
  else (p, .ok ())

def initialEpoch (group : MeasurementGroup D) (p : FastLioPipeline N) : Timestamp :=
  if p.config.initialPrior.source ≠ .zero ∧ p.initialPriorFallbackApplied = false then
    p.initialPriorStateTime.getD group.propagationStartTime
  else group.propagationStartTime

def recoverableForwardMismatch (stateTime : Timestamp) (group : MeasurementGroup D)
    (p : FastLioPipeline N) : Bool :=
  stateTime.sameClockDomain group.propagationStartTime &&
    decide (stateTime.nanoseconds < group.propagationStartTime.nanoseconds) &&
    p.lifecycle.trackingEverConfirmed && p.status.recovering

/-- The covariance inflated for a recovery, and whether that was successful. -/
def inflated (p : FastLioPipeline N) : N.Covariance × Bool :=
  N.inflateRecoveryCovariance p.covariance p.config.tracking.discontinuityCovarianceInflation

/-- The estimator starts again from the committed state, at another time. -/
def rebaseAt (time : Timestamp) (p : FastLioPipeline N) : FastLioPipeline N :=
  { p with
    estimator := N.rebase p.estimator p.state p.covariance
    stateTime := some time }

def enterEpoch (group : MeasurementGroup D) (p : FastLioPipeline N) :
    FastLioPipeline N × Except String Timestamp :=
  match p.stateTime with
  | none =>
    let epoch := p.initialEpoch group
    if !epoch.sameClockDomain group.scan.startTime then
      (p.failUpdate .prediction "INITIAL_PRIOR_CLOCK_DOMAIN_MISMATCH",
        .error "INITIAL_PRIOR_CLOCK_DOMAIN_MISMATCH")
    else if p.lastInitializationImuTime.any fun last =>
        !last.sameClockDomain group.scan.startTime ||
          decide (group.scan.startTime.nanoseconds < last.nanoseconds) then
      (p.setReason "SCAN_PRECEDES_IMU_INITIALIZATION_EPOCH",
        .error "SCAN_PRECEDES_IMU_INITIALIZATION_EPOCH")
    else if group.scan.startTime.nanoseconds < epoch.nanoseconds then
      (p.setReason "INITIAL_PRIOR_AFTER_APPLICATION_EPOCH",
        .error "INITIAL_PRIOR_AFTER_APPLICATION_EPOCH")
    else ({ p with stateTime := some epoch }, .ok epoch)
  | some stateTime =>
    if stateTime = group.propagationStartTime then (p, .ok stateTime)
    else if !p.recoverableForwardMismatch stateTime group then
      (p.failUpdate .prediction "PROPAGATION_START_DOES_NOT_MATCH_STATE_TIME",
        .error "PROPAGATION_START_DOES_NOT_MATCH_STATE_TIME")
    else
      -- a failed prediction left the state behind the consumed scan; rebase only after the
      -- lifecycle has failed closed
      let inflation := p.inflated
      let p := { p with covariance := inflation.1 }
      match checkedDifference group.propagationStartTime stateTime, inflation.2 with
      | .ok _, true =>
        ((p.rebaseAt group.propagationStartTime).failUpdate .propagationDiscontinuity
          "PROPAGATION_STATE_TIME_REBASED", .ok group.propagationStartTime)
      | _, _ =>
        (p.failUpdate .stateCorruption "PROPAGATION_STATE_TIME_REBASE_FAILED",
          .error "PROPAGATION_STATE_TIME_REBASE_FAILED")

def predictionSamples (group : MeasurementGroup D) (start : Timestamp) (p : FastLioPipeline N) :
    Except Status (List (ImuSample D)) :=
  buildPredictionImuSamples p.config.synchronization p.priorImuHistory group start
    group.scan.endTime

def predictScan (group : MeasurementGroup D) (start : Timestamp) (p : FastLioPipeline N) :
    FastLioPipeline N × Except String N.ImuTrajectory :=
  match checkedDifference group.scan.endTime start with
  | .error _ =>
    (p.failUpdate .prediction "PREDICTION_TIME_INTERVAL_OVERFLOW",
      .error "PREDICTION_TIME_INTERVAL_OVERFLOW")
  | .ok _ =>
    match p.predictionSamples group start with
    | .error status => (p.failUpdate .prediction status.message, .error status.message)
    | .ok samples =>
      let p := { p with initialPriorGateClosed := true }.setInitialPrior
        { p.initialPrior with status := .closed }
      match N.predict p.estimator samples start group.scan.endTime with
      | (estimator, .error status) =>
        ({ p with estimator := estimator }.failUpdate .prediction status.message,
          .error status.message)
      | (estimator, .ok trajectory) =>
        let propagated := p.initialPrior.applied &&
          decide (start.nanoseconds < group.scan.endTime.nanoseconds) &&
          p.initialPriorStateTime.any fun t => t.sameClockDomain group.scan.endTime &&
            decide (t.nanoseconds < group.scan.endTime.nanoseconds)
        ({ p with
            estimator := estimator
            state := N.stateView estimator
            covariance := N.estimatorCovariance estimator
            stateTime := some group.scan.endTime
            initialPrior := { p.initialPrior with
              propagatedToApplication := p.initialPrior.propagatedToApplication || propagated } },
          .ok trajectory)

/-- Why the points of a scan are not used, and what becomes of the update. -/
structure PointRejection where
  reason : String
  lidarUpdateStatus : LidarUpdateStatus := .notAttempted
deriving DecidableEq

/-- The fourth stage: the filtered points, unless they become the reference of the initial map. -/
def registerScan (group : MeasurementGroup D) (trajectory : N.ImuTrajectory)
    (p : FastLioPipeline N) : FastLioPipeline N × Except PointRejection (List (Vec3 D)) :=
  match N.deskew group.scan trajectory p.state with
  | .error status => (p.failUpdate .deskew status.message, .error { reason := status.message })
  | .ok deskewed =>
    match N.preprocess deskewed with
    | .error status =>
      (p.failUpdate .preprocessing status.message, .error { reason := status.message })
    | .ok preprocessed =>
      let pointsLidarM := preprocessed.points.map LidarPoint.positionLidarM
      if pointsLidarM.length < p.config.minimumPointCount then
        (p.failUpdate .insufficientPoints "INSUFFICIENT_FILTERED_POINTS",
          .error ⟨"INSUFFICIENT_FILTERED_POINTS", .rejected⟩)
      else if p.status = .initializingMap ∧ N.mapSize p.bootstrapMap = 0 then
        let reference := pointsLidarM.map (N.transformLidarPointToOdom p.state)
        ({ p with
            bootstrapReferencePointsOdomM := reference
            bootstrapMap := N.insert p.bootstrapMap reference
            }.setReason "INITIAL_MAP_REFERENCE_CAPTURED",
          .error { reason := "INITIAL_MAP_REFERENCE_CAPTURED" })
      else (p, .ok pointsLidarM)

def associationMap (p : FastLioPipeline N) : N.RegistrationMap :=
  if N.mapSize p.registrationMap = 0 then p.bootstrapMap else p.registrationMap

/-- The fifth stage: the corrected state and what it does to the lifecycle. -/
def correctScan (group : MeasurementGroup D) (pointsLidarM : List (Vec3 D))
    (p : FastLioPipeline N) :
    FastLioPipeline N × Except String (IkfomCorrectionResult N.State) :=
  let attempt := N.correct p.estimator pointsLidarM p.associationMap
  let correction := attempt.2
  let p := { p with estimator := attempt.1 }
  if !correction.successful || !correction.finite || !N.stateFinite correction.correctedState then
    let p := { p with lifecycle := p.lifecycle.failInitialMap p.config.lifecycle }
    ((p.recordUncorrectedUpdate .registration).setReason correction.reason,
      .error correction.reason)
  else
    ({ p with
        state := N.stateView p.estimator
        covariance := N.estimatorCovariance p.estimator
        lastCorrectionTime := some group.scan.endTime
        lifecycle := p.lifecycle.acceptCorrection p.config.tracking.recoveryConfirmationUpdates
          correction.converged }, .ok correction)

def insertionContext (correction : IkfomCorrectionResult N.State) (pointCount : Nat)
    (p : FastLioPipeline N) : MapInsertionContext where
  estimatorTracking := p.status = .tracking
  lidarUpdateSuccessful := true
  correctionUsable := correction.successful
  transformFinite := N.stateFinite p.state
  filteredPointCount := pointCount

/-- The corrected points enter the map, which is cropped around the vehicle afterwards. -/
def insertIntoMap (points : List (Vec3 D)) (p : FastLioPipeline N) :
    FastLioPipeline N × LocalMapUpdate :=
  let p :=
    if N.mapSize p.registrationMap = 0 ∧ p.bootstrapReferencePointsOdomM ≠ [] then
      { p with
        registrationMap := N.insert p.registrationMap p.bootstrapReferencePointsOdomM
        bootstrapReferencePointsOdomM := []
        bootstrapMap := N.emptyMap }
    else p
  let updated := p.localMapManager.update N (N.insert p.registrationMap points)
    (N.positionOdomImu p.state)
  let p := { p with localMapManager := updated.1, registrationMap := updated.2.1 }
  if updated.2.2.absoluteGuardRecoveryFailed then
    ({ p with lifecycle := p.lifecycle.exceedMapGuard }, updated.2.2)
  else (p, updated.2.2)

def updateMap (correction : IkfomCorrectionResult N.State) (pointsLidarM : List (Vec3 D))
    (p : FastLioPipeline N) : FastLioPipeline N × Option LocalMapUpdate :=
  let context := p.insertionContext correction pointsLidarM.length
  if !p.localMapManager.insertionAllowed then
    ({ p with lifecycle := p.lifecycle.requireMapRecovery }, none)
  else if context.permitted p.config.minimumPointCount then
    let inserted := p.insertIntoMap (pointsLidarM.map (N.transformLidarPointToOdom p.state))
    (inserted.1, some inserted.2)
  else (p, none)

def setFinalReason (correction : IkfomCorrectionResult N.State) (p : FastLioPipeline N) :
    FastLioPipeline N :=
  p.setReason (if p.lifecycle.mapRecoveryRequired then "LOCAL_MAP_RECOVERY_REQUIRED"
      else if correction.converged then "LIDAR_CORRECTION_CONVERGED"
      else "LIDAR_CORRECTION_ACCEPTED_AT_ITERATION_LIMIT")

/-! ## The calls -/

def estimateAt (time : Timestamp) (p : FastLioPipeline N) : StateEstimate N.State N.Covariance :=
  ⟨time, p.state, p.covariance⟩

def finalizeResult (result : ProcessResult N) (p : FastLioPipeline N) :
    FastLioPipeline N × ProcessResult N :=
  let p := p.setInitialPrior (if p.mailbox.candidate.isSome && !p.initialPrior.applied then
      { p.initialPrior with status := .candidateAvailable }
    else p.initialPrior)
  (p, { result with
    statusAfter := p.status
    lastLidarCorrectionTime := p.lastCorrectionTime
    navigationValid := p.navigationValid
    initialPriorApplied := p.initialPrior.applied
    lioGeneration := p.generation })

def processPredicted (group : MeasurementGroup D) (start : Timestamp) (result : ProcessResult N)
    (p : FastLioPipeline N) : FastLioPipeline N × ProcessResult N :=
  match p.predictScan group start with
  | (p, .error reason) => (p, { result with rejectionReason := reason })
  | (p, .ok trajectory) =>
    let result := { result with
      predictedEstimate := some (p.estimateAt group.scan.endTime)
      estimateValidity := .predictedOnly }
    match p.registerScan group trajectory with
    | (p, .error rejection) =>
      (p, { result with
        rejectionReason := rejection.reason
        lidarUpdateStatus := rejection.lidarUpdateStatus })
    | (p, .ok pointsLidarM) =>
      match p.correctScan group pointsLidarM with
      | (p, .error reason) =>
        (p, { result with rejectionReason := reason, lidarUpdateStatus := .rejected })
      | (p, .ok correction) =>
        let updated := p.updateMap correction pointsLidarM
        (updated.1.setFinalReason correction, { result with
          estimateValidity := .corrected
          lidarUpdateStatus := .succeeded
          correctedEstimate := some (p.estimateAt group.scan.endTime)
          registeredPointsOdomM := pointsLidarM.map (N.transformLidarPointToOdom p.state)
          localMapUpdate := updated.2 })

def prepareGroup (group : MeasurementGroup D) (imuSamplesAlreadyIngested : Bool)
    (p : FastLioPipeline N) : FastLioPipeline N × Except String Timestamp :=
  match groupFault group with
  | some reason => (p.failUpdate .synchronization reason, .error reason)
  | none =>
    match (p.retainGroup group).initializeFromGroup group imuSamplesAlreadyIngested with
    | (p, .error reason) => (p, .error reason)
    | (p, .ok ()) => p.enterEpoch group

def processInternal (group : MeasurementGroup D) (imuSamplesAlreadyIngested : Bool)
    (p : FastLioPipeline N) : FastLioPipeline N × ProcessResult N :=
  let result : ProcessResult N :=
    { statusBefore := p.status, scanTime := some group.scan.endTime }
  let outcome :=
    match p.prepareGroup group imuSamplesAlreadyIngested with
    | (p, .error reason) => (p, { result with rejectionReason := reason })
    | (p, .ok start) => p.processPredicted group start result
  outcome.1.finalizeResult outcome.2

/-- The state after a discontinuity, when the estimator has one to recover. -/
def rebaseAfterDiscontinuity (d : PropagationDiscontinuity) (p : FastLioPipeline N) :
    FastLioPipeline N :=
  let longGap := p.config.tracking.maximumRecoverableImuGapNs < d.gapDurationNs
  let inflation := p.inflated
  let p := { p with covariance := inflation.1 }
  if inflation.2 = false then
    { p with lifecycle :=
        p.lifecycle.discontinue .lost "IMU_DISCONTINUITY_COVARIANCE_INFLATION_FAILED" }
  else
    let p := (p.rebaseAt d.resumeTime).recordUncorrectedUpdate .propagationDiscontinuity
    if !p.lifecycle.trackingEverConfirmed then
      if longGap then
        { p with
          bootstrapMap := N.emptyMap
          bootstrapReferencePointsOdomM := []
          lifecycle := p.lifecycle.restartInitialMap.discontinue .initializingMap
            (if N.mapSize p.registrationMap = 0 then
              "INITIAL_MAP_RESTART_AFTER_LONG_IMU_DISCONTINUITY"
            else "INITIAL_MAP_REGISTRATION_MAP_INVARIANT_VIOLATION") }
      else
        { p with
          lifecycle := p.lifecycle.discontinue .initializingMap
            "INITIAL_MAP_RECOVERY_AFTER_SHORT_IMU_DISCONTINUITY" }
    else if longGap then
      { p with lifecycle := p.lifecycle.discontinue .lost "IMU_DISCONTINUITY_LOCAL_LOST" }
    else p.setReason "IMU_DISCONTINUITY_RECOVERY_REBASE"

def recoverFromDiscontinuity (d : PropagationDiscontinuity) (p : FastLioPipeline N) :
    FastLioPipeline N × ProcessResult N :=
  let statusBefore := p.status
  let p := if p.status.usesEstimatorState && p.stateTime.isSome then
    p.rebaseAfterDiscontinuity d else p
  p.finalizeResult {
    statusBefore := statusBefore
    scanTime := some d.scanEnd
    lidarUpdateStatus := .rejected
    rejectionReason := p.lifecycle.reason }

/-- The part of `processNext` after the synchronizer answered. -/
def takeSynchronized (synchronized : SynchronizationResult D) (p : FastLioPipeline N) :
    FastLioPipeline N × Option (ProcessResult N) :=
  match synchronized with
  | .error status =>
    let answer := (p.failUpdate .synchronization status.message).finalizeResult
      { statusBefore := p.status, rejectionReason := status.message }
    (answer.1, some answer.2)
  | .discontinuity d => ((p.recoverFromDiscontinuity d).1, some (p.recoverFromDiscontinuity d).2)
  | .waiting => (p, none)
  | .group group => ((p.processInternal group true).1, some (p.processInternal group true).2)

def holdsForPrior (p : FastLioPipeline N) : Bool :=
  p.imuInitializationResult.isSome && !p.estimatorInitialized &&
    p.config.initialPrior.source = .topic

/-- `processNext`; `none` while it waits. -/
def processNext (p : FastLioPipeline N) : FastLioPipeline N × Option (ProcessResult N) :=
  let p := p.setReason ""
  if p.holdsForPrior then (p, none)
  else
    let synchronized := p.feed.synchronizeNext
    { p with feed := synchronized.1 }.takeSynchronized synchronized.2

/-- `process`, the direct path for a group that was synchronized elsewhere. -/
def process (group : MeasurementGroup D) (p : FastLioPipeline N) :
    FastLioPipeline N × ProcessResult N :=
  (p.setReason "").processInternal group false

def reset (p : FastLioPipeline N) : FastLioPipeline N where
  config := p.config
  feed := ⟨p.feed.buffer.clear, p.feed.synchronizer.reset⟩
  initializer := p.initializer.reset
  estimator := N.initializeState p.estimator N.mountedState
  registrationMap := N.emptyMap
  bootstrapMap := N.emptyMap
  localMapManager := p.localMapManager.reset
  lifecycle := {
    previousStatus := .resetting
    statusTransitionCount := 2
    reason := "RESET_COMPLETE" }
  state := N.mountedState
  covariance := N.estimatorCovariance (N.initializeState p.estimator N.mountedState)
  priorGeometry := p.priorGeometry
  initialPrior := initialPriorDiagnostics p.config
  generation := p.generation + 1

end FastLioPipeline

inductive PipelineCall (N : Numerics D) where
  | pushImu (sample : ImuSample D)
  | pushLidar (now : Int) (scan : LidarScan D)
  | submitInitialStatePrior (prior : InitialStatePrior D N.Covariance)
  | setInitialStatePriorGeometry (baseToImu : N.RigidTransform)
  | processNext
  | process (group : MeasurementGroup D)
  | superviseLidarTimeout (now : Int)

/-- What a call returns: a status, or a result when there is one. -/
inductive PipelineAnswer (N : Numerics D) where
  | status (status : Except Status Unit)
  | result (result : Option (ProcessResult N))

namespace FastLioPipeline

def step (p : FastLioPipeline N) : PipelineCall N → FastLioPipeline N × PipelineAnswer N
  | .pushImu sample => ((p.pushImu sample).1, .status (p.pushImu sample).2)
  | .pushLidar now scan => ((p.pushLidar now scan).1, .status (p.pushLidar now scan).2)
  | .submitInitialStatePrior prior =>
    ((p.submitInitialStatePrior prior).1, .status (p.submitInitialStatePrior prior).2)
  | .setInitialStatePriorGeometry baseToImu =>
    ((p.setInitialStatePriorGeometry baseToImu).1,
      .status (p.setInitialStatePriorGeometry baseToImu).2)
  | .processNext => (p.processNext.1, .result p.processNext.2)
  | .process group => ((p.process group).1, .result (some (p.process group).2))
  | .superviseLidarTimeout now => (p.superviseLidarTimeout now, .status (.ok ()))

end FastLioPipeline

/-- Numerics whose filter follows a script: which predictions and which corrections succeed. -/
def scripted (predictions corrections : List Bool) : Numerics (ExactReal ℚ) where
  State := Unit
  Covariance := Unit
  Estimator := List Bool × List Bool
  InitializationResult := Unit
  RigidTransform := Unit
  ImuTrajectory := Unit
  RegistrationMap := Nat
  mountedState := ()
  stateFinite _ := true
  normalize state := state
  positionOdomImu _ := ⟨.nonFinite, .nonFinite, .nonFinite⟩
  transformLidarPointToOdom _ point := point
  setInitialization _ state := state
  identityCovariance := ()
  covarianceFinite _ := true
  positiveSemidefinite covariance := some covariance
  inflateRecoveryCovariance covariance _ := (covariance, true)
  tryInitialize _ := .ok ()
  evidenceValid _ := true
  inFlightInitialization _ := ()
  identityGeometry := ()
  geometryFault _ := none
  applyPrior _ _ _ _ := .ok ()
  estimator := (predictions, corrections)
  initializeState estimator _ := estimator
  rebase estimator _ _ := estimator
  stateView _ := ()
  estimatorCovariance _ := ()
  predict estimator _ _ _ :=
    ((estimator.1.tail, estimator.2),
      if estimator.1.headD true then .ok ()
      else .error ⟨.numericalFailure, "IKFoM prediction produced non-finite state"⟩)
  correct estimator _ _ :=
    ((estimator.1, estimator.2.tail),
      if estimator.2.headD true then ⟨true, true, true, "IKFOM_LIDAR_UPDATE_CONVERGED", ()⟩
      else ⟨false, true, false, "IKFOM_LIDAR_UPDATE_NOT_CONVERGED", ()⟩)
  deskew scan _ _ := .ok scan
  preprocess scan := .ok scan
  emptyMap := 0
  mapSize count := count
  insert count points := count + points.length
  cropLocal count _ _ := count

/-- One sample is enough to start, one point is enough for an update. -/
def scriptedConfig (predictions corrections : List Bool) (confirmations : Nat)
    (hConfirmations : 0 < confirmations) : EstimatorConfig (scripted predictions corrections) where
  initialization := { minimumImuSamples := 1 }
  minimumPointCount := 1
  tracking := {
    recoveryConfirmationUpdates := confirmations
    updatesPositive := hConfirmations }
  priorValid :=
    have hValid : ({} : InitialStatePriorPolicy (ExactReal ℚ) Unit).fault (fun _ => true) = none := by
      decide +kernel
    hValid
  inflationFinite :=
    have hFinite : FloatOps.isFinite (FloatOps.lit 10 : ExactReal ℚ) = true := by decide +kernel
    hFinite
  inflationLower :=
    have hLower : ¬(FloatOps.lit 10 : ExactReal ℚ) < FloatOps.lit 1 := by decide +kernel
    hLower
  inflationUpper :=
    have hUpper : ¬(FloatOps.lit 1000 : ExactReal ℚ) < FloatOps.lit 10 := by decide +kernel
    hUpper
  gapsOrdered :=
    have hOrdered : (20000000 : Int) ≤ 50000000 := by decide
    hOrdered

/-- One scan, the sample that closes it, and the call that processes it. -/
def deliver {predictions corrections : List Bool} (now : Int) (startTime endTime : Timestamp) :
    List (PipelineCall (scripted predictions corrections)) :=
  [.pushLidar now (scanOver startTime endTime), .pushImu (sampleAt endTime), .processNext]

end UavNavigation.FastLio
