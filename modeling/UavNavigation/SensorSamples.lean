import UavNavigation.Floating

/-!
# Sensor time, sensor samples and the lifecycle

A time stamp is a signed 64-bit count of nanoseconds in one clock domain.
Two stamps of different domains are never subtracted, and a difference that
does not fit in 64 bits is an error. Samples, scans and estimates carry such
stamps. The lifecycle says in which status the estimator is, and why.
-/

namespace UavNavigation.FastLio

set_option autoImplicit false

inductive ClockDomain where
  | rosTime
  | simulationTime
  | sensorTime
  | systemTime
  | steadyTime
deriving DecidableEq

def ClockDomain.toString : ClockDomain → String
  | .rosTime => "ros_time"
  | .simulationTime => "simulation_time"
  | .sensorTime => "sensor_time"
  | .systemTime => "system_time"
  | .steadyTime => "steady_time"

inductive StatusCode where
  | ok
  | invalidArgument
  | outOfRange
  | clockDomainMismatch
  | timestampRegression
  | bufferFull
  | notReady
  | insufficientData
  | numericalFailure
  | frameMismatch
  | initializationRejected
  | deskewRejected
  | overlappingLidarInterval
  | imuGap
  | missingStartBracket
  | missingEndBracket
  | transportMessageLoss
deriving DecidableEq

structure Status where
  code : StatusCode
  message : String
deriving DecidableEq

def minInt64 : Int := -2 ^ 63

def maxInt64 : Int := 2 ^ 63 - 1

theorem minInt64_le_zero : minInt64 ≤ 0 := by decide

theorem zero_le_maxInt64 : 0 ≤ maxInt64 := by decide

structure Timestamp where
  nanoseconds : Int := 0
  clockDomain : ClockDomain := .rosTime
  lower : minInt64 ≤ nanoseconds := by first | exact minInt64_le_zero | decide
  upper : nanoseconds ≤ maxInt64 := by first | exact zero_le_maxInt64 | decide
deriving DecidableEq

namespace Timestamp

def sameClockDomain (t u : Timestamp) : Bool := t.clockDomain == u.clockDomain

def rosTime (nanoseconds : Int) : Timestamp :=
  if h : minInt64 ≤ nanoseconds ∧ nanoseconds ≤ maxInt64 then ⟨nanoseconds, .rosTime, h.1, h.2⟩
  else {}

def inDomain (t : Timestamp) (domain : ClockDomain) : Timestamp := { t with clockDomain := domain }

theorem ext {t u : Timestamp} (hTime : t.nanoseconds = u.nanoseconds)
    (hDomain : t.clockDomain = u.clockDomain) : t = u := by
  cases t
  cases u
  simp_all

theorem sameClockDomain_iff {t u : Timestamp} :
    t.sameClockDomain u = true ↔ t.clockDomain = u.clockDomain := by
  simp [sameClockDomain]

@[simp] theorem inDomain_nanoseconds (t : Timestamp) (domain : ClockDomain) :
    (t.inDomain domain).nanoseconds = t.nanoseconds := rfl

end Timestamp

def clockMismatch (lhs rhs : Timestamp) : Status :=
  ⟨.clockDomainMismatch, "Cannot combine timestamps from " ++ lhs.clockDomain.toString ++ " and " ++
      rhs.clockDomain.toString⟩

def checkedDifference (lhs rhs : Timestamp) : Except Status Int :=
  if !lhs.sameClockDomain rhs then .error (clockMismatch lhs rhs)
  else if rhs.nanoseconds < 0 ∧ maxInt64 + rhs.nanoseconds < lhs.nanoseconds ∨
      0 < rhs.nanoseconds ∧ lhs.nanoseconds < minInt64 + rhs.nanoseconds then
    .error ⟨.outOfRange, "Timestamp difference overflows int64"⟩
  else .ok (lhs.nanoseconds - rhs.nanoseconds)

def checkedAdd (timestamp : Timestamp) (duration : Int) : Except Status Timestamp :=
  let sum := timestamp.nanoseconds + duration
  if h : minInt64 ≤ sum ∧ sum ≤ maxInt64 then .ok ⟨sum, timestamp.clockDomain, h.1, h.2⟩
  else .error ⟨.outOfRange, "Duration addition overflows int64"⟩

def checkedSubtract (timestamp : Timestamp) (duration : Int) : Except Status Timestamp :=
  let difference := timestamp.nanoseconds - duration
  if h : minInt64 ≤ difference ∧ difference ≤ maxInt64 then
    .ok ⟨difference, timestamp.clockDomain, h.1, h.2⟩
  else .error ⟨.outOfRange, "Duration subtraction overflows int64"⟩

variable {lhs rhs : Timestamp}

theorem checkedDifference_ok {d : Int} (h : checkedDifference lhs rhs = .ok d) :
    lhs.clockDomain = rhs.clockDomain ∧ d = lhs.nanoseconds - rhs.nanoseconds := by
  unfold checkedDifference at h
  split at h
  · cases h
  rename_i hDomain
  split at h
  · cases h
  cases h
  exact ⟨by simpa [Timestamp.sameClockDomain] using hDomain, rfl⟩

theorem checkedDifference_error {status : Status} (h : checkedDifference lhs rhs = .error status) :
    status.code = .clockDomainMismatch ∨ status.code = .outOfRange := by
  unfold checkedDifference at h
  split at h
  · cases h
    exact .inl rfl
  split at h
  · cases h
    exact .inr rfl
  · cases h

theorem checkedAdd_ok {timestamp next : Timestamp} {duration : Int}
    (h : checkedAdd timestamp duration = .ok next) :
    next.nanoseconds = timestamp.nanoseconds + duration := by
  unfold checkedAdd at h
  dsimp only at h
  split at h
  · cases h
    rfl
  · cases h

theorem checkedDifference_of_fits (hDomain : lhs.clockDomain = rhs.clockDomain)
    (hLower : minInt64 ≤ lhs.nanoseconds - rhs.nanoseconds)
    (hUpper : lhs.nanoseconds - rhs.nanoseconds ≤ maxInt64) :
    checkedDifference lhs rhs = .ok (lhs.nanoseconds - rhs.nanoseconds) := by
  have hFits : ¬(rhs.nanoseconds < 0 ∧ maxInt64 + rhs.nanoseconds < lhs.nanoseconds ∨
      0 < rhs.nanoseconds ∧ lhs.nanoseconds < minInt64 + rhs.nanoseconds) := by omega
  unfold checkedDifference
  rw [if_neg (by simp [Timestamp.sameClockDomain, hDomain]), if_neg hFits]

theorem checkedDifference_of_nonneg (hDomain : lhs.clockDomain = rhs.clockDomain)
    (hLhs : 0 ≤ lhs.nanoseconds) (hRhs : 0 ≤ rhs.nanoseconds) :
    checkedDifference lhs rhs = .ok (lhs.nanoseconds - rhs.nanoseconds) := by
  have hLhsUpper := lhs.upper
  have hRhsUpper := rhs.upper
  unfold maxInt64 at hLhsUpper hRhsUpper
  apply checkedDifference_of_fits hDomain
  · unfold minInt64
    omega
  · unfold maxInt64
    omega

structure TimestampValidatorConfig where
  expectedClockDomain : Option ClockDomain := none
  rejectRegression : Bool := true
  allowEqualTimestamps : Bool := true
deriving DecidableEq

structure TimestampValidator where
  config : TimestampValidatorConfig
  lastTimestamp : Option Timestamp := none
deriving DecidableEq

/-- The verdict on the next stamp and the validator that has seen it. -/
def TimestampValidator.validate (v : TimestampValidator) (timestamp : Timestamp) :
    Except Status TimestampValidator :=
  if !v.config.expectedClockDomain.all fun domain => timestamp.clockDomain == domain then
    .error ⟨.clockDomainMismatch,
      "Expected clock domain " ++ (v.config.expectedClockDomain.getD .rosTime).toString ++
        ", received " ++ timestamp.clockDomain.toString⟩
  else
    match v.lastTimestamp with
    | none => .ok { v with lastTimestamp := some timestamp }
    | some last =>
      if !timestamp.sameClockDomain last then
        .error ⟨.clockDomainMismatch, "Clock domain changed within one measurement stream"⟩
      else
        let regressed := timestamp.nanoseconds < last.nanoseconds
        let repeated := timestamp.nanoseconds = last.nanoseconds
        if regressed ∨ repeated ∧ v.config.allowEqualTimestamps = false then
          if v.config.rejectRegression ∨ repeated then
            .error ⟨.timestampRegression,
              if regressed then "Timestamp regressed" else "Repeated timestamp is not allowed"⟩
          else
            -- an out-of-order stamp leaves the frontier where it is
            .ok v
        else .ok { v with lastTimestamp := some timestamp }

variable {D : Type} [FloatOps D]

structure ImuSample (D : Type) where
  time : Timestamp
  angularVelocityImuRadS : Vec3 D
  linearAccelerationImuMS2 : Vec3 D
deriving DecidableEq

/-- `validate`: what is wrong with the sample. -/
def ImuSample.fault (sample : ImuSample D) : Option Status :=
  if sample.time.nanoseconds ≤ 0 then
    some ⟨.invalidArgument, "IMU sample timestamp must be positive"⟩
  else if !sample.angularVelocityImuRadS.allFinite ||
      !sample.linearAccelerationImuMS2.allFinite then
    some ⟨.invalidArgument, "IMU sample contains non-finite values"⟩
  else none

structure LidarPoint (D : Type) where
  positionLidarM : Vec3 D
  relativeTimeNs : Nat := 0
  reflectivity : UInt8 := 0
  tag : UInt8 := 0
  line : UInt8 := 0
deriving DecidableEq

structure LidarScan (D : Type) where
  startTime : Timestamp
  endTime : Timestamp
  points : List (LidarPoint D)
  hasPerPointTime : Bool := false
deriving DecidableEq

def LidarScan.pointFault (scan : LidarScan D) (durationNs : Int) (point : LidarPoint D) :
    Option Status :=
  if !point.positionLidarM.allFinite then
    some ⟨.invalidArgument, "LiDAR scan contains a non-finite point"⟩
  else if !scan.hasPerPointTime && point.relativeTimeNs != 0 then
    some ⟨.invalidArgument, "Point relative time must be zero for a simultaneous scan"⟩
  else if scan.hasPerPointTime && durationNs < point.relativeTimeNs then
    some ⟨.outOfRange, "Point relative time lies outside scan interval"⟩
  else none

/-- `validate`: what is wrong with the scan. -/
def LidarScan.fault (scan : LidarScan D) : Option Status :=
  if scan.startTime.nanoseconds ≤ 0 ∨ scan.endTime.nanoseconds ≤ 0 then
    some ⟨.invalidArgument, "LiDAR scan timestamps must be positive"⟩
  else
    match checkedDifference scan.endTime scan.startTime with
    | .error status => some status
    | .ok durationNs =>
      if durationNs < 0 ∨ durationNs = 0 ∧ scan.hasPerPointTime then
        some ⟨.timestampRegression,
          if scan.hasPerPointTime then "Timed LiDAR scan must have positive duration"
          else "LiDAR scan end precedes scan start"⟩
      else if scan.points.isEmpty then
        some ⟨.invalidArgument, "LiDAR scan contains no points"⟩
      else scan.points.findSome? (scan.pointFault durationNs)

/-- The first thing wrong with a sequence of samples in the clock domain of `start`. -/
def orderFault (domainFault regressionFault : Status) (start : Timestamp) :
    Option Timestamp → List (ImuSample D) → Option Status
  | _, [] => none
  | previous, sample :: rest =>
    match sample.fault with
    | some status => some status
    | none =>
      if !sample.time.sameClockDomain start then some domainFault
      else if previous.any fun t => sample.time.nanoseconds ≤ t.nanoseconds then
        some regressionFault
      else orderFault domainFault regressionFault start (some sample.time) rest

structure StateEstimate (State Covariance : Type) where
  time : Timestamp
  state : State
  covariance : Covariance
deriving DecidableEq

def StateEstimate.allFinite {State Covariance : Type} (stateFinite : State → Bool)
    (covarianceFinite : Covariance → Bool) (e : StateEstimate State Covariance) : Bool :=
  stateFinite e.state && covarianceFinite e.covariance

def sampleAt (time : Timestamp) : ImuSample D := ⟨time, Vec3.zero, Vec3.zero⟩

def scanOver (startTime endTime : Timestamp) : LidarScan D :=
  { startTime := startTime, endTime := endTime, points := [{ positionLidarM := Vec3.zero }] }

theorem ImuSample.positive {sample : ImuSample D} (h : sample.fault = none) :
    0 < sample.time.nanoseconds := by
  unfold fault at h
  split at h
  · cases h
  · omega

theorem LidarScan.interval {scan : LidarScan D} (h : scan.fault = none) :
    0 < scan.startTime.nanoseconds ∧ scan.startTime.nanoseconds ≤ scan.endTime.nanoseconds ∧
      scan.endTime.clockDomain = scan.startTime.clockDomain := by
  unfold fault at h
  split at h
  · cases h
  split at h
  · cases h
  rename_i hDifference
  obtain ⟨hDomain, rfl⟩ := checkedDifference_ok hDifference
  split at h
  · cases h
  exact ⟨by omega, by omega, hDomain⟩

/-! ## The lifecycle of the estimator -/

inductive EstimatorStatus where
  | waitingForSensors
  | collectingImu
  | initializingImu
  | initializingMap
  | tracking
  | degraded
  | lost
  | resetting
deriving DecidableEq

inductive LidarUpdateFailureClass where
  | none
  | synchronization
  | prediction
  | deskew
  | preprocessing
  | insufficientPoints
  | registration
  | propagationDiscontinuity
  | stateCorruption
deriving DecidableEq

inductive LifecycleCause where
  | startup
  | confirmed
  | corrected
  | uncorrected (failureClass : LidarUpdateFailureClass)
  | discontinuity
  | initialMapFailure
  | mapGuard
  | lidarTimeout
deriving DecidableEq

structure LifecycleEvent where
  cause : LifecycleCause
  before : EstimatorStatus
  after : EstimatorStatus
deriving DecidableEq

structure LifecycleConfig where
  maximumInitialMapRegistrationFailures : Nat := 10
  lostAfterRegistrationFailures : Nat := 5
  degradedAfterLidarGapNs : Int := 200000000
  lostAfterLidarGapNs : Int := 1000000000
  initialFailuresPositive : 0 < maximumInitialMapRegistrationFailures := by decide
  failuresPositive : 0 < lostAfterRegistrationFailures := by decide
  gapPositive : 0 < degradedAfterLidarGapNs := by decide
  gapsOrdered : degradedAfterLidarGapNs ≤ lostAfterLidarGapNs := by decide
deriving DecidableEq

structure Lifecycle where
  status : EstimatorStatus := .waitingForSensors
  consecutiveUncorrectedLidarUpdates : Nat := 0
  consecutiveRecoverySuccesses : Nat := 0
  initialMapRegistrationFailures : Nat := 0
  mapRecoveryRequired : Bool := false
  trackingEverConfirmed : Bool := false
  previousStatus : EstimatorStatus := .waitingForSensors
  statusTransitionCount : Nat := 0
  lastUpdateFailureClass : LidarUpdateFailureClass := .none
  reason : String := ""
  journal : List LifecycleEvent := []
deriving DecidableEq

namespace EstimatorStatus

/-- `statusUsesEstimatorState`. -/
def usesEstimatorState : EstimatorStatus → Bool
  | .initializingMap | .tracking | .degraded | .lost => true
  | _ => false

def recovering : EstimatorStatus → Bool
  | .degraded | .lost => true
  | _ => false

end EstimatorStatus

namespace Lifecycle

def transitionTo (next : EstimatorStatus) (reason : String) (l : Lifecycle) : Lifecycle :=
  if l.status ≠ next then
    { l with
      previousStatus := l.status
      status := next
      statusTransitionCount := l.statusTransitionCount + 1
      reason := reason }
  else { l with reason := reason }

def record (cause : LifecycleCause) (operation : Lifecycle → Lifecycle) (l : Lifecycle) :
    Lifecycle :=
  { operation l with journal := l.journal ++ [⟨cause, l.status, (operation l).status⟩] }

/-- A transition of the start-up, before the estimator has a state. -/
def startUp (next : EstimatorStatus) (reason : String) (l : Lifecycle) : Lifecycle :=
  l.record .startup (transitionTo next reason)

def recordUncorrectedUpdate (config : LifecycleConfig) (failureClass : LidarUpdateFailureClass)
    (l : Lifecycle) : Lifecycle :=
  let l := { l with lastUpdateFailureClass := failureClass }
  if !l.trackingEverConfirmed then l
  else
    l.record (.uncorrected failureClass) fun l =>
      let l := { l with
        consecutiveUncorrectedLidarUpdates := l.consecutiveUncorrectedLidarUpdates + 1
        consecutiveRecoverySuccesses := 0 }
      if config.lostAfterRegistrationFailures ≤ l.consecutiveUncorrectedLidarUpdates then
        l.transitionTo .lost "LIDAR_UPDATE_FAILURE_LIMIT_REACHED"
      else if l.status ≠ .lost then l.transitionTo .degraded "LIDAR_UPDATE_UNCORRECTED"
      else l

/-- A correction was accepted: tracking starts, or the recovery counts it. -/
def acceptCorrection (recoveryConfirmationUpdates : Nat) (converged : Bool) (l : Lifecycle) :
    Lifecycle :=
  let l := { l with initialMapRegistrationFailures := 0 }
  let l :=
    if !l.trackingEverConfirmed then
      l.record .confirmed fun l =>
        { l with
          trackingEverConfirmed := true
          consecutiveUncorrectedLidarUpdates := 0
          consecutiveRecoverySuccesses := 0 }.transitionTo .tracking
            (if converged then "LIDAR_CORRECTION_CONVERGED"
              else "LIDAR_CORRECTION_ACCEPTED_AT_ITERATION_LIMIT")
    else
      l.record .corrected fun l =>
        if l.status.recovering then
          let l := { l with consecutiveRecoverySuccesses := l.consecutiveRecoverySuccesses + 1 }
          if l.mapRecoveryRequired then
            if l.status ≠ .lost then l.transitionTo .degraded "LOCAL_MAP_RECOVERY_REQUIRED" else l
          else if recoveryConfirmationUpdates ≤ l.consecutiveRecoverySuccesses then
            { l with
              consecutiveUncorrectedLidarUpdates := 0
              consecutiveRecoverySuccesses := 0 }.transitionTo .tracking "LIDAR_RECOVERY_CONFIRMED"
          else l.transitionTo .degraded "LIDAR_RECOVERY_CONFIRMATION_PENDING"
        else l
  { l with lastUpdateFailureClass := .none }

/-- A registration failure while the initial map is built counts towards giving up. -/
def failInitialMap (config : LifecycleConfig) (l : Lifecycle) : Lifecycle :=
  if l.status = .initializingMap then
    let l := { l with initialMapRegistrationFailures := l.initialMapRegistrationFailures + 1 }
    if config.maximumInitialMapRegistrationFailures ≤ l.initialMapRegistrationFailures then
      l.record .initialMapFailure (transitionTo .lost "INITIAL_MAP_REGISTRATION_EXHAUSTED")
    else l
  else l

/-- The local map stayed above its guard: recovery needs a reset from here on. -/
def exceedMapGuard (l : Lifecycle) : Lifecycle :=
  let l := { l with mapRecoveryRequired := true }
  if l.status = .tracking then
    l.record .mapGuard (transitionTo .degraded "LOCAL_MAP_ABSOLUTE_GUARD_EXCEEDED")
  else l

/-- The map is frozen already, so the recovery is owed from before. -/
def requireMapRecovery (l : Lifecycle) : Lifecycle := { l with mapRecoveryRequired := true }

def restartInitialMap (l : Lifecycle) : Lifecycle := { l with initialMapRegistrationFailures := 0 }

def discontinue (next : EstimatorStatus) (reason : String) (l : Lifecycle) : Lifecycle :=
  l.record .discontinuity (transitionTo next reason)

/-- `superviseLidarTimeout`, `elapsedNs` after the last accepted scan. -/
def superviseLidarTimeout (config : LifecycleConfig) (elapsedNs : Int) (l : Lifecycle) :
    Lifecycle :=
  let l :=
    if l.status = .tracking ∧ config.degradedAfterLidarGapNs ≤ elapsedNs then
      l.record .lidarTimeout (transitionTo .degraded "LIDAR_TIMEOUT_DEGRADED_INERTIAL")
    else l
  if l.status = .degraded ∧ config.lostAfterLidarGapNs ≤ elapsedNs then
    l.record .lidarTimeout (transitionTo .lost "LIDAR_TIMEOUT_LOST")
  else l

def setReason (reason : String) (l : Lifecycle) : Lifecycle := { l with reason := reason }

/-- What `fillStateDiagnostics` reports as `navigation_valid`. -/
def navigationValid (l : Lifecycle) : Bool := l.trackingEverConfirmed && l.status = .tracking

end Lifecycle

end UavNavigation.FastLio
