import UavNavigation.MeasurementBuffer
import UavNavigation.PairFolds

/-!
# Predicting with the filter

The estimator integrates samples one interval at a time. The first and the last
sample are interpolated at the ends of the interval asked for. An interval that
cannot be integrated leaves the state as it was.

The state propagator predicts over the recorded samples from the last corrected state,
for the odometry between two corrections.

The filter itself is a parameter: what one prediction step does to its state and
covariance, and which states are sane.
-/

namespace UavNavigation.FastLio

open FloatOps OrderedQueues PairFolds

set_option autoImplicit false

variable {D : Type} [FloatOps D]

structure IkfomInput (D : Type) where
  gyro : Vec3 D
  acc : Vec3 D
deriving DecidableEq

structure ImuTrajectoryState (D : Type) where
  time : Timestamp
  orientationOdomImu : Quaternion D
  positionOdomImuM : Vec3 D
  velocityOdomImuMS : Vec3 D
deriving DecidableEq

/-- The filter library and the manifold state, as far as the estimator uses them to predict. -/
structure FilterKernel (D : Type) [FloatOps D] where
  FilterState : Type
  Covariance : Type
  State : Type
  defaultState : State
  initialFilterState : FilterState
  initialFilterCovariance : Covariance
  toIkfomState : State → FilterState
  fromIkfomState : FilterState → State
  gravityVector : State → Vec3 D
  withGravity : FilterState → Vec3 D → FilterState
  /-- The rows and columns of gravity set to their fixed values. -/
  withFixedGravity : Covariance → Covariance
  /-- The covariance `initialize` starts from. -/
  startCovariance : Covariance
  filterPredict : FilterState → Covariance → D → IkfomInput D → FilterState × Covariance
  stateFinite : State → Bool
  covarianceFinite : Covariance → Bool
  covarianceSaneDuringPrediction : Covariance → Bool
  /-- Finite, symmetric and positive semidefinite up to rounding. -/
  covarianceValid : Covariance → Bool
  orientationOdomImu : State → Quaternion D
  positionOdomImuM : State → Vec3 D
  velocityOdomImuMS : State → Vec3 D
  gyroBiasRadS : State → Vec3 D

structure IkfomEstimator (K : FilterKernel D) where
  x : K.FilterState := K.initialFilterState
  P : K.Covariance := K.initialFilterCovariance
  /-- The gravity kept from the first state, when there was one. -/
  fixedGravityOdomMS2 : Option (Vec3 D) := none

def ImuTrajectoryState.allFinite (state : ImuTrajectoryState D) : Bool :=
  state.orientationOdomImu.allFinite && state.positionOdomImuM.allFinite &&
    state.velocityOdomImuMS.allFinite && isFinite state.orientationOdomImu.squaredNorm &&
    decide (lit (1 / 10 ^ 24) < state.orientationOdomImu.squaredNorm)

/-- `ImuTrajectory::addState`. -/
def addState (states : List (ImuTrajectoryState D)) (state : ImuTrajectoryState D) :
    Except Status (List (ImuTrajectoryState D)) :=
  if !state.allFinite then
    .error ⟨.numericalFailure, "IMU trajectory state is not finite"⟩
  else if states.getLast?.any fun last => !last.time.sameClockDomain state.time then
    .error ⟨.clockDomainMismatch, "IMU trajectory clock domain changed"⟩
  else if states.getLast?.any fun last => state.time.nanoseconds ≤ last.time.nanoseconds then
    .error ⟨.timestampRegression, "IMU trajectory timestamps must be strictly increasing"⟩
  else .ok (states ++ [{ state with orientationOdomImu := state.orientationOdomImu.normalized }])

/-! ## The samples -/

def interpolateSample (samples : List (ImuSample D)) (time : Timestamp) :
    Except Status (ImuSample D) :=
  let upper := lowerBound imuTime samples time.nanoseconds
  match samples[upper]? with
  | none =>
    .error ⟨.insufficientData, "No IMU sample at or after IKFoM prediction boundary"⟩
  | some after =>
    if imuTime after = time.nanoseconds then .ok after
    else
      match (samples.take upper).getLast? with
      | none =>
        .error ⟨.insufficientData, "No IMU sample at or before IKFoM prediction boundary"⟩
      | some before =>
        match checkedDifference after.time before.time with
        | .error status => .error status
        | .ok intervalNs =>
          if intervalNs ≤ 0 then
            .error ⟨.timestampRegression, "IMU timestamps must be strictly increasing"⟩
          else
            match checkedDifference time before.time with
            | .error status => .error status
            | .ok elapsedNs =>
              let alpha : D := ofInt elapsedNs / ofInt intervalNs
              if isFinite alpha = false ∨ alpha < lit 0 ∨ lit 1 < alpha then
                .error ⟨.numericalFailure, "IKFoM interpolation ratio is not finite"⟩
              else
                .ok {
                  time := time
                  angularVelocityImuRadS :=
                    Vec3.scale (lit 1 - alpha) before.angularVelocityImuRadS +
                      Vec3.scale alpha after.angularVelocityImuRadS
                  linearAccelerationImuMS2 :=
                    Vec3.scale (lit 1 - alpha) before.linearAccelerationImuMS2 +
                      Vec3.scale alpha after.linearAccelerationImuMS2 }

def toIkfomInput (previous current : ImuSample D) : IkfomInput D where
  gyro := Vec3.scale (lit (1 / 2))
    (previous.angularVelocityImuRadS + current.angularVelocityImuRadS)
  acc := Vec3.scale (lit (1 / 2))
    (previous.linearAccelerationImuMS2 + current.linearAccelerationImuMS2)

/-- The samples that are integrated: the boundary samples and what lies strictly between them. -/
def integrationSamples (samples : List (ImuSample D)) (startTime endTime : Timestamp)
    (startSample endSample : ImuSample D) : List (ImuSample D) :=
  startSample :: ((samples.filter fun x =>
        startTime.nanoseconds < imuTime x ∧ imuTime x < endTime.nanoseconds) ++
      if startTime.nanoseconds < endTime.nanoseconds then [endSample] else [])

def stepFault (maximumIntegrationStepNs : Int) : List (ImuSample D) → Option Status
  | previous :: current :: rest =>
    match checkedDifference current.time previous.time with
    | .error status => some status
    | .ok dtNs =>
      if dtNs ≤ 0 ∨ maximumIntegrationStepNs < dtNs then
        some ⟨.insufficientData, "IKFoM integration step is zero, negative or too large"⟩
      else if !(toIkfomInput previous current).gyro.allFinite ||
          !(toIkfomInput previous current).acc.allFinite then
        some ⟨.invalidArgument, "IKFoM integration input is non-finite"⟩
      else stepFault maximumIntegrationStepNs (current :: rest)
  | _ => none

namespace IkfomEstimator
variable {K : FilterKernel D}

def stateView (e : IkfomEstimator K) : K.State := K.fromIkfomState e.x

def covariance (e : IkfomEstimator K) : K.Covariance := e.P

def gravityUsable (gravity : Vec3 D) : Bool :=
  gravity.allFinite && decide (lit (1 / 10 ^ 18) < gravity.squaredNorm)

def setFilter (x : K.FilterState) (P : K.Covariance) (e : IkfomEstimator K) : IkfomEstimator K :=
  if e.fixedGravityOdomMS2.any gravityUsable then
    { e with
      x := K.withGravity x (e.fixedGravityOdomMS2.getD Vec3.zero)
      P := K.withFixedGravity P }
  else { e with x := x, P := P }

/-- `initialize` and `reset`. -/
def initializeState (state : K.State) (e : IkfomEstimator K) : IkfomEstimator K :=
  { e with fixedGravityOdomMS2 := some (K.gravityVector state) }.setFilter
    (K.toIkfomState state) K.startCovariance

def rebase (state : K.State) (covariance : K.Covariance) (e : IkfomEstimator K) :
    IkfomEstimator K :=
  { e with fixedGravityOdomMS2 := e.fixedGravityOdomMS2.or (some (K.gravityVector state)) }.setFilter
    (K.toIkfomState state) covariance

def secondsOf (dtNs : Int) : D := ofInt dtNs * lit (1 / 10 ^ 9)

/-- One step of the filter, over the interval between two samples. -/
def advance (e : IkfomEstimator K) (previous current : ImuSample D) : IkfomEstimator K :=
  let predicted := K.filterPredict e.x e.P (secondsOf (imuTime current - imuTime previous))
    (toIkfomInput previous current)
  { e with x := predicted.1, P := predicted.2 }

def trajectoryState (time : Timestamp) (e : IkfomEstimator K) : ImuTrajectoryState D where
  time := time
  orientationOdomImu := K.orientationOdomImu e.stateView
  positionOdomImuM := K.positionOdomImuM e.stateView
  velocityOdomImuMS := K.velocityOdomImuMS e.stateView

/-- The steps over the integration samples, until one of them fails. -/
def integrate (states : List (ImuTrajectoryState D)) : List (ImuSample D) → IkfomEstimator K →
      IkfomEstimator K × Except Status (List (ImuTrajectoryState D))
  | previous :: current :: rest, e =>
    match checkedDifference current.time previous.time with
    | .error status => (e, .error status)
    | .ok _ =>
      let e := e.advance previous current
      if !K.stateFinite e.stateView || !K.covarianceSaneDuringPrediction e.P then
        (e, .error ⟨.numericalFailure, "IKFoM prediction produced non-finite state"⟩)
      else
        match addState states (e.trajectoryState current.time) with
        | .error status => (e, .error status)
        | .ok states => integrate states (current :: rest) e
  | _, e => (e, .ok states)

/-- The samples of a prediction after every check made before the filter moves. -/
def prepare (maximumIntegrationStepNs : Int) (samples : List (ImuSample D))
    (startTime endTime : Timestamp) : Except Status (List (ImuSample D)) :=
  match checkedDifference endTime startTime with
  | .error status => .error status
  | .ok durationNs =>
    if durationNs < 0 then
      .error ⟨.timestampRegression, "IKFoM prediction end precedes start"⟩
    else if samples.isEmpty then
      .error ⟨.insufficientData, "No IMU samples supplied to IKFoM"⟩
    else
      match orderFault ⟨.clockDomainMismatch, "IMU and IKFoM prediction use different clocks"⟩
          ⟨.timestampRegression, "IMU timestamps must be strictly increasing"⟩
          startTime none samples with
      | some status => .error status
      | none =>
        match interpolateSample samples startTime, interpolateSample samples endTime with
        | .error status, _ => .error status
        | .ok _, .error status => .error status
        | .ok startSample, .ok endSample =>
          let integration := integrationSamples samples startTime endTime startSample endSample
          match stepFault maximumIntegrationStepNs integration with
          | some status => .error status
          | none => .ok integration

def predict (maximumIntegrationStepNs : Int) (samples : List (ImuSample D))
    (startTime endTime : Timestamp) (e : IkfomEstimator K) :
    IkfomEstimator K × Except Status (List (ImuTrajectoryState D)) :=
  match prepare maximumIntegrationStepNs samples startTime endTime with
  | .error status => (e, .error status)
  | .ok integration =>
    match addState [] (e.trajectoryState startTime) with
    | .error status => (e, .error status)
    | .ok states =>
      match e.integrate states integration with
      | (moved, .error status) => ({ moved with x := e.x, P := e.P }, .error status)
      | (moved, .ok states) => (moved, .ok states)

end IkfomEstimator

/-! ## The state propagator

A correction anchors the state and replays the history from there; later samples wait
until they are flushed. What goes wrong leaves the propagator invalid until the next
correction. No operation reads `recorded`, what was recorded since the history was last
cleared, nor `applied`, the last correction replayed successfully. -/

inductive PropagatedOdometryStatus where
  | waitingForCorrection
  | ready
  | timestampRegression
  | imuGap
  | missingBracket
  | invalidState
  | staleCorrection
  | mainEstimatorInvalid
  | queueOverflow
deriving DecidableEq

theorem defaultStep_pos : (0 : Int) < 20000000 := by decide

@[ext] structure ImuStatePropagatorConfig where
  maximumIntegrationStepNs : Int := 20000000
  imuHistoryDurationNs : Int := 1000000000
  stepPositive : 0 < maximumIntegrationStepNs := by first | exact defaultStep_pos | decide
  durationPositive : 0 < imuHistoryDurationNs := by decide

instance : DecidableEq ImuStatePropagatorConfig := fun _ _ => decidable_of_iff _ ImuStatePropagatorConfig.ext_iff.symm

inductive ImuRecordDisposition where
  | recorded
  | continuityRestarted
  | rejected
deriving DecidableEq

/-- What recording a sample reports; no fault is an ok status. -/
structure ImuRecordResult where
  fault : Option Status
  disposition : ImuRecordDisposition
deriving DecidableEq

abbrev FilterKernel.Estimate (K : FilterKernel D) : Type := StateEstimate K.State K.Covariance

def FilterKernel.estimateFinite (K : FilterKernel D) (e : K.Estimate) : Bool :=
  e.allFinite K.stateFinite K.covarianceFinite

structure KinematicStateEstimate (K : FilterKernel D) where
  estimate : K.Estimate
  angularVelocityImuRadS : Vec3 D

structure ImuStatePropagator (K : FilterKernel D) where
  config : ImuStatePropagatorConfig
  estimator : IkfomEstimator K := {}
  history : List (ImuSample D) := []
  pendingPredictionSamples : List (ImuSample D) := []
  previousImuSample : Option (ImuSample D) := none
  valid : Bool := false
  requiresReanchor : Bool := true
  continuityEpoch : Nat := 0
  status : PropagatedOdometryStatus := .waitingForCorrection
  anchorTime : Option Timestamp := none
  propagatedTime : Option Timestamp := none
  latestImuTime : Option Timestamp := none
  recorded : List (ImuSample D) := []
  applied : Option K.Estimate := none

namespace ImuStatePropagator
variable {K : FilterKernel D}

def failureStatus : StatusCode → PropagatedOdometryStatus
  | .timestampRegression => .timestampRegression
  | .imuGap | .insufficientData => .imuGap
  | .missingStartBracket | .missingEndBracket => .missingBracket
  | _ => .invalidState

def invalidate (status : PropagatedOdometryStatus) (p : ImuStatePropagator K) :
    ImuStatePropagator K :=
  { p with
    valid := false
    requiresReanchor := true
    pendingPredictionSamples := []
    status := status }

def setFailure (failure : Status) (p : ImuStatePropagator K) : ImuStatePropagator K :=
  p.invalidate (failureStatus failure.code)

/-- Drops samples from the front while the one behind them is old enough, too. -/
def dropBefore (cutoffNs : Int) : List (ImuSample D) → List (ImuSample D)
  | front :: next :: rest =>
    if imuTime next < cutoffNs then dropBefore cutoffNs (next :: rest) else front :: next :: rest
  | history => history

def pruneHistory (p : ImuStatePropagator K) : ImuStatePropagator K :=
  match p.latestImuTime with
  | none => p
  | some latest =>
    if latest.nanoseconds ≤ p.config.imuHistoryDurationNs then p
    else
      match checkedSubtract latest p.config.imuHistoryDurationNs with
      | .error status => p.setFailure status
      | .ok cutoff => { p with history := dropBefore cutoff.nanoseconds p.history }

def rejectImu (failure : Status) (p : ImuStatePropagator K) :
    ImuStatePropagator K × ImuRecordResult :=
  (p.setFailure failure, ⟨some failure, .rejected⟩)

def restartContinuity (sample : ImuSample D) (p : ImuStatePropagator K) :
    ImuStatePropagator K × ImuRecordResult :=
  let p := { p with valid := false, requiresReanchor := true }
  if p.continuityEpoch = 2 ^ 64 - 1 then
    p.rejectImu ⟨.outOfRange, "IMU continuity epoch is exhausted"⟩
  else
    ({ p with
        continuityEpoch := p.continuityEpoch + 1
        status := .imuGap
        history := [sample]
        pendingPredictionSamples := []
        previousImuSample := some sample
        anchorTime := none
        propagatedTime := none
        latestImuTime := some sample.time
        recorded := [sample] },
      ⟨some ⟨.imuGap, "IMU integration gap started a new continuity epoch"⟩, .continuityRestarted⟩)

/-- The part of `validateAndRecordImu` after the checks. -/
def recordImu (sample : ImuSample D) (appendPendingPrediction : Bool) (p : ImuStatePropagator K) :
    ImuStatePropagator K × ImuRecordResult :=
  let p := { p with
    history := p.history ++ [sample]
    recorded := p.recorded ++ [sample]
    latestImuTime := some sample.time
    previousImuSample := p.previousImuSample.or (some sample)
    pendingPredictionSamples :=
      if appendPendingPrediction && !p.requiresReanchor && p.propagatedTime.isSome then
        p.pendingPredictionSamples ++ [sample]
      else p.pendingPredictionSamples }
  (p.pruneHistory, ⟨none, .recorded⟩)

def validateAndRecordImu (sample : ImuSample D) (appendPendingPrediction : Bool)
    (p : ImuStatePropagator K) : ImuStatePropagator K × ImuRecordResult :=
  match sample.fault with
  | some status => p.rejectImu status
  | none =>
    match p.latestImuTime with
    | none => p.recordImu sample appendPendingPrediction
    | some latest =>
      if !sample.time.sameClockDomain latest then
        p.rejectImu ⟨.clockDomainMismatch, "Propagated IMU clock domain changed"⟩
      else if sample.time.nanoseconds ≤ latest.nanoseconds then
        p.rejectImu ⟨.timestampRegression, "Propagated IMU timestamp is not increasing"⟩
      else
        match checkedDifference sample.time latest with
        | .error status => p.rejectImu status
        | .ok intervalNs =>
          if p.config.maximumIntegrationStepNs < intervalNs then p.restartContinuity sample
          else p.recordImu sample appendPendingPrediction

def acceptImu (sample : ImuSample D) (p : ImuStatePropagator K) :
    ImuStatePropagator K × ImuRecordResult := p.validateAndRecordImu sample true

def recordImuForReplay (sample : ImuSample D) (p : ImuStatePropagator K) :
    ImuStatePropagator K × ImuRecordResult := p.validateAndRecordImu sample false

def ready (p : ImuStatePropagator K) : ImuStatePropagator K :=
  { p with valid := true, requiresReanchor := false, status := .ready }

def flushPendingPrediction (p : ImuStatePropagator K) : ImuStatePropagator K × Except Status Unit :=
  match p.propagatedTime, p.pendingPredictionSamples.getLast? with
  | some propagated, some last =>
    if p.requiresReanchor then
      (p, .error ⟨.notReady, "Propagated output requires a successful correction replay"⟩)
    else
      match p.estimator.predict p.config.maximumIntegrationStepNs
          (p.previousImuSample.toList ++ p.pendingPredictionSamples) propagated last.time with
      | (estimator, .error status) =>
        ({ p with estimator := estimator }.setFailure status, .error status)
      | (estimator, .ok _) =>
        ({ p with
            estimator := estimator
            propagatedTime := some last.time
            previousImuSample := some last
            pendingPredictionSamples := [] }.ready, .ok ())
  | _, _ => (p, .ok ())

/-- Where a replay from `boundary` begins. -/
def bracketHistory (boundary : Timestamp) (history : List (ImuSample D)) : Except Status Nat :=
  if history.isEmpty then
    .error ⟨.missingStartBracket, "No IMU history is available for replay"⟩
  else
    let upper := lowerBound imuTime history boundary.nanoseconds
    match history[upper]? with
    | none => .error ⟨.missingEndBracket, "No IMU sample at or after replay boundary"⟩
    | some sample =>
      if imuTime sample = boundary.nanoseconds then .ok upper
      else if upper = 0 then
        .error ⟨.missingStartBracket, "No IMU sample at or before replay boundary"⟩
      else .ok (upper - 1)

/-- `validateState`. -/
def stateValid (p : ImuStatePropagator K) : Bool :=
  K.stateFinite p.estimator.stateView && K.covarianceValid p.estimator.covariance

/-- The part of `reanchorAndReplay` after the checks. -/
def replayFrom (corrected : K.Estimate) (firstIndex : Nat) (latest : Timestamp)
    (p : ImuStatePropagator K) : ImuStatePropagator K × Except Status Unit :=
  let rebased := p.estimator.rebase corrected.state corrected.covariance
  -- what a failed replay leaves is the state before it, set again
  let restore (e : IkfomEstimator K) : ImuStatePropagator K :=
    { p with estimator := e.rebase p.estimator.stateView p.estimator.covariance }
  match rebased.predict p.config.maximumIntegrationStepNs (p.history.drop firstIndex)
      corrected.time latest with
  | (estimator, .error status) => ((restore estimator).setFailure status, .error status)
  | (estimator, .ok _) =>
    let replayed := { p with
      estimator := estimator
      anchorTime := some corrected.time
      propagatedTime := some latest
      previousImuSample := p.history.getLast?
      pendingPredictionSamples := [] }
    if !replayed.stateValid then
      let failure : Status :=
        ⟨.numericalFailure, "Propagated state or covariance is invalid"⟩
      ({ restore estimator with previousImuSample := p.history.getLast? }.setFailure failure,
        .error failure)
    else ({ replayed with applied := some corrected }.ready.pruneHistory, .ok ())

def reanchorAndReplay (corrected : K.Estimate) (p : ImuStatePropagator K) :
    ImuStatePropagator K × Except Status Unit :=
  if !K.estimateFinite corrected || !K.covarianceValid corrected.covariance then
    let failure : Status := ⟨.numericalFailure, "Corrected propagated anchor is invalid"⟩
    (p.setFailure failure, .error failure)
  else
    match bracketHistory corrected.time p.history with
    | .error status => (p.setFailure status, .error status)
    | .ok firstIndex =>
      -- a history that is not empty has a latest time
      let latest := p.latestImuTime.getD {}
      if !corrected.time.sameClockDomain latest then
        let failure : Status :=
          ⟨.clockDomainMismatch, "Correction and propagated IMU clocks differ"⟩
        (p.setFailure failure, .error failure)
      else p.replayFrom corrected firstIndex latest

def reset (p : ImuStatePropagator K) : ImuStatePropagator K where
  config := p.config
  estimator := p.estimator.initializeState K.defaultState
  continuityEpoch := if p.continuityEpoch < 2 ^ 64 - 1 then p.continuityEpoch + 1 else p.continuityEpoch

def estimate (p : ImuStatePropagator K) : Option K.Estimate :=
  match p.propagatedTime with
  | none => none
  | some propagated =>
    if p.valid then some ⟨propagated, p.estimator.stateView, p.estimator.covariance⟩ else none

/-- `AngularVelocityResolver::resolveExact` for a sample of the estimate's own time. -/
def resolveExact (estimate : K.Estimate) (sample : ImuSample D) :
    Option (KinematicStateEstimate K) :=
  let correctedOmega := sample.angularVelocityImuRadS - K.gyroBiasRadS estimate.state
  if K.estimateFinite estimate && sample.angularVelocityImuRadS.allFinite &&
      (K.gyroBiasRadS estimate.state).allFinite && correctedOmega.allFinite then
    some ⟨estimate, correctedOmega⟩
  else none

def kinematicEstimate (p : ImuStatePropagator K) : Option (KinematicStateEstimate K) :=
  match p.estimate, p.history.getLast? with
  | some estimate, some sample =>
    if sample.time = estimate.time then resolveExact estimate sample else none
  | _, _ => none

end ImuStatePropagator

inductive PropagatorCall (K : FilterKernel D) where
  | acceptImu (sample : ImuSample D)
  | recordImuForReplay (sample : ImuSample D)
  | flushPendingPrediction
  | reanchorAndReplay (corrected : K.Estimate)
  | invalidate (status : PropagatedOdometryStatus)
  | reset

inductive PropagatorAnswer where
  | recorded (result : ImuRecordResult)
  | status (status : Except Status Unit)
  | done

namespace ImuStatePropagator
variable {K : FilterKernel D}

def step (p : ImuStatePropagator K) : PropagatorCall K → ImuStatePropagator K × PropagatorAnswer
  | .acceptImu sample => ((p.acceptImu sample).1, .recorded (p.acceptImu sample).2)
  | .recordImuForReplay sample =>
    ((p.recordImuForReplay sample).1, .recorded (p.recordImuForReplay sample).2)
  | .flushPendingPrediction =>
    (p.flushPendingPrediction.1, .status p.flushPendingPrediction.2)
  | .reanchorAndReplay corrected =>
    ((p.reanchorAndReplay corrected).1, .status (p.reanchorAndReplay corrected).2)
  | .invalidate status => (p.invalidate status, .done)
  | .reset => (p.reset, .done)

end ImuStatePropagator

end UavNavigation.FastLio
