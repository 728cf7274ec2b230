import UavNavigation.PipelineStages
import UavNavigation.Runs

/-!
# Pipelines that nobody can tell apart

Two pipelines that differ in what is only reported (the generation, the previous
status, the number of transitions, the journal) and, until the estimator has a
state, in the filter. Every stage keeps them alike and answers the same. Whether
the reason is the same as well is a parameter, since only the calls that process
a group report it, and they begin by clearing it.
-/

namespace UavNavigation.FastLio

set_option autoImplicit false

open FastLioPipeline

namespace Lifecycle
variable {R : Prop} {a b : Lifecycle}

structure Twins (R : Prop) (a b : Lifecycle) : Prop where
  status : b.status = a.status
  uncorrected : b.consecutiveUncorrectedLidarUpdates = a.consecutiveUncorrectedLidarUpdates
  successes : b.consecutiveRecoverySuccesses = a.consecutiveRecoverySuccesses
  initialFailures : b.initialMapRegistrationFailures = a.initialMapRegistrationFailures
  recovery : b.mapRecoveryRequired = a.mapRecoveryRequired
  confirmed : b.trackingEverConfirmed = a.trackingEverConfirmed
  failureClass : b.lastUpdateFailureClass = a.lastUpdateFailureClass
  reason : R → b.reason = a.reason

namespace Twins

theorem split (h : Twins R a b) : ∃ previous count reason journal,
    b = { a with
      previousStatus := previous
      statusTransitionCount := count
      reason := reason
      journal := journal } ∧ (R → reason = a.reason) := by
  refine ⟨b.previousStatus, b.statusTransitionCount, b.reason, b.journal, ?_, h.reason⟩
  obtain ⟨hStatus, hUncorrected, hSuccesses, hInitial, hRecovery, hConfirmed, hClass, -⟩ := h
  cases b
  simp_all

theorem transitionTo (h : Twins R a b) (next : EstimatorStatus) (reason : String) :
    Twins R (a.transitionTo next reason) (b.transitionTo next reason) := by
  obtain ⟨previous, count, old, journal, rfl, -⟩ := h.split
  unfold Lifecycle.transitionTo
  split <;> exact ⟨rfl, rfl, rfl, rfl, rfl, rfl, rfl, fun _ => rfl⟩

theorem record {operation : Lifecycle → Lifecycle} (h : Twins R (operation a) (operation b))
    (cause : LifecycleCause) : Twins R (a.record cause operation) (b.record cause operation) :=
  ⟨h.status, h.uncorrected, h.successes, h.initialFailures, h.recovery, h.confirmed,
    h.failureClass, h.reason⟩

theorem startUp (h : Twins R a b) (next : EstimatorStatus) (reason : String) :
    Twins R (a.startUp next reason) (b.startUp next reason) :=
  record (h.transitionTo next reason) _

theorem setReason (h : Twins R a b) (reason : String) :
    Twins R (a.setReason reason) (b.setReason reason) :=
  { h with reason := fun _ => rfl }

theorem setReason_same {Q : Prop} (h : Twins R a b) (reason : String) :
    Twins Q (a.setReason reason) (b.setReason reason) :=
  { h with reason := fun _ => rfl }

section
variable (h : Twins R a b)
include h

section
variable (config : LifecycleConfig)

theorem recordUncorrectedUpdate (failureClass : LidarUpdateFailureClass) :
    Twins R (a.recordUncorrectedUpdate config failureClass)
      (b.recordUncorrectedUpdate config failureClass) := by
  obtain ⟨previous, count, old, journal, rfl, hReason⟩ := h.split
  unfold Lifecycle.recordUncorrectedUpdate
  dsimp only
  split
  · exact ⟨rfl, rfl, rfl, rfl, rfl, rfl, rfl, hReason⟩
  apply record
  split
  · apply transitionTo
    exact ⟨rfl, rfl, rfl, rfl, rfl, rfl, rfl, hReason⟩
  split
  · apply transitionTo
    exact ⟨rfl, rfl, rfl, rfl, rfl, rfl, rfl, hReason⟩
  · exact ⟨rfl, rfl, rfl, rfl, rfl, rfl, rfl, hReason⟩

theorem acceptCorrection (confirmations : Nat) (converged : Bool) :
    Twins R (a.acceptCorrection confirmations converged)
      (b.acceptCorrection confirmations converged) := by
  obtain ⟨previous, count, old, journal, rfl, hReason⟩ := h.split
  have hForget : ∀ {c d : Lifecycle}, Twins R c d →
      Twins R { c with lastUpdateFailureClass := .none } { d with lastUpdateFailureClass := .none } :=
    fun h => { h with failureClass := rfl }
  unfold Lifecycle.acceptCorrection
  dsimp only
  apply hForget
  split
  · apply record
    apply transitionTo
    exact ⟨rfl, rfl, rfl, rfl, rfl, rfl, rfl, hReason⟩
  apply record
  split
  · split
    · split
      · apply transitionTo
        exact ⟨rfl, rfl, rfl, rfl, rfl, rfl, rfl, hReason⟩
      · exact ⟨rfl, rfl, rfl, rfl, rfl, rfl, rfl, hReason⟩
    split
    · apply transitionTo
      exact ⟨rfl, rfl, rfl, rfl, rfl, rfl, rfl, hReason⟩
    · apply transitionTo
      exact ⟨rfl, rfl, rfl, rfl, rfl, rfl, rfl, hReason⟩
  · exact ⟨rfl, rfl, rfl, rfl, rfl, rfl, rfl, hReason⟩

theorem failInitialMap : Twins R (a.failInitialMap config) (b.failInitialMap config) := by
  obtain ⟨previous, count, old, journal, rfl, hReason⟩ := h.split
  unfold Lifecycle.failInitialMap
  dsimp only
  split
  · split
    · apply record
      apply transitionTo
      exact ⟨rfl, rfl, rfl, rfl, rfl, rfl, rfl, hReason⟩
    · exact ⟨rfl, rfl, rfl, rfl, rfl, rfl, rfl, hReason⟩
  · exact ⟨rfl, rfl, rfl, rfl, rfl, rfl, rfl, hReason⟩

theorem requireMapRecovery :
    Twins R a.requireMapRecovery b.requireMapRecovery := { h with recovery := rfl }

theorem restartInitialMap :
    Twins R a.restartInitialMap b.restartInitialMap := { h with initialFailures := rfl }

theorem exceedMapGuard : Twins R a.exceedMapGuard b.exceedMapGuard := by
  obtain ⟨previous, count, old, journal, rfl, hReason⟩ := h.split
  unfold Lifecycle.exceedMapGuard
  dsimp only
  split
  · apply record
    apply transitionTo
    exact ⟨rfl, rfl, rfl, rfl, rfl, rfl, rfl, hReason⟩
  · exact ⟨rfl, rfl, rfl, rfl, rfl, rfl, rfl, hReason⟩

theorem discontinue (next : EstimatorStatus) (reason : String) :
    Twins R (a.discontinue next reason) (b.discontinue next reason) :=
  record (h.transitionTo next reason) _

theorem superviseLidarTimeout (elapsedNs : Int) : Twins R (a.superviseLidarTimeout config elapsedNs)
      (b.superviseLidarTimeout config elapsedNs) := by
  have hLost : ∀ {c d : Lifecycle}, Twins R c d → Twins R
        (if c.status = .degraded ∧ config.lostAfterLidarGapNs ≤ elapsedNs then
          c.record .lidarTimeout (Lifecycle.transitionTo .lost "LIDAR_TIMEOUT_LOST") else c)
        (if d.status = .degraded ∧ config.lostAfterLidarGapNs ≤ elapsedNs then
          d.record .lidarTimeout (Lifecycle.transitionTo .lost "LIDAR_TIMEOUT_LOST") else d) := by
    intro c d h
    rw [h.status]
    split
    · exact record (h.transitionTo _ _) _
    · exact h
  apply hLost
  rw [h.status]
  split
  · exact record (h.transitionTo _ _) _
  · exact h

end

theorem navigationValid : b.navigationValid = a.navigationValid := by
  unfold Lifecycle.navigationValid
  rw [h.confirmed, h.status]

end

end Twins

def Started (l : Lifecycle) : Prop :=
  l.status.usesEstimatorState = true ∨ l.trackingEverConfirmed = true

variable {l : Lifecycle}

theorem started_recordUncorrectedUpdate {config : LifecycleConfig}
    {failureClass : LidarUpdateFailureClass}
    (h : (l.recordUncorrectedUpdate config failureClass).Started) : l.Started := by
  cases hConfirmed : l.trackingEverConfirmed with
  | true => exact .inr hConfirmed
  | false =>
    rw [uncorrected_unconfirmed hConfirmed] at h
    exact h

theorem started_startUp {next : EstimatorStatus} {reason : String}
    (hNext : next.usesEstimatorState = false) (h : (l.startUp next reason).Started) :
    l.Started := by
  rcases h with h | h
  · rw [startUp, record_status, transitionTo_status, hNext] at h
    cases h
  · rw [startUp, record_confirmed, transitionTo_confirmed] at h
    exact .inr h

theorem started_superviseLidarTimeout {config : LifecycleConfig} {elapsedNs : Int}
    (h : (l.superviseLidarTimeout config elapsedNs).Started) : l.Started := by
  by_contra hNot
  have hTracking : l.status ≠ .tracking := fun hStatus => hNot (.inl (by rw [hStatus]; rfl))
  have hDegraded : l.status ≠ .degraded := fun hStatus => hNot (.inl (by rw [hStatus]; rfl))
  apply hNot
  unfold superviseLidarTimeout at h
  have hKept : (if l.status = .tracking ∧ config.degradedAfterLidarGapNs ≤ elapsedNs then
      l.record .lidarTimeout (transitionTo .degraded "LIDAR_TIMEOUT_DEGRADED_INERTIAL")
      else l) = l := if_neg fun hBoth => hTracking hBoth.1
  rw [hKept, if_neg fun hBoth => hDegraded hBoth.1] at h
  exact h

end Lifecycle

variable {D : Type} [FloatOps D] {N : Numerics D}

namespace FastLioPipeline
variable {R : Prop} {p q : FastLioPipeline N}

structure Alike (R : Prop) (p q : FastLioPipeline N) : Prop where
  rest : q = { p with
    lifecycle := q.lifecycle
    estimator := q.estimator
    covariance := q.covariance
    generation := q.generation }
  lifecycle : p.lifecycle.Twins R q.lifecycle
  filter : p.estimatorInitialized = true → q.estimator = p.estimator ∧ q.covariance = p.covariance
  ready : p.lifecycle.Started → p.estimatorInitialized = true

structure AlikeAnswers {A : Type} (R : Prop) (a b : FastLioPipeline N × A) : Prop where
  state : Alike R a.1 b.1
  answer : b.2 = a.2

theorem AlikeAnswers.split {A : Type} {a b : FastLioPipeline N × A} (h : AlikeAnswers R a b) :
    ∃ p q answer, a = (p, answer) ∧ b = (q, answer) ∧ Alike R p q := by
  obtain ⟨p, answer⟩ := a
  obtain ⟨q, answer'⟩ := b
  obtain ⟨hState, hAnswer⟩ := h
  exact ⟨p, q, answer, rfl, Prod.ext rfl hAnswer, hState⟩

/-- The filter of an initialized estimator does not depend on what the filter was before. -/
def ForgetsFilter (N : Numerics D) : Prop :=
  ∀ estimator estimator' state, N.initializeState estimator state = N.initializeState estimator' state

namespace Alike

theorem split (h : Alike R p q) : ∃ lifecycle estimator covariance generation,
    q = { p with
      lifecycle := lifecycle
      estimator := estimator
      covariance := covariance
      generation := generation } ∧ p.lifecycle.Twins R lifecycle ∧
    (p.estimatorInitialized = true → estimator = p.estimator ∧ covariance = p.covariance) :=
  ⟨q.lifecycle, q.estimator, q.covariance, q.generation, h.rest, h.lifecycle, h.filter⟩

theorem status (h : Alike R p q) : q.status = p.status := h.lifecycle.status

theorem setReason (h : Alike R p q) (reason : String) :
    Alike R (p.setReason reason) (q.setReason reason) := by
  obtain ⟨l, e, c, g, rfl, hTwins, hFilter⟩ := h.split
  exact ⟨rfl, hTwins.setReason reason, hFilter, h.ready⟩

theorem setReason_same {Q : Prop} (h : Alike R p q) (reason : String) :
    Alike Q (p.setReason reason) (q.setReason reason) := by
  obtain ⟨l, e, c, g, rfl, hTwins, hFilter⟩ := h.split
  exact ⟨rfl, hTwins.setReason_same reason, hFilter, h.ready⟩

section
variable (h : Alike R p q) (failureClass : LidarUpdateFailureClass)
include h

theorem startUp {next : EstimatorStatus}
    (hNext : next.usesEstimatorState = false) (reason : String) :
    Alike R (p.startUp next reason) (q.startUp next reason) := by
  obtain ⟨l, e, c, g, rfl, hTwins, hFilter⟩ := h.split
  exact ⟨rfl, hTwins.startUp next reason, hFilter,
    fun hStarted => h.ready (Lifecycle.started_startUp hNext hStarted)⟩

theorem recordUncorrectedUpdate :
    Alike R (p.recordUncorrectedUpdate failureClass) (q.recordUncorrectedUpdate failureClass) := by
  obtain ⟨l, e, c, g, rfl, hTwins, hFilter⟩ := h.split
  exact ⟨rfl, hTwins.recordUncorrectedUpdate p.config.lifecycle failureClass, hFilter,
    fun hStarted => h.ready (Lifecycle.started_recordUncorrectedUpdate hStarted)⟩

theorem failUpdate (reason : String) :
    Alike R (p.failUpdate failureClass reason) (q.failUpdate failureClass reason) :=
  (h.setReason reason).recordUncorrectedUpdate failureClass

end

/-! ## The prior and the initialization -/

theorem awaitPrior (h : Alike R p q) (candidate : Option (InitialStatePrior D N.Covariance))
    (applicationTime : Timestamp) :
    AlikeAnswers R (p.awaitPrior candidate applicationTime)
      (q.awaitPrior candidate applicationTime) := by
  obtain ⟨l, e, c, g, rfl, hTwins, hFilter⟩ := h.split
  unfold awaitPrior setInitialPrior
  dsimp only
  split
  · exact ⟨⟨rfl, hTwins, hFilter, h.ready⟩, rfl⟩
  split
  · exact ⟨⟨rfl, hTwins, hFilter, h.ready⟩, rfl⟩
  split
  · exact ⟨⟨rfl, hTwins, hFilter, h.ready⟩, rfl⟩
  split
  · exact ⟨⟨rfl, hTwins, hFilter, h.ready⟩, rfl⟩
  split <;> exact ⟨⟨rfl, hTwins, hFilter, h.ready⟩, rfl⟩

theorem resolveInitialStatePrior (h : Alike R p q) (applicationTime : Timestamp) :
    AlikeAnswers R (p.resolveInitialStatePrior applicationTime)
      (q.resolveInitialStatePrior applicationTime) := by
  obtain ⟨l, e, c, g, rfl, hTwins, hFilter⟩ := h.split
  unfold resolveInitialStatePrior setInitialPrior
  dsimp only
  split
  · exact ⟨⟨rfl, hTwins, hFilter, h.ready⟩, rfl⟩
  · exact ⟨⟨rfl, hTwins, hFilter, h.ready⟩, rfl⟩
  split
  · apply awaitPrior
    exact ⟨rfl, hTwins, hFilter, h.ready⟩
  split
  · exact ⟨⟨rfl, hTwins, hFilter, h.ready⟩, rfl⟩
  · apply awaitPrior
    exact ⟨rfl, hTwins, hFilter, h.ready⟩
  · apply awaitPrior
    exact ⟨rfl, hTwins, hFilter, h.ready⟩

theorem rejectPrior (h : Alike R p q) (reason : String) :
    Alike R (p.rejectPrior reason) (q.rejectPrior reason) := by
  obtain ⟨l, e, c, g, rfl, hTwins, hFilter⟩ := h.split
  apply setReason
  exact ⟨rfl, hTwins, hFilter, h.ready⟩

theorem addInitializationSample (h : Alike R p q) (sample : ImuSample D) :
    AlikeAnswers R (p.addInitializationSample sample) (q.addInitializationSample sample) := by
  obtain ⟨l, e, c, g, rfl, hTwins, hFilter⟩ := h.split
  unfold addInitializationSample
  dsimp only
  split
  · exact ⟨h, rfl⟩
  split
  · exact ⟨h, rfl⟩
  split
  · exact ⟨h, rfl⟩
  · rename_i initializer hAdded
    simp only [FastLioPipeline.status, hTwins.status]
    split
    · refine ⟨startUp ?_ rfl _, rfl⟩
      exact ⟨rfl, hTwins, hFilter, h.ready⟩
    · exact ⟨⟨rfl, hTwins, hFilter, h.ready⟩, rfl⟩

theorem addInitializationSamples (samples : List (ImuSample D)) (h : Alike R p q) :
    AlikeAnswers R (p.addInitializationSamples samples) (q.addInitializationSamples samples) := by
  induction samples generalizing p q with
  | nil => exact ⟨h, rfl⟩
  | cons sample rest ih =>
    have hAdded := h.addInitializationSample sample
    unfold addInitializationSamples
    obtain ⟨p', q', answer, hp, hq, hState⟩ := hAdded.split
    rw [hp, hq]
    cases answer with
    | error status => exact ⟨hState, rfl⟩
    | ok _ => exact ih hState

section
variable (h : Alike R p q) (progressTime : Option Timestamp)
include h

theorem applicationTime : q.applicationTime progressTime = p.applicationTime progressTime := by
  rw [h.rest]
  rfl

theorem beginInitialization :
    Alike R (p.beginInitialization progressTime) (q.beginInitialization progressTime) := by
  obtain ⟨l, e, c, g, rfl, hTwins, hFilter⟩ := h.split
  have hStarted := h.startUp (show EstimatorStatus.usesEstimatorState .initializingImu = false from rfl)
    "EVALUATING_IMU_INITIALIZATION"
  exact ⟨rfl, hStarted.lifecycle, hFilter, hStarted.ready⟩

theorem obtainInFlight :
    AlikeAnswers R (p.obtainInFlight progressTime) (q.obtainInFlight progressTime) := by
  have hResolved := h.resolveInitialStatePrior (p.applicationTime progressTime)
  unfold FastLioPipeline.obtainInFlight
  rw [h.applicationTime]
  obtain ⟨p', q', answer, hp, hq, hState⟩ := hResolved.split
  rw [hp, hq]
  cases answer with
  | false => exact ⟨hState, rfl⟩
  | true =>
    obtain ⟨l, e, c, g, rfl, hTwins, hFilter⟩ := hState.split
    dsimp only
    split
    · exact ⟨hState.rejectPrior _, rfl⟩
    split
    · exact ⟨hState.rejectPrior _, rfl⟩
    · exact ⟨⟨rfl, hTwins, hFilter, hState.ready⟩, rfl⟩

theorem obtainInitialization :
    AlikeAnswers R (p.obtainInitialization progressTime) (q.obtainInitialization progressTime) := by
  have hBegun := h.beginInitialization progressTime
  have hFlight := hBegun.obtainInFlight progressTime
  unfold FastLioPipeline.obtainInitialization
  rw [show q.imuInitializationResult = p.imuInitializationResult by rw [h.rest]]
  split
  · exact ⟨h, rfl⟩
  generalize p.beginInitialization progressTime = p' at hBegun hFlight ⊢
  generalize q.beginInitialization progressTime = q' at hBegun hFlight ⊢
  obtain ⟨l, e, c, g, rfl, hTwins, hFilter⟩ := hBegun.split
  dsimp only
  split
  · exact hFlight
  split
  · exact ⟨hBegun.setReason _, rfl⟩
  · exact ⟨⟨rfl, hTwins, hFilter, hBegun.ready⟩, rfl⟩

end

theorem selectPrior (h : Alike R p q) (candidate : Option (InitialStatePrior D N.Covariance))
    (applicationTime : Timestamp) :
    q.selectPrior candidate applicationTime = p.selectPrior candidate applicationTime := by
  rw [h.rest]
  rfl

section
variable (hForgets : ForgetsFilter N) (h : Alike R p q)
include hForgets h

theorem startEstimator (appliedState : N.State)
    (prior : InitialStatePrior D N.Covariance) (priorCovariance : Option N.Covariance) :
    Alike R (p.startEstimator appliedState prior priorCovariance)
      (q.startEstimator appliedState prior priorCovariance) := by
  obtain ⟨l, e, c, g, rfl, hTwins, -⟩ := h.split
  unfold startEstimator
  rw [hForgets e p.estimator]
  exact ⟨rfl, hTwins.startUp _ _, fun _ => ⟨rfl, rfl⟩, fun _ => rfl⟩

theorem applyInitialStatePrior
    (result : N.InitializationResult) (prior : InitialStatePrior D N.Covariance) :
    Alike R (p.applyInitialStatePrior result prior) (q.applyInitialStatePrior result prior) := by
  obtain ⟨l, e, c, g, rfl, hTwins, hFilter⟩ := h.split
  unfold applyInitialStatePrior
  dsimp only
  split
  · apply rejectPrior
    exact ⟨rfl, hTwins, hFilter, h.ready⟩
  split
  · apply startEstimator hForgets
    exact ⟨rfl, hTwins, hFilter, h.ready⟩
  split
  · apply rejectPrior
    exact ⟨rfl, hTwins, hFilter, h.ready⟩
  · apply startEstimator hForgets
    exact ⟨rfl, hTwins, hFilter, h.ready⟩

theorem tryCompleteImuInitialization (progressTime : Option Timestamp) :
    Alike R (p.tryCompleteImuInitialization progressTime)
      (q.tryCompleteImuInitialization progressTime) := by
  have hObtained := h.obtainInitialization progressTime
  unfold FastLioPipeline.tryCompleteImuInitialization
  rw [h.status, show q.initializer = p.initializer by rw [h.rest]]
  split
  · exact h
  obtain ⟨p', q', answer, hp, hq, hState⟩ := hObtained.split
  rw [hp, hq]
  cases answer with
  | none => exact hState
  | some result =>
    dsimp only
    rw [hState.applicationTime]
    have hResolved := hState.resolveInitialStatePrior (p'.applicationTime progressTime)
    obtain ⟨p'', q'', accepted, hp, hq, hFinal⟩ := hResolved.split
    rw [hp, hq]
    cases accepted with
    | false => exact hFinal
    | true =>
      dsimp only
      rw [hFinal.selectPrior, show q''.mailbox = p''.mailbox by rw [hFinal.rest]]
      exact hFinal.applyInitialStatePrior hForgets _ _

theorem collectImu (sample : ImuSample D) :
    AlikeAnswers R (p.collectImu sample) (q.collectImu sample) := by
  have hCollecting : Alike R (if p.status = .waitingForSensors then
        p.startUp .collectingImu "FIRST_IMU_SAMPLE_ACCEPTED" else p)
      (if q.status = .waitingForSensors then
        q.startUp .collectingImu "FIRST_IMU_SAMPLE_ACCEPTED" else q) := by
    rw [h.status]
    split
    · exact h.startUp rfl _
    · exact h
  unfold FastLioPipeline.collectImu
  dsimp only
  generalize (if p.status = .waitingForSensors then
    p.startUp .collectingImu "FIRST_IMU_SAMPLE_ACCEPTED" else p) = p' at hCollecting ⊢
  generalize (if q.status = .waitingForSensors then
    q.startUp .collectingImu "FIRST_IMU_SAMPLE_ACCEPTED" else q) = q' at hCollecting ⊢
  rw [hCollecting.status]
  have hAdded := hCollecting.addInitializationSample sample
  split
  · obtain ⟨p'', q'', answer, hp, hq, hState⟩ := hAdded.split
    rw [hp, hq]
    cases answer with
    | error status => exact ⟨hState.setReason _, rfl⟩
    | ok _ => exact ⟨hState.tryCompleteImuInitialization hForgets _, rfl⟩
  · exact ⟨hCollecting, rfl⟩

end

theorem retainPriorImuSample (h : Alike R p q) (sample : ImuSample D) :
    Alike R (p.retainPriorImuSample sample) (q.retainPriorImuSample sample) := by
  obtain ⟨l, e, c, g, rfl, hTwins, hFilter⟩ := h.split
  exact ⟨rfl, hTwins, hFilter, h.ready⟩

theorem pushImu (hForgets : ForgetsFilter N) (h : Alike R p q) (sample : ImuSample D) :
    AlikeAnswers R (p.pushImu sample) (q.pushImu sample) := by
  obtain ⟨l, e, c, g, rfl, hTwins, hFilter⟩ := h.split
  unfold pushImu
  dsimp only
  split
  · refine ⟨setReason ?_ _, rfl⟩
    exact ⟨rfl, hTwins, hFilter, h.ready⟩
  · apply collectImu hForgets
    apply retainPriorImuSample
    exact ⟨rfl, hTwins, hFilter, h.ready⟩

variable (h : Alike R p q) (now : Int)
include h

theorem pushLidar (scan : LidarScan D) :
    AlikeAnswers R (p.pushLidar now scan) (q.pushLidar now scan) := by
  obtain ⟨l, e, c, g, rfl, hTwins, hFilter⟩ := h.split
  unfold pushLidar
  dsimp only
  split
  · refine ⟨setReason ?_ _, rfl⟩
    exact ⟨rfl, hTwins, hFilter, h.ready⟩
  · exact ⟨⟨rfl, hTwins, hFilter, h.ready⟩, rfl⟩

theorem submitInitialStatePrior (prior : InitialStatePrior D N.Covariance) :
    AlikeAnswers R (p.submitInitialStatePrior prior) (q.submitInitialStatePrior prior) := by
  obtain ⟨l, e, c, g, rfl, hTwins, hFilter⟩ := h.split
  unfold submitInitialStatePrior
  split
  · exact ⟨h, rfl⟩
  · exact ⟨⟨rfl, hTwins, hFilter, h.ready⟩, rfl⟩

theorem setInitialStatePriorGeometry (baseToImu : N.RigidTransform) :
    AlikeAnswers R (p.setInitialStatePriorGeometry baseToImu)
      (q.setInitialStatePriorGeometry baseToImu) := by
  obtain ⟨l, e, c, g, rfl, hTwins, hFilter⟩ := h.split
  unfold setInitialStatePriorGeometry
  split
  · exact ⟨h, rfl⟩
  split
  · exact ⟨h, rfl⟩
  · exact ⟨⟨rfl, hTwins, hFilter, h.ready⟩, rfl⟩

theorem superviseLidarTimeout :
    Alike R (p.superviseLidarTimeout now) (q.superviseLidarTimeout now) := by
  obtain ⟨l, e, c, g, rfl, hTwins, hFilter⟩ := h.split
  unfold superviseLidarTimeout
  dsimp only
  split
  · exact h
  · exact ⟨rfl, hTwins.superviseLidarTimeout _ _, hFilter,
      fun hStarted => h.ready (Lifecycle.started_superviseLidarTimeout hStarted)⟩

end Alike

end FastLioPipeline

/-! ## What a reset leaves behind -/

namespace FastLioPipeline
variable {R : Prop} {p q : FastLioPipeline N}

structure Settled (R : Prop) (p q : FastLioPipeline N) : Prop where
  rest : q = { p with lifecycle := q.lifecycle, generation := q.generation }
  lifecycle : p.lifecycle.Twins R q.lifecycle
  initialized : p.estimatorInitialized = true

structure SettledAnswers {A : Type} (R : Prop) (a b : FastLioPipeline N × A) : Prop where
  state : Settled R a.1 b.1
  answer : b.2 = a.2

theorem SettledAnswers.split {A : Type} {a b : FastLioPipeline N × A} (h : SettledAnswers R a b) :
    ∃ p q answer, a = (p, answer) ∧ b = (q, answer) ∧ Settled R p q := by
  obtain ⟨p, answer⟩ := a
  obtain ⟨q, answer'⟩ := b
  obtain ⟨hState, hAnswer⟩ := h
  exact ⟨p, q, answer, rfl, Prod.ext rfl hAnswer, hState⟩

theorem Alike.settled (h : Alike R p q) (hInitialized : p.estimatorInitialized = true) :
    Settled R p q := by
  obtain ⟨l, e, c, g, rfl, hTwins, hFilter⟩ := h.split
  obtain ⟨rfl, rfl⟩ := hFilter hInitialized
  exact ⟨rfl, hTwins, hInitialized⟩

namespace Settled

section
variable (h : Settled R p q) (failureClass : LidarUpdateFailureClass) (reason : String)
include h

theorem split : ∃ lifecycle generation,
    q = { p with lifecycle := lifecycle, generation := generation } ∧
      p.lifecycle.Twins R lifecycle := ⟨q.lifecycle, q.generation, h.rest, h.lifecycle⟩

theorem alike : Alike R p q := by
  obtain ⟨l, g, rfl, hTwins⟩ := h.split
  exact ⟨rfl, hTwins, fun _ => ⟨rfl, rfl⟩, fun _ => h.initialized⟩

theorem setReason : Settled R (p.setReason reason) (q.setReason reason) :=
  (h.alike.setReason reason).settled h.initialized

theorem recordUncorrectedUpdate :
    Settled R (p.recordUncorrectedUpdate failureClass) (q.recordUncorrectedUpdate failureClass) :=
  (h.alike.recordUncorrectedUpdate failureClass).settled h.initialized

theorem failUpdate : Settled R (p.failUpdate failureClass reason)
      (q.failUpdate failureClass reason) :=
  (h.alike.failUpdate failureClass reason).settled h.initialized

end

/-! ## The stages -/

section
variable (h : Settled R p q) (group : MeasurementGroup D)
include h

theorem enterEpoch : SettledAnswers R (p.enterEpoch group) (q.enterEpoch group) := by
  obtain ⟨l, g, rfl, hTwins⟩ := h.split
  unfold enterEpoch
  have hMismatch : ∀ stateTime,
      recoverableForwardMismatch stateTime group { p with lifecycle := l, generation := g } =
        recoverableForwardMismatch stateTime group p := by
    intro stateTime
    unfold recoverableForwardMismatch FastLioPipeline.status
    rw [hTwins.confirmed, hTwins.status]
  dsimp only
  split
  · rw [show initialEpoch group { p with lifecycle := l, generation := g } = p.initialEpoch group
      from rfl]
    split
    · exact ⟨h.failUpdate _ _, rfl⟩
    split
    · exact ⟨h.setReason _, rfl⟩
    split
    · exact ⟨h.setReason _, rfl⟩
    · exact ⟨⟨rfl, hTwins, h.initialized⟩, rfl⟩
  split
  · exact ⟨h, rfl⟩
  rw [hMismatch]
  split
  · exact ⟨h.failUpdate _ _, rfl⟩
  rw [show inflated { p with lifecycle := l, generation := g } = p.inflated from rfl]
  split
  · refine ⟨failUpdate ?_ _ _, rfl⟩
    exact ⟨rfl, hTwins, h.initialized⟩
  · refine ⟨failUpdate ?_ _ _, rfl⟩
    exact ⟨rfl, hTwins, h.initialized⟩

theorem predictScan (start : Timestamp) :
    SettledAnswers R (p.predictScan group start) (q.predictScan group start) := by
  obtain ⟨l, g, rfl, hTwins⟩ := h.split
  unfold predictScan
  rw [show predictionSamples group start { p with lifecycle := l, generation := g } =
    p.predictionSamples group start from rfl]
  split
  · exact ⟨h.failUpdate _ _, rfl⟩
  split
  · exact ⟨h.failUpdate _ _, rfl⟩
  dsimp only [setInitialPrior]
  split
  · refine ⟨failUpdate ?_ _ _, rfl⟩
    exact ⟨rfl, hTwins, h.initialized⟩
  · exact ⟨⟨rfl, hTwins, h.initialized⟩, rfl⟩

theorem registerScan (trajectory : N.ImuTrajectory) :
    SettledAnswers R (p.registerScan group trajectory) (q.registerScan group trajectory) := by
  obtain ⟨l, g, rfl, hTwins⟩ := h.split
  unfold registerScan
  simp only [FastLioPipeline.status, hTwins.status]
  split
  · exact ⟨h.failUpdate _ _, rfl⟩
  split
  · exact ⟨h.failUpdate _ _, rfl⟩
  split
  · exact ⟨h.failUpdate _ _, rfl⟩
  split
  · refine ⟨setReason ?_ _, rfl⟩
    exact ⟨rfl, hTwins, h.initialized⟩
  · exact ⟨h, rfl⟩

theorem correctScan (pointsLidarM : List (Vec3 D)) :
    SettledAnswers R (p.correctScan group pointsLidarM) (q.correctScan group pointsLidarM) := by
  obtain ⟨l, g, rfl, hTwins⟩ := h.split
  unfold correctScan
  rw [show associationMap { p with lifecycle := l, generation := g } = p.associationMap from rfl]
  dsimp only
  split
  · refine ⟨setReason ?_ _, rfl⟩
    apply recordUncorrectedUpdate
    exact ⟨rfl, hTwins.failInitialMap _, h.initialized⟩
  · exact ⟨⟨rfl, hTwins.acceptCorrection _ _, h.initialized⟩, rfl⟩

end

variable (h : Settled R p q) (correction : IkfomCorrectionResult N.State)
include h

theorem insertIntoMap (points : List (Vec3 D)) :
    SettledAnswers R (p.insertIntoMap points) (q.insertIntoMap points) := by
  obtain ⟨l, g, rfl, hTwins⟩ := h.split
  unfold insertIntoMap
  dsimp only
  by_cases hBootstrap : N.mapSize p.registrationMap = 0 ∧ p.bootstrapReferencePointsOdomM ≠ []
  · rw [if_pos hBootstrap, if_pos hBootstrap]
    split
    · exact ⟨⟨rfl, hTwins.exceedMapGuard, h.initialized⟩, rfl⟩
    · exact ⟨⟨rfl, hTwins, h.initialized⟩, rfl⟩
  · rw [if_neg hBootstrap, if_neg hBootstrap]
    split
    · exact ⟨⟨rfl, hTwins.exceedMapGuard, h.initialized⟩, rfl⟩
    · exact ⟨⟨rfl, hTwins, h.initialized⟩, rfl⟩

theorem updateMap (pointsLidarM : List (Vec3 D)) :
    SettledAnswers R (p.updateMap correction pointsLidarM) (q.updateMap correction pointsLidarM) := by
  have hInserted := h.insertIntoMap (pointsLidarM.map (N.transformLidarPointToOdom p.state))
  have hContext : q.insertionContext correction pointsLidarM.length =
      p.insertionContext correction pointsLidarM.length := by
    unfold insertionContext
    rw [h.alike.status, show q.state = p.state by rw [h.rest]]
  unfold FastLioPipeline.updateMap
  dsimp only
  rw [hContext]
  obtain ⟨l, g, rfl, hTwins⟩ := h.split
  split
  · exact ⟨⟨rfl, hTwins.requireMapRecovery, h.initialized⟩, rfl⟩
  split
  · exact ⟨hInserted.state, congrArg some hInserted.answer⟩
  · exact ⟨h, rfl⟩

theorem setFinalReason : Settled R (p.setFinalReason correction) (q.setFinalReason correction) := by
  unfold FastLioPipeline.setFinalReason
  rw [h.lifecycle.recovery]
  exact h.setReason _

theorem rebaseAfterDiscontinuity (d : PropagationDiscontinuity) :
    Settled R (p.rebaseAfterDiscontinuity d) (q.rebaseAfterDiscontinuity d) := by
  have hRebased : Settled R
      (({ p with covariance := p.inflated.1 }.rebaseAt d.resumeTime).recordUncorrectedUpdate
        .propagationDiscontinuity)
      (({ q with covariance := q.inflated.1 }.rebaseAt d.resumeTime).recordUncorrectedUpdate
        .propagationDiscontinuity) := by
    obtain ⟨l, g, rfl, hTwins⟩ := h.split
    apply Settled.recordUncorrectedUpdate
    exact ⟨rfl, hTwins, h.initialized⟩
  have hInflated : q.inflated = p.inflated := by
    rw [h.rest]
    rfl
  have hLimit : q.config.tracking.maximumRecoverableImuGapNs =
      p.config.tracking.maximumRecoverableImuGapNs := by rw [h.rest]
  unfold FastLioPipeline.rebaseAfterDiscontinuity
  rw [hInflated] at hRebased ⊢
  rw [hLimit]
  dsimp only
  split
  · obtain ⟨l, g, rfl, hTwins⟩ := h.split
    exact ⟨rfl, hTwins.discontinue _ _, h.initialized⟩
  generalize ({ p with covariance := p.inflated.1 }.rebaseAt d.resumeTime).recordUncorrectedUpdate
    .propagationDiscontinuity = p₁ at hRebased ⊢
  generalize ({ q with covariance := p.inflated.1 }.rebaseAt d.resumeTime).recordUncorrectedUpdate
    .propagationDiscontinuity = q₁ at hRebased ⊢
  obtain ⟨l, g, rfl, hTwins⟩ := hRebased.split
  rw [hTwins.confirmed]
  split
  · split
    · exact ⟨rfl, hTwins.restartInitialMap.discontinue _ _, hRebased.initialized⟩
    · exact ⟨rfl, hTwins.discontinue _ _, hRebased.initialized⟩
  split
  · exact ⟨rfl, hTwins.discontinue _ _, hRebased.initialized⟩
  · exact hRebased.setReason _

end Settled

/-! ## A processed group -/

def unnumbered (r : ProcessResult N) : ProcessResult N := { r with lioGeneration := 0 }

structure AlikeResults (R : Prop) (a b : FastLioPipeline N × ProcessResult N) : Prop where
  state : Alike R a.1 b.1
  result : unnumbered b.2 = unnumbered a.2

def unnumberedAnswer : PipelineAnswer N → PipelineAnswer N
  | .status status => .status status
  | .result result => .result (result.map unnumbered)

/-- Two optional results that differ in their generation at most. -/
structure AlikeCalls (R : Prop) (a b : FastLioPipeline N × Option (ProcessResult N)) : Prop where
  state : Alike R a.1 b.1
  result : b.2.map unnumbered = a.2.map unnumbered

theorem AlikeResults.present {a b : FastLioPipeline N × ProcessResult N}
    (h : AlikeResults R a b) : AlikeCalls R (a.1, some a.2) (b.1, some b.2) :=
  ⟨h.state, congrArg some h.result⟩

theorem Alike.finalizeResult (h : Alike R p q) (result : ProcessResult N) :
    AlikeResults R (p.finalizeResult result) (q.finalizeResult result) := by
  obtain ⟨l, e, c, g, rfl, hTwins, hFilter⟩ := h.split
  refine ⟨⟨rfl, hTwins, hFilter, h.ready⟩, ?_⟩
  unfold FastLioPipeline.finalizeResult unnumbered setInitialPrior navigationValid
  dsimp only [FastLioPipeline.status]
  rw [hTwins.status, hTwins.navigationValid]

theorem Settled.processPredicted (h : Settled R p q) (group : MeasurementGroup D)
    (start : Timestamp) (result : ProcessResult N) :
    SettledAnswers R (p.processPredicted group start result)
      (q.processPredicted group start result) := by
  unfold FastLioPipeline.processPredicted
  obtain ⟨p₁, q₁, predicted, hp, hq, h₁⟩ := (h.predictScan group start).split
  rw [hp, hq]
  cases predicted with
  | error reason => exact ⟨h₁, rfl⟩
  | ok trajectory =>
    dsimp only
    have hEstimate : q₁.estimateAt group.scan.endTime = p₁.estimateAt group.scan.endTime := by
      rw [h₁.rest]
      rfl
    rw [hEstimate]
    obtain ⟨p₂, q₂, registered, hp, hq, h₂⟩ := (h₁.registerScan group trajectory).split
    rw [hp, hq]
    cases registered with
    | error rejection => exact ⟨h₂, rfl⟩
    | ok pointsLidarM =>
      dsimp only
      obtain ⟨p₃, q₃, corrected, hp, hq, h₃⟩ := (h₂.correctScan group pointsLidarM).split
      rw [hp, hq]
      cases corrected with
      | error reason => exact ⟨h₃, rfl⟩
      | ok correction =>
        dsimp only
        have hUpdated := h₃.updateMap correction pointsLidarM
        refine ⟨hUpdated.state.setFinalReason correction, ?_⟩
        rw [hUpdated.answer, show q₃.state = p₃.state by rw [h₃.rest],
          show q₃.estimateAt group.scan.endTime = p₃.estimateAt group.scan.endTime by
            rw [h₃.rest]
            rfl]

namespace Alike

theorem retainGroup (h : Alike R p q) (group : MeasurementGroup D) :
    Alike R (p.retainGroup group) (q.retainGroup group) := by
  unfold FastLioPipeline.retainGroup
  induction group.imuSamples generalizing p q with
  | nil => exact h
  | cons sample rest ih => exact ih (h.retainPriorImuSample sample)

section
variable (hForgets : ForgetsFilter N) (h : Alike R p q) (group : MeasurementGroup D)
  (ingested : Bool)
include hForgets h

theorem initializeFromGroup : AlikeAnswers R (p.initializeFromGroup group ingested)
      (q.initializeFromGroup group ingested) := by
  have hCollecting : Alike R (if p.status = .waitingForSensors then
        p.startUp .collectingImu "SYNCHRONIZED_MEASUREMENT_RECEIVED" else p)
      (if q.status = .waitingForSensors then
        q.startUp .collectingImu "SYNCHRONIZED_MEASUREMENT_RECEIVED" else q) := by
    rw [h.status]
    split
    · exact h.startUp rfl _
    · exact h
  unfold FastLioPipeline.initializeFromGroup
  dsimp only
  generalize (if p.status = .waitingForSensors then
    p.startUp .collectingImu "SYNCHRONIZED_MEASUREMENT_RECEIVED" else p) = p₁ at hCollecting ⊢
  generalize (if q.status = .waitingForSensors then
    q.startUp .collectingImu "SYNCHRONIZED_MEASUREMENT_RECEIVED" else q) = q₁ at hCollecting ⊢
  rw [hCollecting.status]
  split
  · obtain ⟨p₂, q₂, added, hp, hq, h₂⟩ := (hCollecting.addInitializationSamples
      (if ingested then [] else group.imuSamples)).split
    rw [hp, hq]
    cases added with
    | error status => exact ⟨h₂.setReason _, rfl⟩
    | ok _ =>
      dsimp only
      rw [show q₂.lastInitializationImuTime = p₂.lastInitializationImuTime by rw [h₂.rest]]
      have hTried := h₂.tryCompleteImuInitialization hForgets
        ((group.imuSamples.getLast?.map ImuSample.time).or p₂.lastInitializationImuTime)
      generalize p₂.tryCompleteImuInitialization _ = p₃ at hTried ⊢
      generalize q₂.tryCompleteImuInitialization _ = q₃ at hTried ⊢
      rw [hTried.status, show q₃.imuInitializationResult = p₃.imuInitializationResult by
        rw [hTried.rest], show q₃.config = p₃.config by rw [hTried.rest],
        show q₃.initialPrior = p₃.initialPrior by rw [hTried.rest]]
      split
      · exact ⟨hTried.setReason _, rfl⟩
      · exact ⟨hTried, rfl⟩
  split
  · exact ⟨hCollecting.setReason _, rfl⟩
  · exact ⟨hCollecting, rfl⟩

theorem prepareGroup :
    AlikeAnswers R (p.prepareGroup group ingested) (q.prepareGroup group ingested) ∧
      ∀ m start, p.prepareGroup group ingested = (m, .ok start) →
        m.estimatorInitialized = true := by
  unfold FastLioPipeline.prepareGroup
  cases groupFault group with
  | some reason => exact ⟨⟨h.failUpdate _ _, rfl⟩, fun _ _ hOk => by cases hOk⟩
  | none =>
    obtain ⟨p₁, q₁, ready, hp, hq, h₁⟩ :=
      ((h.retainGroup group).initializeFromGroup hForgets group ingested).split
    rw [hp, hq]
    cases ready with
    | error reason => exact ⟨⟨h₁, rfl⟩, fun _ _ hOk => by cases hOk⟩
    | ok _ =>
      have hSettled := h₁.settled (h₁.ready (.inl (initializeFromGroup_ok hp)))
      have hEntered := hSettled.enterEpoch group
      refine ⟨⟨hEntered.state.alike, hEntered.answer⟩, fun m start hOk => ?_⟩
      have hInitialized := hEntered.state.initialized
      rw [show p₁.enterEpoch group = (m, .ok start) from hOk] at hInitialized
      exact hInitialized

theorem processInternal :
    AlikeResults R (p.processInternal group ingested) (q.processInternal group ingested) := by
  obtain ⟨hPrepared, hReady⟩ := h.prepareGroup hForgets group ingested
  unfold FastLioPipeline.processInternal
  dsimp only
  rw [h.status]
  obtain ⟨p₁, q₁, prepared, hp, hq, h₁⟩ := hPrepared.split
  rw [hp, hq]
  cases prepared with
  | error reason => exact h₁.finalizeResult _
  | ok start =>
    have hDone := (h₁.settled (hReady p₁ start hp)).processPredicted group start
      { statusBefore := p.status, scanTime := some group.scan.endTime }
    rw [hDone.answer]
    exact hDone.state.alike.finalizeResult _

end

theorem recoverFromDiscontinuity (h : Alike True p q) (d : PropagationDiscontinuity) :
    AlikeResults True (p.recoverFromDiscontinuity d) (q.recoverFromDiscontinuity d) := by
  have hRebased : Alike True (if p.status.usesEstimatorState && p.stateTime.isSome then
        p.rebaseAfterDiscontinuity d else p)
      (if q.status.usesEstimatorState && q.stateTime.isSome then
        q.rebaseAfterDiscontinuity d else q) := by
    rw [h.status, show q.stateTime = p.stateTime by rw [h.rest]]
    split
    · rename_i hUses
      rw [Bool.and_eq_true] at hUses
      have hSettled := h.settled (h.ready (.inl hUses.1))
      exact (hSettled.rebaseAfterDiscontinuity d).alike
    · exact h
  unfold FastLioPipeline.recoverFromDiscontinuity
  dsimp only
  rw [h.status] at hRebased ⊢
  generalize (if p.status.usesEstimatorState && p.stateTime.isSome then
    p.rebaseAfterDiscontinuity d else p) = p₁ at hRebased ⊢
  generalize (if p.status.usesEstimatorState && q.stateTime.isSome then
    q.rebaseAfterDiscontinuity d else q) = q₁ at hRebased ⊢
  rw [hRebased.lifecycle.reason trivial]
  exact hRebased.finalizeResult _

theorem takeSynchronized (hForgets : ForgetsFilter N) (h : Alike True p q)
    (synchronized : SynchronizationResult D) :
    AlikeCalls True (p.takeSynchronized synchronized) (q.takeSynchronized synchronized) := by
  cases synchronized with
  | error status =>
    unfold FastLioPipeline.takeSynchronized
    rw [h.status]
    exact ((h.failUpdate .synchronization status.message).finalizeResult _).present
  | discontinuity d => exact (h.recoverFromDiscontinuity d).present
  | waiting => exact ⟨h, rfl⟩
  | group group => exact (h.processInternal hForgets group true).present

theorem processNext (hForgets : ForgetsFilter N) (h : Alike R p q) :
    AlikeCalls True p.processNext q.processNext := by
  have hCleared : Alike True (p.setReason "") (q.setReason "") := h.setReason_same ""
  unfold FastLioPipeline.processNext
  dsimp only
  generalize p.setReason "" = p₁ at hCleared ⊢
  generalize q.setReason "" = q₁ at hCleared ⊢
  rw [show q₁.holdsForPrior = p₁.holdsForPrior by
    rw [hCleared.rest]
    rfl, show q₁.feed = p₁.feed by rw [hCleared.rest]]
  split
  · exact ⟨hCleared, rfl⟩
  · apply takeSynchronized hForgets
    obtain ⟨l, e, c, g, rfl, hTwins, hFilter⟩ := hCleared.split
    exact ⟨rfl, hTwins, hFilter, hCleared.ready⟩

theorem process (hForgets : ForgetsFilter N) (h : Alike R p q) (group : MeasurementGroup D) :
    AlikeResults True (p.process group) (q.process group) := by
  have hCleared : Alike True (p.setReason "") (q.setReason "") := h.setReason_same ""
  exact hCleared.processInternal hForgets group false

theorem forget (h : Alike True p q) : Alike False p q :=
  ⟨h.rest, { h.lifecycle with reason := fun h => h.elim }, h.filter, h.ready⟩

theorem reset (hForgets : ForgetsFilter N) (h : Alike R p q) : Alike False p.reset q.reset := by
  have hEstimator : N.initializeState q.estimator N.mountedState =
      N.initializeState p.estimator N.mountedState := hForgets _ _ _
  obtain ⟨l, e, c, g, rfl, hTwins, hFilter⟩ := h.split
  unfold reset
  rw [hEstimator]
  apply Alike.mk
  · rfl
  · exact ⟨rfl, rfl, rfl, rfl, rfl, rfl, rfl, fun h => h.elim⟩
  · intro _
    exact ⟨rfl, rfl⟩
  · rintro (hUses | hConfirmed)
    · cases hUses
    · cases hConfirmed

theorem step (hForgets : ForgetsFilter N) (h : Alike False p q) (call : PipelineCall N) :
    Alike False (p.step call).1 (q.step call).1 ∧
      unnumberedAnswer (q.step call).2 = unnumberedAnswer (p.step call).2 := by
  cases call with
  | pushImu sample =>
    have hPushed := h.pushImu hForgets sample
    exact ⟨hPushed.state, congrArg PipelineAnswer.status hPushed.answer⟩
  | pushLidar now scan =>
    have hPushed := h.pushLidar now scan
    exact ⟨hPushed.state, congrArg PipelineAnswer.status hPushed.answer⟩
  | submitInitialStatePrior prior =>
    have hSubmitted := h.submitInitialStatePrior prior
    exact ⟨hSubmitted.state, congrArg PipelineAnswer.status hSubmitted.answer⟩
  | setInitialStatePriorGeometry baseToImu =>
    have hSet := h.setInitialStatePriorGeometry baseToImu
    exact ⟨hSet.state, congrArg PipelineAnswer.status hSet.answer⟩
  | processNext =>
    have hProcessed := h.processNext hForgets
    exact ⟨hProcessed.state.forget, congrArg PipelineAnswer.result hProcessed.result⟩
  | process group =>
    have hProcessed := (h.process hForgets group).present
    exact ⟨hProcessed.state.forget, congrArg PipelineAnswer.result hProcessed.result⟩
  | superviseLidarTimeout now => exact ⟨h.superviseLidarTimeout now, rfl⟩

end Alike

end FastLioPipeline

inductive ResettableCall (N : Numerics D) where
  | call (call : PipelineCall N)
  | reset

/-- What the caller of one operation sees of it and of the pipeline afterwards. -/
structure Observation (N : Numerics D) where
  answer : PipelineAnswer N
  status : EstimatorStatus
  navigationValid : Bool

namespace FastLioPipeline
variable {p q : FastLioPipeline N}

def resettableStep (p : FastLioPipeline N) : ResettableCall N → FastLioPipeline N × PipelineAnswer N
  | .call call => p.step call
  | .reset => (p.reset, .status (.ok ()))

def observed (e : Runs.Event (FastLioPipeline N) (ResettableCall N) (PipelineAnswer N)) :
    Observation N :=
  ⟨unnumberedAnswer e.result, e.after.status, e.after.navigationValid⟩

def fresh (config : EstimatorConfig N) (baseToImu : N.RigidTransform) : FastLioPipeline N :=
  { create config with priorGeometry := baseToImu }

theorem parts_resettableStep (p : FastLioPipeline N) (call : ResettableCall N) :
    (p.resettableStep call).1.parts = p.parts := by
  cases call with
  | call call => exact parts_step p call
  | reset => exact parts_reset p

theorem parts_run (config : EstimatorConfig N) (calls : List (ResettableCall N)) :
    (Runs.run resettableStep (create config) calls).parts = config.parts := by
  have hStep : ∀ (p : FastLioPipeline N) (call : ResettableCall N),
      p.parts = config.parts → (p.resettableStep call).1.parts = config.parts := by
    intro p call hParts
    rw [parts_resettableStep, hParts]
  exact Runs.run_invariant (P := fun p : FastLioPipeline N => p.parts = config.parts) hStep (parts_create config) calls

theorem reset_alike {config : EstimatorConfig N} (hParts : p.parts = config.parts) :
    Alike False p.reset (fresh config p.priorGeometry) := by
  have hConfig : p.config = config := congrArg PartConfigs.estimator hParts
  have hBuffer : p.feed.buffer.config = config.measurementBuffer :=
    congrArg PartConfigs.buffer hParts
  have hSynchronizer : p.feed.synchronizer.config = config.synchronization :=
    congrArg PartConfigs.synchronizer hParts
  have hInitializer : p.initializer.config = config.initialization :=
    congrArg PartConfigs.initializer hParts
  have hLocalMap : p.localMapManager.config = config.localMap :=
    congrArg PartConfigs.localMap hParts
  apply Alike.mk
  · unfold fresh create reset SensorFeed.create MeasurementBuffer.clear MeasurementSynchronizer.reset
      ImuInitializer.reset LocalMapManager.reset
    rw [hConfig, hBuffer, hSynchronizer, hInitializer, hLocalMap]
  · exact ⟨rfl, rfl, rfl, rfl, rfl, rfl, rfl, fun h => h.elim⟩
  · intro hInitialized
    cases hInitialized
  · rintro (hUses | hConfirmed)
    · cases hUses
    · cases hConfirmed

theorem resettableStep_alike (hForgets : ForgetsFilter N) (h : Alike False p q)
    (call : ResettableCall N) :
    Alike False (p.resettableStep call).1 (q.resettableStep call).1 ∧
      observed (Runs.eventAt resettableStep q call) =
        observed (Runs.eventAt resettableStep p call) := by
  have hStep : Alike False (p.resettableStep call).1 (q.resettableStep call).1 ∧
      unnumberedAnswer (q.resettableStep call).2 = unnumberedAnswer (p.resettableStep call).2 := by
    cases call with
    | call call => exact h.step hForgets call
    | reset => exact ⟨h.reset hForgets, rfl⟩
  obtain ⟨hAlike, hAnswer⟩ := hStep
  refine ⟨hAlike, ?_⟩
  unfold observed
  rw [Runs.eventAt_result, Runs.eventAt_result, Runs.eventAt_after, Runs.eventAt_after, hAnswer,
    hAlike.status, show (q.resettableStep call).1.navigationValid =
      (p.resettableStep call).1.navigationValid from hAlike.lifecycle.navigationValid]

/-- A reset leaves no residue: after any history and a reset, every continuation is answered
as a new pipeline with the same configuration and geometry answers it, but for the generation. -/
theorem reset_leaves_no_residue (hForgets : ForgetsFilter N) (config : EstimatorConfig N)
    (history later : List (ResettableCall N)) :
    (Runs.events resettableStep
        (Runs.run resettableStep (create config) (history ++ [.reset])) later).map observed =
      (Runs.events resettableStep
        (fresh config (Runs.run resettableStep (create config) history).priorGeometry)
        later).map observed := by
  rw [Runs.run_concat]
  symm
  apply Runs.lockstep (E := Alike False)
  · intro p q call h
    exact resettableStep_alike hForgets h call
  · exact reset_alike (parts_run config history)

end FastLioPipeline

def rescripted (predictions corrections : List Bool) : Numerics (ExactReal ℚ) :=
  { scripted predictions corrections with
    initializeState := fun _ _ => (predictions, corrections) }

theorem rescripted_forgets (predictions corrections : List Bool) :
    ForgetsFilter (rescripted predictions corrections) := fun _ _ _ => rfl

def rescriptedConfig (predictions corrections : List Bool) (confirmations : Nat)
    (hConfirmations : 0 < confirmations) :
    EstimatorConfig (rescripted predictions corrections) :=
  let config := scriptedConfig predictions corrections confirmations hConfirmations
  { measurementBuffer := config.measurementBuffer
    synchronization := config.synchronization
    initialization := config.initialization
    initialPrior := config.initialPrior
    localMap := config.localMap
    minimumPointCount := config.minimumPointCount
    lifecycle := config.lifecycle
    tracking := config.tracking
    priorValid := config.priorValid
    pointsPositive := config.pointsPositive
    inflationFinite := config.inflationFinite
    inflationLower := config.inflationLower
    inflationUpper := config.inflationUpper
    gapsOrdered := config.gapsOrdered }

def twoScans {predictions corrections : List Bool} :
    List (ResettableCall (rescripted predictions corrections)) :=
  [.call (.pushImu (sampleAt (.rosTime 10))),
    .call (.pushLidar 0 (scanOver (.rosTime 10) (.rosTime 20))),
    .call (.pushImu (sampleAt (.rosTime 20))), .call .processNext,
    .call (.pushLidar 10 (scanOver (.rosTime 20) (.rosTime 30))),
    .call (.pushImu (sampleAt (.rosTime 30))), .call .processNext]

namespace FastLioPipeline

/-- A tracking pipeline that is reset takes the same scans again. -/
theorem reset_leaves_no_residue_tracking :
    (Runs.run resettableStep (create (rescriptedConfig [] [] 1 (by decide))) twoScans).status =
        .tracking ∧
      (Runs.events resettableStep (Runs.run resettableStep
          (create (rescriptedConfig [] [] 1 (by decide))) (twoScans ++ [.reset]))
          twoScans).map observed =
        (Runs.events resettableStep (fresh (rescriptedConfig [] [] 1 (by decide))
          (Runs.run resettableStep (create (rescriptedConfig [] [] 1 (by decide)))
            twoScans).priorGeometry) twoScans).map observed := by
  constructor
  · decide +kernel
  · exact reset_leaves_no_residue (rescripted_forgets [] []) _ twoScans twoScans

end FastLioPipeline

end UavNavigation.FastLio
