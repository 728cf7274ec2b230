import UavNavigation.LifecycleMoves
import UavNavigation.FastLioPipeline

/-!
# What the stages leave alone

The stages before the map keep the feed, the map and the map manager, and change
the lifecycle by moves only. The state time is touched by two of them: by the
epoch and by the prediction.
-/

namespace UavNavigation.FastLio

open Relation

set_option autoImplicit false

variable {D : Type} [FloatOps D] {N : Numerics D}

abbrev EstimatorConfig.Moves (config : EstimatorConfig N) (S : Prop) :
    Lifecycle → Lifecycle → Prop :=
  Lifecycle.Moves config.lifecycle config.tracking.recoveryConfirmationUpdates S

/-- Everything but the numerical state, the prior and the initialization is kept, and the
lifecycle has only moved. -/
structure Keeps (S : Prop) (p q : FastLioPipeline N) : Prop where
  config : q.config = p.config
  feed : q.feed = p.feed
  map : q.registrationMap = p.registrationMap
  manager : q.localMapManager = p.localMapManager
  arrival : q.lastLidarArrival = p.lastLidarArrival
  stateTime : q.stateTime = p.stateTime
  moves : p.config.Moves S p.lifecycle q.lifecycle

namespace Keeps
variable {S : Prop} {p q r : FastLioPipeline N}

theorem refl (p : FastLioPipeline N) : Keeps S p p :=
  ⟨rfl, rfl, rfl, rfl, rfl, rfl, .refl⟩

theorem trans (hpq : Keeps S p q) (hqr : Keeps S q r) : Keeps S p r where
  config := hqr.config.trans hpq.config
  feed := hqr.feed.trans hpq.feed
  map := hqr.map.trans hpq.map
  manager := hqr.manager.trans hpq.manager
  arrival := hqr.arrival.trans hpq.arrival
  stateTime := hqr.stateTime.trans hpq.stateTime
  moves := hpq.moves.trans (hpq.config ▸ hqr.moves)

theorem extend (h : Keeps S { p with stateTime := q.stateTime } q) (hKeeps : Keeps S q r) :
    Keeps S { p with stateTime := r.stateTime } r := by
  rw [hKeeps.stateTime]
  exact h.trans hKeeps

theorem onward (h : Keeps S p q) : Lifecycle.Onward p.lifecycle q.lifecycle := h.moves.onward

end Keeps

namespace FastLioPipeline
variable {S : Prop} {p q : FastLioPipeline N}

section
variable (failureClass : LidarUpdateFailureClass) (reason : String)

theorem keeps_setReason (p : FastLioPipeline N) : Keeps S p (p.setReason reason) :=
  ⟨rfl, rfl, rfl, rfl, rfl, rfl, .single (.reason _ reason)⟩

theorem startUp_status (next : EstimatorStatus) (reason : String) (p : FastLioPipeline N) :
    (p.startUp next reason).status = next :=
  Lifecycle.transitionTo_status next reason p.lifecycle

theorem keeps_startUp {next : EstimatorStatus} (reason : String)
    (hBefore : p.status.usesEstimatorState = false)
    (hNext : next = .collectingImu ∨ next = .initializingImu ∨ next = .initializingMap) :
    Keeps S p (p.startUp next reason) :=
  ⟨rfl, rfl, rfl, rfl, rfl, rfl, .single (.startUp _ next reason hBefore hNext)⟩

theorem keeps_recordUncorrectedUpdate
    (p : FastLioPipeline N) : Keeps S p (p.recordUncorrectedUpdate failureClass) :=
  ⟨rfl, rfl, rfl, rfl, rfl, rfl, .single (.uncorrected _ failureClass)⟩

theorem keeps_failUpdate (p : FastLioPipeline N) : Keeps S p (p.failUpdate failureClass reason) :=
  (keeps_setReason reason p).trans (keeps_recordUncorrectedUpdate failureClass _)

end

/-! ## The initialization -/

theorem awaitPrior_spec (candidate : Option (InitialStatePrior D N.Covariance))
    (applicationTime : Timestamp) (p : FastLioPipeline N) :
    ∃ diagnostics fallback, (p.awaitPrior candidate applicationTime).1 =
      { p with initialPrior := diagnostics, initialPriorFallbackApplied := fallback } := by
  fun_cases awaitPrior <;> exact ⟨_, _, rfl⟩

theorem resolveInitialStatePrior_spec (applicationTime : Timestamp) (p : FastLioPipeline N) :
    ∃ mailbox diagnostics fallback, (p.resolveInitialStatePrior applicationTime).1 =
      { p with
        mailbox := mailbox
        initialPrior := diagnostics
        initialPriorFallbackApplied := fallback } := by
  unfold resolveInitialStatePrior
  dsimp only
  split
  · exact ⟨_, _, _, rfl⟩
  · exact ⟨_, _, _, rfl⟩
  split
  · obtain ⟨diagnostics, fallback, h⟩ := awaitPrior_spec none applicationTime
      (p.setInitialPrior { p.initialPrior with waitingForSensorTime := false })
    exact ⟨_, diagnostics, fallback, h⟩
  split
  · exact ⟨_, _, _, rfl⟩
  · rename_i candidate _ _ _
    obtain ⟨diagnostics, fallback, h⟩ := awaitPrior_spec (some candidate) applicationTime
      (p.setInitialPrior { p.initialPrior with
        waitingForSensorTime := true
        status := .waiting
        reason := "TOPIC_PRIOR_WAITING_FOR_SENSOR_TIME" })
    exact ⟨_, diagnostics, fallback, h⟩
  · rename_i candidate _ _ reason _
    obtain ⟨diagnostics, fallback, h⟩ := awaitPrior_spec (some candidate) applicationTime
      ({ p with mailbox := { p.mailbox with candidate := none } }.setInitialPrior
        { p.initialPrior with waitingForSensorTime := false, reason := reason })
    exact ⟨_, diagnostics, fallback, h⟩

/-- A step of the start-up: the estimator has no state before it and none after it. -/
structure Starting (S : Prop) (p q : FastLioPipeline N) : Prop where
  keeps : Keeps S p q
  unused : q.status.usesEstimatorState = false

theorem Starting.trans {r : FastLioPipeline N} (hpq : Starting S p q)
    (hqr : q.status.usesEstimatorState = false → Starting S q r) : Starting S p r :=
  ⟨hpq.keeps.trans (hqr hpq.unused).keeps, (hqr hpq.unused).unused⟩

section
variable (hBefore : p.status.usesEstimatorState = false)
include hBefore

theorem starting_resolve (applicationTime : Timestamp) :
    Starting S p (p.resolveInitialStatePrior applicationTime).1 := by
  obtain ⟨mailbox, diagnostics, fallback, h⟩ := resolveInitialStatePrior_spec applicationTime p
  rw [h]
  exact ⟨⟨rfl, rfl, rfl, rfl, rfl, rfl, .refl⟩, hBefore⟩

section
variable (reason : String)

theorem starting_setReason :
    Starting S p (p.setReason reason) := ⟨keeps_setReason reason p, hBefore⟩

theorem starting_rejectPrior : Starting S p (p.rejectPrior reason) :=
  ⟨⟨rfl, rfl, rfl, rfl, rfl, rfl, .single (.reason _ reason)⟩, hBefore⟩

theorem starting_initializingImu : Starting S p (p.startUp .initializingImu reason) := by
  refine ⟨keeps_startUp reason hBefore (.inr (.inl rfl)), ?_⟩
  rw [startUp_status]
  rfl

theorem starting_collectingImu : Starting S p (p.startUp .collectingImu reason) := by
  refine ⟨keeps_startUp reason hBefore (.inl rfl), ?_⟩
  rw [startUp_status]
  rfl

end

theorem starting_addInitializationSample
    (sample : ImuSample D) : Starting S p (p.addInitializationSample sample).1 := by
  unfold addInitializationSample
  split
  · exact ⟨Keeps.refl p, hBefore⟩
  split
  · exact ⟨Keeps.refl p, hBefore⟩
  split
  · exact ⟨Keeps.refl p, hBefore⟩
  rename_i initializer _
  have hStored : Starting S p { p with
      initializer := initializer
      lastInitializationImuTime := some sample.time } :=
    ⟨⟨rfl, rfl, rfl, rfl, rfl, rfl, .refl⟩, hBefore⟩
  dsimp only
  split
  · exact hStored.trans fun h => starting_initializingImu h _
  · exact hStored

end

theorem starting_addInitializationSamples (samples : List (ImuSample D)) {p : FastLioPipeline N}
    (hBefore : p.status.usesEstimatorState = false) :
    Starting S p (p.addInitializationSamples samples).1 := by
  induction samples generalizing p with
  | nil => exact ⟨Keeps.refl p, hBefore⟩
  | cons sample samples ih =>
    have hFirst := starting_addInitializationSample (S := S) hBefore sample
    unfold addInitializationSamples
    split
    · rename_i h
      rw [h] at hFirst
      exact hFirst
    · rename_i h
      rw [h] at hFirst
      exact hFirst.trans fun h => ih h

section
variable (hBefore : p.status.usesEstimatorState = false)
include hBefore

section
variable (progressTime : Option Timestamp)

theorem starting_beginInitialization : Starting S p (p.beginInitialization progressTime) := by
  obtain ⟨hKeeps, hUnused⟩ := starting_initializingImu (S := S) hBefore
    "EVALUATING_IMU_INITIALIZATION"
  exact ⟨⟨rfl, rfl, rfl, rfl, rfl, rfl, hKeeps.moves⟩, hUnused⟩

theorem starting_obtainInFlight : Starting S p (p.obtainInFlight progressTime).1 := by
  have hResolved := starting_resolve (S := S) hBefore (p.applicationTime progressTime)
  unfold obtainInFlight
  split
  · rename_i h
    rw [h] at hResolved
    exact hResolved
  rename_i h
  rw [h] at hResolved
  split
  · exact hResolved.trans fun h => starting_rejectPrior h _
  split
  · exact hResolved.trans fun h => starting_rejectPrior h _
  · exact hResolved.trans fun h => ⟨⟨rfl, rfl, rfl, rfl, rfl, rfl, .refl⟩, h⟩

theorem starting_obtainInitialization : Starting S p (p.obtainInitialization progressTime).1 := by
  unfold obtainInitialization
  split
  · exact ⟨Keeps.refl p, hBefore⟩
  have hBegun := starting_beginInitialization (S := S) hBefore progressTime
  dsimp only
  split
  · exact hBegun.trans fun h => starting_obtainInFlight h progressTime
  split
  · exact hBegun.trans fun h => starting_setReason h _
  · exact hBegun.trans fun h => ⟨⟨rfl, rfl, rfl, rfl, rfl, rfl, .refl⟩, h⟩

end

theorem keeps_startEstimator (appliedState : N.State) (prior : InitialStatePrior D N.Covariance)
    (priorCovariance : Option N.Covariance) :
    Keeps S p (p.startEstimator appliedState prior priorCovariance) := by
  exact ⟨rfl, rfl, rfl, rfl, rfl, rfl, .single (.startUp _ _ _ hBefore (.inr (.inr rfl)))⟩

theorem keeps_applyInitialStatePrior
    (result : N.InitializationResult) (prior : InitialStatePrior D N.Covariance) :
    Keeps S p (p.applyInitialStatePrior result prior) := by
  have hSet : Starting S p { p with state := N.setInitialization result p.state } :=
    ⟨⟨rfl, rfl, rfl, rfl, rfl, rfl, .refl⟩, hBefore⟩
  fun_cases applyInitialStatePrior
  case case2 => exact hSet.keeps.trans (keeps_startEstimator hSet.unused _ _ _)
  case case4 => exact hSet.keeps.trans (keeps_startEstimator hSet.unused _ _ _)
  all_goals exact (hSet.trans fun h => starting_rejectPrior h _).keeps

end

theorem keeps_tryCompleteImuInitialization (progressTime : Option Timestamp)
    (p : FastLioPipeline N) : Keeps S p (p.tryCompleteImuInitialization progressTime) := by
  unfold tryCompleteImuInitialization
  split
  · exact Keeps.refl p
  rename_i hTried
  have hBefore : p.status.usesEstimatorState = false := by
    simp only [Bool.or_eq_true, not_or, Bool.not_eq_true] at hTried
    exact hTried.2
  have hObtained := starting_obtainInitialization (S := S) hBefore progressTime
  split
  · rename_i h
    rw [h] at hObtained
    exact hObtained.keeps
  rename_i q result h
  rw [h] at hObtained
  have hResolved := hObtained.trans fun h =>
    starting_resolve (S := S) h (q.applicationTime progressTime)
  dsimp only
  split
  · rename_i h
    rw [h] at hResolved
    exact hResolved.keeps
  · rename_i h
    rw [h] at hResolved
    exact hResolved.keeps.trans (keeps_applyInitialStatePrior hResolved.unused _ _)

/-! ## The stages -/

variable {group : MeasurementGroup D}

theorem keeps_retainGroup (group : MeasurementGroup D) (p : FastLioPipeline N) :
    Keeps S p (p.retainGroup group) := by
  unfold retainGroup
  induction group.imuSamples generalizing p with
  | nil => exact Keeps.refl p
  | cons sample samples ih =>
    have hFirst : Keeps S p (p.retainPriorImuSample sample) :=
      ⟨rfl, rfl, rfl, rfl, rfl, rfl, .refl⟩
    exact hFirst.trans (ih _)

theorem keeps_initializeFromGroup (group : MeasurementGroup D) (ingested : Bool)
    (p : FastLioPipeline N) : Keeps S p (p.initializeFromGroup group ingested).1 := by
  unfold initializeFromGroup
  dsimp only
  have hCollect : Keeps S p (if p.status = .waitingForSensors then
      p.startUp .collectingImu "SYNCHRONIZED_MEASUREMENT_RECEIVED" else p) := by
    split
    · rename_i hWaiting
      exact keeps_startUp _ (by rw [hWaiting]; rfl) (.inl rfl)
    · exact Keeps.refl p
  generalize (if p.status = .waitingForSensors then
    p.startUp .collectingImu "SYNCHRONIZED_MEASUREMENT_RECEIVED" else p) = q at hCollect ⊢
  split
  · rename_i hStarting
    have hUnused : q.status.usesEstimatorState = false := by
      rcases hStarting with h | h <;> rw [h] <;> rfl
    have hAdded := starting_addInitializationSamples (S := S)
      (if ingested then [] else group.imuSamples) hUnused
    split
    · rename_i h
      rw [h] at hAdded
      exact hCollect.trans (hAdded.keeps.trans (keeps_setReason _ _))
    · rename_i r h
      rw [h] at hAdded
      have hTried := hCollect.trans (hAdded.keeps.trans (keeps_tryCompleteImuInitialization
        ((group.imuSamples.getLast?.map ImuSample.time).or r.lastInitializationImuTime) r))
      split
      · exact hTried.trans (keeps_setReason _ _)
      · exact hTried
  split
  · exact hCollect.trans (keeps_setReason _ _)
  · exact hCollect

theorem started_of_uses {status : EstimatorStatus} (hUses : status.usesEstimatorState = true) :
    status ≠ .waitingForSensors ∧ ¬(status = .collectingImu ∨ status = .initializingImu) := by
  cases status <;> simp_all [EstimatorStatus.usesEstimatorState]

theorem collectImu_used (hUses : p.status.usesEstimatorState = true) (sample : ImuSample D) :
    p.collectImu sample = (p, .ok ()) := by
  obtain ⟨hWaiting, hStarting⟩ := started_of_uses hUses
  unfold collectImu
  rw [if_neg hWaiting, if_neg hStarting]

theorem initializeFromGroup_used (hUses : p.status.usesEstimatorState = true)
    (group : MeasurementGroup D) (ingested : Bool) :
    p.initializeFromGroup group ingested = (p, .ok ()) := by
  obtain ⟨hWaiting, hStarting⟩ := started_of_uses hUses
  unfold initializeFromGroup
  rw [if_neg hWaiting, if_neg hStarting, if_neg (by simp [hUses])]

theorem initializeFromGroup_ok {ingested : Bool}
    (h : p.initializeFromGroup group ingested = (q, .ok ())) :
    q.status.usesEstimatorState = true := by
  unfold initializeFromGroup at h
  dsimp only at h
  generalize (if p.status = .waitingForSensors then
    p.startUp .collectingImu "SYNCHRONIZED_MEASUREMENT_RECEIVED" else p) = r at h
  split at h
  · split at h
    · cases h
    · split at h
      · cases h
      · rename_i hDone
        cases h
        rw [not_not.mp hDone]
        rfl
  · split at h
    · cases h
    · rename_i hUses
      cases h
      simpa using hUses

theorem failUpdate_recovering (hConfirmed : p.lifecycle.trackingEverConfirmed = true)
    (failureClass : LidarUpdateFailureClass) (reason : String) :
    (p.failUpdate failureClass reason).status.recovering = true := by
  obtain ⟨status, hRecovering, hStatus, -⟩ := Lifecycle.uncorrected_confirmed
    (l := p.lifecycle.setReason reason) p.config.lifecycle hConfirmed failureClass
  show ((p.lifecycle.setReason reason).recordUncorrectedUpdate p.config.lifecycle
    failureClass).status.recovering = true
  rw [hStatus]
  exact hRecovering

/-- What the second stage can do to the state time. -/
inductive EpochEntered (S : Prop) (group : MeasurementGroup D) (p q : FastLioPipeline N) :
    Except String Timestamp → Prop where
  | unset {reason} (hBefore : p.stateTime = none) (hKeeps : Keeps S p q) :
      EpochEntered S group p q (.error reason)
  | mismatch {reason t} (hBefore : p.stateTime = some t) (hKeeps : Keeps S p q)
      (hMismatch : t ≠ group.propagationStartTime)
      (hFailed : p.lifecycle.trackingEverConfirmed = true → q.status.recovering = true) :
      EpochEntered S group p q (.error reason)
  | initial {epoch} (hBefore : p.stateTime = none) (hAfter : q.stateTime = some epoch)
      (hKeeps : Keeps S { p with stateTime := q.stateTime } q)
      (hDomain : epoch.clockDomain = group.scan.startTime.clockDomain)
      (hStart : epoch.nanoseconds ≤ group.scan.startTime.nanoseconds) :
      EpochEntered S group p q (.ok epoch)
  | reached {t} (hBefore : p.stateTime = some t)
      (hAfter : q.stateTime = some group.propagationStartTime)
      (hKeeps : Keeps S { p with stateTime := q.stateTime } q) :
      EpochEntered S group p q (.ok group.propagationStartTime)

theorem enterEpoch_entered (S : Prop) (group : MeasurementGroup D) (p : FastLioPipeline N) :
    EpochEntered S group p (p.enterEpoch group).1 (p.enterEpoch group).2 := by
  unfold enterEpoch
  split
  · rename_i hNone
    dsimp only
    split
    · exact .unset hNone (keeps_failUpdate _ _ _)
    split
    · exact .unset hNone (keeps_setReason _ _)
    split
    · exact .unset hNone (keeps_setReason _ _)
    · rename_i hDomain _ hStart
      refine .initial hNone rfl (Keeps.refl _) ?_ (not_lt.mp hStart)
      simpa [Timestamp.sameClockDomain] using hDomain
  · rename_i t hSome
    split
    · rename_i hSame
      subst hSame
      refine .reached hSome hSome ?_
      exact Keeps.refl p
    rename_i hMismatch
    split
    · exact .mismatch hSome (keeps_failUpdate _ _ _) hMismatch
        fun h => failUpdate_recovering h _ _
    have hInflated : Keeps S p { p with covariance := p.inflated.1 } :=
      ⟨rfl, rfl, rfl, rfl, rfl, rfl, .refl⟩
    dsimp only
    split
    · refine .reached hSome rfl ?_
      have hRebased : Keeps S { p with stateTime := some group.propagationStartTime }
          ({ p with covariance := p.inflated.1 }.rebaseAt group.propagationStartTime) :=
        ⟨rfl, rfl, rfl, rfl, rfl, rfl, .refl⟩
      exact hRebased.trans (keeps_failUpdate _ _ _)
    · exact .mismatch hSome (hInflated.trans (keeps_failUpdate _ _ _)) hMismatch
        fun h => failUpdate_recovering h _ _

/-- What the third stage can do to the state time. -/
inductive Predicted (S : Prop) (group : MeasurementGroup D) (start : Timestamp)
    (p q : FastLioPipeline N) : Except String N.ImuTrajectory → Prop where
  | failed {reason} (hKeeps : Keeps S p q)
      (hFailed : p.lifecycle.trackingEverConfirmed = true → q.status.recovering = true) :
      Predicted S group start p q (.error reason)
  | done {trajectory} (hAfter : q.stateTime = some group.scan.endTime)
      (hKeeps : Keeps S { p with stateTime := q.stateTime } q) :
      Predicted S group start p q (.ok trajectory)

theorem predictScan_predicted (S : Prop) (group : MeasurementGroup D) (start : Timestamp)
    (p : FastLioPipeline N) :
    Predicted S group start p (p.predictScan group start).1 (p.predictScan group start).2 := by
  fun_cases predictScan
  case case3 =>
    refine .failed (Keeps.trans ?_ (keeps_failUpdate _ _ _)) fun h => failUpdate_recovering h _ _
    exact ⟨rfl, rfl, rfl, rfl, rfl, rfl, .refl⟩
  case case4 => exact .done rfl ⟨rfl, rfl, rfl, rfl, rfl, rfl, .refl⟩
  all_goals exact .failed (keeps_failUpdate _ _ _) fun h => failUpdate_recovering h _ _

theorem keeps_registerScan (group : MeasurementGroup D) (trajectory : N.ImuTrajectory)
    (p : FastLioPipeline N) : Keeps S p (p.registerScan group trajectory).1 := by
  fun_cases registerScan
  case case4 => exact ⟨rfl, rfl, rfl, rfl, rfl, rfl, .single (.reason _ _)⟩
  case case5 => exact Keeps.refl p
  all_goals exact keeps_failUpdate _ _ _

theorem registerScan_rejected {trajectory : N.ImuTrajectory} {rejection : PointRejection}
    (h : p.registerScan group trajectory = (q, .error rejection)) :
    rejection.lidarUpdateStatus ≠ .succeeded := by
  revert h
  fun_cases registerScan
  all_goals intro h
  · cases h
    simp
  · cases h
    simp
  · cases h
    simp
  · cases h
    simp
  · cases h

theorem keeps_correctScan (group : MeasurementGroup D) (points : List (Vec3 D))
    (p : FastLioPipeline N) : Keeps S p (p.correctScan group points).1 := by
  unfold correctScan
  dsimp only
  split
  · have hFailed : Keeps S p { p with
        estimator := (N.correct p.estimator points p.associationMap).1
        lifecycle := p.lifecycle.failInitialMap p.config.lifecycle } :=
      ⟨rfl, rfl, rfl, rfl, rfl, rfl, .single (.initialFailure _)⟩
    exact hFailed.trans ((keeps_recordUncorrectedUpdate _ _).trans (keeps_setReason _ _))
  · exact ⟨rfl, rfl, rfl, rfl, rfl, rfl, .single (.corrected _ _)⟩

theorem correctScan_ok {points : List (Vec3 D)} {correction : IkfomCorrectionResult N.State}
    (h : p.correctScan group points = (q, .ok correction)) :
    q.lifecycle.trackingEverConfirmed = true ∧
      ∃ e, (e.cause = .confirmed ∨ e.cause = .corrected) ∧ e.after = q.status ∧
        q.lifecycle.journal = p.lifecycle.journal ++ [e] := by
  unfold correctScan at h
  dsimp only at h
  split at h
  · cases h
  cases h
  obtain ⟨hAccepted, -⟩ := Lifecycle.acceptCorrection_accepted
    p.config.tracking.recoveryConfirmationUpdates
    (N.correct p.estimator points p.associationMap).2.converged p.lifecycle
  exact ⟨hAccepted.now_confirmed, hAccepted.event⟩

theorem keeps_finalizeResult (result : ProcessResult N) (p : FastLioPipeline N) :
    Keeps S p (p.finalizeResult result).1 := by
  exact ⟨rfl, rfl, rfl, rfl, rfl, rfl, .refl⟩

end FastLioPipeline

/-! ## The configurations of the parts -/

theorem ImuInitializer.addSample_config (i : ImuInitializer D) (sample : ImuSample D) :
    (i.addSample sample).1.config = i.config := by
  fun_cases addSample <;> rfl

theorem LocalMapManager.update_config (N : Numerics D) (m : LocalMapManager D)
    (map : N.RegistrationMap) (position : Vec3 D) :
    (m.update N map position).1.config = m.config := by
  fun_cases update <;> rfl

namespace MeasurementBuffer

theorem pushImu_config (b : MeasurementBuffer D) (sample : ImuSample D) :
    (b.pushImu sample).1.config = b.config := by
  rcases b.pushImu_cases sample with ⟨status, h⟩ | ⟨-, -, v, -, h⟩
  · rw [h]
  · rw [h]

theorem pushLidar_config (b : MeasurementBuffer D) (scan : LidarScan D) :
    (b.pushLidar scan).1.config = b.config := by
  rcases b.pushLidar_cases scan with ⟨status, h⟩ | ⟨-, -, v, w, -, -, h⟩
  · rw [h]
  · rw [h]

end MeasurementBuffer

namespace MeasurementSynchronizer

theorem refusal_config {s t : MeasurementSynchronizer} {front back : ImuSample D}
    {scan : LidarScan D} {status : Status} (h : s.refusal front back scan = some (t, status)) :
    t.config = s.config := by
  unfold refusal at h
  repeat' split at h
  all_goals cases h
  all_goals rfl

omit [FloatOps D] in
theorem settle_configs (s : MeasurementSynchronizer) (b : MeasurementBuffer D) (scan : LidarScan D)
    (scans : List (LidarScan D)) (start : Timestamp) (hasStart : Bool) (bracket stop : Nat) :
    (s.settle b scan scans start hasStart bracket stop).1.1.config = s.config ∧
      (s.settle b scan scans start hasStart bracket stop).1.2.config = b.config := by
  fun_cases settle <;> exact ⟨rfl, rfl⟩

theorem synchronizeNext_configs (s : MeasurementSynchronizer) (b : MeasurementBuffer D) :
    (s.synchronizeNext b).1.1.config = s.config ∧ (s.synchronizeNext b).1.2.config = b.config := by
  fun_cases synchronizeNext
  case case1 hRefused => exact ⟨refusal_config hRefused, rfl⟩
  case case5 => exact settle_configs s b _ _ _ _ _ _
  all_goals exact ⟨rfl, rfl⟩

end MeasurementSynchronizer

/-- The copies of the configuration that the parts hold. -/
structure PartConfigs (N : Numerics D) where
  estimator : EstimatorConfig N
  buffer : MeasurementBufferConfig
  synchronizer : MeasurementSynchronizerConfig
  initializer : ImuInitializerConfig
  localMap : LocalMapManagerConfig D

def EstimatorConfig.parts (config : EstimatorConfig N) : PartConfigs N :=
  ⟨config, config.measurementBuffer, config.synchronization, config.initialization, config.localMap⟩

namespace FastLioPipeline
variable {p q : FastLioPipeline N}

def parts (p : FastLioPipeline N) : PartConfigs N :=
  ⟨p.config, p.feed.buffer.config, p.feed.synchronizer.config, p.initializer.config,
    p.localMapManager.config⟩

@[simp] theorem parts_create (config : EstimatorConfig N) :
    (create config).parts = config.parts := rfl

theorem collecting_lifecycle (reason : String) (p : FastLioPipeline N) :
    ∃ lifecycle, (if p.status = .waitingForSensors then p.startUp .collectingImu reason else p) =
      { p with lifecycle := lifecycle } := by
  split <;> exact ⟨_, rfl⟩

@[simp] theorem parts_setReason (reason : String) (p : FastLioPipeline N) :
    (p.setReason reason).parts = p.parts := rfl

@[simp] theorem parts_resolveInitialStatePrior (applicationTime : Timestamp)
    (p : FastLioPipeline N) : (p.resolveInitialStatePrior applicationTime).1.parts = p.parts := by
  obtain ⟨mailbox, diagnostics, fallback, h⟩ := resolveInitialStatePrior_spec applicationTime p
  rw [h]
  rfl

theorem addInitializationSample_spec (sample : ImuSample D) (p : FastLioPipeline N) :
    ∃ initializer time lifecycle, initializer.config = p.initializer.config ∧
      (p.addInitializationSample sample).1 = { p with
        initializer := initializer
        lastInitializationImuTime := time
        lifecycle := lifecycle } := by
  have hConfig := p.initializer.addSample_config sample
  fun_cases addInitializationSample
  case case4 hAdded _ _ => exact ⟨_, _, _, (by rwa [hAdded] at hConfig), rfl⟩
  case case5 hAdded _ _ => exact ⟨_, _, _, (by rwa [hAdded] at hConfig), rfl⟩
  all_goals exact ⟨_, _, _, rfl, rfl⟩

theorem addInitializationSamples_spec (samples : List (ImuSample D)) (p : FastLioPipeline N) :
    ∃ initializer time lifecycle, initializer.config = p.initializer.config ∧
      (p.addInitializationSamples samples).1 = { p with
        initializer := initializer
        lastInitializationImuTime := time
        lifecycle := lifecycle } := by
  induction samples generalizing p with
  | nil => exact ⟨_, _, _, rfl, rfl⟩
  | cons sample samples ih =>
    obtain ⟨_, _, _, hFirst, hShape⟩ := addInitializationSample_spec sample p
    unfold addInitializationSamples
    generalize p.addInitializationSample sample = answer at hShape
    rcases answer with ⟨m, status | _⟩ <;> cases hShape
    · exact ⟨_, _, _, hFirst, rfl⟩
    · obtain ⟨_, _, _, hRest, hLast⟩ := ih _
      exact ⟨_, _, _, hRest.trans hFirst, hLast⟩

theorem parts_initialized {initializer : ImuInitializer D}
    (h : initializer.config = p.initializer.config) (time : Option Timestamp)
    (lifecycle : Lifecycle) : parts { p with
      initializer := initializer
      lastInitializationImuTime := time
      lifecycle := lifecycle } = p.parts := by
  unfold parts
  rw [← h]

section
variable (sample : ImuSample D) (progressTime : Option Timestamp) (p : FastLioPipeline N)

@[simp] theorem parts_addInitializationSample :
    (p.addInitializationSample sample).1.parts = p.parts := by
  obtain ⟨_, _, _, hConfig, h⟩ := addInitializationSample_spec sample p
  rw [h, parts_initialized hConfig]

@[simp] theorem parts_addInitializationSamples (samples : List (ImuSample D))
    (p : FastLioPipeline N) : (p.addInitializationSamples samples).1.parts = p.parts := by
  obtain ⟨_, _, _, hConfig, h⟩ := addInitializationSamples_spec samples p
  rw [h, parts_initialized hConfig]

@[simp] theorem parts_obtainInFlight : (p.obtainInFlight progressTime).1.parts = p.parts := by
  have hResolved := parts_resolveInitialStatePrior (p.applicationTime progressTime) p
  unfold obtainInFlight
  split
  · rename_i h
    rwa [h] at hResolved
  rename_i h
  rw [h] at hResolved
  split
  · exact hResolved
  split
  · exact hResolved
  · exact hResolved

@[simp] theorem parts_obtainInitialization
    : (p.obtainInitialization progressTime).1.parts = p.parts := by
  fun_cases obtainInitialization
  case case2 => exact parts_obtainInFlight progressTime (p.beginInitialization progressTime)
  all_goals rfl

theorem parts_applyInitialStatePrior (result : N.InitializationResult)
    (prior : InitialStatePrior D N.Covariance) (p : FastLioPipeline N) :
    (p.applyInitialStatePrior result prior).parts = p.parts := by
  fun_cases applyInitialStatePrior <;> rfl

@[simp] theorem parts_tryCompleteImuInitialization
    : (p.tryCompleteImuInitialization progressTime).parts = p.parts := by
  have hObtained := parts_obtainInitialization progressTime p
  unfold tryCompleteImuInitialization
  split
  · rfl
  split
  · rename_i h
    rwa [h] at hObtained
  rename_i m result h
  rw [h] at hObtained
  have hResolved := parts_resolveInitialStatePrior (m.applicationTime progressTime) m
  dsimp only
  split
  · rename_i h
    rw [h] at hResolved
    exact hResolved.trans hObtained
  · rename_i h
    rw [h] at hResolved
    rw [parts_applyInitialStatePrior]
    exact hResolved.trans hObtained

theorem parts_collectImu : (p.collectImu sample).1.parts = p.parts := by
  obtain ⟨lifecycle, hCollecting⟩ := collecting_lifecycle "FIRST_IMU_SAMPLE_ACCEPTED" p
  unfold collectImu
  rw [hCollecting]
  dsimp only
  have hAdded : _ = p.parts :=
    parts_addInitializationSample sample { p with lifecycle := lifecycle }
  split
  · split
    · rename_i h
      rw [h] at hAdded
      exact hAdded
    · rename_i h
      rw [h] at hAdded
      rw [parts_tryCompleteImuInitialization]
      exact hAdded
  · rfl

end

theorem parts_buffer {buffer : MeasurementBuffer D}
    (hConfig : buffer.config = p.feed.buffer.config) (arrival : Option Int) :
    parts { p with feed := { p.feed with buffer := buffer }, lastLidarArrival := arrival } =
      p.parts := by
  unfold parts
  rw [← hConfig]

theorem parts_pushImu (sample : ImuSample D) (p : FastLioPipeline N) :
    (p.pushImu sample).1.parts = p.parts := by
  have hConfig := p.feed.buffer.pushImu_config sample
  unfold pushImu
  split
  · rename_i h
    rw [h] at hConfig
    exact parts_buffer hConfig p.lastLidarArrival
  · rename_i h
    rw [h] at hConfig
    rw [parts_collectImu]
    exact parts_buffer hConfig p.lastLidarArrival

theorem parts_pushLidar (now : Int) (scan : LidarScan D) (p : FastLioPipeline N) :
    (p.pushLidar now scan).1.parts = p.parts := by
  have hConfig := p.feed.buffer.pushLidar_config scan
  unfold pushLidar
  split
  · rename_i h
    rw [h] at hConfig
    exact parts_buffer hConfig p.lastLidarArrival
  · rename_i h
    rw [h] at hConfig
    exact parts_buffer hConfig (some now)

/-! ## A processed group -/

section
variable (group : MeasurementGroup D) (p : FastLioPipeline N)

theorem retainGroup_spec :
    ∃ history, p.retainGroup group = { p with priorImuHistory := history } := by
  unfold retainGroup
  induction group.imuSamples generalizing p with
  | nil => exact ⟨_, rfl⟩
  | cons sample samples ih => exact ih (p.retainPriorImuSample sample)

@[simp] theorem parts_retainGroup : (p.retainGroup group).parts = p.parts := by
  obtain ⟨_, h⟩ := retainGroup_spec group p
  rw [h]
  rfl

theorem parts_initializeFromGroup (ingested : Bool)
    (p : FastLioPipeline N) : (p.initializeFromGroup group ingested).1.parts = p.parts := by
  obtain ⟨lifecycle, hCollecting⟩ := collecting_lifecycle "SYNCHRONIZED_MEASUREMENT_RECEIVED" p
  unfold initializeFromGroup
  rw [hCollecting]
  dsimp only
  have hAdded : _ = p.parts := parts_addInitializationSamples
    (if ingested then [] else group.imuSamples) { p with lifecycle := lifecycle }
  split
  · split
    · rename_i h
      rw [h] at hAdded
      exact hAdded
    · rename_i h
      rw [h] at hAdded
      split
      · rw [parts_setReason, parts_tryCompleteImuInitialization]
        exact hAdded
      · rw [parts_tryCompleteImuInitialization]
        exact hAdded
  split
  · rfl
  · rfl

end

/-- What the stages after the initialization leave alone. -/
def kept (p : FastLioPipeline N) : PartConfigs N × InitialPriorMailbox D N.Covariance :=
  (p.parts, p.mailbox)

section
variable (group : MeasurementGroup D)

theorem kept_enterEpoch (p : FastLioPipeline N) : (p.enterEpoch group).1.kept = p.kept := by
  fun_cases enterEpoch <;> rfl

theorem parts_prepareGroup (ingested : Bool)
    (p : FastLioPipeline N) : (p.prepareGroup group ingested).1.parts = p.parts := by
  have hInitialized := (p.retainGroup group).parts_initializeFromGroup group ingested
  fun_cases prepareGroup
  · rfl
  · rename_i h
    rw [h] at hInitialized
    exact hInitialized.trans (parts_retainGroup group p)
  · rename_i h
    rw [h] at hInitialized
    exact (congrArg Prod.fst (kept_enterEpoch group _)).trans
      (hInitialized.trans (parts_retainGroup group p))

theorem kept_predictScan (start : Timestamp)
    (p : FastLioPipeline N) : (p.predictScan group start).1.kept = p.kept := by
  fun_cases predictScan <;> rfl

theorem kept_registerScan (trajectory : N.ImuTrajectory)
    (p : FastLioPipeline N) : (p.registerScan group trajectory).1.kept = p.kept := by
  fun_cases registerScan <;> rfl

theorem kept_correctScan (points : List (Vec3 D))
    (p : FastLioPipeline N) : (p.correctScan group points).1.kept = p.kept := by
  unfold correctScan
  dsimp only
  split
  · rfl
  · rfl

end

variable (points : List (Vec3 D)) (group : MeasurementGroup D) (d : PropagationDiscontinuity)
  (p : FastLioPipeline N)

theorem kept_insertIntoMap : (p.insertIntoMap points).1.kept = p.kept := by
  have hManager {m : FastLioPipeline N} {manager : LocalMapManager D} {map}
      (hKept : m.kept = p.kept) (hConfig : manager.config = m.localMapManager.config)
      (lifecycle : Lifecycle) : kept { m with
        localMapManager := manager
        registrationMap := map
        lifecycle := lifecycle } = p.kept := by
    rw [← hKept]
    unfold kept parts
    rw [← hConfig]
  have hSeeded : (if N.mapSize p.registrationMap = 0 ∧ p.bootstrapReferencePointsOdomM ≠ [] then
      { p with
        registrationMap := N.insert p.registrationMap p.bootstrapReferencePointsOdomM
        bootstrapReferencePointsOdomM := []
        bootstrapMap := N.emptyMap }
      else p).kept = p.kept := by split <;> rfl
  unfold insertIntoMap
  dsimp only
  generalize (if N.mapSize p.registrationMap = 0 ∧ p.bootstrapReferencePointsOdomM ≠ [] then
    { p with
      registrationMap := N.insert p.registrationMap p.bootstrapReferencePointsOdomM
      bootstrapReferencePointsOdomM := []
      bootstrapMap := N.emptyMap }
    else p) = m at hSeeded ⊢
  split
  · exact hManager hSeeded (LocalMapManager.update_config _ _ _ _) _
  · exact hManager hSeeded (LocalMapManager.update_config _ _ _ _) m.lifecycle

theorem kept_updateMap (correction : IkfomCorrectionResult N.State) (points : List (Vec3 D))
    (p : FastLioPipeline N) : (p.updateMap correction points).1.kept = p.kept := by
  fun_cases updateMap
  case case2 => exact kept_insertIntoMap _ p
  all_goals rfl

theorem kept_processPredicted (start : Timestamp)
    (result : ProcessResult N) (p : FastLioPipeline N) :
    (p.processPredicted group start result).1.kept = p.kept := by
  have hPredicted := p.kept_predictScan group start
  unfold processPredicted
  split
  · rename_i h
    rwa [h] at hPredicted
  rename_i p₁ trajectory h
  rw [h] at hPredicted
  have hRegistered := p₁.kept_registerScan group trajectory
  split
  · rename_i h
    rw [h] at hRegistered
    exact hRegistered.trans hPredicted
  rename_i p₂ points h
  rw [h] at hRegistered
  have hCorrected := p₂.kept_correctScan group points
  split
  · rename_i h
    rw [h] at hCorrected
    exact hCorrected.trans (hRegistered.trans hPredicted)
  · rename_i p₃ correction h
    rw [h] at hCorrected
    exact (p₃.kept_updateMap correction points).trans
      (hCorrected.trans (hRegistered.trans hPredicted))

theorem parts_processInternal (ingested : Bool)
    (p : FastLioPipeline N) : (p.processInternal group ingested).1.parts = p.parts := by
  have hPrepared := p.parts_prepareGroup group ingested
  unfold processInternal
  split
  · rename_i h
    rwa [h] at hPrepared
  · rename_i m start h
    rw [h] at hPrepared
    exact (congrArg Prod.fst (m.kept_processPredicted group start _)).trans hPrepared

theorem kept_rebaseAfterDiscontinuity : (p.rebaseAfterDiscontinuity d).kept = p.kept := by
  fun_cases rebaseAfterDiscontinuity <;> rfl

theorem parts_recoverFromDiscontinuity : (p.recoverFromDiscontinuity d).1.parts = p.parts := by
  unfold recoverFromDiscontinuity
  split
  · exact congrArg Prod.fst (kept_rebaseAfterDiscontinuity d p)
  · rfl

theorem parts_takeSynchronized (synchronized : SynchronizationResult D) (p : FastLioPipeline N) :
    (p.takeSynchronized synchronized).1.parts = p.parts := by
  cases synchronized with
  | error status => rfl
  | discontinuity d => exact parts_recoverFromDiscontinuity d p
  | waiting => rfl
  | group group => exact parts_processInternal group true p

theorem parts_processNext : p.processNext.1.parts = p.parts := by
  obtain ⟨hSynchronizer, hBuffer⟩ :=
    p.feed.synchronizer.synchronizeNext_configs p.feed.buffer
  unfold processNext
  dsimp only
  split
  · rfl
  · rw [parts_takeSynchronized]
    unfold parts
    rw [← hSynchronizer, ← hBuffer]
    rfl

theorem parts_step (call : PipelineCall N) : (p.step call).1.parts = p.parts := by
  cases call with
  | pushImu sample => exact parts_pushImu sample p
  | pushLidar now scan => exact parts_pushLidar now scan p
  | submitInitialStatePrior prior =>
    unfold step submitInitialStatePrior
    dsimp only
    split
    · rfl
    · rfl
  | setInitialStatePriorGeometry baseToImu =>
    unfold step setInitialStatePriorGeometry
    dsimp only
    split
    · rfl
    split
    · rfl
    · rfl
  | processNext => exact parts_processNext p
  | process group => exact parts_processInternal group false (p.setReason "")
  | superviseLidarTimeout now =>
    unfold step superviseLidarTimeout
    dsimp only
    split
    · rfl
    · rfl

theorem parts_reset : p.reset.parts = p.parts := rfl

end FastLioPipeline

end UavNavigation.FastLio
