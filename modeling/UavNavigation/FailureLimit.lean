import UavNavigation.PipelineCalls
import UavNavigation.ExactReals
import UavNavigation.PipelineTwins

/-!
# The updates of a group

Which stage ends the processing of a group decides what the lifecycle counts. A
confirmed pipeline counts a group that ends before its correction exactly once,
unless the group also moved the state to another epoch, which is counted as well.
-/

namespace UavNavigation.FastLio

set_option autoImplicit false

variable {D : Type} [FloatOps D] {N : Numerics D}

@[simp] theorem Lifecycle.recordUncorrectedUpdate_confirmed (config : LifecycleConfig)
    (failureClass : LidarUpdateFailureClass) (l : Lifecycle) :
    (l.recordUncorrectedUpdate config failureClass).trackingEverConfirmed =
      l.trackingEverConfirmed := by
  cases hConfirmed : l.trackingEverConfirmed with
  | true => exact Lifecycle.uncorrected_stays config hConfirmed failureClass
  | false =>
    rw [Lifecycle.uncorrected_unconfirmed hConfirmed]
    exact hConfirmed

namespace FastLioPipeline
variable {p q : FastLioPipeline N} {r : ProcessResult N}

abbrev confirmed (p : FastLioPipeline N) : Bool := p.lifecycle.trackingEverConfirmed

abbrev uncorrectedUpdates (p : FastLioPipeline N) : Nat :=
  p.lifecycle.consecutiveUncorrectedLidarUpdates

abbrev failureLimit (p : FastLioPipeline N) : Nat :=
  p.config.lifecycle.lostAfterRegistrationFailures

def beforeCorrection (group : MeasurementGroup D) (imuSamplesAlreadyIngested : Bool)
    (p : FastLioPipeline N) : FastLioPipeline N × Option (List (Vec3 D)) :=
  match p.prepareGroup group imuSamplesAlreadyIngested with
  | (p, .error _) => (p, none)
  | (p, .ok start) =>
    match p.predictScan group start with
    | (p, .error _) => (p, none)
    | (p, .ok trajectory) =>
      match p.registerScan group trajectory with
      | (p, .error _) => (p, none)
      | (p, .ok pointsLidarM) => (p, some pointsLidarM)

def Corrects (group : MeasurementGroup D) (imuSamplesAlreadyIngested : Bool)
    (p : FastLioPipeline N) : Prop :=
  ∃ u pointsLidarM c correction,
    p.beforeCorrection group imuSamplesAlreadyIngested = (u, some pointsLidarM) ∧
    u.correctScan group pointsLidarM = (c, .ok correction)

/-- The group moves the state forward to its own start before it is predicted. -/
def Rebases (group : MeasurementGroup D) (p : FastLioPipeline N) : Prop :=
  groupFault group = none ∧ ∃ t ∈ p.stateTime, t ≠ group.propagationStartTime ∧
    p.recoverableForwardMismatch t group = true ∧
    (∃ gapNs, checkedDifference group.propagationStartTime t = .ok gapNs) ∧ p.inflated.2 = true

/-- How the processing of a group ends, by the stage that ends it. -/
inductive Ends (group : MeasurementGroup D) (ingested : Bool) (p q : FastLioPipeline N)
    (r : ProcessResult N) : Prop where
  | early {u} (hBefore : p.beforeCorrection group ingested = (u, none))
      (hLifecycle : q.lifecycle = u.lifecycle) (hResult : r.lidarUpdateStatus ≠ .succeeded)
  | refused {u points c reason} (hBefore : p.beforeCorrection group ingested = (u, some points))
      (hCorrected : u.correctScan group points = (c, .error reason))
      (hLifecycle : q.lifecycle = c.lifecycle) (hResult : r.lidarUpdateStatus ≠ .succeeded)
  | corrected {u points c correction}
      (hBefore : p.beforeCorrection group ingested = (u, some points))
      (hCorrected : u.correctScan group points = (c, .ok correction))
      (hLifecycle : q.lifecycle =
        ((c.updateMap correction points).1.setFinalReason correction).lifecycle)
      (hResult : r.lidarUpdateStatus = .succeeded)

variable {group : MeasurementGroup D} {ingested : Bool}

theorem processInternal_ends (group : MeasurementGroup D) (ingested : Bool)
    (p : FastLioPipeline N) :
    Ends group ingested p (p.processInternal group ingested).1
      (p.processInternal group ingested).2 := by
  unfold processInternal
  have hBefore : p.beforeCorrection group ingested = p.beforeCorrection group ingested := rfl
  conv_rhs at hBefore => unfold beforeCorrection
  rcases hPrepared : p.prepareGroup group ingested with ⟨m, reason | start⟩
  · rw [hPrepared] at hBefore
    exact .early hBefore rfl (by simp [finalizeResult])
  rw [hPrepared] at hBefore
  dsimp only at hBefore ⊢
  unfold processPredicted
  rcases hPredicted : m.predictScan group start with ⟨t, reason | trajectory⟩
  · rw [hPredicted] at hBefore
    exact .early hBefore rfl (by simp [finalizeResult])
  rw [hPredicted] at hBefore
  dsimp only at hBefore ⊢
  rcases hRegistered : t.registerScan group trajectory with ⟨u, rejection | points⟩
  · rw [hRegistered] at hBefore
    exact .early hBefore rfl (registerScan_rejected hRegistered)
  rw [hRegistered] at hBefore
  dsimp only at hBefore ⊢
  rcases hCorrected : u.correctScan group points with ⟨c, reason | correction⟩
  · exact .refused hBefore hCorrected rfl (by simp [finalizeResult])
  · exact .corrected hBefore hCorrected rfl rfl

theorem Ends.corrects (h : Ends group ingested p q r) :
    r.lidarUpdateStatus = .succeeded ↔ p.Corrects group ingested := by
  cases h with
  | early hBefore _ hResult =>
    refine ⟨fun h => absurd h hResult, ?_⟩
    rintro ⟨u, points, c, correction, hReached, -⟩
    rw [hBefore] at hReached
    cases hReached
  | refused hBefore hCorrected _ hResult =>
    refine ⟨fun h => absurd h hResult, ?_⟩
    rintro ⟨u, points, c, correction, hReached, hOk⟩
    rw [hBefore] at hReached
    cases hReached
    rw [hCorrected] at hOk
    cases hOk
  | corrected hBefore hCorrected _ hResult =>
    exact ⟨fun _ => ⟨_, _, _, _, hBefore, hCorrected⟩, fun _ => hResult⟩

/-! ## What confirms a pipeline -/

structure Counted (p : FastLioPipeline N) : Prop where
  healthy : Healthy p
  tallied : Lifecycle.Tallied p.lifecycle
  timed : p.confirmed = true → p.stateTime.isSome = true

theorem create_counted (config : EstimatorConfig N) : Counted (create config) where
  healthy := create_healthy config
  tallied := Lifecycle.initial_tallied
  timed := by
    intro h
    cases h

theorem failUpdate_confirmed (failureClass : LidarUpdateFailureClass) (reason : String)
    (p : FastLioPipeline N) : (p.failUpdate failureClass reason).confirmed = p.confirmed :=
  Lifecycle.recordUncorrectedUpdate_confirmed _ _ _

theorem startsUp_unconfirmed {l : Lifecycle} (hSane : Lifecycle.Sane l) (hTallied : Lifecycle.Tallied l)
    (h : StartsUp l.status) : l.trackingEverConfirmed = false := by
  by_contra hConfirmed
  rcases h with h | h
  · exact hConfirmed (hSane.unconfirmed h)
  · rcases hTallied.settled (by simpa using hConfirmed) with hStatus | hStatus <;>
      rw [h] at hStatus <;> cases hStatus

theorem initializeFromGroup_startsUp (hBefore : p.status.usesEstimatorState = false)
    (group : MeasurementGroup D) (ingested : Bool) :
    StartsUp (p.initializeFromGroup group ingested).1.status := by
  have hCollected : (if p.status = .waitingForSensors then
      p.startUp .collectingImu "SYNCHRONIZED_MEASUREMENT_RECEIVED" else p).status.usesEstimatorState =
      false := by
    split
    · exact (starting_collectingImu (S := True) hBefore _).unused
    · exact hBefore
  unfold initializeFromGroup
  dsimp only
  generalize (if p.status = .waitingForSensors then
    p.startUp .collectingImu "SYNCHRONIZED_MEASUREMENT_RECEIVED" else p) = c at hCollected ⊢
  split
  · have hAdded := starting_addInitializationSamples (S := True)
      (if ingested then [] else group.imuSamples) hCollected
    split
    · rename_i h
      rw [h] at hAdded
      exact .inl hAdded.unused
    · rename_i m h
      rw [h] at hAdded
      have hTried := tryCompleteImuInitialization_startsUp hAdded.unused
        ((group.imuSamples.getLast?.map ImuSample.time).or m.lastInitializationImuTime)
      split <;> exact hTried
  split <;> exact .inl hCollected

theorem prepareGroup_confirmed (hp : Counted p) (group : MeasurementGroup D) (ingested : Bool) :
    (p.prepareGroup group ingested).1.confirmed = p.confirmed := by
  have hEnter (m : FastLioPipeline N) : (m.enterEpoch group).1.confirmed = m.confirmed := by
    unfold enterEpoch
    split
    · dsimp only
      split
      · exact failUpdate_confirmed _ _ _
      split
      · rfl
      split <;> rfl
    · split
      · rfl
      split
      · exact failUpdate_confirmed _ _ _
      dsimp only
      split <;> exact failUpdate_confirmed _ _ _
  obtain ⟨history, hRetained⟩ := retainGroup_spec group p
  unfold prepareGroup
  split
  · exact failUpdate_confirmed _ _ _
  rw [hRetained]
  have hReady : ({ p with priorImuHistory := history }.initializeFromGroup group
      ingested).1.confirmed = p.confirmed := by
    cases hUses : p.status.usesEstimatorState with
    | true =>
      rw [initializeFromGroup_used (p := { p with priorImuHistory := history }) hUses group ingested]
    | false =>
      have hKeeps := keeps_initializeFromGroup (S := True) group ingested
        { p with priorImuHistory := history }
      have hStarts := initializeFromGroup_startsUp (p := { p with priorImuHistory := history }) hUses
        group ingested
      rw [show p.confirmed = false from hp.healthy.sane.unconfirmed hUses]
      exact startsUp_unconfirmed (hp.healthy.sane.moves hKeeps.moves)
        (hp.tallied.moves hp.healthy.sane hKeeps.moves) hStarts
  split
  · rename_i m reason h
    rw [h] at hReady
    exact hReady
  · rename_i m h
    rw [h] at hReady
    exact (hEnter m).trans hReady

theorem predictScan_confirmed (group : MeasurementGroup D) (start : Timestamp)
    (p : FastLioPipeline N) : (p.predictScan group start).1.confirmed = p.confirmed := by
  fun_cases predictScan
  case case4 => rfl
  all_goals exact failUpdate_confirmed _ _ _

theorem registerScan_confirmed (group : MeasurementGroup D) (trajectory : N.ImuTrajectory)
    (p : FastLioPipeline N) : (p.registerScan group trajectory).1.confirmed = p.confirmed := by
  fun_cases registerScan
  case case4 => rfl
  case case5 => rfl
  all_goals exact failUpdate_confirmed _ _ _

theorem beforeCorrection_confirmed (hp : Counted p) (group : MeasurementGroup D)
    (ingested : Bool) : (p.beforeCorrection group ingested).1.confirmed = p.confirmed := by
  have hPrepare := prepareGroup_confirmed hp group ingested
  unfold beforeCorrection
  rcases hPrepared : p.prepareGroup group ingested with ⟨m, reason | start⟩
  · rw [hPrepared] at hPrepare
    exact hPrepare
  rw [hPrepared] at hPrepare
  dsimp only at hPrepare ⊢
  have hPredict := predictScan_confirmed group start m
  rcases hPredicted : m.predictScan group start with ⟨t, reason | trajectory⟩
  · rw [hPredicted] at hPredict
    exact hPredict.trans hPrepare
  rw [hPredicted] at hPredict
  dsimp only at hPredict ⊢
  have hRegister := registerScan_confirmed group trajectory t
  rcases hRegistered : t.registerScan group trajectory with ⟨u, rejection | points⟩ <;>
    rw [hRegistered] at hRegister <;> exact hRegister.trans (hPredict.trans hPrepare)

theorem failInitialMap_confirmed (config : LifecycleConfig) (l : Lifecycle) :
    (l.failInitialMap config).trackingEverConfirmed = l.trackingEverConfirmed := by
  unfold Lifecycle.failInitialMap
  split
  · dsimp only
    split
    · simp
    · rfl
  · rfl

theorem correctScan_refused {points : List (Vec3 D)} {reason : String}
    (h : p.correctScan group points = (q, .error reason)) :
    q.lifecycle = ((p.lifecycle.failInitialMap p.config.lifecycle).recordUncorrectedUpdate
      p.config.lifecycle .registration).setReason reason := by
  unfold correctScan at h
  dsimp only at h
  split at h
  · cases h
    rfl
  · cases h

theorem correctScan_accepted {points : List (Vec3 D)} {correction : IkfomCorrectionResult N.State}
    (h : p.correctScan group points = (q, .ok correction)) :
    q.lifecycle = p.lifecycle.acceptCorrection p.config.tracking.recoveryConfirmationUpdates
      correction.converged := by
  unfold correctScan at h
  dsimp only at h
  split at h
  · cases h
  · cases h
    rfl

theorem Ends.confirmed (hp : Counted p) (h : Ends group ingested p q r)
    (hResult : r.lidarUpdateStatus ≠ .succeeded) : q.confirmed = p.confirmed := by
  have hStages := beforeCorrection_confirmed hp group ingested
  cases h with
  | early hBefore hLifecycle =>
    rw [hBefore] at hStages
    exact (congrArg Lifecycle.trackingEverConfirmed hLifecycle).trans hStages
  | @refused u points c reason hBefore hCorrected hLifecycle =>
    rw [hBefore] at hStages
    rw [← hStages]
    show q.lifecycle.trackingEverConfirmed = _
    rw [hLifecycle, correctScan_refused hCorrected]
    exact (Lifecycle.recordUncorrectedUpdate_confirmed _ _ _).trans (failInitialMap_confirmed _ _)
  | corrected _ _ _ hSucceeded => exact absurd hSucceeded hResult

theorem prepareGroup_timed (group : MeasurementGroup D) (ingested : Bool) (p : FastLioPipeline N) :
    (p.stateTime.isSome = true → (p.prepareGroup group ingested).1.stateTime.isSome = true) ∧
      ∀ start, (p.prepareGroup group ingested).2 = .ok start →
        (p.prepareGroup group ingested).1.stateTime.isSome = true := by
  have hPrepared := prepareGroup_prepared True group ingested p
  generalize (p.prepareGroup group ingested).1 = m at hPrepared ⊢
  generalize (p.prepareGroup group ingested).2 = answer at hPrepared ⊢
  cases hPrepared with
  | refused _ hKeeps =>
    rw [hKeeps.stateTime]
    exact ⟨id, fun _ h => by cases h⟩
  | notReady _ hKeeps =>
    rw [hKeeps.stateTime]
    exact ⟨id, fun _ h => by cases h⟩
  | entered _ hKeeps _ hEntered =>
    rw [← hKeeps.stateTime]
    cases hEntered with
    | unset _ hEntered =>
      rw [hEntered.stateTime]
      exact ⟨id, fun _ h => by cases h⟩
    | mismatch _ hEntered =>
      rw [hEntered.stateTime]
      exact ⟨id, fun _ h => by cases h⟩
    | initial _ hAfter => rw [hAfter]; simp
    | reached _ hAfter => rw [hAfter]; simp

theorem processInternal_timed (hp : Counted p) (group : MeasurementGroup D) (ingested : Bool)
    (hAfter : (p.processInternal group ingested).1.confirmed = true) :
    (p.processInternal group ingested).1.stateTime.isSome = true := by
  have hEnds := processInternal_ends group ingested p
  have hPrepare := prepareGroup_timed group ingested p
  cases processInternal_processed True group ingested p with
  | stopped hPrepared hKeeps _ hResult =>
    rw [hEnds.confirmed hp hResult.status] at hAfter
    rw [hPrepared] at hPrepare
    rw [hKeeps.stateTime]
    exact hPrepare.1 (hp.timed hAfter)
  | unpredicted hPrepared _ hKeeps =>
    rw [hPrepared] at hPrepare
    rw [hKeeps.stateTime]
    exact hPrepare.2 _ rfl
  | uncorrected _ hTime =>
    rw [hTime]
    rfl
  | @corrected m start c u e hPrepared hTime hKeeps _ _ _ _ hUpdated =>
    have hCarries := (prepareGroup_prepared True group ingested p).carries
    rw [hPrepared] at hCarries
    have hOwed : RecoveryOwed c := (CallEffect.of_carries hKeeps
      (CallEffect.of_carries hCarries hp.healthy.owed).owed).owed
    rw [(hUpdated hOwed).stateTime, hTime]
    rfl

/-! ## What a stage counts -/

open Lifecycle (Counts)

/-- A stage of a confirmed pipeline counts its failure once and its success not at all. -/
inductive StageCounts {E A : Type} (p q : FastLioPipeline N) : Except E A → Prop where
  | failed {reason} (hCounts : Counts p.failureLimit (p.uncorrectedUpdates + 1) p.lifecycle q.lifecycle) :
      StageCounts p q (.error reason)
  | passed {answer} (hLifecycle : q.lifecycle = p.lifecycle) (hConfig : q.config = p.config) :
      StageCounts p q (.ok answer)

theorem failUpdate_counts (hConfirmed : p.confirmed = true) (failureClass : LidarUpdateFailureClass)
    (reason : String) :
    Counts p.failureLimit (p.uncorrectedUpdates + 1) p.lifecycle
      (p.failUpdate failureClass reason).lifecycle :=
  (Lifecycle.counts_uncorrected p.config.lifecycle (l := p.lifecycle.setReason reason) hConfirmed
    failureClass).congr rfl

theorem enterEpoch_counts (hConfirmed : p.confirmed = true) (hTimed : p.stateTime.isSome = true)
    (hValid : groupFault group = none) (hStays : ¬p.Rebases group) :
    StageCounts p (p.enterEpoch group).1 (p.enterEpoch group).2 := by
  unfold enterEpoch
  split
  · rename_i hNone
    rw [hNone] at hTimed
    cases hTimed
  rename_i t hSome
  split
  · exact .passed rfl rfl
  rename_i hMismatch
  split
  · exact .failed (failUpdate_counts hConfirmed _ _)
  rename_i hForward
  dsimp only
  split
  · rename_i gapNs _ hGap hInflated
    exact absurd ⟨hValid, t, hSome, hMismatch, by simpa using hForward, ⟨_, hGap⟩, hInflated⟩ hStays
  · exact .failed (failUpdate_counts (p := { p with covariance := p.inflated.1 }) hConfirmed _ _)

theorem prepareGroup_counts (hp : Counted p) (hConfirmed : p.confirmed = true)
    (hStays : ¬p.Rebases group) (ingested : Bool) :
    StageCounts p (p.prepareGroup group ingested).1 (p.prepareGroup group ingested).2 := by
  obtain ⟨history, hRetained⟩ := retainGroup_spec group p
  have hUses : p.status.usesEstimatorState = true := hp.healthy.sane.uses hConfirmed
  unfold prepareGroup
  split
  · exact .failed (failUpdate_counts hConfirmed _ _)
  rename_i hValid
  rw [hRetained, initializeFromGroup_used (p := { p with priorImuHistory := history }) hUses]
  have hEntered := enterEpoch_counts (p := { p with priorImuHistory := history }) hConfirmed
    (hp.timed hConfirmed) hValid hStays
  generalize ({ p with priorImuHistory := history }.enterEpoch group).1 = m at hEntered ⊢
  generalize ({ p with priorImuHistory := history }.enterEpoch group).2 = answer at hEntered ⊢
  cases hEntered with
  | failed hCounts => exact .failed hCounts
  | passed hLifecycle hConfig => exact .passed hLifecycle hConfig

theorem predictScan_counts (hConfirmed : p.confirmed = true) (group : MeasurementGroup D)
    (start : Timestamp) :
    StageCounts p (p.predictScan group start).1 (p.predictScan group start).2 := by
  fun_cases predictScan
  case case3 estimator status _ =>
    exact .failed ((Lifecycle.counts_uncorrected p.config.lifecycle
      (l := p.lifecycle.setReason status.message) hConfirmed .prediction).congr rfl)
  case case4 => exact .passed rfl rfl
  all_goals exact .failed (failUpdate_counts hConfirmed _ _)

theorem registerScan_counts (hConfirmed : p.confirmed = true) (hMapped : p.status ≠ .initializingMap)
    (group : MeasurementGroup D) (trajectory : N.ImuTrajectory) :
    StageCounts p (p.registerScan group trajectory).1 (p.registerScan group trajectory).2 := by
  unfold registerScan
  split
  · exact .failed (failUpdate_counts hConfirmed _ _)
  split
  · exact .failed (failUpdate_counts hConfirmed _ _)
  dsimp only
  split
  · exact .failed (failUpdate_counts hConfirmed _ _)
  split
  · rename_i hInitial
    exact absurd hInitial.1 hMapped
  · exact .passed rfl rfl

theorem StageCounts.since {E F A B : Type} {m : FastLioPipeline N} {first : A}
    {answer : Except F B} (h : StageCounts p m (.ok first : Except E A))
    (hNext : StageCounts m q answer) : StageCounts p q answer := by
  cases h with
  | passed hLifecycle hConfig =>
    cases hNext with
    | failed hCounts =>
      apply StageCounts.failed
      unfold failureLimit uncorrectedUpdates at hCounts ⊢
      rw [hLifecycle, hConfig] at hCounts
      exact hCounts
    | passed hNextLifecycle hNextConfig =>
      exact .passed (hNextLifecycle.trans hLifecycle) (hNextConfig.trans hConfig)

theorem beforeCorrection_counts (hp : Counted p) (hConfirmed : p.confirmed = true)
    (hStays : ¬p.Rebases group) {points : Option (List (Vec3 D))}
    (h : p.beforeCorrection group ingested = (q, points)) :
    StageCounts p q (points.elim (.error ()) .ok) := by
  have hMapped : p.status ≠ .initializingMap := by
    intro hStatus
    rcases hp.tallied.settled hConfirmed with h | h <;>
      rw [show p.lifecycle.status = .initializingMap from hStatus] at h <;> cases h
  have hPrepare := prepareGroup_counts hp hConfirmed hStays ingested
  unfold beforeCorrection at h
  rcases hPrepared : p.prepareGroup group ingested with ⟨m, reason | start⟩
  · rw [hPrepared] at h hPrepare
    cases h
    cases hPrepare with
    | failed hCounts => exact .failed hCounts
  rw [hPrepared] at h hPrepare
  dsimp only at h hPrepare
  have hSame : m.lifecycle = p.lifecycle := by
    cases hPrepare with
    | passed hLifecycle => exact hLifecycle
  have hPredict := hPrepare.since (predictScan_counts (p := m)
    ((congrArg Lifecycle.trackingEverConfirmed hSame).trans hConfirmed) group start)
  rcases hPredicted : m.predictScan group start with ⟨t, reason | trajectory⟩
  · rw [hPredicted] at h hPredict
    cases h
    cases hPredict with
    | failed hCounts => exact .failed hCounts
  rw [hPredicted] at h hPredict
  dsimp only at h hPredict
  have hSame : t.lifecycle = p.lifecycle := by
    cases hPredict with
    | passed hLifecycle => exact hLifecycle
  have hRegister := hPredict.since (registerScan_counts (p := t)
    ((congrArg Lifecycle.trackingEverConfirmed hSame).trans hConfirmed)
    (fun hStatus => hMapped ((congrArg Lifecycle.status hSame).symm.trans hStatus)) group trajectory)
  rcases hRegistered : t.registerScan group trajectory with ⟨u, rejection | found⟩
  · rw [hRegistered] at h hRegister
    cases h
    cases hRegister with
    | failed hCounts => exact .failed hCounts
  · rw [hRegistered] at h hRegister
    cases h
    cases hRegister with
    | passed hLifecycle hConfig => exact .passed hLifecycle hConfig

theorem updateMap_counts (limit : Nat) (correction : IkfomCorrectionResult N.State)
    (points : List (Vec3 D)) (p : FastLioPipeline N) :
    Counts limit p.uncorrectedUpdates p.lifecycle (p.updateMap correction points).1.lifecycle := by
  unfold updateMap uncorrectedUpdates
  dsimp only
  split
  · exact .still rfl rfl
  split
  · unfold insertIntoMap
    dsimp only
    generalize hBootstrap : (if N.mapSize p.registrationMap = 0 ∧ p.bootstrapReferencePointsOdomM ≠ [] then
      { p with
        registrationMap := N.insert p.registrationMap p.bootstrapReferencePointsOdomM
        bootstrapReferencePointsOdomM := []
        bootstrapMap := N.emptyMap }
      else p) = b
    have hLifecycle : b.lifecycle = p.lifecycle := by
      rw [← hBootstrap]
      split <;> rfl
    split
    · rw [← hLifecycle]
      exact Lifecycle.counts_exceedMapGuard limit b.lifecycle
    · rw [← hLifecycle]
      exact .still rfl rfl
  · exact .still rfl rfl

/-! ## What a group counts -/

def nextCount (count : Nat) : Option Bool → Nat
  | none => count
  | some false => count + 1
  | some true => 0

theorem uncorrectedSince_append (outcomes : List Bool) (outcome : Option Bool) :
    uncorrectedSince (outcomes ++ outcome.toList) = nextCount (uncorrectedSince outcomes) outcome := by
  rcases outcome with _ | _ | _ <;> simp [nextCount]

def succeeded (r : ProcessResult N) : Bool := r.lidarUpdateStatus = .succeeded

/-- The group of a confirmed pipeline is counted once at most, and its success clears the count. -/
def ScoresGroup (group : MeasurementGroup D) (imuSamplesAlreadyIngested : Bool)
    (p : FastLioPipeline N) : Prop :=
  p.confirmed = true → ¬p.Rebases group ∧
    (p.Corrects group imuSamplesAlreadyIngested → p.uncorrectedUpdates = 0 ∨
      p.status.recovering = true ∧ p.lifecycle.mapRecoveryRequired = false ∧
        p.config.tracking.recoveryConfirmationUpdates ≤ p.lifecycle.consecutiveRecoverySuccesses + 1)

theorem counts_corrected {limit : Nat} {c : FastLioPipeline N}
    (hAccepted : Counts limit 0 p.lifecycle c.lifecycle) (correction : IkfomCorrectionResult N.State)
    (points : List (Vec3 D)) : Counts limit 0 p.lifecycle
      ((c.updateMap correction points).1.setFinalReason correction).lifecycle := by
  have hMap := updateMap_counts limit correction points c
  rw [show c.uncorrectedUpdates = 0 from hAccepted.counted] at hMap
  have hReason : Counts limit 0 (c.updateMap correction points).1.lifecycle
      ((c.updateMap correction points).1.setFinalReason correction).lifecycle :=
    .still hMap.counted rfl
  exact (hAccepted.trans hMap (le_refl 0)).trans hReason (le_refl 0)

theorem Ends.counts (hp : Counted p) (hConfirmed : p.confirmed = true)
    (hScores : p.ScoresGroup group ingested) (h : Ends group ingested p q r) :
    Counts p.failureLimit (nextCount p.uncorrectedUpdates (some (succeeded r))) p.lifecycle
      q.lifecycle := by
  obtain ⟨hStays, hCleared⟩ := hScores hConfirmed
  have hCorrects := h.corrects
  cases h with
  | early hBefore hLifecycle hResult =>
    have hStages := beforeCorrection_counts hp hConfirmed hStays hBefore
    rw [hLifecycle, show succeeded r = false from decide_eq_false hResult]
    cases hStages with
    | failed hCounts => exact hCounts
  | @refused u points c reason hBefore hCorrected hLifecycle hResult =>
    have hStages := beforeCorrection_counts hp hConfirmed hStays hBefore
    rw [hLifecycle, correctScan_refused hCorrected,
      show succeeded r = false from decide_eq_false hResult]
    cases hStages with
    | passed hSame hConfig =>
      have hMapped : p.lifecycle.status ≠ .initializingMap := by
        intro hStatus
        rcases hp.tallied.settled hConfirmed with h | h <;> rw [hStatus] at h <;> cases h
      have hKept : p.lifecycle.failInitialMap u.config.lifecycle = p.lifecycle := by
        unfold Lifecycle.failInitialMap
        rw [if_neg hMapped]
      rw [hSame, hKept, hConfig]
      have hCounts := Lifecycle.counts_uncorrected p.config.lifecycle (l := p.lifecycle)
        hConfirmed .registration
      exact ⟨hCounts.counted, hCounts.journal⟩
  | @corrected u points c correction hBefore hCorrected hLifecycle hResult =>
    have hStages := beforeCorrection_counts hp hConfirmed hStays hBefore
    rw [hLifecycle, show succeeded r = true from decide_eq_true hResult]
    cases hStages with
    | passed hSame hConfig =>
      apply counts_corrected
      rw [correctScan_accepted hCorrected, hSame, hConfig]
      exact Lifecycle.counts_accepted _ _ _ fun _ => hCleared (hCorrects.mp hResult)

theorem beforeCorrection_moves (group : MeasurementGroup D) (ingested : Bool)
    (p : FastLioPipeline N) :
    p.config.Moves True p.lifecycle (p.beforeCorrection group ingested).1.lifecycle := by
  have hPrepare := (prepareGroup_prepared True group ingested p).carries
  unfold beforeCorrection
  rcases hPrepared : p.prepareGroup group ingested with ⟨m, reason | start⟩
  · rw [hPrepared] at hPrepare
    exact hPrepare.moves
  rw [hPrepared] at hPrepare
  dsimp only at hPrepare ⊢
  have hPredict := predictScan_predicted True group start m
  rcases hPredicted : m.predictScan group start with ⟨t, reason | trajectory⟩
  · rw [hPredicted] at hPredict
    cases hPredict with
    | failed hKeeps => exact hPrepare.moves.trans (hPrepare.config ▸ hKeeps.moves)
  rw [hPredicted] at hPredict
  dsimp only at hPredict ⊢
  have hMoves : p.config.Moves True p.lifecycle t.lifecycle ∧ t.config = p.config := by
    cases hPredict with
    | done _ hKeeps =>
      exact ⟨hPrepare.moves.trans (hPrepare.config ▸ hKeeps.moves), hKeeps.config.trans hPrepare.config⟩
  have hRegister := keeps_registerScan (S := True) group trajectory t
  rcases hRegistered : t.registerScan group trajectory with ⟨u, rejection | points⟩ <;>
    rw [hRegistered] at hRegister <;> exact hMoves.1.trans (hMoves.2 ▸ hRegister.moves)

theorem Ends.counts_first (limit : Nat) (hp : Counted p) (hNever : p.confirmed = false)
    (h : Ends group ingested p q r) (hMoves : p.config.Moves True p.lifecycle q.lifecycle) :
    Counts limit 0 p.lifecycle q.lifecycle := by
  by_cases hResult : r.lidarUpdateStatus = .succeeded
  · have hReached := beforeCorrection_moves group ingested p
    have hStages := beforeCorrection_confirmed hp group ingested
    cases h with
    | early _ _ hFailed => exact absurd hResult hFailed
    | refused _ _ _ hFailed => exact absurd hResult hFailed
    | @corrected u points c correction hBefore hCorrected hLifecycle =>
      rw [hBefore] at hReached hStages
      have hUnconfirmed : u.lifecycle.trackingEverConfirmed = false := hStages.trans hNever
      rw [hLifecycle]
      apply counts_corrected
      have hFirst := Lifecycle.Moves.counts_unconfirmed limit hReached hp.tallied
        hp.healthy.sane hUnconfirmed
      rw [correctScan_accepted hCorrected]
      refine hFirst.trans (Lifecycle.counts_accepted _ _ _ ?_) (le_refl 0)
      intro hConfirmed
      exact absurd hConfirmed (by rw [hUnconfirmed]; simp)
  · exact hMoves.counts_unconfirmed limit hp.tallied hp.healthy.sane
      ((h.confirmed hp hResult).trans hNever)

end FastLioPipeline

/-! ## The failure limit -/

open Runs
open Lifecycle (Counts)

/-- Whether the call processed an update, and whether that was corrected. -/
def PipelineAnswer.outcome : PipelineAnswer N → Option Bool
  | .result (some r) => some (FastLioPipeline.succeeded r)
  | _ => none

abbrev ResettableEvent (N : Numerics D) :=
  Event (FastLioPipeline N) (ResettableCall N) (PipelineAnswer N)

def outcomes (es : List (ResettableEvent N)) : List Bool := es.filterMap fun e => e.result.outcome

namespace FastLioPipeline
variable {p q : FastLioPipeline N}

def entered (p q : FastLioPipeline N) : List LifecycleEvent :=
  q.lifecycle.journal.drop p.lifecycle.journal.length

/-- At every point of the run the count is the number of updates since the last successful one,
and every call that reaches the limit ends that many updates without a success. -/
structure CountsConsecutive (p : FastLioPipeline N) (calls : List (ResettableCall N)) : Prop where
  counted : ∀ past future, calls = past ++ future → (run resettableStep p past).confirmed = true →
    (run resettableStep p past).uncorrectedUpdates =
      uncorrectedSince (outcomes (events resettableStep p past))
  limited : ∀ past call future, calls = past ++ call :: future →
    ∀ e ∈ entered (run resettableStep p past) (run resettableStep p (past ++ [call])),
      e.ReachesLimit → (run resettableStep p past).failureLimit ≤
        uncorrectedSince (outcomes (events resettableStep p (past ++ [call])))

def ScoresSynchronized (p : FastLioPipeline N) : SynchronizationResult D → Prop
  | .group group => p.ScoresGroup group true
  | .discontinuity _ => p.confirmed = true → p.inflated.2 = true
  | _ => True

def Scores (p : FastLioPipeline N) : ResettableCall N → Prop
  | .call .processNext =>
    { p.setReason "" with feed := p.feed.synchronizeNext.1 }.ScoresSynchronized
      p.feed.synchronizeNext.2
  | .call (.process group) => (p.setReason "").ScoresGroup group false
  | _ => True

theorem recoverFromDiscontinuity_lifecycle (hUses : p.status.usesEstimatorState = true)
    (hTimed : p.stateTime.isSome = true) (d : PropagationDiscontinuity) :
    (p.recoverFromDiscontinuity d).1.lifecycle = (p.rebaseAfterDiscontinuity d).lifecycle := by
  unfold recoverFromDiscontinuity
  rw [if_pos (by simp [hUses, hTimed])]
  rfl

theorem rebaseAfterDiscontinuity_counts (hConfirmed : p.confirmed = true)
    (hInflated : p.inflated.2 = true) (d : PropagationDiscontinuity) :
    Counts p.failureLimit (p.uncorrectedUpdates + 1) p.lifecycle
      (p.rebaseAfterDiscontinuity d).lifecycle := by
  have hRecorded := Lifecycle.counts_uncorrected p.config.lifecycle hConfirmed
    .propagationDiscontinuity
  have hStill := Lifecycle.uncorrected_stays p.config.lifecycle hConfirmed .propagationDiscontinuity
  unfold rebaseAfterDiscontinuity
  rw [if_neg (by rw [hInflated]; simp)]
  have hConfirmedThen : (!(({ p with covariance := p.inflated.1 }.rebaseAt
      d.resumeTime).recordUncorrectedUpdate .propagationDiscontinuity).lifecycle.trackingEverConfirmed) ≠
      true := by
    show (!(p.lifecycle.recordUncorrectedUpdate p.config.lifecycle
      .propagationDiscontinuity).trackingEverConfirmed) ≠ true
    rw [hStill]
    simp
  rw [if_neg hConfirmedThen]
  split
  · have hLost := Lifecycle.counts_discontinue p.failureLimit .lost
      "IMU_DISCONTINUITY_LOCAL_LOST" (p.lifecycle.recordUncorrectedUpdate p.config.lifecycle
        .propagationDiscontinuity)
    rw [hRecorded.counted] at hLost
    exact hRecorded.trans hLost (le_refl _)
  · exact hRecorded.trans (.still hRecorded.counted rfl) (le_refl _)

section
variable (d : PropagationDiscontinuity) (p : FastLioPipeline N)

theorem rebaseAfterDiscontinuity_confirmed :
    (p.rebaseAfterDiscontinuity d).confirmed = p.confirmed := by
  unfold rebaseAfterDiscontinuity
  dsimp only
  have hRecorded : (({ p with covariance := p.inflated.1 }.rebaseAt
      d.resumeTime).recordUncorrectedUpdate .propagationDiscontinuity).confirmed = p.confirmed :=
    Lifecycle.recordUncorrectedUpdate_confirmed _ _ _
  generalize ({ p with covariance := p.inflated.1 }.rebaseAt
    d.resumeTime).recordUncorrectedUpdate .propagationDiscontinuity = q at hRecorded ⊢
  rw [← hRecorded]
  split
  · exact (Lifecycle.transitionTo_confirmed _ _ _).trans hRecorded.symm
  split
  · split
    · exact Lifecycle.transitionTo_confirmed _ _ q.lifecycle.restartInitialMap
    · exact Lifecycle.transitionTo_confirmed _ _ q.lifecycle
  split
  · exact Lifecycle.transitionTo_confirmed _ _ q.lifecycle
  · rfl

theorem recoverFromDiscontinuity_confirmed :
    (p.recoverFromDiscontinuity d).1.confirmed = p.confirmed := by
  unfold recoverFromDiscontinuity
  split
  · exact rebaseAfterDiscontinuity_confirmed d p
  · rfl

theorem recoverFromDiscontinuity_timed
    (hTimed : p.stateTime.isSome = true) : (p.recoverFromDiscontinuity d).1.stateTime.isSome = true := by
  cases recoverFromDiscontinuity_rebased (S := True) d p fun _ _ => trivial with
  | skipped _ hKeeps => exact hKeeps.stateTime ▸ hTimed
  | failed _ hKeeps => exact hKeeps.stateTime ▸ hTimed
  | done _ hAfter => simp [hAfter]

end

theorem pushImu_used (hUses : p.status.usesEstimatorState = true) (sample : ImuSample D) :
    ∃ reason, (p.pushImu sample).1.lifecycle = p.lifecycle.setReason reason := by
  cases hPushed : p.feed.buffer.pushImu sample with
  | mk buffer answer =>
    cases answer with
    | error status =>
      unfold pushImu
      rw [hPushed]
      exact ⟨status.message, rfl⟩
    | ok =>
      have hUsed := collectImu_used (p := { p with feed := { p.feed with
        buffer := buffer } }.retainPriorImuSample sample) hUses sample
      rw [pushImu_stored hPushed]
      exact ⟨p.lifecycle.reason, congrArg (fun x => x.1.lifecycle) hUsed⟩

theorem pushImu_confirmed (hp : Counted p) (sample : ImuSample D) :
    (p.pushImu sample).1.confirmed = p.confirmed := by
  cases hUses : p.status.usesEstimatorState with
  | true =>
    obtain ⟨reason, hLifecycle⟩ := pushImu_used hUses sample
    exact (congrArg Lifecycle.trackingEverConfirmed hLifecycle).trans rfl
  | false =>
    have hMoves := (keeps_pushImu (S := True) sample p).moves
    rw [show p.confirmed = false from hp.healthy.sane.unconfirmed hUses]
    exact startsUp_unconfirmed (hp.healthy.sane.moves hMoves)
      (hp.tallied.moves hp.healthy.sane hMoves) (pushImu_startsUp hUses sample)

theorem superviseLidarTimeout_confirmed (now : Int) (p : FastLioPipeline N) :
    (p.superviseLidarTimeout now).confirmed = p.confirmed := by
  unfold superviseLidarTimeout
  split
  · rfl
  · show (Lifecycle.superviseLidarTimeout _ _ _).trackingEverConfirmed = _
    unfold Lifecycle.superviseLidarTimeout
    dsimp only
    split <;> split <;> simp

/-! ## Every call -/

variable {synchronized : SynchronizationResult D}

theorem processNext_result (hFree : p.holdsForPrior = false) :
    p.processNext = { p.setReason "" with feed := p.feed.synchronizeNext.1 }.takeSynchronized
      p.feed.synchronizeNext.2 := by
  unfold processNext
  dsimp only
  rw [if_neg (by rw [show (p.setReason "").holdsForPrior = p.holdsForPrior from rfl, hFree]; simp)]
  rfl

theorem Counted.handed (hp : Counted p) (reason : String) (feed : SensorFeed D) :
    Counted { p.setReason reason with feed := feed } where
  healthy := by
    have hMove : Lifecycle.Move p.config.lifecycle 0 True p.lifecycle (p.lifecycle.setReason reason) :=
      .reason _ reason
    exact ⟨hp.healthy.sane.move hMove, hp.healthy.owed⟩
  tallied := ⟨hp.tallied.fresh, hp.tallied.settled, hp.tallied.steady⟩
  timed := hp.timed

theorem takeSynchronized_confirmed (hp : Counted p)
    (h : (PipelineAnswer.result (p.takeSynchronized synchronized).2).outcome ≠ some true) :
    (p.takeSynchronized synchronized).1.confirmed = p.confirmed := by
  cases synchronized with
  | waiting => rfl
  | error status => exact failUpdate_confirmed _ _ _
  | discontinuity d => exact recoverFromDiscontinuity_confirmed d p
  | group group =>
    apply (processInternal_ends group true p).confirmed hp
    intro hResult
    exact h (congrArg some (decide_eq_true hResult))

theorem step_confirmed (hp : Counted p) (call : PipelineCall N)
    (h : (p.step call).2.outcome ≠ some true) : (p.step call).1.confirmed = p.confirmed := by
  cases call with
  | pushImu sample => exact pushImu_confirmed hp sample
  | pushLidar now scan =>
    show (p.pushLidar now scan).1.confirmed = p.confirmed
    unfold pushLidar
    split <;> rfl
  | submitInitialStatePrior prior =>
    show (p.submitInitialStatePrior prior).1.confirmed = p.confirmed
    unfold submitInitialStatePrior
    split <;> rfl
  | setInitialStatePriorGeometry baseToImu =>
    show (p.setInitialStatePriorGeometry baseToImu).1.confirmed = p.confirmed
    unfold setInitialStatePriorGeometry
    split
    · rfl
    · split <;> rfl
  | superviseLidarTimeout now => exact superviseLidarTimeout_confirmed now p
  | process group =>
    apply (processInternal_ends group false (p.setReason "")).confirmed (hp.handed "" p.feed)
    intro hResult
    exact h (congrArg some (decide_eq_true hResult))
  | processNext =>
    change (PipelineAnswer.result p.processNext.2).outcome ≠ some true at h
    show p.processNext.1.confirmed = p.confirmed
    cases hFree : p.holdsForPrior with
    | true =>
      unfold processNext
      rw [if_pos (show (p.setReason "").holdsForPrior = true from hFree)]
      rfl
    | false =>
      rw [processNext_result hFree] at h ⊢
      exact takeSynchronized_confirmed (hp.handed "" _) h

theorem still_counts {limit : Nat} (reason : String)
    (h : q.lifecycle = p.lifecycle.setReason reason) :
    Counts limit (nextCount p.uncorrectedUpdates none) p.lifecycle q.lifecycle := by
  rw [h]
  exact .still rfl rfl

theorem takeSynchronized_counts (hp : Counted p) (hConfirmed : p.confirmed = true)
    (hScores : p.ScoresSynchronized synchronized) :
    Counts p.failureLimit (nextCount p.uncorrectedUpdates
        (PipelineAnswer.result (p.takeSynchronized synchronized).2).outcome) p.lifecycle
      (p.takeSynchronized synchronized).1.lifecycle := by
  cases synchronized with
  | waiting => exact .still rfl rfl
  | error status => exact failUpdate_counts hConfirmed _ _
  | discontinuity d =>
    show Counts _ _ _ (p.recoverFromDiscontinuity d).1.lifecycle
    rw [recoverFromDiscontinuity_lifecycle (hp.healthy.sane.uses hConfirmed)
      (hp.timed hConfirmed)]
    exact rebaseAfterDiscontinuity_counts hConfirmed (hScores hConfirmed) d
  | group group => exact (processInternal_ends group true p).counts hp hConfirmed hScores

theorem step_counts (hp : Counted p) (hConfirmed : p.confirmed = true) (call : PipelineCall N)
    (hScores : p.Scores (.call call)) :
    Counts p.failureLimit (nextCount p.uncorrectedUpdates (p.step call).2.outcome) p.lifecycle
      (p.step call).1.lifecycle := by
  have hUses : p.status.usesEstimatorState = true := hp.healthy.sane.uses hConfirmed
  cases call with
  | pushImu sample =>
    obtain ⟨reason, hLifecycle⟩ := pushImu_used hUses sample
    exact still_counts reason hLifecycle
  | pushLidar now scan =>
    apply still_counts (p.pushLidar now scan).1.lifecycle.reason
    show (p.pushLidar now scan).1.lifecycle = _
    unfold pushLidar
    split <;> rfl
  | submitInitialStatePrior prior =>
    apply still_counts p.lifecycle.reason
    show (p.submitInitialStatePrior prior).1.lifecycle = _
    unfold submitInitialStatePrior
    split <;> rfl
  | setInitialStatePriorGeometry baseToImu =>
    apply still_counts p.lifecycle.reason
    show (p.setInitialStatePriorGeometry baseToImu).1.lifecycle = _
    unfold setInitialStatePriorGeometry
    split
    · rfl
    · split <;> rfl
  | superviseLidarTimeout now =>
    show Counts p.failureLimit p.uncorrectedUpdates p.lifecycle (p.superviseLidarTimeout now).lifecycle
    unfold superviseLidarTimeout
    split
    · exact .still rfl rfl
    · exact Lifecycle.counts_superviseLidarTimeout _ _ _ _
  | process group =>
    exact ((processInternal_ends group false (p.setReason "")).counts (hp.handed "" p.feed)
      hConfirmed hScores).congr rfl
  | processNext =>
    show Counts p.failureLimit (nextCount p.uncorrectedUpdates
      (PipelineAnswer.result p.processNext.2).outcome) p.lifecycle p.processNext.1.lifecycle
    cases hFree : p.holdsForPrior with
    | true =>
      unfold processNext
      rw [if_pos (show (p.setReason "").holdsForPrior = true from hFree)]
      exact .still rfl rfl
    | false =>
      rw [processNext_result hFree]
      exact (takeSynchronized_counts (hp.handed "" _) hConfirmed hScores).congr rfl

theorem step_counts_first (limit : Nat) (hp : Counted p) (hNever : p.confirmed = false)
    (call : PipelineCall N) : Counts limit 0 p.lifecycle (p.step call).1.lifecycle := by
  have hMoves := (step_effect (S := True) hp.healthy.owed call fun _ => trivial).moves
  by_cases hFirst : (p.step call).2.outcome = some true
  case neg =>
    exact hMoves.counts_unconfirmed limit hp.tallied hp.healthy.sane
      ((step_confirmed hp call hFirst).trans hNever)
  cases call with
  | pushImu | pushLidar | submitInitialStatePrior | setInitialStatePriorGeometry |
    superviseLidarTimeout => cases hFirst
  | process group =>
    have hProcessed := processInternal_processed True group false (p.setReason "")
    exact ((processInternal_ends group false (p.setReason "")).counts_first limit (hp.handed "" p.feed)
      hNever (hProcessed.effect hp.healthy.owed).moves).congr rfl
  | processNext =>
    change (PipelineAnswer.result p.processNext.2).outcome = some true at hFirst
    show Counts limit 0 p.lifecycle p.processNext.1.lifecycle
    cases hFree : p.holdsForPrior with
    | true =>
      unfold processNext at hFirst
      rw [if_pos (show (p.setReason "").holdsForPrior = true from hFree)] at hFirst
      cases hFirst
    | false =>
      rw [processNext_result hFree] at hFirst ⊢
      have hHanded := hp.handed "" p.feed.synchronizeNext.1
      cases hAnswer : p.feed.synchronizeNext.2 with
      | waiting | error | discontinuity =>
        rw [hAnswer] at hFirst
        cases hFirst
      | group group =>
        have hProcessed := processInternal_processed True group true
          { p.setReason "" with feed := p.feed.synchronizeNext.1 }
        exact ((processInternal_ends group true _).counts_first limit hHanded hNever
          (hProcessed.effect hp.healthy.owed).moves).congr rfl

theorem takeSynchronized_timed (hp : Counted p) (synchronized : SynchronizationResult D)
    (hAfter : (p.takeSynchronized synchronized).1.confirmed = true) :
    (p.takeSynchronized synchronized).1.stateTime.isSome = true := by
  cases synchronized with
  | waiting => exact hp.timed hAfter
  | error status => exact hp.timed ((failUpdate_confirmed _ _ p).symm.trans hAfter)
  | discontinuity d =>
    exact recoverFromDiscontinuity_timed d p
      (hp.timed ((recoverFromDiscontinuity_confirmed d p).symm.trans hAfter))
  | group group => exact processInternal_timed hp group true hAfter

theorem step_timed (hp : Counted p) (call : PipelineCall N)
    (hAfter : (p.step call).1.confirmed = true) : (p.step call).1.stateTime.isSome = true := by
  have hKept (h : (p.step call).2.outcome ≠ some true)
      (hTime : (p.step call).1.stateTime = p.stateTime) :
      (p.step call).1.stateTime.isSome = true := by
    rw [hTime]
    exact hp.timed ((step_confirmed hp call h).symm.trans hAfter)
  cases call with
  | pushImu sample =>
    exact hKept (by simp [step, PipelineAnswer.outcome])
      (keeps_pushImu (S := True) sample p).stateTime
  | pushLidar now scan =>
    exact hKept (by simp [step, PipelineAnswer.outcome])
      (keeps_pushLidar (S := True) now scan p).stateTime
  | submitInitialStatePrior prior =>
    exact hKept (by simp [step, PipelineAnswer.outcome])
      (keeps_submitInitialStatePrior (S := True) prior p).stateTime
  | setInitialStatePriorGeometry baseToImu =>
    exact hKept (by simp [step, PipelineAnswer.outcome])
      (keeps_setInitialStatePriorGeometry (S := True) baseToImu p).stateTime
  | superviseLidarTimeout now =>
    exact hKept (by simp [step, PipelineAnswer.outcome])
      (keeps_superviseLidarTimeout (S := True) now p fun _ => trivial).stateTime
  | process group => exact processInternal_timed (hp.handed "" p.feed) group false hAfter
  | processNext =>
    change p.processNext.1.confirmed = true at hAfter
    show p.processNext.1.stateTime.isSome = true
    cases hFree : p.holdsForPrior with
    | true =>
      unfold processNext at hAfter ⊢
      rw [if_pos (show (p.setReason "").holdsForPrior = true from hFree)] at hAfter ⊢
      exact hp.timed hAfter
    | false =>
      rw [processNext_result hFree] at hAfter ⊢
      exact takeSynchronized_timed (hp.handed "" _) _ hAfter

theorem reset_counted (p : FastLioPipeline N) : Counted p.reset where
  healthy := by
    refine ⟨⟨?_, ?_, ?_⟩, ?_⟩
    · intro h
      cases h
    · intro h
      cases h
    · intro h
      cases h
    · intro h
      cases h
  tallied := by
    refine ⟨fun _ => rfl, ?_, fun _ => rfl⟩
    intro h
    cases h
  timed := by
    intro h
    cases h

theorem Counted.resettableStep (hp : Counted p) (call : ResettableCall N) :
    Counted (p.resettableStep call).1 := by
  cases call with
  | reset => exact reset_counted p
  | call call =>
    have hMoves := (step_effect (S := True) hp.healthy.owed call fun _ => trivial).moves
    exact ⟨hp.healthy.step call, hp.tallied.moves hp.healthy.sane hMoves, step_timed hp call⟩

structure Scored (past : List (ResettableCall N)) (s p : FastLioPipeline N) : Prop where
  counted : Counted p
  uncorrected : p.confirmed = true →
    p.uncorrectedUpdates = uncorrectedSince (outcomes (events resettableStep s past))

theorem outcomes_concat (s : FastLioPipeline N) (past : List (ResettableCall N))
    (call : ResettableCall N) :
    outcomes (events resettableStep s (past ++ [call])) = outcomes (events resettableStep s past) ++
      ((run resettableStep s past).resettableStep call).2.outcome.toList := by
  unfold outcomes
  rw [events_concat, List.filterMap_append]
  congr 1

theorem Scored.next {s : FastLioPipeline N} {past : List (ResettableCall N)}
    (h : Scored past s (run resettableStep s past)) {call : ResettableCall N}
    (hScores : (run resettableStep s past).Scores call) :
    Scored (past ++ [call]) s (run resettableStep s (past ++ [call])) ∧
      ∀ e ∈ entered (run resettableStep s past) (run resettableStep s (past ++ [call])),
        e.ReachesLimit → (run resettableStep s past).failureLimit ≤
          uncorrectedSince (outcomes (events resettableStep s (past ++ [call]))) := by
  rw [run_concat, outcomes_concat, uncorrectedSince_append]
  have hCounted := h.counted
  have hUncorrected := h.uncorrected
  have hNext := hCounted.resettableStep call
  have hSince := uncorrectedSince_append (outcomes (events resettableStep s past))
    ((run resettableStep s past).resettableStep call).2.outcome
  rw [← outcomes_concat] at hSince
  generalize run resettableStep s past = p at *
  cases call with
  | reset =>
    refine ⟨⟨hNext, fun h => by cases h⟩, ?_⟩
    intro e he
    simp [entered, FastLioPipeline.resettableStep, reset] at he
  | call call =>
    cases hConfirmed : p.confirmed with
    | true =>
      have hCounts := step_counts hCounted hConfirmed call hScores
      rw [hUncorrected hConfirmed] at hCounts
      obtain ⟨new, hJournal, hLimit⟩ := hCounts.journal
      refine ⟨⟨hNext, fun _ => hCounts.counted.trans hSince.symm⟩, ?_⟩
      intro e he
      apply hLimit e
      unfold entered at he
      rw [show (p.resettableStep (.call call)).1.lifecycle.journal = _ from hJournal,
        List.drop_left] at he
      exact he
    | false =>
      have hCounts := step_counts_first p.failureLimit hCounted hConfirmed call
      obtain ⟨new, hJournal, hLimit⟩ := hCounts.journal
      refine ⟨⟨hNext, fun hAfter => ?_⟩, ?_⟩
      · rw [hSince]
        refine hCounts.counted.trans ?_
        by_cases hFirst : (p.step call).2.outcome = some true
        · rw [show (p.resettableStep (.call call)).2.outcome = some true from hFirst]
          rfl
        · have hNever := (step_confirmed hCounted call hFirst).trans hConfirmed
          rw [show (p.step call).1.confirmed = true from hAfter] at hNever
          cases hNever
      · intro e he hReaches
        unfold entered at he
        rw [show (p.resettableStep (.call call)).1.lifecycle.journal = _ from hJournal,
          List.drop_left] at he
        exact (hLimit e he hReaches).trans (Nat.zero_le _)

/-- In every run of scored calls the failure limit counts consecutive uncorrected updates. -/
theorem failure_limit_consecutive (config : EstimatorConfig N) (calls : List (ResettableCall N))
    (hScores : ∀ e ∈ events resettableStep (create config) calls, e.before.Scores e.op) :
    CountsConsecutive (create config) calls := by
  have hScored : ∀ past future, calls = past ++ future →
      Scored past (create config) (run resettableStep (create config) past) := by
    intro past
    induction past using List.reverseRecOn with
    | nil =>
      intro future _
      exact ⟨create_counted config, fun h => by cases h⟩
    | append_singleton past call ih =>
      intro future hCalls
      rw [List.append_assoc] at hCalls
      apply ((ih _ hCalls).next _).1
      apply hScores (eventAt resettableStep (run resettableStep (create config) past) call)
      rw [hCalls, events_append]
      simp
  refine ⟨fun past future hCalls => (hScored past future hCalls).uncorrected, ?_⟩
  intro past call future hCalls
  refine ((hScored past _ hCalls).next ?_).2
  apply hScores (eventAt resettableStep (run resettableStep (create config) past) call)
  rw [hCalls, events_append]
  simp

instance instDecidableRebases (group : MeasurementGroup D) (p : FastLioPipeline N) :
    Decidable (p.Rebases group) :=
  have : Decidable (∃ t ∈ p.stateTime, t ≠ group.propagationStartTime ∧
      p.recoverableForwardMismatch t group = true ∧
      (∃ gapNs, checkedDifference group.propagationStartTime t = .ok gapNs) ∧ p.inflated.2 = true) :=
    have (t : Timestamp) :
        Decidable (∃ gapNs, checkedDifference group.propagationStartTime t = .ok gapNs) :=
      decidable_of_iff ((checkedDifference group.propagationStartTime t).isOk = true) (by
        cases checkedDifference group.propagationStartTime t <;> simp [Except.isOk, Except.toBool])
    inferInstance
  inferInstanceAs (Decidable (groupFault group = none ∧ _))

instance instDecidableCorrects (group : MeasurementGroup D) (ingested : Bool)
    (p : FastLioPipeline N) : Decidable (p.Corrects group ingested) :=
  decidable_of_iff _ (processInternal_ends group ingested p).corrects

instance instDecidableScoresGroup (group : MeasurementGroup D) (ingested : Bool)
    (p : FastLioPipeline N) : Decidable (p.ScoresGroup group ingested) :=
  inferInstanceAs (Decidable (_ → ¬p.Rebases group ∧ (p.Corrects group ingested → _)))

instance instDecidableScores (p : FastLioPipeline N) (call : ResettableCall N) :
    Decidable (p.Scores call) :=
  have (p : FastLioPipeline N) (synchronized : SynchronizationResult D) :
      Decidable (p.ScoresSynchronized synchronized) :=
    match synchronized with
    | .group group => instDecidableScoresGroup group true p
    | .discontinuity _ => inferInstanceAs (Decidable (_ → _))
    | .error _ => isTrue trivial
    | .waiting => isTrue trivial
  match call with
  | .call .processNext => this _ _
  | .call (.process group) => instDecidableScoresGroup group false _
  | .call (.pushImu _) => isTrue trivial
  | .call (.pushLidar _ _) => isTrue trivial
  | .call (.submitInitialStatePrior _) => isTrue trivial
  | .call (.setInitialStatePriorGeometry _) => isTrue trivial
  | .call (.superviseLidarTimeout _) => isTrue trivial
  | .reset => isTrue trivial

/-- Tracking starts, and then the corrections go by the script, ten nanoseconds a scan. -/
def deliveries {predictions corrections : List Bool} (count : Nat) :
    List (ResettableCall (scripted predictions corrections)) :=
  (PipelineCall.pushImu (sampleAt (.rosTime 10)) :: (List.range count).flatMap fun i : Nat =>
      deliver 0 (.rosTime (10 * i + 10)) (.rosTime (10 * i + 20))).map .call

/-- Five corrections in a row fail, and the fifth takes the estimator to lost. -/
theorem failure_limit_consecutive_five :
    (run resettableStep (create (scriptedConfig [] [true, false, false, false, false, false] 2
      (by decide))) (deliveries 7)).status = .lost ∧
    CountsConsecutive (create (scriptedConfig [] [true, false, false, false, false, false] 2
      (by decide))) (deliveries 7) :=
  ⟨by decide +kernel, failure_limit_consecutive _ _ (by decide +kernel)⟩

/-- Every failure is followed by a success that does not end the recovery. -/
def alternating : List Bool := [true, false, true, false, true, false, true, false, true, false]

/-- The fifth failure takes the estimator to lost, right after a success. -/
theorem failure_limit_not_consecutive :
    ¬CountsConsecutive (create (scriptedConfig [] alternating 2 (by decide))) (deliveries 11) := by
  intro h
  have hLimited := h.limited ((deliveries 11).take 33) (.call .processNext) []
    (by rfl) ⟨.uncorrected .registration, .degraded, .lost⟩
    (by decide +kernel) ⟨⟨_, rfl⟩, by decide, rfl⟩
  have hLimit : (run resettableStep (create (scriptedConfig [] alternating 2 (by decide)))
      ((deliveries 11).take 33)).failureLimit = 5 := by decide +kernel
  have hSince : uncorrectedSince (outcomes (events resettableStep
      (create (scriptedConfig [] alternating 2 (by decide)))
      ((deliveries 11).take 33 ++ [.call .processNext]))) = 1 := by decide +kernel
  rw [hLimit, hSince] at hLimited
  exact absurd hLimited (by decide)

end FastLioPipeline

end UavNavigation.FastLio
