import UavNavigation.AppliedPrior

/-!
# The attempts at the initialization

A call makes at most one attempt. The first attempt without an initialization
result starts the wait for a prior, and so does every later one as long as there is
no result. A pipeline on the ground gets its result from the samples, before it looks
for a prior; one in flight gets it from the prior.
-/

namespace UavNavigation.FastLio

set_option autoImplicit false

variable {D : Type} [FloatOps D] {N : Numerics D}

/-- What a call runs `tryCompleteImuInitialization` on. -/
structure PriorAttempt (N : Numerics D) where
  pipeline : FastLioPipeline N
  progressTime : Option Timestamp

namespace PriorAttempt

def done (a : PriorAttempt N) : FastLioPipeline N :=
  a.pipeline.tryCompleteImuInitialization a.progressTime

def Proceeds (a : PriorAttempt N) : Prop :=
  a.pipeline.initializer.hasEnoughSamples = true ∧ a.pipeline.status.usesEstimatorState = false

instance instDecidableProceeds (a : PriorAttempt N) : Decidable a.Proceeds :=
  inferInstanceAs (Decidable (_ ∧ _))

/-- The attempt gets as far as `resolveInitialStatePrior`. -/
def Looks (a : PriorAttempt N) : Prop :=
  a.Proceeds ∧ (a.pipeline.imuInitializationResult.isSome = true ∨
    a.pipeline.config.initialPrior.context = .inFlightReinitialization ∨
    (N.tryInitialize a.pipeline.initializer.samples).isOk = true)

end PriorAttempt

/-- The part of the pipeline that decides when the wait began. -/
structure WaitView (N : Numerics D) where
  config : EstimatorConfig N
  result : Option N.InitializationResult
  waitStart : Option Timestamp
  initialized : Bool

namespace FastLioPipeline
variable {p q : FastLioPipeline N} {a : PriorAttempt N}

def waitView (p : FastLioPipeline N) : WaitView N :=
  ⟨p.config, p.imuInitializationResult, p.priorWaitStartTime, p.estimatorInitialized⟩

def collectAttempt (sample : ImuSample D) (p : FastLioPipeline N) : Option (PriorAttempt N) :=
  let p := if p.status = .waitingForSensors then
    p.startUp .collectingImu "FIRST_IMU_SAMPLE_ACCEPTED" else p
  if p.status = .collectingImu ∨ p.status = .initializingImu then
    match p.addInitializationSample sample with
    | (_, .error _) => none
    | (p, .ok ()) => some ⟨p, some sample.time⟩
  else none

def initializeAttempt (group : MeasurementGroup D) (imuSamplesAlreadyIngested : Bool)
    (p : FastLioPipeline N) : Option (PriorAttempt N) :=
  let p := if p.status = .waitingForSensors then
    p.startUp .collectingImu "SYNCHRONIZED_MEASUREMENT_RECEIVED" else p
  if p.status = .collectingImu ∨ p.status = .initializingImu then
    match p.addInitializationSamples (if imuSamplesAlreadyIngested then [] else group.imuSamples) with
    | (_, .error _) => none
    | (p, .ok ()) =>
      some ⟨p, (group.imuSamples.getLast?.map ImuSample.time).or p.lastInitializationImuTime⟩
  else none

def groupAttempt (group : MeasurementGroup D) (imuSamplesAlreadyIngested : Bool)
    (p : FastLioPipeline N) : Option (PriorAttempt N) :=
  match groupFault group with
  | some _ => none
  | none => (p.retainGroup group).initializeAttempt group imuSamplesAlreadyIngested

def takenAttempt (synchronized : SynchronizationResult D) (p : FastLioPipeline N) :
    Option (PriorAttempt N) :=
  match synchronized with
  | .group group => p.groupAttempt group true
  | _ => none

def attemptOf (p : FastLioPipeline N) : PipelineCall N → Option (PriorAttempt N)
  | .pushImu sample =>
    match p.feed.buffer.pushImu sample with
    | (_, .error _) => none
    | (buffer, .ok ()) =>
      ({ p with feed := { p.feed with buffer := buffer } }.retainPriorImuSample sample).collectAttempt
        sample
  | .processNext =>
    let p := p.setReason ""
    if p.holdsForPrior then none
    else
      let synchronized := p.feed.synchronizeNext
      { p with feed := synchronized.1 }.takenAttempt synchronized.2
  | .process group => (p.setReason "").groupAttempt group false
  | _ => none

/-! ## What an attempt does -/

theorem waitView_resolve (applicationTime : Timestamp) (p : FastLioPipeline N) :
    (p.resolveInitialStatePrior applicationTime).1.waitView = p.waitView := by
  obtain ⟨mailbox, diagnostics, fallback, h⟩ := resolveInitialStatePrior_spec applicationTime p
  rw [h]
  rfl

section
variable (progressTime : Option Timestamp) (p : FastLioPipeline N)

theorem waitView_obtainInFlight : (p.obtainInFlight progressTime).1.waitView =
      { p.waitView with
        result := (p.obtainInFlight progressTime).2.or p.imuInitializationResult } := by
  have hResolved := waitView_resolve (p.applicationTime progressTime) p
  unfold obtainInFlight
  split
  · rename_i h
    rw [h] at hResolved
    exact hResolved
  rename_i h
  rw [h] at hResolved
  split
  · exact hResolved
  split
  · exact hResolved
  · rw [← hResolved]
    rfl

theorem waitView_obtainInitialization : (p.obtainInitialization progressTime).1.waitView =
      { p.waitView with
        result := (p.obtainInitialization progressTime).2
        waitStart := if p.imuInitializationResult.isSome then p.priorWaitStartTime
          else progressTime.or p.lastInitializationImuTime } := by
  unfold obtainInitialization
  split
  · rename_i hResult
    rw [hResult]
    unfold waitView
    rw [hResult]
    rfl
  rename_i hNone
  rw [hNone]
  dsimp only
  split
  · rw [waitView_obtainInFlight]
    have hBegun : (p.beginInitialization progressTime).imuInitializationResult = none := hNone
    rw [hBegun, Option.or_none]
    rfl
  split
  · unfold waitView
    dsimp only
    rw [show ((p.beginInitialization progressTime).setReason _).imuInitializationResult = none
      from hNone]
    rfl
  · rfl

end

theorem obtainInitialization_ground (hLooks : a.Looks)
    (hGround : a.pipeline.config.initialPrior.context ≠ .inFlightReinitialization) :
    (a.pipeline.obtainInitialization a.progressTime).2.isSome = true := by
  unfold obtainInitialization
  split
  · rfl
  rename_i hNone
  dsimp only
  split
  · rename_i hFlight
    exact absurd hFlight hGround
  split
  · rename_i hError
    rcases hLooks.2 with h | h | h
    · rw [hNone] at h
      cases h
    · exact absurd h hGround
    · rw [show (a.pipeline.beginInitialization a.progressTime).initializer =
        a.pipeline.initializer from rfl] at hError
      rw [hError] at h
      cases h
  · rfl

theorem waitView_applyInitialStatePrior (result : N.InitializationResult)
    (prior : InitialStatePrior D N.Covariance) (p : FastLioPipeline N) :
    (p.applyInitialStatePrior result prior).status.usesEstimatorState = true ∨
      (p.applyInitialStatePrior result prior).waitView = p.waitView := by
  fun_cases applyInitialStatePrior
  case case2 =>
    left
    unfold startEstimator
    rw [startUp_status]
    rfl
  case case4 =>
    left
    unfold startEstimator
    rw [startUp_status]
    rfl
  all_goals exact .inr rfl

def finishInitialization (progressTime : Option Timestamp) :
    FastLioPipeline N × Option N.InitializationResult → FastLioPipeline N
  | (p, none) => p
  | (p, some result) =>
    let applicationTime := p.applicationTime progressTime
    match p.resolveInitialStatePrior applicationTime with
    | (p, false) => p
    | (p, true) =>
      p.applyInitialStatePrior result (p.selectPrior p.mailbox.candidate applicationTime)

theorem done_proceeds (h : a.Proceeds) : a.done = finishInitialization a.progressTime
      (a.pipeline.obtainInitialization a.progressTime) := by
  unfold PriorAttempt.done tryCompleteImuInitialization
  rw [if_neg (by simp [h.1, h.2])]
  rfl

theorem waitView_done (h : a.Proceeds) : a.done.status.usesEstimatorState = true ∨
      a.done.waitView = (a.pipeline.obtainInitialization a.progressTime).1.waitView := by
  rw [done_proceeds h]
  rcases a.pipeline.obtainInitialization a.progressTime with ⟨m, _ | result⟩
  · exact .inr rfl
  dsimp only [finishInitialization]
  have hResolved := waitView_resolve (m.applicationTime a.progressTime) m
  rcases hFound : m.resolveInitialStatePrior (m.applicationTime a.progressTime) with ⟨q, _ | _⟩ <;>
    rw [hFound] at hResolved
  · exact .inr hResolved
  · rcases waitView_applyInitialStatePrior result
      (q.selectPrior q.mailbox.candidate (m.applicationTime a.progressTime)) q with hUses | hView
    · exact .inl hUses
    · exact .inr (hView.trans hResolved)

theorem done_not_proceeds (h : ¬a.Proceeds) : a.done = a.pipeline := by
  unfold PriorAttempt.done tryCompleteImuInitialization
  rw [if_pos]
  simp only [Bool.or_eq_true, Bool.not_eq_true']
  by_contra hNot
  rw [not_or, Bool.not_eq_false, Bool.not_eq_true] at hNot
  exact h hNot

def waitAfter (a : PriorAttempt N) : WaitView N :=
  if a.Proceeds then (a.pipeline.obtainInitialization a.progressTime).1.waitView
  else a.pipeline.waitView

theorem done_waits (a : PriorAttempt N) :
    a.done.status.usesEstimatorState = true ∨ a.done.waitView = waitAfter a := by
  unfold waitAfter
  split
  · rename_i h
    exact waitView_done h
  · rename_i h
    rw [done_not_proceeds h]
    exact .inr rfl

/-! ## What a call does besides its attempt -/

/-- The call has started the estimator, or leaves the wait as its attempt left it. -/
def WaitsBy (attempt : Option (PriorAttempt N)) (p q : FastLioPipeline N) : Prop :=
  q.status.usesEstimatorState = true ∨ q.waitView = (attempt.map waitAfter).getD p.waitView

theorem WaitsBy.of_same (h : q.waitView = p.waitView) : WaitsBy none p q := .inr h

theorem WaitsBy.since {attempt : Option (PriorAttempt N)} {m : FastLioPipeline N}
    (h : WaitsBy attempt m q) (hView : m.waitView = p.waitView) : WaitsBy attempt p q := by
  rcases h with hUses | hSame
  · exact .inl hUses
  · right
    rw [hSame]
    cases attempt with
    | none => exact hView
    | some a => rfl

theorem waitView_addInitializationSample (sample : ImuSample D) (p : FastLioPipeline N) :
    (p.addInitializationSample sample).1.waitView = p.waitView := by
  obtain ⟨_, _, _, -, h⟩ := addInitializationSample_spec sample p
  rw [h]
  rfl

theorem waitView_addInitializationSamples (samples : List (ImuSample D))
    (p : FastLioPipeline N) : (p.addInitializationSamples samples).1.waitView = p.waitView := by
  obtain ⟨_, _, _, -, h⟩ := addInitializationSamples_spec samples p
  rw [h]
  rfl

theorem waitView_retainGroup (group : MeasurementGroup D) (p : FastLioPipeline N) :
    (p.retainGroup group).waitView = p.waitView := by
  obtain ⟨_, h⟩ := retainGroup_spec group p
  rw [h]
  rfl

theorem waitView_startUp (next : EstimatorStatus) (reason : String) (p : FastLioPipeline N) :
    (if p.status = .waitingForSensors then p.startUp next reason else p).waitView = p.waitView := by
  split <;> rfl

theorem collectImu_waits (sample : ImuSample D) (p : FastLioPipeline N) :
    WaitsBy (p.collectAttempt sample) p (p.collectImu sample).1 := by
  have hCollecting := waitView_startUp .collectingImu "FIRST_IMU_SAMPLE_ACCEPTED" p
  unfold collectImu collectAttempt
  dsimp only
  generalize (if p.status = .waitingForSensors then
    p.startUp .collectingImu "FIRST_IMU_SAMPLE_ACCEPTED" else p) = m at hCollecting ⊢
  split
  · have hAdded := waitView_addInitializationSample sample m
    rcases hSample : m.addInitializationSample sample with ⟨q, status | _⟩ <;> rw [hSample] at hAdded
    · exact .of_same (hAdded.trans hCollecting)
    · exact done_waits ⟨q, some sample.time⟩
  · exact .of_same hCollecting

/-- A call makes an attempt only before the estimator has started. -/
structure MadeBy (p : FastLioPipeline N) (a : PriorAttempt N) : Prop where
  unused : p.status.usesEstimatorState = false
  view : a.pipeline.waitView = p.waitView

variable {group : MeasurementGroup D} {ingested : Bool}

theorem unused_of_starting (reason : String) (p : FastLioPipeline N) (h : (if p.status = .waitingForSensors then
      p.startUp .collectingImu reason else p).status = .collectingImu ∨
    (if p.status = .waitingForSensors then
      p.startUp .collectingImu reason else p).status = .initializingImu) :
    p.status.usesEstimatorState = false := by
  split at h
  · rename_i hWaiting
    rw [hWaiting]
    rfl
  · rcases h with h | h <;> rw [h] <;> rfl

theorem collectAttempt_made {sample : ImuSample D} (h : p.collectAttempt sample = some a) :
    MadeBy p a ∧ a.progressTime = some sample.time := by
  have hCollecting := waitView_startUp .collectingImu "FIRST_IMU_SAMPLE_ACCEPTED" p
  have hUnused := unused_of_starting "FIRST_IMU_SAMPLE_ACCEPTED" p
  unfold collectAttempt at h
  dsimp only at h
  generalize (if p.status = .waitingForSensors then
    p.startUp .collectingImu "FIRST_IMU_SAMPLE_ACCEPTED" else p) = m at hCollecting hUnused h
  split at h
  · rename_i hStarting
    have hAdded := waitView_addInitializationSample sample m
    rcases hSample : m.addInitializationSample sample with ⟨q, status | _⟩ <;>
      rw [hSample] at hAdded h
    · cases h
    · cases h
      exact ⟨⟨hUnused hStarting, hAdded.trans hCollecting⟩, rfl⟩
  · cases h

theorem initializeFromGroup_waits (group : MeasurementGroup D) (ingested : Bool)
    (p : FastLioPipeline N) :
    WaitsBy (p.initializeAttempt group ingested) p (p.initializeFromGroup group ingested).1 := by
  have hCollecting := waitView_startUp .collectingImu "SYNCHRONIZED_MEASUREMENT_RECEIVED" p
  unfold initializeFromGroup initializeAttempt
  dsimp only
  generalize (if p.status = .waitingForSensors then
    p.startUp .collectingImu "SYNCHRONIZED_MEASUREMENT_RECEIVED" else p) = m at hCollecting ⊢
  generalize hSamples : (if ingested then [] else group.imuSamples) = samples
  split
  · have hAdded := waitView_addInitializationSamples samples m
    rcases hSample : m.addInitializationSamples samples with ⟨q, status | _⟩ <;>
      rw [hSample] at hAdded
    · exact .of_same (hAdded.trans hCollecting)
    · have hDone := done_waits
        ⟨q, (group.imuSamples.getLast?.map ImuSample.time).or q.lastInitializationImuTime⟩
      dsimp only
      split <;> exact hDone
  split <;> exact .of_same hCollecting

theorem initializeAttempt_made (h : p.initializeAttempt group ingested = some a) : MadeBy p a ∧
      ∀ last, group.imuSamples.getLast? = some last → a.progressTime = some last.time := by
  have hCollecting := waitView_startUp .collectingImu "SYNCHRONIZED_MEASUREMENT_RECEIVED" p
  have hUnused := unused_of_starting "SYNCHRONIZED_MEASUREMENT_RECEIVED" p
  unfold initializeAttempt at h
  dsimp only at h
  generalize (if p.status = .waitingForSensors then
    p.startUp .collectingImu "SYNCHRONIZED_MEASUREMENT_RECEIVED" else p) = m at hCollecting hUnused h
  split at h
  · rename_i hStarting
    have hAdded := waitView_addInitializationSamples (if ingested then [] else group.imuSamples) m
    split at h
    · cases h
    · rename_i hSample
      rw [hSample] at hAdded
      cases h
      refine ⟨⟨hUnused hStarting, hAdded.trans hCollecting⟩, ?_⟩
      intro last hLast
      rw [hLast]
      rfl
  · cases h

theorem EpochEntered.uses {answer : Except String Timestamp}
    (h : EpochEntered True group p q answer) (hUses : p.status.usesEstimatorState = true) :
    q.status.usesEstimatorState = true := by
  cases h with
  | unset _ hKeeps => exact hKeeps.onward.uses hUses
  | mismatch _ hKeeps => exact hKeeps.onward.uses hUses
  | initial _ _ hKeeps => exact hKeeps.onward.uses hUses
  | reached _ _ hKeeps => exact hKeeps.onward.uses hUses

theorem prepareGroup_waits (group : MeasurementGroup D) (ingested : Bool) (p : FastLioPipeline N) :
    WaitsBy (p.groupAttempt group ingested) p (p.prepareGroup group ingested).1 := by
  have hRetained := waitView_retainGroup group p
  have hReady := initializeFromGroup_waits group ingested (p.retainGroup group)
  unfold prepareGroup groupAttempt
  cases groupFault group with
  | some reason => exact .of_same rfl
  | none =>
    have hBefore := hReady.since hRetained
    rcases hStage : (p.retainGroup group).initializeFromGroup group ingested with ⟨m, reason | _⟩ <;>
      rw [hStage] at hBefore
    · exact hBefore
    · exact .inl ((enterEpoch_entered True group m).uses (initializeFromGroup_ok hStage))

theorem prepareGroup_uses {m : FastLioPipeline N} {start : Timestamp}
    (h : p.prepareGroup group ingested = (m, .ok start)) : m.status.usesEstimatorState = true := by
  have hPrepared := prepareGroup_prepared True group ingested p
  rw [h] at hPrepared
  cases hPrepared with
  | entered _ _ hUses hEntered => exact hEntered.uses hUses

theorem processInternal_waits (hOwed : RecoveryOwed p) (group : MeasurementGroup D)
    (ingested : Bool) :
    WaitsBy (p.groupAttempt group ingested) p (p.processInternal group ingested).1 := by
  have hWaits := prepareGroup_waits group ingested p
  have hPrepare := (prepareGroup_prepared True group ingested p).carries
  cases processInternal_processed True group ingested p with
  | @stopped m reason hPrepared =>
    have hFinal : (p.processInternal group ingested).1.waitView = m.waitView := by
      unfold processInternal
      rw [hPrepared]
      rfl
    have hStatus : (p.processInternal group ingested).1.status = m.status := by
      unfold processInternal
      rw [hPrepared]
      rfl
    rw [hPrepared] at hWaits
    rcases hWaits with hUses | hView
    · exact .inl (hStatus ▸ hUses)
    · exact .inr (hFinal.trans hView)
  | unpredicted hPrepared _ hKeeps => exact .inl (hKeeps.onward.uses (prepareGroup_uses hPrepared))
  | uncorrected hPrepared _ hKeeps =>
    have hUses := prepareGroup_uses hPrepared
    exact .inl (hKeeps.onward.uses hUses)
  | corrected hPrepared _ hKeeps _ _ _ _ hUpdated =>
    rw [hPrepared] at hPrepare
    have hOwedPrepared := (CallEffect.of_carries hPrepare hOwed).owed
    have hOwedThen := (CallEffect.of_carries hKeeps hOwedPrepared).owed
    have hUses := prepareGroup_uses hPrepared
    exact .inl ((hUpdated hOwedThen).moves.onward.uses (hKeeps.onward.uses hUses))

theorem groupAttempt_made (h : p.groupAttempt group ingested = some a) : MadeBy p a ∧
      ∀ last, group.imuSamples.getLast? = some last → a.progressTime = some last.time := by
  unfold groupAttempt at h
  split at h
  · cases h
  · obtain ⟨⟨hUnused, hView⟩, hTime⟩ := initializeAttempt_made h
    refine ⟨⟨?_, hView.trans (waitView_retainGroup group p)⟩, hTime⟩
    by_contra hUses
    rw [Bool.not_eq_false] at hUses
    have hRetained := (keeps_retainGroup (S := True) group p).onward.uses hUses
    rw [hUnused] at hRetained
    cases hRetained

theorem takeSynchronized_waits (hUnused : p.status.usesEstimatorState = false) (hOwed : RecoveryOwed p)
    (synchronized : SynchronizationResult D) :
    WaitsBy (p.takenAttempt synchronized) p (p.takeSynchronized synchronized).1 := by
  cases synchronized with
  | error status => exact .of_same rfl
  | waiting => exact .of_same rfl
  | group group => exact processInternal_waits hOwed group true
  | discontinuity d =>
    show WaitsBy none p (p.recoverFromDiscontinuity d).1
    unfold recoverFromDiscontinuity
    rw [if_neg (by simp [hUnused])]
    exact .of_same rfl

theorem step_waits (hOwed : RecoveryOwed p) (call : PipelineCall N) :
    WaitsBy (p.attemptOf call) p (p.step call).1 := by
  cases hUses : p.status.usesEstimatorState with
  | true => exact .inl ((step_effect (S := True) hOwed call fun _ => trivial).moves.onward.uses hUses)
  | false =>
    cases call with
    | pushImu sample =>
      show WaitsBy (p.attemptOf (.pushImu sample)) p (p.pushImu sample).1
      simp only [pushImu, attemptOf]
      rcases p.feed.buffer.pushImu sample with ⟨buffer, status | _⟩
      · exact .inr rfl
      · have hCollected := collectImu_waits sample
          ({ p with feed := { p.feed with buffer := buffer } }.retainPriorImuSample sample)
        exact hCollected.since (p := p) rfl
    | pushLidar now scan =>
      show WaitsBy none p (p.pushLidar now scan).1
      unfold pushLidar
      split <;> exact .of_same rfl
    | submitInitialStatePrior prior =>
      show WaitsBy none p (p.submitInitialStatePrior prior).1
      unfold submitInitialStatePrior
      split <;> exact .of_same rfl
    | setInitialStatePriorGeometry baseToImu =>
      show WaitsBy none p (p.setInitialStatePriorGeometry baseToImu).1
      unfold setInitialStatePriorGeometry
      split
      · exact .of_same rfl
      split <;> exact .of_same rfl
    | processNext =>
      show WaitsBy (p.attemptOf .processNext) p p.processNext.1
      simp only [processNext, attemptOf]
      split
      · exact .inr rfl
      · have hTaken := takeSynchronized_waits (p := { p.setReason "" with
          feed := p.feed.synchronizeNext.1 }) hUses hOwed p.feed.synchronizeNext.2
        exact hTaken.since (p := p) rfl
    | process group =>
      have hProcessed := processInternal_waits (p := p.setReason "") hOwed group false
      exact hProcessed.since (p := p) rfl
    | superviseLidarTimeout now =>
      show WaitsBy none p (p.superviseLidarTimeout now)
      unfold superviseLidarTimeout
      split <;> exact .of_same rfl

theorem attemptOf_pushImu {sample : ImuSample D} (h : p.attemptOf (.pushImu sample) = some a) :
    MadeBy p a ∧ a.progressTime = some sample.time := by
  simp only [attemptOf] at h
  split at h
  · cases h
  · obtain ⟨⟨hUnused, hView⟩, hTime⟩ := collectAttempt_made h
    exact ⟨⟨hUnused, hView⟩, hTime⟩

theorem attemptOf_process (h : p.attemptOf (.process group) = some a) :
    MadeBy p a ∧ ∀ last, group.imuSamples.getLast? = some last →
      a.progressTime = some last.time := by
  obtain ⟨⟨hUnused, hView⟩, hTime⟩ := groupAttempt_made (p := p.setReason "") h
  exact ⟨⟨hUnused, hView⟩, hTime⟩

theorem attemptOf_processNext (h : p.attemptOf .processNext = some a) :
    p.holdsForPrior = false ∧ MadeBy p a ∧ ∃ group, p.feed.synchronizeNext.2 = .group group ∧
      ∀ last, group.imuSamples.getLast? = some last → a.progressTime = some last.time := by
  unfold attemptOf at h
  dsimp only at h
  split at h
  · cases h
  rename_i hFree
  refine ⟨Bool.eq_false_iff.mpr hFree, ?_⟩
  unfold takenAttempt at h
  split at h
  · rename_i group hGroup
    obtain ⟨⟨hUnused, hView⟩, hTime⟩ := groupAttempt_made h
    exact ⟨⟨hUnused, hView⟩, group, hGroup, hTime⟩
  · cases h

end FastLioPipeline

end UavNavigation.FastLio
