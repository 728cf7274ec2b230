import UavNavigation.PipelineTwins
import UavNavigation.PipelineCalls

/-!
# Submissions during an attempt

The subscriber thread submits priors while the processing thread tries to complete
the initialization. The mailbox is read in one locked section and read again in
another one, so an attempt takes the submissions that arrive between its sections
as a parameter. Without any it is the attempt of the pipeline.
-/

namespace UavNavigation.FastLio

set_option autoImplicit false

variable {D : Type} [FloatOps D] {N : Numerics D}

/-- The submissions between the locked sections of one attempt, in their order. -/
structure Gaps (N : Numerics D) where
  /-- In flight, between the first read of the candidate and its removal. -/
  afterFirstRead : List (InitialStatePrior D N.Covariance) := []
  /-- In flight, before the mask of the candidate is read. -/
  beforeMask : List (InitialStatePrior D N.Covariance) := []
  beforeRead : List (InitialStatePrior D N.Covariance) := []
  /-- Between the last read of the candidate and its removal, or the verdict on it. -/
  afterRead : List (InitialStatePrior D N.Covariance) := []
  /-- Between the verdict and the section that reads the prior to apply. -/
  beforeReread : List (InitialStatePrior D N.Covariance) := []
  /-- Before the estimator is initialized. -/
  afterReread : List (InitialStatePrior D N.Covariance) := []

namespace Gaps

def early (gaps : Gaps N) : List (InitialStatePrior D N.Covariance) :=
  gaps.afterFirstRead ++ gaps.beforeMask

/-- The submissions between the read of the candidate and the read of the prior to apply. -/
def window (gaps : Gaps N) : List (InitialStatePrior D N.Covariance) :=
  gaps.afterRead ++ gaps.beforeReread

end Gaps

structure PriorApplication (N : Numerics D) where
  applicationTime : Timestamp
  /-- The reason in the diagnostics. -/
  reason : String
  /-- The candidate the last call of `resolveInitialStatePrior` read. -/
  candidate : Option (InitialStatePrior D N.Covariance)
  applied : InitialStatePrior D N.Covariance

namespace FastLioPipeline

def submitAll (priors : List (InitialStatePrior D N.Covariance)) (p : FastLioPipeline N) :
    FastLioPipeline N :=
  priors.foldl (fun p prior => (p.submitInitialStatePrior prior).1) p

/-- `resolveInitialStatePrior` with the submissions that follow its read. -/
def resolveInterleaved (submissions : List (InitialStatePrior D N.Covariance))
    (applicationTime : Timestamp) (p : FastLioPipeline N) : FastLioPipeline N × Bool :=
  let policy := p.config.initialPrior
  let candidate := p.mailbox.candidate
  let p := (p.setInitialPrior { p.initialPrior with waitingForSensorTime := false }).submitAll
    submissions
  let accepted (reason : String) : FastLioPipeline N × Bool :=
    (p.setInitialPrior { p.initialPrior with status := .applied, reason := reason }, true)
  match policy.source with
  | .fixed => accepted "FIXED_PRIOR_ACCEPTED"
  | .zero => accepted "ZERO_PRIOR_ACCEPTED"
  | .topic =>
    match candidate with
    | none => p.awaitPrior none applicationTime
    | some candidate =>
      match judgeCandidate policy.maximumTopicPriorAgeNs candidate applicationTime with
      | .accepted => accepted "TOPIC_PRIOR_ACCEPTED"
      | .waiting =>
        (p.setInitialPrior { p.initialPrior with
          waitingForSensorTime := true
          status := .waiting
          reason := "TOPIC_PRIOR_WAITING_FOR_SENSOR_TIME" }).awaitPrior candidate applicationTime
      | .dropped reason =>
        -- whatever the mailbox holds by now is removed
        ({ p with mailbox := { p.mailbox with candidate := none } }.setInitialPrior
          { p.initialPrior with reason := reason }).awaitPrior candidate applicationTime

def obtainInFlightInterleaved (gaps : Gaps N) (progressTime : Option Timestamp)
    (p : FastLioPipeline N) : FastLioPipeline N × Option N.InitializationResult :=
  match p.resolveInterleaved gaps.afterFirstRead (p.applicationTime progressTime) with
  | (p, false) => (p, none)
  | (p, true) =>
    let p := p.submitAll gaps.beforeMask
    if (p.mailbox.candidate.getD {}).mask.attitude ≠ .full then
      (p.rejectPrior "IN_FLIGHT_PRIOR_REQUIRES_FULL_ATTITUDE", none)
    else if p.initializer.samples.isEmpty || !N.evidenceValid p.initializer.samples then
      (p.rejectPrior "IN_FLIGHT_PRIOR_IMU_EVIDENCE_INVALID", none)
    else
      let result := N.inFlightInitialization p.initializer.samples
      ({ p with imuInitializationResult := some result }, some result)

/-- The submissions arrive also where the processing thread has no section. -/
def obtainInterleaved (gaps : Gaps N) (progressTime : Option Timestamp) (p : FastLioPipeline N) :
    FastLioPipeline N × Option N.InitializationResult :=
  match p.imuInitializationResult with
  | some result => (p.submitAll gaps.early, some result)
  | none =>
    let p := p.beginInitialization progressTime
    if p.config.initialPrior.context = .inFlightReinitialization then
      p.obtainInFlightInterleaved gaps progressTime
    else
      match N.tryInitialize p.initializer.samples with
      | .error status => (p.setReason status.message, none)
      | .ok result =>
        ({ p with imuInitializationResult := some result }.submitAll gaps.early, some result)

/-- `tryCompleteImuInitialization` with the submissions between its locked sections, and the
prior it applied when it initialized the estimator. -/
def attempt (gaps : Gaps N) (progressTime : Option Timestamp) (p : FastLioPipeline N) :
    FastLioPipeline N × Option (PriorApplication N) :=
  if !p.initializer.hasEnoughSamples || p.status.usesEstimatorState then (p, none)
  else
    match p.obtainInterleaved gaps progressTime with
    | (p, none) => (p, none)
    | (p, some result) =>
      let applicationTime := p.applicationTime progressTime
      let p := p.submitAll gaps.beforeRead
      let candidate := p.mailbox.candidate
      match p.resolveInterleaved gaps.afterRead applicationTime with
      | (p, false) => (p, none)
      | (p, true) =>
        let p := p.submitAll gaps.beforeReread
        let prior := p.selectPrior p.mailbox.candidate applicationTime
        let done := (p.submitAll gaps.afterReread).applyInitialStatePrior result prior
        (done, if done.status = .initializingMap then
          some ⟨applicationTime, done.initialPrior.reason, candidate, prior⟩ else none)

theorem resolveInterleaved_nil (applicationTime : Timestamp) (p : FastLioPipeline N) :
    p.resolveInterleaved [] applicationTime = p.resolveInitialStatePrior applicationTime := rfl

section
variable (progressTime : Option Timestamp) (p : FastLioPipeline N)

theorem obtainInterleaved_nil :
    p.obtainInterleaved {} progressTime = p.obtainInitialization progressTime := rfl

theorem attempt_undisturbed :
    (p.attempt {} progressTime).1 = p.tryCompleteImuInitialization progressTime := by
  unfold attempt tryCompleteImuInitialization
  rw [obtainInterleaved_nil]
  split
  · rfl
  rcases p.obtainInitialization progressTime with ⟨m, _ | result⟩
  · rfl
  dsimp only
  rw [show m.submitAll [] = m from rfl, resolveInterleaved_nil]
  rcases m.resolveInitialStatePrior (m.applicationTime progressTime) with ⟨m', _ | _⟩ <;> rfl

end

/-- What a call runs where the pipeline tries to complete the initialization. -/
abbrev Attempt (N : Numerics D) : Type :=
  Option Timestamp → FastLioPipeline N → FastLioPipeline N × Option (PriorApplication N)

section Calls
variable (complete : Attempt N)

def collectImuBy (sample : ImuSample D) (p : FastLioPipeline N) :
    (FastLioPipeline N × Except Status Unit) × Option (PriorApplication N) :=
  let p := if p.status = .waitingForSensors then
    p.startUp .collectingImu "FIRST_IMU_SAMPLE_ACCEPTED" else p
  if p.status = .collectingImu ∨ p.status = .initializingImu then
    match p.addInitializationSample sample with
    | (p, .error status) => ((p.setReason status.message, .error status), none)
    | (p, .ok ()) => (((complete (some sample.time) p).1, .ok ()), (complete (some sample.time) p).2)
  else ((p, .ok ()), none)

def pushImuBy (sample : ImuSample D) (p : FastLioPipeline N) :
    (FastLioPipeline N × Except Status Unit) × Option (PriorApplication N) :=
  match p.feed.buffer.pushImu sample with
  | (buffer, .error status) =>
    (({ p with feed := { p.feed with buffer := buffer } }.setReason status.message,
      .error status), none)
  | (buffer, .ok ()) =>
    collectImuBy complete sample
      ({ p with feed := { p.feed with buffer := buffer } }.retainPriorImuSample sample)

def initializeFromGroupBy (group : MeasurementGroup D) (imuSamplesAlreadyIngested : Bool)
    (p : FastLioPipeline N) :
    (FastLioPipeline N × Except String Unit) × Option (PriorApplication N) :=
  let p := if p.status = .waitingForSensors then
    p.startUp .collectingImu "SYNCHRONIZED_MEASUREMENT_RECEIVED" else p
  if p.status = .collectingImu ∨ p.status = .initializingImu then
    match p.addInitializationSamples (if imuSamplesAlreadyIngested then [] else group.imuSamples) with
    | (p, .error status) => ((p.setReason status.message, .error status.message), none)
    | (p, .ok ()) =>
      let progressTime :=
        (group.imuSamples.getLast?.map ImuSample.time).or p.lastInitializationImuTime
      let done := complete progressTime p
      let p := done.1
      if p.status ≠ .initializingMap then
        let reason :=
          if p.imuInitializationResult.isSome ∨
              p.config.initialPrior.context = .inFlightReinitialization ∧
                p.initialPrior.status = .waiting then "INITIAL_STATE_PRIOR_PENDING"
          else "IMU_INITIALIZATION_NOT_READY"
        ((p.setReason reason, .error reason), done.2)
      else ((p, .ok ()), done.2)
  else if !p.status.usesEstimatorState then
    ((p.setReason "ESTIMATOR_STATE_NOT_PROCESSABLE", .error "ESTIMATOR_STATE_NOT_PROCESSABLE"),
      none)
  else ((p, .ok ()), none)

def prepareGroupBy (group : MeasurementGroup D) (imuSamplesAlreadyIngested : Bool)
    (p : FastLioPipeline N) :
    (FastLioPipeline N × Except String Timestamp) × Option (PriorApplication N) :=
  match groupFault group with
  | some reason => ((p.failUpdate .synchronization reason, .error reason), none)
  | none =>
    let ready := initializeFromGroupBy complete group imuSamplesAlreadyIngested (p.retainGroup group)
    match ready.1 with
    | (p, .error reason) => ((p, .error reason), ready.2)
    | (p, .ok ()) => (p.enterEpoch group, ready.2)

def processInternalBy (group : MeasurementGroup D) (imuSamplesAlreadyIngested : Bool)
    (p : FastLioPipeline N) :
    (FastLioPipeline N × ProcessResult N) × Option (PriorApplication N) :=
  let result : ProcessResult N :=
    { statusBefore := p.status, scanTime := some group.scan.endTime }
  let prepared := prepareGroupBy complete group imuSamplesAlreadyIngested p
  let outcome :=
    match prepared.1 with
    | (p, .error reason) => (p, { result with rejectionReason := reason })
    | (p, .ok start) => p.processPredicted group start result
  (outcome.1.finalizeResult outcome.2, prepared.2)

def processNextBy (p : FastLioPipeline N) :
    (FastLioPipeline N × Option (ProcessResult N)) × Option (PriorApplication N) :=
  let p := p.setReason ""
  if p.holdsForPrior then ((p, none), none)
  else
    let synchronized := p.feed.synchronizeNext
    let p := { p with feed := synchronized.1 }
    match synchronized.2 with
    | .group group =>
      let done := processInternalBy complete group true p
      ((done.1.1, some done.1.2), done.2)
    | other => (p.takeSynchronized other, none)

/-- A call with the submissions during its attempt. -/
structure InterleavedCall (N : Numerics D) where
  call : ResettableCall N
  gaps : Gaps N := {}

def stepBy (p : FastLioPipeline N) :
    ResettableCall N → (FastLioPipeline N × PipelineAnswer N) × Option (PriorApplication N)
  | .call (.pushImu sample) =>
    let done := pushImuBy complete sample p
    ((done.1.1, .status done.1.2), done.2)
  | .call .processNext =>
    let done := processNextBy complete p
    ((done.1.1, .result done.1.2), done.2)
  | .call (.process group) =>
    let done := processInternalBy complete group false (p.setReason "")
    ((done.1.1, .result (some done.1.2)), done.2)
  | other => (p.resettableStep other, none)

end Calls

def interleavedStep (p : FastLioPipeline N) (op : InterleavedCall N) :
    FastLioPipeline N × (PipelineAnswer N × Option (PriorApplication N)) :=
  let done := stepBy (attempt op.gaps) p op.call
  (done.1.1, done.1.2, done.2)

section Undisturbed
variable {complete : Attempt N}
  (hComplete : ∀ progressTime p, (complete progressTime p).1 = p.tryCompleteImuInitialization progressTime)
include hComplete

theorem collectImuBy_fst (sample : ImuSample D) (p : FastLioPipeline N) :
    (collectImuBy complete sample p).1 = p.collectImu sample := by
  unfold collectImuBy collectImu
  generalize (if p.status = .waitingForSensors then
    p.startUp .collectingImu "FIRST_IMU_SAMPLE_ACCEPTED" else p) = m
  by_cases hCollecting : m.status = .collectingImu ∨ m.status = .initializingImu
  · rw [if_pos hCollecting, if_pos hCollecting]
    rcases m.addInitializationSample sample with ⟨m', status | _⟩
    · rfl
    · dsimp only
      rw [hComplete]
  · rw [if_neg hCollecting, if_neg hCollecting]

theorem pushImuBy_fst (sample : ImuSample D) (p : FastLioPipeline N) :
    (pushImuBy complete sample p).1 = p.pushImu sample := by
  unfold pushImuBy pushImu
  rcases p.feed.buffer.pushImu sample with ⟨buffer, status | _⟩
  · rfl
  · exact collectImuBy_fst hComplete sample _

section
variable (group : MeasurementGroup D) (ingested : Bool) (p : FastLioPipeline N)

theorem initializeFromGroupBy_fst :
    (initializeFromGroupBy complete group ingested p).1 = p.initializeFromGroup group ingested := by
  unfold initializeFromGroupBy initializeFromGroup
  generalize (if p.status = .waitingForSensors then
    p.startUp .collectingImu "SYNCHRONIZED_MEASUREMENT_RECEIVED" else p) = m
  by_cases hCollecting : m.status = .collectingImu ∨ m.status = .initializingImu
  · rw [if_pos hCollecting, if_pos hCollecting]
    rcases m.addInitializationSamples (if ingested then [] else group.imuSamples) with
      ⟨m', status | _⟩
    · rfl
    · dsimp only
      rw [hComplete]
      split <;> rfl
  · rw [if_neg hCollecting, if_neg hCollecting]
    split <;> rfl

theorem prepareGroupBy_fst :
    (prepareGroupBy complete group ingested p).1 = p.prepareGroup group ingested := by
  unfold prepareGroupBy prepareGroup
  cases groupFault group with
  | some reason => rfl
  | none =>
    dsimp only
    rw [initializeFromGroupBy_fst hComplete]
    rcases (p.retainGroup group).initializeFromGroup group ingested with ⟨m, reason | _⟩ <;> rfl

theorem processInternalBy_fst :
    (processInternalBy complete group ingested p).1 = p.processInternal group ingested := by
  have hPrepared := prepareGroupBy_fst hComplete group ingested p
  unfold processInternalBy processInternal
  exact hPrepared ▸ rfl

end

theorem processNextBy_fst (p : FastLioPipeline N) :
    (processNextBy complete p).1 = p.processNext := by
  unfold processNextBy processNext
  dsimp only
  split
  · rfl
  rcases (p.setReason "").feed.synchronizeNext with ⟨feed, _ | group | d | status⟩
  · rfl
  · dsimp only
    rw [processInternalBy_fst hComplete]
    rfl
  · rfl
  · rfl

theorem stepBy_fst (p : FastLioPipeline N) (call : ResettableCall N) :
    (stepBy complete p call).1 = p.resettableStep call := by
  match call with
  | .call (.pushImu sample) =>
    unfold stepBy
    dsimp only
    rw [pushImuBy_fst hComplete]
    rfl
  | .call .processNext =>
    unfold stepBy
    dsimp only
    rw [processNextBy_fst hComplete]
    rfl
  | .call (.process group) =>
    unfold stepBy
    dsimp only
    rw [processInternalBy_fst hComplete]
    rfl
  | .call (.pushLidar now scan) => rfl
  | .call (.submitInitialStatePrior prior) => rfl
  | .call (.setInitialStatePriorGeometry baseToImu) => rfl
  | .call (.superviseLidarTimeout now) => rfl
  | .reset => rfl

end Undisturbed

theorem interleavedStep_undisturbed (p : FastLioPipeline N) (call : ResettableCall N) :
    (p.interleavedStep { call := call }).1 = (p.resettableStep call).1 ∧
      (p.interleavedStep { call := call }).2.1 = (p.resettableStep call).2 := by
  have hStep := stepBy_fst attempt_undisturbed p call
  exact ⟨congrArg Prod.fst hStep, congrArg Prod.snd hStep⟩

end FastLioPipeline

/-! ## The prior that was validated -/

namespace InitialPriorMailbox
variable {C : Type} {covarianceFinite : C → Bool} {context : InitialStatePriorContext}
  {prior : InitialStatePrior D C} {mailbox : InitialPriorMailbox D C}

/-- The candidate is the last prior that was accepted, and came from a topic. -/
def Sound (mailbox : InitialPriorMailbox D C) : Prop :=
  ∀ candidate ∈ mailbox.candidate,
    candidate.source = .topic ∧ mailbox.lastCandidateTime = some candidate.sampleTime

theorem submit_cases (covarianceFinite : C → Bool) (context : InitialStatePriorContext)
    (prior : InitialStatePrior D C) (mailbox : InitialPriorMailbox D C) :
    (∃ status, mailbox.submit covarianceFinite context prior = (mailbox, .error status)) ∨
      mailbox.submit covarianceFinite context prior =
          (⟨some prior, some prior.sampleTime⟩, .ok ()) ∧
        prior.source = .topic ∧
        ∀ last ∈ mailbox.lastCandidateTime, last.nanoseconds < prior.sampleTime.nanoseconds := by
  fun_cases submit
  case case5 hContract _ _ hRising =>
    refine .inr ⟨rfl, ?_, ?_⟩
    · by_contra hSource
      exact hContract (.inl hSource)
    · intro last hLast
      rw [Option.mem_def.mp hLast] at hRising
      simpa using hRising
  all_goals exact .inl ⟨_, rfl⟩

end InitialPriorMailbox

/-- The part of the pipeline that decides about priors. -/
structure PriorView (N : Numerics D) where
  config : EstimatorConfig N
  mailbox : InitialPriorMailbox D N.Covariance
  fallbackApplied : Bool
  initialized : Bool
  gateClosed : Bool

namespace FastLioPipeline
variable {p q : FastLioPipeline N}

def priorView (p : FastLioPipeline N) : PriorView N :=
  ⟨p.config, p.mailbox, p.initialPriorFallbackApplied, p.estimatorInitialized,
    p.initialPriorGateClosed⟩

section
variable (h : q.priorView = p.priorView)
include h

theorem config_eq : q.config = p.config :=
  congrArg PriorView.config h

theorem mailbox_eq : q.mailbox = p.mailbox :=
  congrArg PriorView.mailbox h

theorem fallback_eq : q.initialPriorFallbackApplied = p.initialPriorFallbackApplied :=
  congrArg PriorView.fallbackApplied h

end

section
variable (prior : InitialStatePrior D N.Covariance)
  (priors : List (InitialStatePrior D N.Covariance))

theorem submitInitialStatePrior_cases (p : FastLioPipeline N) :
    (∃ status, p.submitInitialStatePrior prior = (p, .error status)) ∨
      p.submitInitialStatePrior prior =
          ({ p with mailbox := ⟨some prior, some prior.sampleTime⟩ }, .ok ()) ∧
        prior.source = .topic ∧
        ∀ last ∈ p.mailbox.lastCandidateTime, last.nanoseconds < prior.sampleTime.nanoseconds := by
  unfold submitInitialStatePrior
  split
  · exact .inl ⟨_, rfl⟩
  rcases p.mailbox.submit_cases N.covarianceFinite p.config.initialPrior.context prior with
    ⟨status, hRefused⟩ | ⟨hAccepted, hTopic, hRising⟩
  · left
    rw [hRefused]
    exact ⟨status, rfl⟩
  · right
    rw [hAccepted]
    exact ⟨rfl, hTopic, hRising⟩

theorem priorView_submit (h : q.priorView = p.priorView)
    (prior : InitialStatePrior D N.Covariance) :
    (q.submitInitialStatePrior prior).1.priorView = (p.submitInitialStatePrior prior).1.priorView ∧
      (q.submitInitialStatePrior prior).2 = (p.submitInitialStatePrior prior).2 := by
  have hConfig := config_eq h
  have hMailbox := mailbox_eq h
  have hFallback := fallback_eq h
  have hInitialized : q.estimatorInitialized = p.estimatorInitialized :=
    congrArg PriorView.initialized h
  have hClosed : q.initialPriorGateClosed = p.initialPriorGateClosed :=
    congrArg PriorView.gateClosed h
  unfold submitInitialStatePrior
  rw [hConfig, hMailbox, hInitialized, hClosed]
  split
  · exact ⟨h, rfl⟩
  · refine ⟨?_, rfl⟩
    unfold priorView
    rw [hFallback]

theorem priorView_submitAll (h : q.priorView = p.priorView)
    (priors : List (InitialStatePrior D N.Covariance)) :
    (q.submitAll priors).priorView = (p.submitAll priors).priorView := by
  induction priors generalizing p q with
  | nil => exact h
  | cons prior priors ih => exact ih (priorView_submit h prior).1

theorem submitAll_cons (p : FastLioPipeline N) :
    p.submitAll (prior :: priors) = (p.submitInitialStatePrior prior).1.submitAll priors := rfl

theorem submitAll_append (priors others : List (InitialStatePrior D N.Covariance))
    (p : FastLioPipeline N) :
    p.submitAll (priors ++ others) = (p.submitAll priors).submitAll others :=
  List.foldl_append

theorem submitAll_spec (p : FastLioPipeline N) :
    p.submitAll priors = { p with mailbox := (p.submitAll priors).mailbox } := by
  induction priors generalizing p with
  | nil => rfl
  | cons prior priors ih =>
    rw [submitAll_cons, ih (p.submitInitialStatePrior prior).1]
    rcases submitInitialStatePrior_cases prior p with ⟨status, hRefused⟩ | ⟨hAccepted, -⟩
    · rw [hRefused]
    · rw [hAccepted]

end

theorem priorView_submitAll_setInitialPrior (diagnostics : InitialPriorDiagnostics)
    (priors : List (InitialStatePrior D N.Covariance)) (p : FastLioPipeline N) :
    ((p.setInitialPrior diagnostics).submitAll priors).priorView =
      (p.submitAll priors).priorView := by
  apply priorView_submitAll
  rfl

def AllRefused (priors : List (InitialStatePrior D N.Covariance)) (p : FastLioPipeline N) : Prop :=
  ∀ prior ∈ priors, ∃ status, (p.submitInitialStatePrior prior).2 = .error status

theorem AllRefused.unchanged {priors : List (InitialStatePrior D N.Covariance)}
    (h : AllRefused priors p) : p.submitAll priors = p := by
  induction priors with
  | nil => rfl
  | cons prior priors ih =>
    obtain ⟨status, hRefused⟩ := h prior List.mem_cons_self
    rcases submitInitialStatePrior_cases prior p with ⟨status', hSame⟩ | ⟨hAccepted, -⟩
    · rw [submitAll_cons, hSame]
      exact ih fun other hOther => h other (List.mem_cons_of_mem _ hOther)
    · rw [hAccepted] at hRefused
      cases hRefused

def NewerThan (time : Timestamp) (p : FastLioPipeline N) : Prop :=
  ∃ candidate ∈ p.mailbox.candidate, time.nanoseconds < candidate.sampleTime.nanoseconds ∧
    p.mailbox.lastCandidateTime = some candidate.sampleTime

theorem NewerThan.submitAll {time : Timestamp} (h : NewerThan time p)
    (priors : List (InitialStatePrior D N.Covariance)) : NewerThan time (p.submitAll priors) := by
  induction priors generalizing p with
  | nil => exact h
  | cons prior priors ih =>
    rw [submitAll_cons]
    apply ih
    rcases submitInitialStatePrior_cases prior p with ⟨status, hRefused⟩ | ⟨hAccepted, -, hRising⟩
    · rw [hRefused]
      exact h
    · obtain ⟨candidate, -, hNewer, hLast⟩ := h
      have hNext := hRising _ (Option.mem_def.mpr hLast)
      rw [hAccepted]
      exact ⟨prior, rfl, by omega, rfl⟩

theorem newerThan_of_accepted {priors : List (InitialStatePrior D N.Covariance)}
    {candidate : InitialStatePrior D N.Covariance} (hSound : p.mailbox.Sound)
    (hCandidate : p.mailbox.candidate = some candidate) (h : ¬AllRefused priors p) :
    NewerThan candidate.sampleTime (p.submitAll priors) := by
  induction priors with
  | nil => exact absurd (fun _ hMem => by cases hMem) h
  | cons prior priors ih =>
    rcases submitInitialStatePrior_cases prior p with ⟨status, hRefused⟩ | ⟨hAccepted, -, hRising⟩
    · rw [submitAll_cons, hRefused]
      apply ih
      intro hAll
      apply h
      intro other hOther
      rcases List.mem_cons.mp hOther with rfl | hOther
      · exact ⟨status, by rw [hRefused]⟩
      · exact hAll other hOther
    · have hLast := (hSound candidate hCandidate).2
      have hFirst : NewerThan candidate.sampleTime (p.submitInitialStatePrior prior).1 := by
        rw [hAccepted]
        exact ⟨prior, rfl, hRising _ (Option.mem_def.mpr hLast), rfl⟩
      exact hFirst.submitAll priors

theorem sound_submitAll (h : p.mailbox.Sound)
    (priors : List (InitialStatePrior D N.Covariance)) : (p.submitAll priors).mailbox.Sound := by
  induction priors generalizing p with
  | nil => exact h
  | cons prior priors ih =>
    rw [submitAll_cons]
    apply ih
    rcases submitInitialStatePrior_cases prior p with ⟨status, hRefused⟩ | ⟨hAccepted, hTopic, -⟩
    · rw [hRefused]
      exact h
    · rw [hAccepted]
      intro candidate hCandidate
      cases hCandidate
      exact ⟨hTopic, rfl⟩

structure Applicable (maximumAgeNs : Int) (prior : InitialStatePrior D N.Covariance)
    (applicationTime : Timestamp) : Prop where
  domain : prior.sampleTime.clockDomain = applicationTime.clockDomain
  notLater : prior.sampleTime.nanoseconds ≤ applicationTime.nanoseconds
  age : applicationTime.nanoseconds - prior.sampleTime.nanoseconds ≤ maximumAgeNs

theorem judgeCandidate_accepted {maximumAgeNs : Int}
    {candidate : InitialStatePrior D N.Covariance} {applicationTime : Timestamp}
    (h : judgeCandidate maximumAgeNs candidate applicationTime = .accepted) :
    Applicable maximumAgeNs candidate applicationTime := by
  unfold judgeCandidate at h
  split at h
  · cases h
  split at h
  · cases h
  rename_i ageNs hAge
  obtain ⟨hDomain, rfl⟩ := checkedDifference_ok hAge
  split at h
  · cases h
  split at h
  · rename_i hYoung
    exact ⟨hDomain.symm, by omega, hYoung⟩
  · cases h

theorem awaitPrior_true {candidate : Option (InitialStatePrior D N.Covariance)}
    {applicationTime : Timestamp} (h : p.awaitPrior candidate applicationTime = (q, true)) :
    p.config.initialPrior.context ≠ .inFlightReinitialization ∧
      (q.initialPrior.reason = "TOPIC_PRIOR_TIMEOUT_FIXED_FALLBACK" ∨
        q.initialPrior.reason = "TOPIC_PRIOR_TIMEOUT_ZERO_FALLBACK") := by
  unfold awaitPrior at h
  dsimp only at h
  split at h
  · cases h
  split at h
  · cases h
  split at h
  · cases h
  split at h
  · cases h
  split at h
  · cases h
  rename_i hPolicy
  cases h
  refine ⟨fun hInFlight => hPolicy (.inl hInFlight), ?_⟩
  split
  · exact .inl rfl
  · exact .inr rfl

/-- How `resolveInitialStatePrior` succeeds. -/
inductive Resolved (submissions : List (InitialStatePrior D N.Covariance))
    (applicationTime : Timestamp) (p q : FastLioPipeline N) : Prop where
  | configured (hSource : p.config.initialPrior.source ≠ .topic)
      (hView : q.priorView = (p.submitAll submissions).priorView)
      (hReason : q.initialPrior.reason ≠ "TOPIC_PRIOR_ACCEPTED")
  | accepted (candidate) (hSource : p.config.initialPrior.source = .topic)
      (hCandidate : p.mailbox.candidate = some candidate)
      (hApplicable : Applicable p.config.initialPrior.maximumTopicPriorAgeNs candidate
        applicationTime)
      (hView : q.priorView = (p.submitAll submissions).priorView)
  | fallback (hContext : p.config.initialPrior.context ≠ .inFlightReinitialization)
      (hReason : q.initialPrior.reason ≠ "TOPIC_PRIOR_ACCEPTED")

theorem submitAll_config (priors : List (InitialStatePrior D N.Covariance))
    (p : FastLioPipeline N) : (p.submitAll priors).config = p.config := by
  rw [submitAll_spec]

theorem resolveInterleaved_true {submissions : List (InitialStatePrior D N.Covariance)}
    {applicationTime : Timestamp}
    (h : p.resolveInterleaved submissions applicationTime = (q, true)) :
    Resolved submissions applicationTime p q := by
  have hView := priorView_submitAll_setInitialPrior
    { p.initialPrior with waitingForSensorTime := false } submissions p
  have hConfig : ((p.setInitialPrior { p.initialPrior with
      waitingForSensorTime := false }).submitAll submissions).config = p.config :=
    submitAll_config submissions _
  have hFallback : ∀ {m : FastLioPipeline N} {candidate},
      m.config = p.config → m.awaitPrior candidate applicationTime = (q, true) →
      Resolved submissions applicationTime p q := by
    intro m candidate hSame hAwaited
    obtain ⟨hContext, hReason⟩ := awaitPrior_true hAwaited
    rw [hSame] at hContext
    refine .fallback hContext ?_
    rcases hReason with hReason | hReason
    · rw [hReason]
      decide
    · rw [hReason]
      decide
  have hFixed : "FIXED_PRIOR_ACCEPTED" ≠ "TOPIC_PRIOR_ACCEPTED" := by decide
  have hZero : "ZERO_PRIOR_ACCEPTED" ≠ "TOPIC_PRIOR_ACCEPTED" := by decide
  revert h
  fun_cases resolveInterleaved
  all_goals intro h
  · rename_i hSource
    cases h
    exact .configured (by rw [hSource]; decide) hView hFixed
  · rename_i hSource
    cases h
    exact .configured (by rw [hSource]; decide) hView hZero
  · exact hFallback hConfig h
  · rename_i hSource candidate hCandidate hJudged
    cases h
    exact .accepted candidate hSource hCandidate (judgeCandidate_accepted hJudged) hView
  · apply hFallback _ h
    exact hConfig
  · apply hFallback _ h
    exact hConfig

/-! ## The attempt -/

theorem obtainInterleaved_view {gaps : Gaps N} {progressTime : Option Timestamp}
    {result : N.InitializationResult}
    (h : p.obtainInterleaved gaps progressTime = (q, some result)) :
    q.priorView = (p.submitAll gaps.early).priorView := by
  unfold obtainInterleaved at h
  split at h
  · cases h
    rfl
  dsimp only at h
  have hBegun : (p.beginInitialization progressTime).priorView = p.priorView := rfl
  split at h
  · rename_i hInFlight
    unfold obtainInFlightInterleaved at h
    split at h
    · cases h
    rename_i m hResolved
    have hView : m.priorView = (p.submitAll gaps.afterFirstRead).priorView := by
      cases resolveInterleaved_true hResolved with
      | configured _ hView => exact hView.trans (priorView_submitAll hBegun _)
      | accepted _ _ _ _ hView => exact hView.trans (priorView_submitAll hBegun _)
      | fallback hContext => exact absurd hInFlight hContext
    dsimp only at h
    split at h
    · cases h
    split at h
    · cases h
    cases h
    unfold Gaps.early
    rw [submitAll_append]
    exact priorView_submitAll hView gaps.beforeMask
  split at h
  · cases h
  · cases h
    apply priorView_submitAll
    rfl

/-- The pipeline as the last call of `resolveInitialStatePrior` finds it. -/
def atRead (gaps : Gaps N) (p : FastLioPipeline N) : FastLioPipeline N :=
  p.submitAll (gaps.early ++ gaps.beforeRead)

/-- The prior that the topic policy selects when an attempt before has chosen the fallback. -/
def fallbackPrior (policy : InitialStatePriorPolicy D N.Covariance) (applicationTime : Timestamp) :
    InitialStatePrior D N.Covariance :=
  if policy.groundFallback = .fixed then makeFixedPrior policy applicationTime
  else makeZeroPrior policy applicationTime

theorem fallbackPrior_source (policy : InitialStatePriorPolicy D N.Covariance)
    (applicationTime : Timestamp) : (fallbackPrior (N := N) policy applicationTime).source ≠ .topic := by
  unfold fallbackPrior
  split <;> exact InitialStatePriorSource.noConfusion

structure TopicApplication (gaps : Gaps N) (p : FastLioPipeline N) (a : PriorApplication N)
    (candidate : InitialStatePrior D N.Covariance) : Prop where
  held : (p.atRead gaps).mailbox.candidate = some candidate
  read : a.candidate = some candidate
  applicable : Applicable p.config.initialPrior.maximumTopicPriorAgeNs candidate a.applicationTime
  applied : a.applied =
    if p.initialPriorFallbackApplied then fallbackPrior p.config.initialPrior a.applicationTime
    else ((p.atRead gaps).submitAll gaps.window).mailbox.candidate.getD {}

section
variable {gaps : Gaps N} {progressTime : Option Timestamp} {result : N.InitializationResult}

theorem applyInitialStatePrior_reason
    {prior : InitialStatePrior D N.Covariance} (hBefore : p.status.usesEstimatorState = false)
    (h : (p.applyInitialStatePrior result prior).status = .initializingMap) :
    (p.applyInitialStatePrior result prior).initialPrior.reason = p.initialPrior.reason := by
  have hRejected : ∀ {m : FastLioPipeline N} {reason : String}, m.status = p.status →
      (m.rejectPrior reason).status ≠ .initializingMap := by
    intro m reason hStatus hMap
    rw [show (m.rejectPrior reason).status = p.status from hStatus] at hMap
    rw [hMap] at hBefore
    cases hBefore
  unfold applyInitialStatePrior at h ⊢
  dsimp only at h ⊢
  split at h
  · exact absurd h (hRejected rfl)
  split at h
  · rfl
  split at h
  · exact absurd h (hRejected rfl)
  · rfl

theorem submitAll_lifecycle (priors : List (InitialStatePrior D N.Covariance))
    (p : FastLioPipeline N) : (p.submitAll priors).lifecycle = p.lifecycle := by
  rw [submitAll_spec]

theorem awaitPrior_lifecycle (candidate : Option (InitialStatePrior D N.Covariance))
    (applicationTime : Timestamp) (p : FastLioPipeline N) :
    (p.awaitPrior candidate applicationTime).1.lifecycle = p.lifecycle := by
  obtain ⟨diagnostics, fallback, h⟩ := awaitPrior_spec candidate applicationTime p
  rw [h]

theorem resolveInterleaved_lifecycle (submissions : List (InitialStatePrior D N.Covariance))
    (applicationTime : Timestamp) (p : FastLioPipeline N) :
    (p.resolveInterleaved submissions applicationTime).1.lifecycle = p.lifecycle := by
  have hSubmitted : ((p.setInitialPrior { p.initialPrior with
      waitingForSensorTime := false }).submitAll submissions).lifecycle = p.lifecycle :=
    submitAll_lifecycle submissions _
  fun_cases resolveInterleaved
  case case3 =>
    rw [awaitPrior_lifecycle]
    exact hSubmitted
  case case5 =>
    rw [awaitPrior_lifecycle]
    exact hSubmitted
  case case6 =>
    rw [awaitPrior_lifecycle]
    exact hSubmitted
  all_goals exact hSubmitted

theorem obtainInterleaved_unused (hBefore : p.status.usesEstimatorState = false)
    (h : p.obtainInterleaved gaps progressTime = (q, some result)) :
    q.status.usesEstimatorState = false := by
  unfold FastLioPipeline.status at hBefore ⊢
  have hBegun : (p.beginInitialization progressTime).lifecycle.status.usesEstimatorState = false := by
    rw [show (p.beginInitialization progressTime).lifecycle.status = .initializingImu from
      startUp_status .initializingImu _ p]
    rfl
  unfold obtainInterleaved at h
  split at h
  · cases h
    rw [submitAll_lifecycle]
    exact hBefore
  dsimp only at h
  split at h
  · unfold obtainInFlightInterleaved at h
    have hResolvedLifecycle := resolveInterleaved_lifecycle gaps.afterFirstRead
      ((p.beginInitialization progressTime).applicationTime progressTime)
      (p.beginInitialization progressTime)
    split at h
    · cases h
    rename_i hResolved
    rw [hResolved] at hResolvedLifecycle
    dsimp only at h hResolvedLifecycle
    split at h
    · cases h
    split at h
    · cases h
    cases h
    rw [submitAll_lifecycle, hResolvedLifecycle]
    exact hBegun
  split at h
  · cases h
  · cases h
    rw [submitAll_lifecycle]
    exact hBegun

theorem selectPrior_topic (hTopic : p.config.initialPrior.source = .topic)
    (candidate : Option (InitialStatePrior D N.Covariance)) (applicationTime : Timestamp) :
    p.selectPrior candidate applicationTime =
      if p.initialPriorFallbackApplied then fallbackPrior p.config.initialPrior applicationTime
      else candidate.getD {} := by
  unfold selectPrior
  dsimp only
  rw [hTopic]
  rfl

/-- An attempt that accepted a candidate validated what it read and applied what the mailbox
held when it was read again. -/
theorem attempt_topic {a : PriorApplication N}
    (h : (p.attempt gaps progressTime).2 = some a) (hReason : a.reason = "TOPIC_PRIOR_ACCEPTED") :
    ∃ candidate, TopicApplication gaps p a candidate := by
  unfold attempt at h
  split at h
  · cases h
  rename_i hAttempts
  split at h
  · cases h
  rename_i m result hObtained
  have hView := obtainInterleaved_view hObtained
  dsimp only at h
  have hRead : (m.submitAll gaps.beforeRead).priorView = (p.atRead gaps).priorView := by
    unfold atRead
    rw [submitAll_append]
    exact priorView_submitAll hView gaps.beforeRead
  split at h
  · cases h
  rename_i r hResolved
  have hUnused : r.status.usesEstimatorState = false := by
    have hLifecycle := resolveInterleaved_lifecycle gaps.afterRead (m.applicationTime progressTime)
      (m.submitAll gaps.beforeRead)
    rw [hResolved, submitAll_lifecycle] at hLifecycle
    unfold FastLioPipeline.status
    rw [hLifecycle]
    apply obtainInterleaved_unused _ hObtained
    rw [Bool.not_eq_true, Bool.or_eq_false_iff] at hAttempts
    exact hAttempts.2
  generalize m.applicationTime progressTime = applicationTime at h hResolved
  split at h
  · rename_i hDone
    cases h
    have hLate : ((r.submitAll gaps.beforeReread).submitAll gaps.afterReread).lifecycle =
        r.lifecycle := by rw [submitAll_lifecycle, submitAll_lifecycle]
    have hDiagnostics : ((r.submitAll gaps.beforeReread).submitAll gaps.afterReread).initialPrior =
        r.initialPrior := by rw [submitAll_spec, submitAll_spec]
    rw [applyInitialStatePrior_reason _ hDone, hDiagnostics] at hReason
    · cases resolveInterleaved_true hResolved with
      | configured _ _ hOther => exact absurd hReason hOther
      | fallback _ hOther => exact absurd hReason hOther
      | accepted candidate hSource hCandidate hApplicable hVerdict =>
        rw [config_eq hRead] at hSource hApplicable
        have hHeld := hCandidate
        rw [mailbox_eq hRead] at hHeld
        have hWindow : (r.submitAll gaps.beforeReread).priorView =
            ((p.atRead gaps).submitAll gaps.window).priorView := by
          unfold Gaps.window
          rw [submitAll_append]
          exact priorView_submitAll (hVerdict.trans (priorView_submitAll hRead _)) _
        have hConfig : (p.atRead gaps).config = p.config := submitAll_config _ p
        have hWindowConfig : ((p.atRead gaps).submitAll gaps.window).config = p.config := by
          rw [submitAll_config, hConfig]
        have hWindowFallback : ((p.atRead gaps).submitAll gaps.window).initialPriorFallbackApplied =
              p.initialPriorFallbackApplied := by
          unfold atRead
          rw [submitAll_spec, submitAll_spec]
        refine ⟨candidate, hHeld, hCandidate, ?_, ?_⟩
        · rw [← hConfig]
          exact hApplicable
        · dsimp only
          rw [selectPrior_topic, config_eq hWindow, fallback_eq hWindow, mailbox_eq hWindow,
            hWindowConfig, hWindowFallback]
          rw [config_eq hWindow, hWindowConfig, ← hConfig]
          exact hSource
    · unfold FastLioPipeline.status
      rw [hLate]
      exact hUnused
  · cases h

end

/-- A prior applied as a topic prior may be applied at that time, and is the candidate that was
validated. -/
def AsValidated (policy : InitialStatePriorPolicy D N.Covariance) (a : PriorApplication N) : Prop :=
  a.reason = "TOPIC_PRIOR_ACCEPTED" →
    Applicable policy.maximumTopicPriorAgeNs a.applied a.applicationTime ∧
      a.candidate = some a.applied

/-- No fallback was selected before, and nothing is accepted between the two reads. -/
structure Undisturbed (gaps : Gaps N) (p : FastLioPipeline N) : Prop where
  fallback : p.initialPriorFallbackApplied = false
  window : AllRefused gaps.window (p.atRead gaps)

variable {gaps : Gaps N} {progressTime : Option Timestamp} {a : PriorApplication N}
  {candidate : InitialStatePrior D N.Covariance}

theorem TopicApplication.undisturbed (h : TopicApplication gaps p a candidate)
    (hUndisturbed : Undisturbed gaps p) : a.applied = candidate := by
  have hApplied := h.applied
  rw [hUndisturbed.fallback, hUndisturbed.window.unchanged, h.held] at hApplied
  exact hApplied

theorem attempt_asValidated (hUndisturbed : Undisturbed gaps p)
    (h : (p.attempt gaps progressTime).2 = some a) : AsValidated p.config.initialPrior a := by
  intro hReason
  obtain ⟨candidate, hTopic⟩ := attempt_topic h hReason
  rw [hTopic.undisturbed hUndisturbed]
  exact ⟨hTopic.applicable, hTopic.read⟩

theorem TopicApplication.disturbed (h : TopicApplication gaps p a candidate)
    (hSound : p.mailbox.Sound) (hDisturbed : ¬Undisturbed gaps p) : a.applied ≠ candidate := by
  have hRead : (p.atRead gaps).mailbox.Sound := sound_submitAll hSound _
  have hApplied := h.applied
  cases hFallback : p.initialPriorFallbackApplied with
  | true =>
    rw [hFallback, if_pos rfl] at hApplied
    intro hSame
    apply fallbackPrior_source (N := N) p.config.initialPrior a.applicationTime
    rw [← hApplied, hSame]
    exact (hRead candidate h.held).1
  | false =>
    have hAccepted : ¬AllRefused gaps.window (p.atRead gaps) := by
      intro hWindow
      exact hDisturbed ⟨hFallback, hWindow⟩
    obtain ⟨newer, hNewer, hLater, -⟩ := newerThan_of_accepted hRead h.held hAccepted
    rw [hFallback, Option.mem_def.mp hNewer] at hApplied
    intro hSame
    rw [← hSame, hApplied] at hLater
    exact lt_irrefl _ hLater

theorem attempt_asValidated_iff (hSound : p.mailbox.Sound)
    (h : (p.attempt gaps progressTime).2 = some a) (hReason : a.reason = "TOPIC_PRIOR_ACCEPTED") :
    AsValidated p.config.initialPrior a ↔ Undisturbed gaps p := by
  constructor
  · intro hValidated
    obtain ⟨candidate, hTopic⟩ := attempt_topic h hReason
    have hCandidate := (hValidated hReason).2
    rw [hTopic.read] at hCandidate
    by_contra hDisturbed
    exact hTopic.disturbed hSound hDisturbed (Option.some.inj hCandidate).symm
  · intro hUndisturbed
    exact attempt_asValidated hUndisturbed h

end FastLioPipeline

end UavNavigation.FastLio
