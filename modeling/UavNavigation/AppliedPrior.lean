import UavNavigation.PriorInterleaving

/-!
# The prior that is applied

Along every run of calls and submissions the mailbox holds what was accepted last.
A call that accepts a topic prior applies the prior it validated exactly when its
attempt was not disturbed.
-/

namespace UavNavigation.FastLio

set_option autoImplicit false

variable {D : Type} [FloatOps D] {N : Numerics D}

namespace FastLioPipeline
variable {p q : FastLioPipeline N}

section Calls
variable {complete : Attempt N} {a : PriorApplication N}

theorem undisturbed_view {gaps : Gaps N} (h : q.priorView = p.priorView)
    (hUndisturbed : Undisturbed gaps p) : Undisturbed gaps q := by
  refine ⟨(fallback_eq h).trans hUndisturbed.fallback, ?_⟩
  intro prior hPrior
  obtain ⟨status, hRefused⟩ := hUndisturbed.window prior hPrior
  have hRead : (q.atRead gaps).priorView = (p.atRead gaps).priorView := priorView_submitAll h _
  exact ⟨status, (priorView_submit hRead prior).2.trans hRefused⟩

theorem priorView_addInitializationSample (sample : ImuSample D) (p : FastLioPipeline N) :
    (p.addInitializationSample sample).1.priorView = p.priorView := by
  obtain ⟨_, _, _, -, h⟩ := addInitializationSample_spec sample p
  rw [h]
  rfl

theorem priorView_addInitializationSamples (samples : List (ImuSample D))
    (p : FastLioPipeline N) : (p.addInitializationSamples samples).1.priorView = p.priorView := by
  obtain ⟨_, _, _, -, h⟩ := addInitializationSamples_spec samples p
  rw [h]
  rfl

/-- The attempt that a call makes starts with the view the call found. -/
def Attempted (complete : Attempt N) (p : FastLioPipeline N) (a : PriorApplication N) : Prop :=
  ∃ m progressTime, m.priorView = p.priorView ∧ (complete progressTime m).2 = some a

variable {group : MeasurementGroup D}

theorem Attempted.view (h : Attempted complete q a) (hView : q.priorView = p.priorView) :
    Attempted complete p a := by
  obtain ⟨m, progressTime, hSame, hDone⟩ := h
  exact ⟨m, progressTime, hSame.trans hView, hDone⟩

theorem collectImuBy_attempted {sample : ImuSample D}
    (h : (collectImuBy complete sample p).2 = some a) : Attempted complete p a := by
  obtain ⟨lifecycle, hCollecting⟩ := collecting_lifecycle "FIRST_IMU_SAMPLE_ACCEPTED" p
  unfold collectImuBy at h
  rw [hCollecting] at h
  dsimp only at h
  have hAdded : _ = p.priorView :=
    priorView_addInitializationSample sample { p with lifecycle := lifecycle }
  split at h
  · split at h
    · cases h
    · rename_i hSample
      rw [hSample] at hAdded
      exact ⟨_, _, hAdded, h⟩
  · cases h

theorem pushImuBy_attempted {sample : ImuSample D}
    (h : (pushImuBy complete sample p).2 = some a) : Attempted complete p a := by
  unfold pushImuBy at h
  split at h
  · cases h
  · exact (collectImuBy_attempted h).view rfl

theorem priorView_retainGroup (group : MeasurementGroup D) (p : FastLioPipeline N) :
    (p.retainGroup group).priorView = p.priorView := by
  obtain ⟨_, h⟩ := retainGroup_spec group p
  rw [h]
  rfl

theorem initializeFromGroupBy_attempted {ingested : Bool}
    (h : (initializeFromGroupBy complete group ingested p).2 = some a) :
    Attempted complete p a := by
  obtain ⟨lifecycle, hCollecting⟩ := collecting_lifecycle "SYNCHRONIZED_MEASUREMENT_RECEIVED" p
  unfold initializeFromGroupBy at h
  rw [hCollecting] at h
  dsimp only at h
  have hAdded : _ = p.priorView := priorView_addInitializationSamples
    (if ingested then [] else group.imuSamples) { p with lifecycle := lifecycle }
  split at h
  · split at h
    · cases h
    rename_i hSamples
    rw [hSamples] at hAdded
    split at h <;> exact ⟨_, _, hAdded, h⟩
  split at h <;> cases h

theorem processInternalBy_attempted {ingested : Bool}
    (h : (processInternalBy complete group ingested p).2 = some a) : Attempted complete p a := by
  unfold processInternalBy prepareGroupBy at h
  dsimp only at h
  split at h
  · cases h
  apply Attempted.view _ (priorView_retainGroup group p)
  split at h <;> exact initializeFromGroupBy_attempted h

theorem processNextBy_attempted (h : (processNextBy complete p).2 = some a) :
    Attempted complete p a := by
  unfold processNextBy at h
  dsimp only at h
  split at h
  · cases h
  split at h
  · exact (processInternalBy_attempted h).view rfl
  · cases h

theorem stepBy_attempted {call : ResettableCall N} (h : (stepBy complete p call).2 = some a) :
    Attempted complete p a := by
  match call with
  | .call (.pushImu sample) => exact pushImuBy_attempted h
  | .call .processNext => exact processNextBy_attempted h
  | .call (.process group) => exact (processInternalBy_attempted h).view rfl
  | .call (.pushLidar now scan) => cases h
  | .call (.submitInitialStatePrior prior) => cases h
  | .call (.setInitialStatePriorGeometry baseToImu) => cases h
  | .call (.superviseLidarTimeout now) => cases h
  | .reset => cases h

end Calls

/-! ## The mailbox along a run -/

theorem mailbox_awaitPrior (candidate : Option (InitialStatePrior D N.Covariance))
    (applicationTime : Timestamp) (p : FastLioPipeline N) :
    (p.awaitPrior candidate applicationTime).1.mailbox = p.mailbox := by
  obtain ⟨diagnostics, fallback, h⟩ := awaitPrior_spec candidate applicationTime p
  rw [h]

theorem sound_resolveInterleaved (hSound : p.mailbox.Sound)
    (submissions : List (InitialStatePrior D N.Covariance)) (applicationTime : Timestamp) :
    (p.resolveInterleaved submissions applicationTime).1.mailbox.Sound := by
  have hSubmitted : ((p.setInitialPrior { p.initialPrior with
      waitingForSensorTime := false }).submitAll submissions).mailbox.Sound := by
    apply sound_submitAll
    exact hSound
  fun_cases resolveInterleaved
  case case3 =>
    rw [mailbox_awaitPrior]
    exact hSubmitted
  case case5 =>
    rw [mailbox_awaitPrior]
    exact hSubmitted
  case case6 =>
    rw [mailbox_awaitPrior]
    intro candidate hCandidate
    cases hCandidate
  all_goals exact hSubmitted

theorem sound_obtainInterleaved (hSound : p.mailbox.Sound) (gaps : Gaps N)
    (progressTime : Option Timestamp) :
    (p.obtainInterleaved gaps progressTime).1.mailbox.Sound := by
  have hBegun : (p.beginInitialization progressTime).mailbox.Sound := hSound
  unfold obtainInterleaved
  split
  · exact sound_submitAll hSound gaps.early
  dsimp only
  split
  · have hResolved := sound_resolveInterleaved hBegun gaps.afterFirstRead
      ((p.beginInitialization progressTime).applicationTime progressTime)
    unfold obtainInFlightInterleaved
    split
    · rename_i h
      rw [h] at hResolved
      exact hResolved
    rename_i h
    rw [h] at hResolved
    have hMask := sound_submitAll hResolved gaps.beforeMask
    dsimp only
    split
    · exact hMask
    split <;> exact hMask
  split
  · exact hBegun
  · apply sound_submitAll
    exact hBegun

theorem mailbox_applyInitialStatePrior (result : N.InitializationResult)
    (prior : InitialStatePrior D N.Covariance) (p : FastLioPipeline N) :
    (p.applyInitialStatePrior result prior).mailbox = p.mailbox := by
  fun_cases applyInitialStatePrior <;> rfl

theorem sound_attempt (hSound : p.mailbox.Sound) (gaps : Gaps N)
    (progressTime : Option Timestamp) : (p.attempt gaps progressTime).1.mailbox.Sound := by
  have hObtained := sound_obtainInterleaved hSound gaps progressTime
  unfold attempt
  split
  · exact hSound
  split
  · rename_i h
    rw [h] at hObtained
    exact hObtained
  rename_i m result h
  rw [h] at hObtained
  have hResolved := sound_resolveInterleaved (sound_submitAll hObtained gaps.beforeRead)
    gaps.afterRead (m.applicationTime progressTime)
  dsimp only
  split
  · rename_i h
    rw [h] at hResolved
    exact hResolved
  · rename_i h
    rw [h] at hResolved
    rw [mailbox_applyInitialStatePrior]
    exact sound_submitAll (sound_submitAll hResolved _) _

theorem mailbox_kept (h : q.kept = p.kept) : q.mailbox = p.mailbox := congrArg Prod.snd h

section Sound
variable {complete : Attempt N}
  (hComplete : ∀ progressTime {m : FastLioPipeline N}, m.mailbox.Sound →
    (complete progressTime m).1.mailbox.Sound)
include hComplete

variable (hSound : p.mailbox.Sound) (group : MeasurementGroup D) (ingested : Bool)
include hSound

theorem sound_collectImuBy (sample : ImuSample D) :
    (collectImuBy complete sample p).1.1.mailbox.Sound := by
  obtain ⟨lifecycle, hCollecting⟩ := collecting_lifecycle "FIRST_IMU_SAMPLE_ACCEPTED" p
  unfold collectImuBy
  rw [hCollecting]
  dsimp only
  have hAdded : _ = p.mailbox := mailbox_eq
    (priorView_addInitializationSample sample { p with lifecycle := lifecycle })
  split
  · split
    · rename_i h
      rw [h] at hAdded
      exact hAdded ▸ hSound
    · rename_i h
      rw [h] at hAdded
      exact hComplete _ (hAdded ▸ hSound)
  · exact hSound

theorem sound_initializeFromGroupBy :
    (initializeFromGroupBy complete group ingested p).1.1.mailbox.Sound := by
  obtain ⟨lifecycle, hCollecting⟩ := collecting_lifecycle "SYNCHRONIZED_MEASUREMENT_RECEIVED" p
  unfold initializeFromGroupBy
  rw [hCollecting]
  dsimp only
  have hAdded : _ = p.mailbox := mailbox_eq (priorView_addInitializationSamples
    (if ingested then [] else group.imuSamples) { p with lifecycle := lifecycle })
  split
  · split
    · rename_i h
      rw [h] at hAdded
      exact hAdded ▸ hSound
    · rename_i h
      rw [h] at hAdded
      split <;> exact hComplete _ (hAdded ▸ hSound)
  split <;> exact hSound

theorem sound_processInternalBy
    : (processInternalBy complete group ingested p).1.1.mailbox.Sound := by
  have hRetained : (p.retainGroup group).mailbox.Sound := by
    rw [mailbox_eq (priorView_retainGroup group p)]
    exact hSound
  have hInitialized := sound_initializeFromGroupBy hComplete hRetained group ingested
  have hPrepared : (prepareGroupBy complete group ingested p).1.1.mailbox.Sound := by
    fun_cases prepareGroupBy
    · exact hSound
    · rename_i h
      rw [h] at hInitialized
      exact hInitialized
    · rename_i h
      rw [h] at hInitialized
      rw [mailbox_kept (kept_enterEpoch _ _)]
      exact hInitialized
  unfold processInternalBy
  dsimp only
  split
  · rename_i h
    rw [h] at hPrepared
    exact hPrepared
  · rename_i m start h
    rw [h] at hPrepared
    unfold finalizeResult setInitialPrior
    rw [mailbox_kept (kept_processPredicted _ _ _ _)]
    exact hPrepared

end Sound

theorem sound_processNextBy (gaps : Gaps N) (hSound : p.mailbox.Sound) :
    (processNextBy (attempt gaps) p).1.1.mailbox.Sound := by
  have hAttempt := fun progressTime {m : FastLioPipeline N} (h : m.mailbox.Sound) =>
    sound_attempt h gaps progressTime
  unfold processNextBy
  dsimp only
  split
  · exact hSound
  rcases (p.setReason "").feed.synchronizeNext with ⟨feed, _ | group | d | status⟩
  · exact hSound
  · apply sound_processInternalBy hAttempt
    exact hSound
  · dsimp only [takeSynchronized]
    unfold recoverFromDiscontinuity finalizeResult setInitialPrior
    split
    · rw [mailbox_kept (kept_rebaseAfterDiscontinuity _ _)]
      exact hSound
    · exact hSound
  · exact hSound

theorem sound_interleavedStep (hSound : p.mailbox.Sound) (op : InterleavedCall N) :
    (p.interleavedStep op).1.mailbox.Sound := by
  have hAttempt := fun progressTime {m : FastLioPipeline N} (h : m.mailbox.Sound) =>
    sound_attempt h op.gaps progressTime
  unfold interleavedStep
  match op.call with
  | .call (.pushImu sample) =>
    unfold stepBy pushImuBy
    dsimp only
    split
    · exact hSound
    · apply sound_collectImuBy hAttempt
      exact hSound
  | .call .processNext => exact sound_processNextBy op.gaps hSound
  | .call (.process group) =>
    apply sound_processInternalBy hAttempt
    exact hSound
  | .call (.pushLidar now scan) =>
    show (p.pushLidar now scan).1.mailbox.Sound
    unfold pushLidar
    split <;> exact hSound
  | .call (.submitInitialStatePrior prior) => exact sound_submitAll hSound [prior]
  | .call (.setInitialStatePriorGeometry baseToImu) =>
    show (p.setInitialStatePriorGeometry baseToImu).1.mailbox.Sound
    fun_cases setInitialStatePriorGeometry <;> exact hSound
  | .call (.superviseLidarTimeout now) =>
    show (p.superviseLidarTimeout now).mailbox.Sound
    unfold superviseLidarTimeout
    split <;> exact hSound
  | .reset =>
    intro candidate hCandidate
    cases hCandidate

theorem sound_run (config : EstimatorConfig N) (calls : List (InterleavedCall N)) :
    (Runs.run interleavedStep (create config) calls).mailbox.Sound := by
  have hStep : ∀ (p : FastLioPipeline N) (op : InterleavedCall N), p.mailbox.Sound →
      (p.interleavedStep op).1.mailbox.Sound := fun p op hSound => sound_interleavedStep hSound op
  have hCreated : (create config).mailbox.Sound := by
    intro candidate hCandidate
    cases hCandidate
  exact Runs.run_invariant (P := fun p : FastLioPipeline N => p.mailbox.Sound) hStep hCreated calls

theorem undisturbed_view_iff {gaps : Gaps N} (h : q.priorView = p.priorView) :
    Undisturbed gaps q ↔ Undisturbed gaps p :=
  ⟨undisturbed_view h.symm, undisturbed_view h⟩

/-- Along every run, a call that accepts a topic prior applies it as it was validated exactly
when its attempt was not disturbed. -/
theorem topic_prior_applied_as_validated_iff (config : EstimatorConfig N)
    (calls : List (InterleavedCall N)) :
    ∀ e ∈ Runs.events interleavedStep (create config) calls, ∀ a ∈ e.result.2,
      a.reason = "TOPIC_PRIOR_ACCEPTED" →
      (AsValidated e.before.config.initialPrior a ↔ Undisturbed e.op.gaps e.before) := by
  intro e he a ha hReason
  obtain ⟨before, op, after, -, rfl⟩ := Runs.exists_split_of_mem_events he
  have hAttempted : Attempted (attempt op.gaps) _ a := stepBy_attempted (Option.mem_def.mp ha)
  obtain ⟨m, progressTime, hView, hDone⟩ := hAttempted
  have hSound : m.mailbox.Sound := by
    rw [mailbox_eq hView]
    exact sound_run config before
  have hAttempt := attempt_asValidated_iff hSound hDone hReason
  rw [config_eq hView, undisturbed_view_iff hView] at hAttempt
  exact hAttempt

end FastLioPipeline

/-! ## Two disturbed attempts and an undisturbed one -/

/-- Numerics that know whether the sensor has a lever arm: with one a velocity prior needs the
angular velocity. -/
def mounted : Numerics (ExactReal ℚ) :=
  { scripted [] [] with
    RigidTransform := Bool
    identityGeometry := false
    geometryFault := fun _ => none
    applyPrior := fun leverArm prior _ _ =>
      if prior.mask.velocity ∧ (prior.linearVelocityBaseMS = none ∨
          prior.angularVelocityBaseRadS = none ∧ leverArm) then
        .error ⟨.invalidArgument, "velocity prior requires linear and angular base velocity"⟩
      else .ok () }

/-- A prior is taken from the topic, without a wait, and else from the configuration. -/
def topicPolicy : InitialStatePriorPolicy (ExactReal ℚ) Unit where
  source := .topic
  topicWaitTimeoutNs := 0
  groundFallback := .fixed
  fixedPrior := {
    source := .fixed
    mask := ⟨true, true, .yawOnly⟩
    linearVelocityBaseMS := some Vec3.zero }

theorem topicPolicy_valid : topicPolicy.fault (fun _ => true) = none := by decide +kernel

def topicConfig : EstimatorConfig mounted :=
  let config := scriptedConfig [] [] 1 Nat.one_pos
  { measurementBuffer := config.measurementBuffer
    initialization := config.initialization
    initialPrior := topicPolicy
    localMap := config.localMap
    lifecycle := config.lifecycle
    minimumPointCount := config.minimumPointCount
    tracking := config.tracking
    priorValid := topicPolicy_valid
    pointsPositive := config.pointsPositive
    inflationFinite := config.inflationFinite
    inflationLower := config.inflationLower
    inflationUpper := config.inflationUpper
    gapsOrdered := config.gapsOrdered }

def topicPrior (time : Timestamp) : InitialStatePrior (ExactReal ℚ) Unit where
  sampleTime := time
  source := .topic
  mask := ⟨true, true, .yawOnly⟩
  linearVelocityBaseMS := some Vec3.zero
  angularVelocityBaseRadS := some Vec3.zero

namespace FastLioPipeline

/-- A newer prior arrives between the verdict and the read of the prior to apply. -/
def replacedPrior : List (InterleavedCall mounted) :=
  [{ call := .call (.submitInitialStatePrior (topicPrior (.rosTime 5))) },
    { call := .call (.pushImu (sampleAt (.rosTime 10)))
      gaps := { beforeReread := [topicPrior (.rosTime 50)] } }]

/-- The fallback fails on the lever arm, and is applied although a candidate was accepted. -/
def stickyFallback : List (InterleavedCall mounted) :=
  [{ call := .call (.setInitialStatePriorGeometry true) },
    { call := .call (.pushImu (sampleAt (.rosTime 10))) },
    { call := .call (.setInitialStatePriorGeometry false) },
    { call := .call (.submitInitialStatePrior (topicPrior (.rosTime 15))) },
    { call := .call (.pushImu (sampleAt (.rosTime 20))) }]

/-- The reason, the time of application, and the sample times of the candidate and of the prior
of the last call of a run. -/
def lastApplication (calls : List (InterleavedCall mounted)) :
    Option (String × Timestamp × Option Timestamp × Timestamp) :=
  ((Runs.events interleavedStep (create topicConfig) calls).getLast?.bind fun e => e.result.2).map
    fun a => (a.reason, a.applicationTime, a.candidate.map fun c => c.sampleTime,
      a.applied.sampleTime)

theorem exists_lastApplication {calls : List (InterleavedCall mounted)} {reason : String}
    {applicationTime applied : Timestamp} {candidate : Option Timestamp}
    (h : lastApplication calls = some (reason, applicationTime, candidate, applied)) :
    ∃ e ∈ Runs.events interleavedStep (create topicConfig) calls, ∃ a ∈ e.result.2,
      a.reason = reason ∧ a.applicationTime = applicationTime ∧
        a.candidate.map (fun c => c.sampleTime) = candidate ∧ a.applied.sampleTime = applied := by
  unfold lastApplication at h
  rw [Option.map_eq_some_iff] at h
  obtain ⟨a, hLast, hFields⟩ := h
  rw [Option.bind_eq_some_iff] at hLast
  obtain ⟨e, he, ha⟩ := hLast
  cases hFields
  exact ⟨e, List.mem_of_mem_getLast? he, a, ha, rfl, rfl, rfl, rfl⟩

theorem lastApplication_replaced : lastApplication replacedPrior =
    some ("TOPIC_PRIOR_ACCEPTED", .rosTime 10, some (.rosTime 5), .rosTime 50) := by
  decide +kernel

theorem lastApplication_sticky : lastApplication stickyFallback =
    some ("TOPIC_PRIOR_ACCEPTED", .rosTime 20, some (.rosTime 15), .rosTime 20) := by
  decide +kernel

/-- A prior from the future is applied, and a fallback is applied in place of the candidate. -/
theorem topic_prior_not_applied_as_validated :
    (∃ e ∈ Runs.events interleavedStep (create topicConfig) replacedPrior, ∃ a ∈ e.result.2,
        a.reason = "TOPIC_PRIOR_ACCEPTED" ∧
          a.applicationTime.nanoseconds < a.applied.sampleTime.nanoseconds) ∧
      ∃ e ∈ Runs.events interleavedStep (create topicConfig) stickyFallback, ∃ a ∈ e.result.2,
        a.reason = "TOPIC_PRIOR_ACCEPTED" ∧ a.candidate ≠ some a.applied := by
  constructor
  · obtain ⟨e, he, a, ha, hReason, hTime, -, hApplied⟩ :=
      exists_lastApplication lastApplication_replaced
    refine ⟨e, he, a, ha, hReason, ?_⟩
    rw [hTime, hApplied]
    decide
  · obtain ⟨e, he, a, ha, hReason, -, hCandidate, hApplied⟩ :=
      exists_lastApplication lastApplication_sticky
    refine ⟨e, he, a, ha, hReason, ?_⟩
    intro hSame
    rw [hSame, Option.map_some, hApplied] at hCandidate
    exact absurd hCandidate (by decide)

/-- Nothing arrives between the verdict and the read. -/
def keptPrior : List (InterleavedCall mounted) :=
  [{ call := .call (.submitInitialStatePrior (topicPrior (.rosTime 5))) },
    { call := .call (.pushImu (sampleAt (.rosTime 10))) }]

theorem lastApplication_kept : lastApplication keptPrior =
    some ("TOPIC_PRIOR_ACCEPTED", .rosTime 10, some (.rosTime 5), .rosTime 5) := by
  decide +kernel

theorem kept_undisturbed : ∀ e ∈ Runs.events interleavedStep (create topicConfig) keptPrior,
    Undisturbed e.op.gaps e.before := by
  intro e he
  simp only [keptPrior, Runs.events_cons, Runs.events_nil, List.mem_cons, List.not_mem_nil,
    or_false] at he
  rcases he with rfl | rfl
  · exact ⟨rfl, fun prior hPrior => nomatch hPrior⟩
  · exact ⟨by decide +kernel, fun prior hPrior => nomatch hPrior⟩

/-- The law finds the attempt of the first run disturbed, and the prior of the other one applied
as it was validated. -/
theorem topic_prior_kept_and_replaced :
    (∃ e ∈ Runs.events interleavedStep (create topicConfig) keptPrior, ∃ a ∈ e.result.2,
      a.reason = "TOPIC_PRIOR_ACCEPTED" ∧ a.candidate = some a.applied ∧
        a.applied.sampleTime = .rosTime 5) ∧
    ∃ e ∈ Runs.events interleavedStep (create topicConfig) replacedPrior, ∃ a ∈ e.result.2,
      a.reason = "TOPIC_PRIOR_ACCEPTED" ∧ ¬Undisturbed e.op.gaps e.before := by
  constructor
  · obtain ⟨e, he, a, ha, hReason, -, -, hApplied⟩ := exists_lastApplication lastApplication_kept
    have hValidated :=
      (topic_prior_applied_as_validated_iff topicConfig keptPrior e he a ha hReason).mpr
        (kept_undisturbed e he)
    exact ⟨e, he, a, ha, hReason, (hValidated hReason).2, hApplied⟩
  · obtain ⟨e, he, a, ha, hReason, hTime, -, hApplied⟩ :=
      exists_lastApplication lastApplication_replaced
    refine ⟨e, he, a, ha, hReason, ?_⟩
    intro hUndisturbed
    have hValidated :=
      (topic_prior_applied_as_validated_iff topicConfig replacedPrior e he a ha hReason).mpr
        hUndisturbed
    have hNotLater := (hValidated hReason).1.notLater
    rw [hTime, hApplied] at hNotLater
    exact absurd hNotLater (by decide)

end FastLioPipeline

end UavNavigation.FastLio
