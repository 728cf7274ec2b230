import UavNavigation.PriorAttempts

/-!
# The deadline of the wait for a prior

A wait for a topic prior is to end at its deadline. On the ground it does: the
initialization result keeps the start of the wait. In flight an attempt without a
prior leaves no result, and the next one starts the wait again, so the deadline is
only met where no wait is started again or none is allowed.
-/

namespace UavNavigation.FastLio

set_option autoImplicit false

open SensorFeed List

variable {D : Type} [FloatOps D] {N : Numerics D}

/-- A timeout is answered with a rejection, not with the fallback. -/
def InitialStatePriorPolicy.RejectsTimeout {C : Type} (policy : InitialStatePriorPolicy D C) : Prop :=
  policy.context = .inFlightReinitialization ∨ policy.groundFallback = .reject

instance instDecidableRejectsTimeout {C : Type} (policy : InitialStatePriorPolicy D C) :
    Decidable policy.RejectsTimeout :=
  inferInstanceAs (Decidable (_ ∨ _))

namespace PriorAttempt

/-- The attempt looks for a prior at `t` and finds no admissible candidate. -/
def FindsNone (a : PriorAttempt N) (t : Timestamp) : Prop :=
  a.Looks ∧ a.progressTime = some t ∧ ∀ candidate ∈ a.pipeline.mailbox.candidate,
    FastLioPipeline.judgeCandidate a.pipeline.config.initialPrior.maximumTopicPriorAgeNs candidate t ≠ .accepted

abbrev policy (a : PriorAttempt N) : InitialStatePriorPolicy D N.Covariance :=
  a.pipeline.config.initialPrior

structure TimesOut (a : PriorAttempt N) : Prop where
  counted : a.done.initialPrior.waitTimeoutCount = a.pipeline.initialPrior.waitTimeoutCount + 1
  rejected : a.policy.RejectsTimeout → a.done.initialPrior.status = .rejected ∧
    a.done.initialPrior.reason = "TOPIC_PRIOR_TIMEOUT_REJECTED"
  fallback : ¬a.policy.RejectsTimeout → a.done.initialPriorFallbackApplied = true ∧
    a.done.initialPrior.status ≠ .waiting

end PriorAttempt

namespace FastLioPipeline
variable {p q : FastLioPipeline N} {a : PriorAttempt N} {t : Timestamp}

/-! ## A timeout -/

/-- The state after a timeout, and whether a fallback prior is applied. -/
def timedOut (p : FastLioPipeline N) : FastLioPipeline N × Bool :=
  let policy := p.config.initialPrior
  let counted := { p.initialPrior with
    waitingForSensorTime := false
    waitTimeoutCount := p.initialPrior.waitTimeoutCount + 1 }
  if policy.RejectsTimeout then
    (p.setInitialPrior
      { counted with status := .rejected, reason := "TOPIC_PRIOR_TIMEOUT_REJECTED" }, false)
  else
    ({ p with initialPriorFallbackApplied := true }.setInitialPrior { counted with
      status := .fallbackApplied
      reason :=
        if policy.groundFallback = InitialPriorFallback.fixed then "TOPIC_PRIOR_TIMEOUT_FIXED_FALLBACK"
        else "TOPIC_PRIOR_TIMEOUT_ZERO_FALLBACK" }, true)

theorem resolve_timedOut (hTopic : p.config.initialPrior.source = .topic)
    (hNone : p.mailbox.candidate = none) {elapsedNs : Int}
    (hElapsed : checkedDifference t (p.priorWaitStartTime.getD t) = .ok elapsedNs)
    (hLate : p.config.initialPrior.topicWaitTimeoutNs ≤ elapsedNs)
    (hDomain : (p.priorWaitStartTime.getD t).clockDomain = t.clockDomain) :
    p.resolveInitialStatePrior t = p.timedOut := by
  unfold resolveInitialStatePrior awaitPrior timedOut
  dsimp only [setInitialPrior]
  rw [hTopic]
  rw [hNone]
  dsimp only
  have hSame : (p.priorWaitStartTime.getD t).sameClockDomain t = true :=
    Timestamp.sameClockDomain_iff.mpr hDomain
  rw [hSame, if_neg (by simp), hElapsed]
  dsimp only
  rw [if_neg (not_lt.mpr hLate)]
  split
  · rename_i hAny
    cases hAny
  split
  · rename_i hRejects
    exact (if_pos hRejects).symm
  · rename_i hFalls
    exact (if_neg hFalls).symm

theorem applyInitialStatePrior_keeps (result : N.InitializationResult)
    (prior : InitialStatePrior D N.Covariance) (p : FastLioPipeline N) :
    let q := p.applyInitialStatePrior result prior
    q.initialPrior.waitTimeoutCount = p.initialPrior.waitTimeoutCount ∧
      q.initialPriorFallbackApplied = p.initialPriorFallbackApplied ∧
        (q.initialPrior.status = p.initialPrior.status ∨ q.initialPrior.status = .rejected) := by
  fun_cases applyInitialStatePrior
  case case2 => exact ⟨rfl, rfl, .inl rfl⟩
  case case4 => exact ⟨rfl, rfl, .inl rfl⟩
  all_goals exact ⟨rfl, rfl, .inr rfl⟩

/-- When the wait of an attempt at `t` began. -/
def waitBegan (a : PriorAttempt N) (t : Timestamp) : Timestamp :=
  if a.pipeline.imuInitializationResult.isSome then a.pipeline.priorWaitStartTime.getD t else t

theorem timedOut_rejects (h : p.config.initialPrior.RejectsTimeout) : p.timedOut.2 = false ∧
      p.timedOut.1.initialPrior.waitTimeoutCount = p.initialPrior.waitTimeoutCount + 1 ∧
        p.timedOut.1.initialPrior.status = .rejected ∧
          p.timedOut.1.initialPrior.reason = "TOPIC_PRIOR_TIMEOUT_REJECTED" := by
  unfold timedOut
  rw [if_pos h]
  exact ⟨rfl, rfl, rfl, rfl⟩

theorem timedOut_falls (h : ¬p.config.initialPrior.RejectsTimeout) : p.timedOut.2 = true ∧
      p.timedOut.1.initialPrior.waitTimeoutCount = p.initialPrior.waitTimeoutCount + 1 ∧
        p.timedOut.1.initialPriorFallbackApplied = true ∧
          p.timedOut.1.initialPrior.status = .fallbackApplied := by
  unfold timedOut
  rw [if_neg h]
  exact ⟨rfl, rfl, rfl, rfl⟩

theorem timesOut_of_finished (hProceeds : a.Proceeds) {x : FastLioPipeline N}
    {result : N.InitializationResult}
    (hObtained : a.pipeline.obtainInitialization a.progressTime = (x, some result))
    (hConfig : x.config = a.pipeline.config) (hPrior : x.initialPrior = a.pipeline.initialPrior)
    (hResolved : x.resolveInitialStatePrior (x.applicationTime a.progressTime) = x.timedOut) :
    a.TimesOut := by
  have hDone := done_proceeds hProceeds
  rw [hObtained] at hDone
  dsimp only [finishInitialization] at hDone
  rw [hResolved] at hDone
  rcases hOut : x.timedOut with ⟨y, _ | _⟩ <;> rw [hOut] at hDone <;> dsimp only at hDone
  · have hRejects : a.policy.RejectsTimeout := by
      by_contra hNot
      have hTrue := (timedOut_falls (p := x) (hConfig ▸ hNot)).1
      rw [hOut] at hTrue
      cases hTrue
    obtain ⟨-, hCount, hStatus, hReason⟩ := timedOut_rejects (p := x) (hConfig ▸ hRejects)
    rw [hOut] at hCount hStatus hReason
    rw [← hDone] at hCount hStatus hReason
    refine ⟨?_, fun _ => ⟨hStatus, hReason⟩, absurd hRejects⟩
    rw [hCount, hPrior]
  · have hFalls : ¬a.policy.RejectsTimeout := by
      intro hRejects
      have hFalse := (timedOut_rejects (p := x) (hConfig ▸ hRejects)).1
      rw [hOut] at hFalse
      cases hFalse
    obtain ⟨-, hCount, hApplied, hStatus⟩ := timedOut_falls (p := x) (hConfig ▸ hFalls)
    rw [hOut] at hCount hApplied hStatus
    obtain ⟨hCountKept, hAppliedKept, hStatusKept⟩ := applyInitialStatePrior_keeps result
      (y.selectPrior y.mailbox.candidate (x.applicationTime a.progressTime)) y
    rw [← hDone] at hCountKept hAppliedKept hStatusKept
    refine ⟨?_, fun h => absurd h hFalls, fun _ => ⟨hAppliedKept.trans hApplied, ?_⟩⟩
    · rw [hCountKept, hCount, hPrior]
    · rcases hStatusKept with h | h <;> rw [h]
      · rw [hStatus]
        simp
      · simp

theorem timesOut_of_inFlight (hProceeds : a.Proceeds) {x : FastLioPipeline N}
    (hContext : a.policy.context = .inFlightReinitialization)
    (hObtained : a.pipeline.obtainInitialization a.progressTime = (x.timedOut.1, none))
    (hConfig : x.config = a.pipeline.config) (hPrior : x.initialPrior = a.pipeline.initialPrior) :
    a.TimesOut := by
  have hDone := done_proceeds hProceeds
  rw [hObtained] at hDone
  have hRejects : a.policy.RejectsTimeout := .inl hContext
  obtain ⟨-, hCount, hStatus, hReason⟩ := timedOut_rejects (p := x) (hConfig ▸ hRejects)
  rw [← show a.done = x.timedOut.1 from hDone] at hCount hStatus hReason
  refine ⟨?_, fun _ => ⟨hStatus, hReason⟩, absurd hRejects⟩
  rw [hCount, hPrior]

theorem looks_timesOut (hTopic : a.policy.source = .topic) (hLooks : a.Looks)
    (ht : a.progressTime = some t) (hNone : a.pipeline.mailbox.candidate = none) {elapsedNs : Int}
    (hElapsed : checkedDifference t (waitBegan a t) = .ok elapsedNs)
    (hLate : a.policy.topicWaitTimeoutNs ≤ elapsedNs)
    (hDomain : (waitBegan a t).clockDomain = t.clockDomain) : a.TimesOut := by
  -- the wait of the pipeline the prior is resolved in
  have hTimesOut (x : FastLioPipeline N) (hConfig : x.config = a.pipeline.config)
      (hMailbox : x.mailbox = a.pipeline.mailbox)
      (hBegan : x.priorWaitStartTime.getD t = waitBegan a t) :
      x.resolveInitialStatePrior (x.applicationTime a.progressTime) = x.timedOut := by
    rw [← hBegan] at hElapsed hDomain
    have hTime : x.applicationTime a.progressTime = t := by rw [ht]; rfl
    rw [hTime]
    exact resolve_timedOut (hConfig ▸ hTopic) (hMailbox ▸ hNone) hElapsed (hConfig ▸ hLate) hDomain
  unfold waitBegan at hTimesOut
  cases hResult : a.pipeline.imuInitializationResult with
  | some result =>
    have hObtained : a.pipeline.obtainInitialization a.progressTime = (a.pipeline, some result) := by
      unfold obtainInitialization
      rw [hResult]
    apply timesOut_of_finished hLooks.1 hObtained rfl rfl
    apply hTimesOut _ rfl rfl
    rw [hResult]
    rfl
  | none =>
    have hBegan : (a.pipeline.beginInitialization a.progressTime).priorWaitStartTime.getD t =
        if a.pipeline.imuInitializationResult.isSome then a.pipeline.priorWaitStartTime.getD t
        else t := by
      rw [hResult]
      rw [ht]
      rfl
    by_cases hContext : a.policy.context = .inFlightReinitialization
    · have hResolved := hTimesOut (a.pipeline.beginInitialization a.progressTime) rfl rfl hBegan
      have hObtained : a.pipeline.obtainInitialization a.progressTime =
          ((a.pipeline.beginInitialization a.progressTime).timedOut.1, none) := by
        unfold obtainInitialization
        rw [hResult]
        rw [if_pos (show (a.pipeline.beginInitialization a.progressTime).config.initialPrior.context =
          .inFlightReinitialization from hContext)]
        unfold obtainInFlight
        rw [hResolved]
        have hFalse := (timedOut_rejects (p := a.pipeline.beginInitialization a.progressTime)
          (.inl hContext)).1
        rcases hOut : (a.pipeline.beginInitialization a.progressTime).timedOut with ⟨y, found⟩
        rw [hOut] at hFalse
        cases hFalse
        rfl
      exact timesOut_of_inFlight hLooks.1 hContext hObtained rfl rfl
    · rcases hInitialized : N.tryInitialize a.pipeline.initializer.samples with status | result
      · have hReady := hLooks.2
        rw [hResult, hInitialized] at hReady
        rcases hReady with h | h | h
        · cases h
        · exact absurd h hContext
        · cases h
      · have hObtained : a.pipeline.obtainInitialization a.progressTime =
            ({ a.pipeline.beginInitialization a.progressTime with
              imuInitializationResult := some result }, some result) := by
          unfold obtainInitialization
          rw [hResult]
          rw [if_neg (show (a.pipeline.beginInitialization a.progressTime).config.initialPrior.context ≠
              .inFlightReinitialization from hContext),
            show N.tryInitialize (a.pipeline.beginInitialization a.progressTime).initializer.samples =
              .ok result from hInitialized]
        apply timesOut_of_finished hLooks.1 hObtained rfl rfl
        exact hTimesOut _ rfl rfl hBegan

end FastLioPipeline

/-! ## Streams of samples -/

def PipelineCall.imuSamples : PipelineCall N → List (ImuSample D)
  | .pushImu sample => [sample]
  | .process group => group.imuSamples
  | _ => []

def newestNs (n : Int) (call : PipelineCall N) : Int := (call.imuSamples.getLast?.map imuTime).getD n

/-- The samples of a call are valid, of one clock, and end no earlier than those before. -/
structure InStream (domain : ClockDomain) (n : Int) (call : PipelineCall N) : Prop where
  valid : ∀ x ∈ call.imuSamples, x.fault = none ∧ x.time.clockDomain = domain
  grouped : ∀ group, call = .process group → group.imuSamples ≠ []
  rising : n ≤ newestNs n call

/-- A stream of samples: each call brings valid ones of one clock, and the newest time never
falls. -/
def ImuStream (domain : ClockDomain) : Int → List (PipelineCall N) → Prop
  | _, [] => True
  | n, call :: calls => InStream domain n call ∧ ImuStream domain (newestNs n call) calls

structure Timely (domain : ClockDomain) (n : Int) (t : Timestamp) : Prop where
  domain : t.clockDomain = domain
  positive : 0 < t.nanoseconds
  notAfter : t.nanoseconds ≤ n

theorem InStream.timely {domain : ClockDomain} {n : Int} {call : PipelineCall N}
    (hCall : InStream domain n call) {x : ImuSample D}
    (hx : call.imuSamples.getLast? = some x) : Timely domain (newestNs n call) x.time := by
  obtain ⟨hFault, hDomain⟩ := hCall.valid x (mem_of_getLast? hx)
  refine ⟨hDomain, ImuSample.positive hFault, le_of_eq ?_⟩
  unfold newestNs
  rw [hx]
  rfl

theorem Timely.later {domain : ClockDomain} {n m : Int} {t : Timestamp} (h : Timely domain n t)
    (hLe : n ≤ m) : Timely domain m t :=
  ⟨h.domain, h.positive, h.notAfter.trans hLe⟩

namespace FastLioPipeline
variable {p q : FastLioPipeline N} {a b : PriorAttempt N} {domain : ClockDomain} {n : Int}
  {call : PipelineCall N} {calls : List (PipelineCall N)}

/-- What a stream of samples keeps true of a pipeline that has not started the estimator. -/
structure Waiting (domain : ClockDomain) (n : Int) (p : FastLioPipeline N) : Prop where
  sound : Sound p.feed
  owed : RecoveryOwed p
  queued : ∀ x ∈ p.feed.imu, Timely domain n x.time
  idle : p.status.usesEstimatorState = false → p.estimatorInitialized = false
  begun : p.status.usesEstimatorState = false → p.imuInitializationResult.isSome = true →
    ∃ s, p.priorWaitStartTime = some s ∧ Timely domain n s

theorem create_waiting (domain : ClockDomain) (n : Int) (config : EstimatorConfig N) :
    Waiting domain n (create config) where
  sound := create_sound _ _
  owed := (create_healthy config).owed
  queued := by
    intro x hx
    cases hx
  idle := fun _ => rfl
  begun := by
    intro _ hSome
    cases hSome

theorem answered_imu {f g : SensorFeed D} {result : SynchronizationResult D}
    (h : Answered f g result) {x : ImuSample D} (hx : x ∈ g.imu) : x ∈ f.imu := by
  cases h with
  | idle => exact hx
  | waiting => exact hx
  | refused => exact hx
  | gap => exact mem_of_mem_drop hx
  | group => exact mem_of_mem_drop hx

theorem answered_last {f g : SensorFeed D} {group : MeasurementGroup D}
    (h : Answered f g (.group group)) :
    ∃ last ∈ f.imu, group.imuSamples.getLast? = some last := by
  cases h with
  | @group scan rest start bracket stop gap hasStart hasEnd hFront hBracket hStop =>
    refine ⟨f.imu[stop], getElem_mem hStop, ?_⟩
    rw [span_eq_concat hBracket.bracket_le hStop, List.getLast?_concat]

theorem processNext_feed (hOwed : RecoveryOwed p) :
    p.processNext.1.feed = p.feed ∨ p.processNext.1.feed = p.feed.synchronizeNext.1 := by
  unfold processNext
  dsimp only
  split
  · exact .inl rfl
  · right
    exact takeSynchronized_feed (p := { p.setReason "" with feed := p.feed.synchronizeNext.1 })
      hOwed _

theorem step_feed (hSound : Sound p.feed) (hOwed : RecoveryOwed p) (call : PipelineCall N) :
    Sound (p.step call).1.feed ∧ ∀ x ∈ (p.step call).1.feed.imu,
      x ∈ p.feed.imu ∨ call = .pushImu x := by
  have hKept (h : (p.step call).1.feed = p.feed) : Sound (p.step call).1.feed ∧
      ∀ x ∈ (p.step call).1.feed.imu, x ∈ p.feed.imu ∨ call = .pushImu x := by
    rw [h]
    exact ⟨hSound, fun x hx => .inl hx⟩
  cases call with
  | pushImu sample =>
    show Sound (p.pushImu sample).1.feed ∧ ∀ x ∈ (p.pushImu sample).1.feed.imu, _
    rw [(keeps_pushImu (S := True) sample p).feed]
    refine ⟨hSound.pushImu sample, ?_⟩
    intro x hx
    rcases p.feed.buffer.pushImu_cases sample with ⟨status, hRefused⟩ | ⟨-, -, v, -, hStored⟩
    · rw [hRefused] at hx
      exact .inl hx
    · rw [hStored] at hx
      rcases MeasurementBuffer.mem_storeImu.mp hx with rfl | hx
      · exact .inr rfl
      · exact .inl hx
  | pushLidar now scan =>
    show Sound (p.pushLidar now scan).1.feed ∧ ∀ x ∈ (p.pushLidar now scan).1.feed.imu, _
    rw [(keeps_pushLidar (S := True) now scan p).feed]
    refine ⟨hSound.pushLidar scan, ?_⟩
    intro x hx
    rcases p.feed.buffer.pushLidar_cases scan with ⟨status, hRefused⟩ | ⟨-, -, v, w, -, -, hStored⟩
    · rw [hRefused] at hx
      exact .inl hx
    · rw [hStored] at hx
      exact .inl hx
  | submitInitialStatePrior prior =>
    exact hKept (keeps_submitInitialStatePrior (S := True) prior p).feed
  | setInitialStatePriorGeometry baseToImu =>
    exact hKept (keeps_setInitialStatePriorGeometry (S := True) baseToImu p).feed
  | superviseLidarTimeout now =>
    exact hKept (keeps_superviseLidarTimeout (S := True) now p fun _ => trivial).feed
  | process group =>
    exact hKept ((processInternal_processed True group false (p.setReason "")).feed hOwed)
  | processNext =>
    rcases processNext_feed hOwed with hSame | hTaken
    · exact hKept hSame
    · show Sound p.processNext.1.feed ∧ ∀ x ∈ p.processNext.1.feed.imu, _
      rw [hTaken]
      refine ⟨hSound.synchronizeNext, ?_⟩
      intro x hx
      exact .inl (answered_imu (synchronizeNext_answered hSound) hx)

theorem Waiting.attempt (hp : Waiting domain n p) (hTopic : p.config.initialPrior.source = .topic)
    (hCall : InStream domain n call) (h : p.attemptOf call = some a) :
    MadeBy p a ∧ ∃ t, a.progressTime = some t ∧ Timely domain (newestNs n call) t ∧
      (a.pipeline.imuInitializationResult.isSome = true → n ≤ t.nanoseconds) := by
  cases call with
  | pushImu sample =>
    obtain ⟨hMade, hTime⟩ := attemptOf_pushImu h
    have hTimely := hCall.timely (x := sample) rfl
    exact ⟨hMade, sample.time, hTime, hTimely, fun _ => hCall.rising⟩
  | process group =>
    obtain ⟨hMade, hTime⟩ := attemptOf_process h
    obtain ⟨last, hLast⟩ := Option.ne_none_iff_exists'.mp
      (mt List.getLast?_eq_none_iff.mp (hCall.grouped group rfl))
    have hTimely := hCall.timely hLast
    refine ⟨hMade, last.time, hTime last hLast, hTimely, fun _ => ?_⟩
    have hRising := hCall.rising
    unfold newestNs at hRising
    rw [show (PipelineCall.process group : PipelineCall N).imuSamples.getLast? = some last
      from hLast] at hRising
    exact hRising
  | processNext =>
    obtain ⟨hFree, hMade, group, hGroup, hTime⟩ := attemptOf_processNext h
    have hAnswered := synchronizeNext_answered hp.sound
    rw [hGroup] at hAnswered
    obtain ⟨last, hMem, hLast⟩ := answered_last hAnswered
    refine ⟨hMade, last.time, hTime last hLast, hp.queued last hMem, ?_⟩
    intro hSome
    -- a pipeline with a result holds its measurements
    have hResult : p.imuInitializationResult.isSome = true := by
      rw [← show a.pipeline.imuInitializationResult = p.imuInitializationResult from
        congrArg WaitView.result hMade.view]
      exact hSome
    unfold holdsForPrior at hFree
    rw [hResult, hp.idle hMade.unused, hTopic] at hFree
    cases hFree
  | pushLidar => cases h
  | submitInitialStatePrior => cases h
  | setInitialStatePriorGeometry => cases h
  | superviseLidarTimeout => cases h

theorem waitAfter_cases (a : PriorAttempt N) :
    (a.Proceeds ∧ a.pipeline.imuInitializationResult = none ∧ waitAfter a =
      { a.pipeline.waitView with
        result := (a.pipeline.obtainInitialization a.progressTime).2
        waitStart := a.progressTime.or a.pipeline.lastInitializationImuTime }) ∨
      (a.Proceeds → a.pipeline.imuInitializationResult.isSome = true) ∧
        waitAfter a = a.pipeline.waitView := by
  unfold waitAfter
  split
  · rename_i hProceeds
    rw [waitView_obtainInitialization]
    cases hResult : a.pipeline.imuInitializationResult with
    | none => exact .inl ⟨hProceeds, rfl, rfl⟩
    | some result =>
      refine .inr ⟨fun _ => rfl, ?_⟩
      have hObtained : (a.pipeline.obtainInitialization a.progressTime).2 = some result := by
        unfold obtainInitialization
        rw [hResult]
      rw [hObtained, ← hResult]
      unfold waitView
      rw [hResult]
      rfl
  · rename_i hStops
    exact .inr ⟨fun h => absurd h hStops, rfl⟩

theorem unused_before (hOwed : RecoveryOwed p)
    (h : (p.step call).1.status.usesEstimatorState = false) :
    p.status.usesEstimatorState = false := by
  by_contra hUses
  rw [Bool.not_eq_false] at hUses
  have hAfter :=
    (step_effect (S := True) hOwed call fun _ => trivial).moves.onward.uses hUses
  rw [h] at hAfter
  cases hAfter

theorem Waiting.step (hp : Waiting domain n p) (hTopic : p.config.initialPrior.source = .topic)
    (hCall : InStream domain n call) : Waiting domain (newestNs n call) (p.step call).1 := by
  have hFeed := step_feed hp.sound hp.owed call
  have hWaits := step_waits hp.owed call
  have hView (hUnused : (p.step call).1.status.usesEstimatorState = false) :
      (p.step call).1.waitView = ((p.attemptOf call).map waitAfter).getD p.waitView := by
    rcases hWaits with hUses | hView
    · rw [hUnused] at hUses
      cases hUses
    · exact hView
  have hSame (hUnused : (p.step call).1.status.usesEstimatorState = false)
      (h : (p.step call).1.waitView = p.waitView) :
      (p.step call).1.estimatorInitialized = false ∧
        ((p.step call).1.imuInitializationResult.isSome = true →
          ∃ s, (p.step call).1.priorWaitStartTime = some s ∧ Timely domain (newestNs n call) s) := by
    have hBefore := unused_before hp.owed hUnused
    refine ⟨(congrArg WaitView.initialized h).trans (hp.idle hBefore), ?_⟩
    intro hSome
    rw [show (p.step call).1.imuInitializationResult = p.imuInitializationResult from
      congrArg WaitView.result h] at hSome
    obtain ⟨s, hStart, hTimely⟩ := hp.begun hBefore hSome
    exact ⟨s, (congrArg WaitView.waitStart h).trans hStart, hTimely.later hCall.rising⟩
  have hLeft (hUnused : (p.step call).1.status.usesEstimatorState = false) :
      (p.step call).1.estimatorInitialized = false ∧
        ((p.step call).1.imuInitializationResult.isSome = true →
          ∃ s, (p.step call).1.priorWaitStartTime = some s ∧
            Timely domain (newestNs n call) s) := by
    have hNow := hView hUnused
    cases hAttempt : p.attemptOf call with
    | none =>
      rw [hAttempt] at hNow
      exact hSame hUnused hNow
    | some a =>
      rw [hAttempt] at hNow
      obtain ⟨hMade, t, hTime, hTimely, -⟩ := hp.attempt hTopic hCall hAttempt
      rcases waitAfter_cases a with ⟨-, -, hStarted⟩ | ⟨-, hKept⟩
      · have hNow : (p.step call).1.waitView = _ := hNow.trans hStarted
        refine ⟨(congrArg WaitView.initialized hNow).trans ?_, fun _ => ⟨t, ?_, hTimely⟩⟩
        · exact (congrArg WaitView.initialized hMade.view).trans
            (hp.idle (unused_before hp.owed hUnused))
        · refine (congrArg WaitView.waitStart hNow).trans ?_
          rw [hTime]
          rfl
      · exact hSame hUnused (hNow.trans (hKept.trans hMade.view))
  constructor
  case sound => exact hFeed.1
  case owed => exact (step_effect (S := True) hp.owed call fun _ => trivial).owed
  case queued =>
    intro x hx
    rcases hFeed.2 x hx with hOld | rfl
    · exact (hp.queued x hOld).later hCall.rising
    · exact hCall.timely rfl
  case idle => exact fun hUnused => (hLeft hUnused).1
  case begun => exact fun hUnused => (hLeft hUnused).2

end FastLioPipeline

/-! ## Waits along a run -/

namespace FastLioPipeline
variable {p q : FastLioPipeline N} {a b : PriorAttempt N} {domain : ClockDomain} {n : Int}
  {call : PipelineCall N} {calls : List (PipelineCall N)}

def attempts (p : FastLioPipeline N) (calls : List (PipelineCall N)) : List (PriorAttempt N) :=
  (Runs.events step p calls).filterMap fun e => e.before.attemptOf e.op

/-- After a wait that began at `first`, a later attempt past the deadline takes the timeout
branch when no candidate is stored. -/
def EndsWait (first later : PriorAttempt N) : Prop :=
  ∀ w t, first.FindsNone w → later.Looks → later.progressTime = some t →
    later.pipeline.mailbox.candidate = none →
      w.nanoseconds + later.policy.topicWaitTimeoutNs ≤ t.nanoseconds → later.TimesOut

/-- The deadline of the first attempt that finds no admissible candidate fires at every later
one. -/
def DeadlineFires (p : FastLioPipeline N) (calls : List (PipelineCall N)) : Prop :=
  ∀ before first between later after,
    p.attempts calls = before ++ first :: (between ++ later :: after) →
      (∀ a ∈ before, ∀ w, ¬a.FindsNone w) → EndsWait first later

/-- The attempt does not start a wait in flight again, or no wait is allowed. -/
def KeepsWait (a : PriorAttempt N) : Prop :=
  a.Proceeds → a.policy.context ≠ .inFlightReinitialization ∨ a.policy.topicWaitTimeoutNs = 0 ∨
    a.pipeline.imuInitializationResult.isSome = true ∨ a.pipeline.priorWaitStartTime = none

theorem attempts_cons (p : FastLioPipeline N) (call : PipelineCall N)
    (calls : List (PipelineCall N)) :
    p.attempts (call :: calls) = (p.attemptOf call).toList ++ (p.step call).1.attempts calls := by
  unfold attempts
  rw [Runs.events_cons, filterMap_cons]
  rw [show (Runs.eventAt step p call).before.attemptOf (Runs.eventAt step p call).op =
    p.attemptOf call from rfl]
  cases p.attemptOf call with
  | none => rfl
  | some a => rfl

/-! ## The wait of a run -/

/-- The wait began at `w` or before, and goes on. -/
def WaitsSince (w : Timestamp) (p : FastLioPipeline N) : Prop :=
  p.status.usesEstimatorState = false → ∃ s, p.priorWaitStartTime = some s ∧
    s.nanoseconds ≤ w.nanoseconds ∧ (p.imuInitializationResult.isSome = true ∨
      p.config.initialPrior.context = .inFlightReinitialization ∧
        p.config.initialPrior.topicWaitTimeoutNs ≠ 0)

variable {w : Timestamp}

theorem attempts_reached {P : Int → FastLioPipeline N → Prop}
    (hStep : ∀ {m q call}, P m q → InStream domain m call →
      (∀ a ∈ q.attemptOf call, KeepsWait a) → P (newestNs m call) (q.step call).1)
    (hp : P n p) (hStream : ImuStream domain n calls) (hKeeps : ∀ a ∈ p.attempts calls, KeepsWait a) :
    ∀ b ∈ p.attempts calls, ∃ m q call, P m q ∧ InStream domain m call ∧ q.attemptOf call = some b := by
  induction calls generalizing n p with
  | nil =>
    intro b hb
    cases hb
  | cons call calls ih =>
    obtain ⟨hCall, hRest⟩ := hStream
    rw [attempts_cons] at hKeeps ⊢
    obtain ⟨hHere, hLater⟩ := forall_mem_append.mp hKeeps
    have hNext := hStep hp hCall fun a ha => hHere a (Option.mem_toList.mpr ha)
    intro b hb
    rcases mem_append.mp hb with hb | hb
    · exact ⟨n, p, call, hp, hCall, Option.mem_toList.mp hb⟩
    · exact ih hNext hRest hLater b hb

theorem MadeBy.result (h : MadeBy p a) :
    a.pipeline.imuInitializationResult = p.imuInitializationResult := congrArg WaitView.result h.view

theorem MadeBy.waitStart (h : MadeBy p a) :
    a.pipeline.priorWaitStartTime = p.priorWaitStartTime := congrArg WaitView.waitStart h.view

theorem MadeBy.config (h : MadeBy p a) : a.pipeline.config = p.config :=
  congrArg WaitView.config h.view

theorem MadeBy.policy (h : MadeBy p a) : a.policy = p.config.initialPrior :=
  congrArg EstimatorConfig.initialPrior h.config

section
variable (hp : Waiting domain n p) (hTopic : p.config.initialPrior.source = .topic)
include hp hTopic

section
variable (hCall : InStream domain n call)
include hCall

theorem WaitsSince.step (hw : WaitsSince w p) (hKeeps : ∀ a ∈ p.attemptOf call, KeepsWait a) :
    WaitsSince w (p.step call).1 := by
  intro hUnused
  have hBefore := unused_before hp.owed hUnused
  obtain ⟨s, hStart, hSince, hGoes⟩ := hw hBefore
  have hSame (h : (p.step call).1.waitView = p.waitView) :
      ∃ s, (p.step call).1.priorWaitStartTime = some s ∧ s.nanoseconds ≤ w.nanoseconds ∧
        ((p.step call).1.imuInitializationResult.isSome = true ∨
          (p.step call).1.config.initialPrior.context = .inFlightReinitialization ∧
            (p.step call).1.config.initialPrior.topicWaitTimeoutNs ≠ 0) := by
    refine ⟨s, (congrArg WaitView.waitStart h).trans hStart, hSince, ?_⟩
    rw [show (p.step call).1.imuInitializationResult = p.imuInitializationResult from
        congrArg WaitView.result h,
      show (p.step call).1.config = p.config from congrArg WaitView.config h]
    exact hGoes
  rcases step_waits hp.owed call with hUses | hView
  · rw [hUnused] at hUses
    cases hUses
  cases hAttempt : p.attemptOf call with
  | none =>
    rw [hAttempt] at hView
    exact hSame hView
  | some a =>
    rw [hAttempt] at hView
    obtain ⟨hMade, -⟩ := hp.attempt hTopic hCall hAttempt
    rcases waitAfter_cases a with ⟨hProceeds, hNone, -⟩ | ⟨-, hKept⟩
    · -- it would start the wait again
      rw [← hMade.result, hNone] at hGoes
      rw [← hMade.waitStart] at hStart
      rw [← hMade.config] at hGoes
      rcases hGoes with hSome | ⟨hFlight, hTimeout⟩
      · cases hSome
      rcases hKeeps a hAttempt hProceeds with h | h | h | h
      · exact absurd hFlight h
      · exact absurd h hTimeout
      · rw [hNone] at h
        cases h
      · rw [hStart] at h
        cases h
    · exact hSame (hView.trans (hKept.trans hMade.view))

theorem waitsSince_of_finds (hAttempt : p.attemptOf call = some a) (hFinds : a.FindsNone w)
    (hTimeout : p.config.initialPrior.topicWaitTimeoutNs ≠ 0) : WaitsSince w (p.step call).1 := by
  obtain ⟨hLooks, hTime, -⟩ := hFinds
  obtain ⟨hMade, t, hAt, -, hNotBefore⟩ := hp.attempt hTopic hCall hAttempt
  rw [hTime] at hAt
  cases hAt
  intro hUnused
  rcases step_waits hp.owed call with hUses | hView
  · rw [hUnused] at hUses
    cases hUses
  rw [hAttempt] at hView
  rcases waitAfter_cases a with ⟨-, -, hStarted⟩ | ⟨hGoes, hKept⟩
  · have hNow : (p.step call).1.waitView = _ := hView.trans hStarted
    refine ⟨w, ?_, le_rfl, ?_⟩
    · refine (congrArg WaitView.waitStart hNow).trans ?_
      rw [hTime]
      rfl
    · by_cases hContext : a.policy.context = .inFlightReinitialization
      · right
        have hConfig : (p.step call).1.config = a.pipeline.config := congrArg WaitView.config hNow
        rw [hConfig]
        refine ⟨hContext, ?_⟩
        rw [hMade.config]
        exact hTimeout
      · left
        rw [show (p.step call).1.imuInitializationResult = _ from congrArg WaitView.result hNow]
        exact obtainInitialization_ground hLooks hContext
  · have hNow : (p.step call).1.waitView = p.waitView := hView.trans (hKept.trans hMade.view)
    have hSome := hGoes hLooks.1
    obtain ⟨s, hStart, hTimely⟩ := hp.begun hMade.unused (hMade.result ▸ hSome)
    refine ⟨s, (congrArg WaitView.waitStart hNow).trans hStart, ?_, .inl ?_⟩
    · exact hTimely.notAfter.trans (hNotBefore hSome)
    · rw [show (p.step call).1.imuInitializationResult = p.imuInitializationResult from
        congrArg WaitView.result hNow, ← hMade.result]
      exact hSome

theorem WaitsSince.endsWait (hw : WaitsSince w p) (hAttempt : p.attemptOf call = some b)
    (hKeeps : KeepsWait b) (hLooks : b.Looks) {t : Timestamp} (hTime : b.progressTime = some t)
    (hNone : b.pipeline.mailbox.candidate = none)
    (hLate : w.nanoseconds + b.policy.topicWaitTimeoutNs ≤ t.nanoseconds) : b.TimesOut := by
  obtain ⟨hMade, t', hAt, hTimely, -⟩ := hp.attempt hTopic hCall hAttempt
  rw [hTime] at hAt
  cases hAt
  obtain ⟨s, hStart, hSince, hGoes⟩ := hw hMade.unused
  rw [← hMade.config, ← hMade.result] at hGoes
  rw [← hMade.waitStart] at hStart
  have hSome : b.pipeline.imuInitializationResult.isSome = true := by
    rcases hGoes with h | ⟨hFlight, hTimeout⟩
    · exact h
    rcases hKeeps hLooks.1 with h | h | h | h
    · exact absurd hFlight h
    · exact absurd h hTimeout
    · exact h
    · rw [hStart] at h
      cases h
  obtain ⟨s', hStart', hBegan⟩ := hp.begun hMade.unused (hMade.result ▸ hSome)
  rw [← hMade.waitStart, hStart] at hStart'
  cases hStart'
  have hWait : waitBegan b t = s := by
    unfold waitBegan
    rw [if_pos hSome, hStart]
    rfl
  have hDomain : (waitBegan b t).clockDomain = t.clockDomain := by
    rw [hWait]
    exact hBegan.domain.trans hTimely.domain.symm
  have hElapsed : checkedDifference t (waitBegan b t) = .ok (t.nanoseconds - s.nanoseconds) := by
    rw [hWait] at hDomain ⊢
    exact checkedDifference_of_nonneg hDomain.symm hTimely.positive.le hBegan.positive.le
  exact looks_timesOut (hMade.policy ▸ hTopic) hLooks hTime hNone hElapsed (by omega) hDomain

theorem endsWait_of_zero (hAttempt : p.attemptOf call = some b)
    (hZero : p.config.initialPrior.topicWaitTimeoutNs = 0) (hLooks : b.Looks) {t : Timestamp}
    (hTime : b.progressTime = some t) (hNone : b.pipeline.mailbox.candidate = none) : b.TimesOut := by
  obtain ⟨hMade, t', hAt, hTimely, hNotBefore⟩ := hp.attempt hTopic hCall hAttempt
  rw [hTime] at hAt
  cases hAt
  have hBegan : Timely domain t.nanoseconds (waitBegan b t) := by
    unfold waitBegan
    split
    · rename_i hSome
      obtain ⟨s, hStart, hBegan⟩ := hp.begun hMade.unused (hMade.result ▸ hSome)
      rw [hMade.waitStart, hStart]
      exact hBegan.later (hNotBefore hSome)
    · exact ⟨hTimely.domain, hTimely.positive, le_rfl⟩
  have hDomain : (waitBegan b t).clockDomain = t.clockDomain :=
    hBegan.domain.trans hTimely.domain.symm
  have hElapsed : checkedDifference t (waitBegan b t) =
      .ok (t.nanoseconds - (waitBegan b t).nanoseconds) :=
    checkedDifference_of_nonneg hDomain.symm hTimely.positive.le hBegan.positive.le
  have hConfig : b.policy.topicWaitTimeoutNs = 0 := by
    rw [hMade.policy]
    exact hZero
  have hNotAfter := hBegan.notAfter
  exact looks_timesOut (hMade.policy ▸ hTopic) hLooks hTime hNone hElapsed (by omega) hDomain

end

theorem attempts_pairwise
    (hStream : ImuStream domain n calls) (hKeeps : ∀ a ∈ p.attempts calls, KeepsWait a) :
    (p.attempts calls).Pairwise EndsWait := by
  induction calls generalizing n p with
  | nil => exact List.Pairwise.nil
  | cons call calls ih =>
    obtain ⟨hCall, hRest⟩ := hStream
    rw [attempts_cons] at hKeeps ⊢
    obtain ⟨-, hLater⟩ := forall_mem_append.mp hKeeps
    have hConfig : (p.step call).1.config = p.config :=
      (step_effect (S := True) hp.owed call fun _ => trivial).config
    have hNext := hp.step hTopic hCall
    have hTopicNext : (p.step call).1.config.initialPrior.source = .topic := by
      rw [hConfig]
      exact hTopic
    have hPairs := ih hNext hTopicNext hRest hLater
    refine pairwise_append.mpr ⟨?_, hPairs, ?_⟩
    · cases p.attemptOf call with
      | none => exact List.Pairwise.nil
      | some a => exact pairwise_singleton _ _
    intro first hFirst b hb w t hFinds hLooks hTime hNone hLate
    have hAttempt := Option.mem_toList.mp hFirst
    -- what both kinds of run keep
    have hKept {m : Int} {q : FastLioPipeline N} {other : PipelineCall N}
        (hq : Waiting domain m q ∧ q.config = p.config) (hOther : InStream domain m other) :
        Waiting domain (newestNs m other) (q.step other).1 ∧ (q.step other).1.config = p.config := by
      refine ⟨hq.1.step (hq.2 ▸ hTopic) hOther, ?_⟩
      exact (step_effect (S := True) hq.1.owed other fun _ => trivial).config.trans hq.2
    by_cases hZero : p.config.initialPrior.topicWaitTimeoutNs = 0
    · obtain ⟨m, q, other, ⟨hq, hSame⟩, hOther, hMade⟩ := attempts_reached
        (P := fun m q => Waiting domain m q ∧ q.config = p.config) (fun hq hOther _ => hKept hq hOther)
        ⟨hNext, hConfig⟩ hRest hLater b hb
      exact endsWait_of_zero hq (hSame ▸ hTopic) hOther hMade (hSame ▸ hZero) hLooks hTime hNone
    · have hSince := waitsSince_of_finds hp hTopic hCall hAttempt hFinds hZero
      obtain ⟨m, q, other, ⟨⟨hq, hSame⟩, hWaits⟩, hOther, hMade⟩ := attempts_reached
        (P := fun m q => (Waiting domain m q ∧ q.config = p.config) ∧ WaitsSince w q)
        (fun hq hOther hKeepsAll => ⟨hKept hq.1 hOther,
          hq.2.step hq.1.1 (hq.1.2 ▸ hTopic) hOther hKeepsAll⟩)
        ⟨⟨hNext, hConfig⟩, hSince⟩ hRest hLater b hb
      exact hWaits.endsWait hq (hSame ▸ hTopic) hOther hMade (hLater b hb) hLooks hTime hNone hLate

end

/-- Where no attempt in flight starts a wait again, the deadline of the wait fires. -/
theorem topic_wait_deadline (config : EstimatorConfig N)
    (hTopic : config.initialPrior.source = .topic) (domain : ClockDomain)
    (calls : List (PipelineCall N)) (hStream : ImuStream domain 0 calls)
    (hKeeps : ∀ a ∈ (create config).attempts calls, KeepsWait a) :
    DeadlineFires (create config) calls := by
  have hPairs := attempts_pairwise (create_waiting domain 0 config) hTopic hStream hKeeps
  intro before first between later after hSplit _
  rw [hSplit] at hPairs
  obtain ⟨-, hSuffix, -⟩ := pairwise_append.mp hPairs
  exact (pairwise_cons.mp hSuffix).1 later (mem_append_right _ mem_cons_self)

end FastLioPipeline

/-- A topic prior is waited for two seconds, and nothing replaces it. -/
def awaitedPolicy (context : InitialStatePriorContext) : InitialStatePriorPolicy (ExactReal ℚ) Unit where
  source := .topic
  context := context
  groundFallback := .reject

theorem awaitedPolicy_valid (context : InitialStatePriorContext) :
    (awaitedPolicy context).fault (fun _ => true) = none := by
  cases context <;> decide +kernel

/-- A configuration with another policy for the prior. -/
def withPrior (config : EstimatorConfig N)
    (policy : InitialStatePriorPolicy D N.Covariance)
    (h : policy.fault N.covarianceFinite = none) : EstimatorConfig N :=
  { config with initialPrior := policy, priorValid := h }

def awaitedConfig (context : InitialStatePriorContext) : EstimatorConfig (scripted [] []) :=
  withPrior (scriptedConfig [] [] 1 Nat.one_pos) (awaitedPolicy context) (awaitedPolicy_valid context)

namespace FastLioPipeline

instance instDecidableKeepsWait (a : PriorAttempt N) : Decidable (KeepsWait a) :=
  inferInstanceAs (Decidable (_ → _))

def sparseSamples : List (PipelineCall (scripted [] [])) :=
  [.pushImu (sampleAt (.rosTime 1000000000)), .pushImu (sampleAt (.rosTime 4000000000))]

theorem sparseSamples_stream : ImuStream .rosTime 0 sparseSamples := by
  refine ⟨⟨?_, ?_, ?_⟩, ⟨?_, ?_, ?_⟩, trivial⟩
  · decide +kernel
  · intro group h
    cases h
  · decide +kernel
  · decide +kernel
  · intro group h
    cases h
  · decide +kernel

theorem topic_wait_deadline_ground :
    DeadlineFires (create (awaitedConfig .groundStartup)) sparseSamples :=
  topic_wait_deadline (awaitedConfig .groundStartup) rfl .rosTime sparseSamples sparseSamples_stream
    (by decide +kernel)

instance instDecidableLooks (a : PriorAttempt N) : Decidable a.Looks :=
  inferInstanceAs (Decidable (_ ∧ _))

/-- When an attempt runs, how long a wait may last there, and the timeouts before and after it. -/
def waitReport (a : PriorAttempt N) : Option Timestamp × Int × Nat × Nat :=
  (a.progressTime, a.policy.topicWaitTimeoutNs, a.pipeline.initialPrior.waitTimeoutCount,
    a.done.initialPrior.waitTimeoutCount)

theorem waitReports_inFlight :
    ((create (awaitedConfig .inFlightReinitialization)).attempts sparseSamples).map waitReport =
      [(some (.rosTime 1000000000), 2000000000, 0, 0),
        (some (.rosTime 4000000000), 2000000000, 0, 0)] := by
  decide +kernel

theorem looks_inFlight :
    ∀ a ∈ (create (awaitedConfig .inFlightReinitialization)).attempts sparseSamples,
      a.Looks ∧ a.pipeline.mailbox.candidate = none := by
  decide +kernel

/-- In flight the second sample, past the deadline, starts the wait again. -/
theorem deadline_not_fired :
    ¬ ∀ config : EstimatorConfig (scripted [] []), config.initialPrior.source = .topic →
      ∀ domain calls, ImuStream domain 0 calls → DeadlineFires (create config) calls := by
  intro h
  have hFires := h (awaitedConfig .inFlightReinitialization) rfl .rosTime sparseSamples
    sparseSamples_stream
  have hLooks := looks_inFlight
  obtain ⟨first, rest, hAttempts, hFirst, hRest⟩ := map_eq_cons_iff.mp waitReports_inFlight
  obtain ⟨later, after, rfl, hLater, -⟩ := map_eq_cons_iff.mp hRest
  rw [hAttempts, forall_mem_cons, forall_mem_cons] at hLooks
  obtain ⟨⟨hFirstLooks, hNoFirst⟩, ⟨hLaterLooks, hNone⟩, -⟩ := hLooks
  simp only [waitReport, Prod.mk.injEq] at hFirst hLater
  have hFinds : first.FindsNone (.rosTime 1000000000) := by
    refine ⟨hFirstLooks, hFirst.1, ?_⟩
    rw [hNoFirst]
    intro candidate hCandidate
    cases hCandidate
  have hDeadline : (Timestamp.rosTime 1000000000).nanoseconds + later.policy.topicWaitTimeoutNs ≤
      (Timestamp.rosTime 4000000000).nanoseconds := by
    rw [hLater.2.1]
    decide
  have hTimesOut := hFires [] first [] later after hAttempts (by simp) _ _ hFinds hLaterLooks
    hLater.1 hNone hDeadline
  have hCounted := hTimesOut.counted
  rw [hLater.2.2.1, hLater.2.2.2] at hCounted
  cases hCounted

end FastLioPipeline

end UavNavigation.FastLio
