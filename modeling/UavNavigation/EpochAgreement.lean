import UavNavigation.PipelineCalls
import UavNavigation.ExactReals

/-!
# The state time and the epoch of the synchronizer

The synchronizer moves its epoch when it hands a group out, the pipeline moves its
state time when a prediction succeeds. The two agree after every call, or the
state lies behind a pipeline that has failed closed and will rebase it, unless a
step before the first correction left the state where it was.
-/

namespace UavNavigation.FastLio

open Runs SensorFeed

set_option autoImplicit false

variable {D : Type} [FloatOps D] {N : Numerics D}

namespace FastLioPipeline
variable {p q : FastLioPipeline N}

/-- The state time equals the epoch of the synchronizer, or lies behind it in a way that the
next group repairs. -/
def EpochMatches (p : FastLioPipeline N) (t : Timestamp) : Prop :=
  ∃ epoch ∈ p.feed.epoch, t = epoch ∨
    t.clockDomain = epoch.clockDomain ∧ t.nanoseconds < epoch.nanoseconds ∧
      p.lifecycle.trackingEverConfirmed = true ∧ p.status.recovering = true

/-- Whenever the estimator state is used and has a time, the time matches. -/
def InStep (p : FastLioPipeline N) : Prop :=
  p.status.usesEstimatorState = true → ∀ t ∈ p.stateTime, EpochMatches p t

/-- The prediction of a group from `start` succeeds. -/
def Predicts (p : FastLioPipeline N) (group : MeasurementGroup D) (start : Timestamp) : Prop :=
  ∃ durationNs samples estimator trajectory,
    checkedDifference group.scan.endTime start = .ok durationNs ∧
    p.predictionSamples group start = .ok samples ∧
    N.predict p.estimator samples start group.scan.endTime = (estimator, .ok trajectory)

/-- Before the first correction, the state follows the synchronizer: a group is refused only
while the state has no time, its prediction succeeds when it covers any time at all, and a
discontinuity finds a covariance that can be inflated. -/
def FollowsSynchronizer (p : FastLioPipeline N) : SynchronizationResult D → Prop
  | .group group => p.lifecycle.trackingEverConfirmed = true ∨
      (p.stateTime.isSome = true → groupFault group = none) ∧
      ∀ m start, p.prepareGroup group true = (m, .ok start) → start ≠ group.scan.endTime →
        m.Predicts group start
  | .discontinuity _ => p.lifecycle.trackingEverConfirmed = true ∨ p.stateTime = none ∨
      p.inflated.2 = true
  | _ => True

def Follows (p : FastLioPipeline N) : PipelineCall N → Prop
  | .processNext =>
    { p.setReason "" with feed := p.feed.synchronizeNext.1 }.FollowsSynchronizer
      p.feed.synchronizeNext.2
  | _ => True

structure Agrees (p : FastLioPipeline N) : Prop where
  sound : Sound p.feed
  healthy : Healthy p
  matched : ∀ t ∈ p.stateTime, p.status.usesEstimatorState = true ∧ EpochMatches p t

variable {t : Timestamp}

theorem Agrees.inStep (h : Agrees p) : InStep p := fun _ t ht => (h.matched t ht).2

theorem create_agrees (config : EstimatorConfig N) : Agrees (create config) where
  sound := create_sound _ _
  healthy := create_healthy config
  matched := by
    intro t ht
    cases ht

theorem EpochMatches.mono (h : EpochMatches p t) (hEpoch : q.feed.epoch = p.feed.epoch)
    (hOnward : Lifecycle.Onward p.lifecycle q.lifecycle)
    (hStatus : p.status.recovering = true → p.lifecycle.trackingEverConfirmed = true → q.status.recovering = true) :
    EpochMatches q t := by
  obtain ⟨epoch, hMem, h⟩ := h
  refine ⟨epoch, hEpoch ▸ hMem, ?_⟩
  rcases h with h | ⟨hDomain, hBehind, hConfirmed, hRecovering⟩
  · exact .inl h
  · exact .inr ⟨hDomain, hBehind, hOnward.confirmed hConfirmed, hStatus hRecovering hConfirmed⟩

theorem Agrees.still (hp : Agrees p) (hSound : Sound q.feed) (hHealthy : Healthy q)
    (hEpoch : q.feed.epoch = p.feed.epoch) (hTime : q.stateTime = p.stateTime)
    (hOnward : Lifecycle.Onward p.lifecycle q.lifecycle)
    (hStatus : p.status.recovering = true → p.lifecycle.trackingEverConfirmed = true →
      q.status.recovering = true) : Agrees q where
  sound := hSound
  healthy := hHealthy
  matched := by
    intro t ht
    rw [hTime] at ht
    obtain ⟨hUses, hMatches⟩ := hp.matched t ht
    exact ⟨hOnward.uses hUses, hMatches.mono hEpoch hOnward hStatus⟩

theorem superviseLidarTimeout_recovering (h : p.status.recovering = true) (now : Int) :
    (p.superviseLidarTimeout now).status.recovering = true := by
  unfold superviseLidarTimeout
  split
  · exact h
  · unfold Lifecycle.superviseLidarTimeout
    have hNot : p.lifecycle.status ≠ .tracking := Lifecycle.recovering_not_tracking h
    simp only [hNot, false_and, if_false]
    split
    · show (Lifecycle.transitionTo _ _ _).status.recovering = true
      rw [Lifecycle.transitionTo_status]
      rfl
    · exact h

/-! ## A group -/

variable {group : MeasurementGroup D} {start : Timestamp}

theorem EpochMatches.behind {scan : LidarScan D} (hEpoch : q.feed.epoch = some scan.endTime)
    (hScan : scan.fault = none) (hDomain : t.clockDomain = scan.startTime.clockDomain)
    (hBefore : t.nanoseconds ≤ scan.startTime.nanoseconds)
    (hFailed : t ≠ scan.endTime → q.lifecycle.trackingEverConfirmed = true ∧ q.status.recovering = true) :
    EpochMatches q t := by
  obtain ⟨-, hInterval, hEnd⟩ := LidarScan.interval hScan
  have hSame : t.clockDomain = scan.endTime.clockDomain := hDomain.trans hEnd.symm
  refine ⟨scan.endTime, hEpoch, ?_⟩
  by_cases hAt : t = scan.endTime
  · exact .inl hAt
  · obtain ⟨hConfirmed, hRecovering⟩ := hFailed hAt
    refine .inr ⟨hSame, ?_, hConfirmed, hRecovering⟩
    apply lt_of_le_of_ne (le_trans hBefore hInterval)
    intro hTime
    exact hAt (Timestamp.ext hTime hSame)

theorem Predicts.predictScan (h : p.Predicts group start) :
    ∃ trajectory, (p.predictScan group start).2 = .ok trajectory := by
  obtain ⟨durationNs, samples, estimator, trajectory, hInterval, hSamples, hPredict⟩ := h
  refine ⟨trajectory, ?_⟩
  unfold FastLioPipeline.predictScan
  rw [hInterval]
  rw [hSamples]
  dsimp only [setInitialPrior]
  rw [hPredict]

/-- What the state time of a pipeline says about the scan the synchronizer hands out. -/
structure Precedes (p : FastLioPipeline N) (group : MeasurementGroup D) : Prop where
  scan : group.scan.fault = none
  used : p.stateTime.isSome = true → p.status.usesEstimatorState = true
  domain : group.propagationStartTime.clockDomain = group.scan.startTime.clockDomain
  notAfter : group.propagationStartTime.nanoseconds ≤ group.scan.startTime.nanoseconds
  matched : ∀ t ∈ p.stateTime, t = group.propagationStartTime ∨
    t.clockDomain = group.propagationStartTime.clockDomain ∧
      t.nanoseconds < group.propagationStartTime.nanoseconds ∧
      p.lifecycle.trackingEverConfirmed = true

theorem Precedes.before (h : Precedes p group) (ht : t ∈ p.stateTime) :
    t.clockDomain = group.scan.startTime.clockDomain ∧
      t.nanoseconds ≤ group.scan.startTime.nanoseconds := by
  have hNotAfter := h.notAfter
  rcases h.matched t ht with rfl | ⟨hDomain, hBehind, -⟩
  · exact ⟨h.domain, hNotAfter⟩
  · exact ⟨hDomain.trans h.domain, by omega⟩

theorem Precedes.stopped {m : FastLioPipeline N} {reason : String} (h : Precedes p group)
    (hPrepared : Prepared True group p m (.error reason))
    (hFollows : p.FollowsSynchronizer (.group group)) (ht : t ∈ m.stateTime) :
    t ∈ p.stateTime ∧ m.lifecycle.trackingEverConfirmed = true ∧ m.status.recovering = true := by
  cases hPrepared with
  | refused hFault hKeeps hFailed =>
    rw [hKeeps.stateTime] at ht
    rcases hFollows with hConfirmed | ⟨hValid, -⟩
    · exact ⟨ht, hKeeps.onward.confirmed hConfirmed, hFailed hConfirmed⟩
    · rw [hValid (by rw [ht]; rfl)] at hFault
      cases hFault
  | notReady hUnused hKeeps =>
    rw [hKeeps.stateTime] at ht
    rw [h.used (by rw [ht]; rfl)] at hUnused
    cases hUnused
  | entered hValid hKeeps hUses hEntered =>
    cases hEntered with
    | unset hNone hEntered =>
      rw [hEntered.stateTime, hNone] at ht
      cases ht
    | @mismatch _ u hSome hEntered hMismatch hFailed =>
      rw [hEntered.stateTime, hKeeps.stateTime] at ht
      rw [hKeeps.stateTime] at hSome
      have hSame : u = t := Option.some.inj (hSome.symm.trans ht)
      subst hSame
      rcases h.matched u ht with hStart | ⟨-, -, hConfirmed⟩
      · exact absurd hStart hMismatch
      · have hStill := hKeeps.onward.confirmed hConfirmed
        exact ⟨ht, hEntered.onward.confirmed hStill, hFailed hStill⟩

theorem Precedes.reached {m : FastLioPipeline N} (h : Precedes p group)
    (hPrepared : Prepared True group p m (.ok start)) :
    m.status.usesEstimatorState = true ∧ m.stateTime = some start ∧
      start.clockDomain = group.scan.startTime.clockDomain ∧
      start.nanoseconds ≤ group.scan.startTime.nanoseconds := by
  cases hPrepared with
  | entered hValid hKeeps hUses hEntered =>
    cases hEntered with
    | initial _ hAfter hEntered hDomain hStart =>
      exact ⟨hEntered.onward.uses hUses, hAfter, hDomain, hStart⟩
    | reached _ hAfter hEntered =>
      exact ⟨hEntered.onward.uses hUses, hAfter, h.domain, h.notAfter⟩

theorem Precedes.processed {r : ProcessResult N} (h : Precedes p group) (hOwed : RecoveryOwed p)
    (hProcessed : Processed True group true p q r) (hFollows : p.FollowsSynchronizer (.group group))
    (hEpoch : p.feed.epoch = some group.scan.endTime) :
    ∀ t ∈ q.stateTime, q.status.usesEstimatorState = true ∧ EpochMatches q t := by
  have hPrepare := prepareGroup_prepared True group true p
  have hFeed : q.feed.epoch = some group.scan.endTime := by
    rw [hProcessed.feed hOwed]
    exact hEpoch
  have hAtEnd (t : Timestamp) (ht : t ∈ q.stateTime)
      (hAfter : q.stateTime = some group.scan.endTime) : EpochMatches q t := by
    rw [hAfter] at ht
    cases ht
    exact ⟨group.scan.endTime, hFeed, .inl rfl⟩
  intro t ht
  cases hProcessed with
  | @stopped m reason hPrepared hKeeps hStatus _ =>
    rw [hPrepared] at hPrepare
    rw [hKeeps.stateTime] at ht
    obtain ⟨ht, hConfirmed, hRecovering⟩ := h.stopped hPrepare hFollows ht
    obtain ⟨hDomain, hBefore⟩ := h.before ht
    change m.lifecycle.status.recovering = true at hRecovering
    rw [← hStatus] at hConfirmed hRecovering
    exact ⟨Lifecycle.recovering_uses hRecovering,
      .behind hFeed h.scan hDomain hBefore fun _ => ⟨hConfirmed, hRecovering⟩⟩
  | @unpredicted m start reason hPrepared hPredicted hKeeps hFailed _ =>
    rw [hPrepared] at hPrepare
    obtain ⟨hUses, hAfter, hDomain, hBefore⟩ := h.reached hPrepare
    rw [hKeeps.stateTime, hAfter] at ht
    cases ht
    refine ⟨hKeeps.onward.uses hUses, .behind hFeed h.scan hDomain hBefore ?_⟩
    intro hCovers
    rcases hFollows with hConfirmed | ⟨-, hPredicts⟩
    · have hConfirmed := hPrepare.carries.onward.confirmed hConfirmed
      exact ⟨hKeeps.onward.confirmed hConfirmed, hFailed hConfirmed⟩
    · obtain ⟨trajectory, hOk⟩ := (hPredicts m t hPrepared hCovers).predictScan
      rw [hOk] at hPredicted
      cases hPredicted
  | uncorrected hPrepared hAfter hKeeps _ =>
    rw [hPrepared] at hPrepare
    exact ⟨hKeeps.onward.uses (h.reached hPrepare).1, hAtEnd t ht hAfter⟩
  | @corrected m start c _ _ hPrepared hAfter hKeeps _ _ _ _ hUpdated _ _ =>
    rw [hPrepared] at hPrepare
    have hOwedPrepared : RecoveryOwed m := (CallEffect.of_carries hPrepare.carries hOwed).owed
    have hOwedThen : RecoveryOwed c := (CallEffect.of_carries hKeeps hOwedPrepared).owed
    have hMap := hUpdated hOwedThen
    exact ⟨hMap.moves.onward.uses (hKeeps.onward.uses (h.reached hPrepare).1),
      hAtEnd t ht (hMap.stateTime.trans hAfter)⟩

/-! ## Every call -/

section
variable (hp : Agrees p)
include hp

theorem Agrees.failUpdate (hSound : Sound q.feed) (hHealthy : Healthy q)
    (hEpoch : q.feed.epoch = p.feed.epoch) (hKeeps : Keeps True { p with feed := q.feed } q)
    (hFailed : p.lifecycle.trackingEverConfirmed = true → q.status.recovering = true) :
    Agrees q :=
  hp.still hSound hHealthy hEpoch hKeeps.stateTime hKeeps.onward fun _ hConfirmed =>
    hFailed hConfirmed

theorem Agrees.discontinuity {scan : LidarScan D} {rest : List (LidarScan D)}
    {bracket stop : Nat} {gap : ImuGap}
    (hBracket : Bracketed p.feed scan start bracket stop)
    (hGap : largestGap {} (p.feed.span bracket stop) = .ok gap) (hLong : 0 < gap.durationNs)
    (hSound : Sound (p.feed.cutAt scan rest gap).1) (hHealthy : Healthy q)
    (hFeed : q.feed = (p.feed.cutAt scan rest gap).1)
    (hFollows : p.lifecycle.trackingEverConfirmed = true ∨ p.stateTime = none ∨ p.inflated.2 = true)
    (hRebased : Rebased True (p.feed.cutAt scan rest gap).2 { p with feed := (p.feed.cutAt scan rest gap).1 } q) :
    Agrees q where
  sound := hFeed ▸ hSound
  healthy := hHealthy
  matched := by
    have hEpoch : q.feed.epoch = some (gap.current.inDomain scan.startTime.clockDomain) := by
      rw [hFeed]
      rfl
    intro t ht
    cases hRebased with
    | skipped hNone hKeeps =>
      rw [hKeeps.stateTime] at ht
      change t ∈ p.stateTime at ht
      rcases hNone with hNone | hUnused
      · rw [show p.stateTime = none from hNone] at ht
        cases ht
      · have hUsed := (hp.matched t ht).1
        rw [show p.status.usesEstimatorState = false from hUnused] at hUsed
        cases hUsed
    | failed hInflation hKeeps hLost =>
      rw [hKeeps.stateTime] at ht
      change t ∈ p.stateTime at ht
      have hConfirmed : p.lifecycle.trackingEverConfirmed = true := by
        rcases hFollows with hConfirmed | hNone | hInflated
        · exact hConfirmed
        · rw [hNone] at ht
          cases ht
        · rw [show p.inflated.2 = false from hInflation] at hInflated
          cases hInflated
      obtain ⟨-, epoch, hEpochBefore, hTime⟩ := hp.matched t ht
      obtain ⟨hAfter, -⟩ := hBracket.gap_after hp.sound hGap hLong
      have hStart : start = epoch := by
        rw [hBracket.isStart, show p.feed.epoch = some epoch from hEpochBefore]
        rfl
      have hDomain := hBracket.startDomain
      rw [hStart] at hAfter hDomain
      have hBehind : t.clockDomain = epoch.clockDomain ∧ t.nanoseconds ≤ epoch.nanoseconds := by
        rcases hTime with rfl | ⟨hSame, hLess, -⟩
        · exact ⟨rfl, le_refl _⟩
        · exact ⟨hSame, le_of_lt hLess⟩
      refine ⟨by rw [hLost]; rfl, _, hEpoch, .inr ⟨?_, ?_, ?_, by rw [hLost]; rfl⟩⟩
      · exact hBehind.1.trans hDomain
      · exact lt_of_le_of_lt hBehind.2 hAfter
      · exact hKeeps.onward.confirmed hConfirmed
    | done hUses hAfter hKeeps =>
      rw [hAfter] at ht
      cases ht
      exact ⟨hKeeps.onward.uses hUses, _, hEpoch, .inl rfl⟩

theorem Agrees.precedes {bracket stop : Nat}
    (hBracket : Bracketed p.feed group.scan group.propagationStartTime bracket stop)
    (f : SensorFeed D) : Precedes { p with feed := f } group where
  scan := hBracket.valid
  used := by
    intro hSome
    obtain ⟨t, ht⟩ := Option.isSome_iff_exists.mp hSome
    exact (hp.matched t ht).1
  domain := hBracket.startDomain
  notAfter := hBracket.notAfter
  matched := by
    intro t ht
    obtain ⟨-, epoch, hEpoch, hTime⟩ := hp.matched t ht
    have hStart : group.propagationStartTime = epoch := by
      rw [hBracket.isStart, show p.feed.epoch = some epoch from hEpoch]
      rfl
    rw [hStart]
    rcases hTime with rfl | ⟨hDomain, hBehind, hConfirmed, -⟩
    · exact .inl rfl
    · exact .inr ⟨hDomain, hBehind, hConfirmed⟩

theorem Agrees.takeSynchronized {f : SensorFeed D}
    {answer : SynchronizationResult D} (hAnswered : Answered p.feed f answer)
    (hFollows : { p with feed := f }.FollowsSynchronizer answer)
    (hHealthy : Healthy ({ p with feed := f }.takeSynchronized answer).1) :
    Agrees ({ p with feed := f }.takeSynchronized answer).1 := by
  have hSound : Sound f := hp.sound.answered hAnswered
  have hOwed : RecoveryOwed { p with feed := f } := hp.healthy.owed
  cases hAnswered with
  | idle h => exact hp
  | waiting hFront hBracket => exact hp
  | @refused scan rest s status hFront hConfig hEpoch hBracket hReason =>
    have hFailed (q : FastLioPipeline N) : Keeps True q (q.failUpdate .synchronization
        status.message) := keeps_failUpdate _ _ q
    exact hp.failUpdate hSound hHealthy hEpoch ((hFailed _).trans (keeps_finalizeResult
      { statusBefore := p.status, rejectionReason := status.message } _))
      fun hConfirmed => failUpdate_recovering hConfirmed _ _
  | @gap scan rest start bracket stop gap hFront hBracket hStop hGap hLong =>
    have hRebased := recoverFromDiscontinuity_rebased (S := True)
      (p.feed.cutAt scan rest gap).2 { p with feed := (p.feed.cutAt scan rest gap).1 }
      fun _ _ => trivial
    have hFeed : (({ p with feed := (p.feed.cutAt scan rest gap).1 } :
        FastLioPipeline N).recoverFromDiscontinuity (p.feed.cutAt scan rest gap).2).1.feed =
        (p.feed.cutAt scan rest gap).1 := by
      cases hRebased with
      | skipped _ hKeeps => exact hKeeps.feed
      | failed _ hKeeps => exact hKeeps.feed
      | done _ _ hKeeps => exact hKeeps.feed
    have hPositive := p.feed.synchronizer.config.positive
    exact hp.discontinuity hBracket hGap (by omega) hSound hHealthy hFeed hFollows hRebased
  | @group scan rest start bracket stop gap hasStart hasEnd hFront hBracket hStop hGap hShort =>
    have hProcessed := processInternal_processed True
      ⟨scan, p.feed.span bracket stop, start, hasStart, hasEnd, gap.durationNs⟩ true
      { p with feed := p.feed.handOut scan rest stop }
    refine ⟨?_, hHealthy, ?_⟩
    · show Sound (FastLioPipeline.processInternal _ true _).1.feed
      rw [hProcessed.feed hOwed]
      exact hSound
    · exact (hp.precedes hBracket _).processed hOwed hProcessed hFollows rfl

theorem Agrees.setReason (reason : String) : Agrees (p.setReason reason) :=
  hp.still hp.sound ⟨⟨hp.healthy.sane.confirmed, hp.healthy.sane.tracking, hp.healthy.sane.guarded⟩,
    hp.healthy.owed⟩ rfl rfl (keeps_setReason (S := True) reason p).onward fun h _ => h

theorem Agrees.processNext (hFollows : Follows p .processNext)
    (hHealthy : Healthy p.processNext.1) : Agrees p.processNext.1 := by
  unfold FastLioPipeline.processNext at hHealthy ⊢
  dsimp only at hHealthy ⊢
  split at hHealthy
  · rename_i hHolds
    rw [if_pos hHolds]
    exact hp.setReason ""
  · rename_i hFree
    rw [if_neg hFree]
    exact (hp.setReason "").takeSynchronized (synchronizeNext_answered hp.sound) hFollows hHealthy

theorem Agrees.step {call : PipelineCall N}
    (hOwn : ∀ group, call ≠ .process group) (hFollows : Follows p call) :
    Agrees (p.step call).1 := by
  have hHealthy := hp.healthy.step call
  have hBeside {q : FastLioPipeline N} (hKeeps : Keeps True p q) (hHealthy : Healthy q)
      (hRecovering : p.status.recovering = true → q.status.recovering = true) : Agrees q :=
    hp.still (hKeeps.feed ▸ hp.sound) hHealthy (by rw [hKeeps.feed]) hKeeps.stateTime hKeeps.onward
      fun h _ => hRecovering h
  cases call with
  | pushImu sample =>
    have hKeeps := keeps_pushImu (S := True) sample p
    refine hp.still ?_ hHealthy ?_ hKeeps.stateTime hKeeps.onward ?_
    · show Sound (p.pushImu sample).1.feed
      rw [hKeeps.feed]
      exact hp.sound.pushImu sample
    · show (p.pushImu sample).1.feed.epoch = _
      rw [hKeeps.feed]
      rfl
    · intro hRecovering _
      show (p.pushImu sample).1.status.recovering = true
      rw [pushImu_status (Lifecycle.recovering_uses hRecovering)]
      exact hRecovering
  | pushLidar now scan =>
    have hKeeps := keeps_pushLidar (S := True) now scan p
    refine hp.still ?_ hHealthy ?_ hKeeps.stateTime hKeeps.onward ?_
    · show Sound (p.pushLidar now scan).1.feed
      rw [hKeeps.feed]
      exact hp.sound.pushLidar scan
    · show (p.pushLidar now scan).1.feed.epoch = _
      rw [hKeeps.feed]
      rfl
    · intro hRecovering _
      show (p.pushLidar now scan).1.status.recovering = true
      unfold FastLioPipeline.pushLidar
      split <;> exact hRecovering
  | submitInitialStatePrior prior =>
    refine hBeside (keeps_submitInitialStatePrior prior p) hHealthy fun hRecovering => ?_
    show (p.submitInitialStatePrior prior).1.status.recovering = true
    unfold FastLioPipeline.submitInitialStatePrior
    split <;> exact hRecovering
  | setInitialStatePriorGeometry baseToImu =>
    refine hBeside (keeps_setInitialStatePriorGeometry baseToImu p) hHealthy fun hRecovering => ?_
    show (p.setInitialStatePriorGeometry baseToImu).1.status.recovering = true
    fun_cases FastLioPipeline.setInitialStatePriorGeometry <;> exact hRecovering
  | processNext => exact hp.processNext hFollows hHealthy
  | process group => exact absurd rfl (hOwn group)
  | superviseLidarTimeout now =>
    exact hBeside (keeps_superviseLidarTimeout now p fun _ => trivial) hHealthy
      fun hRecovering => superviseLidarTimeout_recovering hRecovering now

end

/-- A run of the ingress calls and `processNext` that follows the synchronizer until tracking is
confirmed stays in step with it. -/
theorem state_time_in_step (config : EstimatorConfig N) (calls : List (PipelineCall N))
    (hOwn : ∀ call ∈ calls, ∀ group, call ≠ .process group)
    (hFollows : ∀ e ∈ events step (create config) calls, Follows e.before e.op) :
    InStep (run step (create config) calls) := by
  have hRun : Agrees (run step (create config) calls) := by
    apply run_guarded (P := Agrees)
      (Q := fun e => (∀ group, e.op ≠ .process group) ∧ Follows e.before e.op)
    · exact fun _ _ hp h => hp.step h.1 h.2
    · exact create_agrees config
    · intro e he
      refine ⟨?_, hFollows e he⟩
      obtain ⟨before, call, after, rfl, rfl⟩ := exists_split_of_mem_events he
      exact hOwn call (by simp)
  exact hRun.inStep

/-- One sample, one scan and the sample that closes it, before they are processed. -/
def firstGroup {predictions corrections : List Bool} :
    List (PipelineCall (scripted predictions corrections)) :=
  .pushImu (sampleAt (.rosTime 10)) :: deliver 0 (.rosTime 10) (.rosTime 20)

/-- The state stays at the start of the scan while the initial map is built, and the next group
is refused. -/
theorem state_left_behind :
    ¬InStep (run step (create (scriptedConfig [false] [] 1 (by decide))) firstGroup) ∧
      (run step (create (scriptedConfig [false] [] 1 (by decide)))
        (firstGroup ++ deliver 0 { nanoseconds := 20 } { nanoseconds := 30 })).lifecycle.reason =
        "PROPAGATION_START_DOES_NOT_MATCH_STATE_TIME" := by
  refine ⟨?_, by decide +kernel⟩
  have hUses : (run step (create (scriptedConfig [false] [] 1 (by decide)))
      firstGroup).status.usesEstimatorState = true := by decide +kernel
  have hTime : (run step (create (scriptedConfig [false] [] 1 (by decide)))
      firstGroup).stateTime = some { nanoseconds := 10 } := by decide +kernel
  have hEpoch : (run step (create (scriptedConfig [false] [] 1 (by decide)))
      firstGroup).feed.epoch = some { nanoseconds := 20 } := by decide +kernel
  have hNever : (run step (create (scriptedConfig [false] [] 1 (by decide)))
      firstGroup).lifecycle.trackingEverConfirmed = false := by decide +kernel
  intro hInStep
  obtain ⟨epoch, hMem, hSame | ⟨-, -, hConfirmed, -⟩⟩ := hInStep hUses _ hTime
  · rw [hEpoch, Option.mem_some_iff] at hMem
    rw [← hMem] at hSame
    exact absurd hSame (by decide)
  · rw [hNever] at hConfirmed
    cases hConfirmed

/-- The pipeline before the call that processes the first group, and the group. -/
def firstReady : FastLioPipeline (scripted [] []) :=
  run step (create (scriptedConfig [] [] 1 Nat.one_pos)) (firstGroup.take 3)

def firstMeasurements : MeasurementGroup (ExactReal ℚ) where
  scan := scanOver (.rosTime 10) (.rosTime 20)
  imuSamples := [sampleAt (.rosTime 10), sampleAt (.rosTime 20)]
  propagationStartTime := .rosTime 10
  hasStartBracket := true
  hasEndBracket := true
  maxImuGapNs := 10

def firstHanded : FastLioPipeline (scripted [] []) :=
  { firstReady.setReason "" with feed := firstReady.feed.synchronizeNext.1 }

theorem firstHanded_predicts {m : FastLioPipeline (scripted [] [])}
    (h : firstHanded.prepareGroup firstMeasurements true = (m, .ok start)) :
    m.Predicts firstMeasurements start := by
  have hStart : (firstHanded.prepareGroup firstMeasurements true).2 =
      .ok { nanoseconds := 10 } := by decide +kernel
  have hSamples : (firstHanded.prepareGroup firstMeasurements true).1.predictionSamples
      firstMeasurements { nanoseconds := 10 } = .ok firstMeasurements.imuSamples := by
    decide +kernel
  have hScript : @id (List Bool × List Bool)
      (firstHanded.prepareGroup firstMeasurements true).1.estimator = ([], []) := by decide +kernel
  rw [h] at hStart hSamples hScript
  cases hStart
  refine ⟨10, firstMeasurements.imuSamples, ([], []), (), by decide, hSamples, ?_⟩
  change m.estimator = ([], []) at hScript
  rw [hScript]
  rfl

/-- With a prediction that succeeds the state time reaches the epoch. -/
theorem state_time_in_step_delivered :
    (run step (create (scriptedConfig [] [] 1 (by decide))) firstGroup).stateTime =
        some { nanoseconds := 20 } ∧
      InStep (run step (create (scriptedConfig [] [] 1 (by decide))) firstGroup) := by
  refine ⟨by decide +kernel, state_time_in_step _ _ ?_ ?_⟩
  · intro call hCall group hProcess
    subst hProcess
    simp [firstGroup, deliver] at hCall
  · intro e he
    simp only [firstGroup, deliver, events_cons, events_nil, List.mem_cons, List.not_mem_nil,
      or_false] at he
    rcases he with rfl | rfl | rfl | rfl
    · trivial
    · trivial
    · trivial
    · show FollowsSynchronizer firstHanded firstReady.feed.synchronizeNext.2
      have hGroup : firstReady.feed.synchronizeNext.2 = .group firstMeasurements := by
        decide +kernel
      have hNone : firstHanded.stateTime = none := by decide +kernel
      rw [hGroup]
      refine .inr ⟨?_, fun m start hPrepared _ => firstHanded_predicts hPrepared⟩
      intro hSome
      rw [hNone] at hSome
      cases hSome

end FastLioPipeline

end UavNavigation.FastLio
