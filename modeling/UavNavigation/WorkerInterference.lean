import UavNavigation.ExactPropagation
import UavNavigation.PropagatedOdometryWorker
import UavNavigation.CriticalSections

/-!
# What a valid propagator goes back to

A valid propagator has an applied correction in the clock domain of its samples.
Recording and flushing keep it, a replay replaces it.
-/

namespace UavNavigation.FastLio

set_option autoImplicit false

variable {D : Type} [FloatOps D] {K : FilterKernel D}

namespace ImuStatePropagator
variable {p q : ImuStatePropagator K} {sample : ImuSample D}

/-- The applied correction and the latest sample of a valid propagator can be compared. -/
def Anchored (p : ImuStatePropagator K) : Prop :=
  p.valid = true → ∃ corrected latest, p.applied = some corrected ∧
    p.latestImuTime = some latest ∧ corrected.time.clockDomain = latest.clockDomain ∧
    0 ≤ corrected.time.nanoseconds ∧ 0 ≤ latest.nanoseconds

/-- Nothing but what was valid before is valid, and it goes back to the same correction. -/
def Carries (p q : ImuStatePropagator K) : Prop :=
  q.valid = true → p.valid = true ∧ q.applied = p.applied

variable {append : Bool}

theorem positive_of_fault {sample : ImuSample D} (h : sample.fault = none) :
    0 < sample.time.nanoseconds := by
  by_contra hNot
  unfold ImuSample.fault at h
  rw [if_pos (not_lt.mp hNot)] at h
  cases h

theorem recording_carries (hp : Kept p) (h : Recording p sample append q) : Carries p q := by
  intro hValid
  cases h with
  | rejected failure => cases hValid
  | restarted hSound hEpoch =>
    unfold restartContinuity at hValid
    rw [if_neg hEpoch] at hValid
    cases hValid
  | recorded hContinues =>
    obtain ⟨-, history, hPruned⟩ := (hp.record hContinues append).prune
    unfold recordImu at hValid ⊢
    dsimp only at hValid ⊢
    rw [hPruned] at hValid ⊢
    exact ⟨hValid, rfl⟩

theorem Anchored.recording (h : Anchored p) (hp : Kept p)
    (hRecording : Recording p sample append q) : Anchored q := by
  intro hValid
  obtain ⟨hBefore, hApplied⟩ := recording_carries hp hRecording hValid
  obtain ⟨corrected, latest, hCorrected, hLatest, hDomain, hFirst, -⟩ := h hBefore
  cases hRecording with
  | rejected failure => cases hValid
  | restarted hSound hEpoch =>
    unfold restartContinuity at hValid
    rw [if_neg hEpoch] at hValid
    cases hValid
  | recorded hContinues =>
    refine ⟨corrected, sample.time, hApplied.trans hCorrected, ?_, ?_, hFirst,
      le_of_lt (positive_of_fault hContinues.sound)⟩
    · obtain ⟨-, history, hPruned⟩ := (hp.record hContinues append).prune
      unfold recordImu
      dsimp only
      rw [hPruned]
    · rw [hDomain, hContinues.domain latest hLatest]

theorem restarted_invalid
    (h : (p.validateAndRecordImu sample append).2.disposition = .continuityRestarted) :
    (p.validateAndRecordImu sample append).1.valid = false := by
  unfold validateAndRecordImu at h ⊢
  split
  · rfl
  split
  · rename_i hSound _ hFirst
    simp only [hSound, hFirst] at h
    cases h
  rename_i hSound _ latest hLatest
  simp only [hSound, hLatest] at h
  split
  · rfl
  rename_i hDomain
  rw [if_neg hDomain] at h
  split
  · rfl
  rename_i hAfter
  rw [if_neg hAfter] at h
  split
  · rfl
  rename_i interval hInterval
  rw [hInterval] at h
  dsimp only at h
  split
  · unfold restartContinuity
    dsimp only
    split <;> rfl
  · rename_i hNear
    rw [if_neg hNear] at h
    cases h

theorem flush_carries (hp : Kept p) : Carries p p.flushPendingPrediction.1 ∧
    p.flushPendingPrediction.1.latestImuTime = p.latestImuTime := by
  rcases p.flush_cases with ⟨hSame, -⟩ | ⟨estimator, status, hFailed⟩ |
    ⟨propagated, next, estimator, trajectory, hPropagated, hNext, hReady, hPredicted, hDone⟩
  · rw [hSame]
    exact ⟨fun hValid => ⟨hValid, rfl⟩, rfl⟩
  · rw [hFailed]
    refine ⟨?_, rfl⟩
    intro hValid
    cases hValid
  · rw [hDone]
    refine ⟨fun _ => ⟨?_, rfl⟩, rfl⟩
    have hReanchor := hp.reanchor
    rw [hReady] at hReanchor
    simpa using hReanchor.symm

theorem Anchored.flush (h : Anchored p) (hp : Kept p) : Anchored p.flushPendingPrediction.1 := by
  intro hValid
  obtain ⟨hCarries, hSame⟩ := flush_carries hp
  obtain ⟨hBefore, hApplied⟩ := hCarries hValid
  rw [hApplied, hSame]
  exact h hBefore

theorem replay_anchors (hp : Kept p) (corrected : K.Estimate) :
    Anchored (p.reanchorAndReplay corrected).1 ∧ ((p.reanchorAndReplay corrected).2 = .ok () ∧
          (p.reanchorAndReplay corrected).1.valid = true ∧
          (p.reanchorAndReplay corrected).1.applied = some corrected ∨
        (∃ failure, (p.reanchorAndReplay corrected).2 = .error failure) ∧
          (p.reanchorAndReplay corrected).1.valid = false) := by
  rcases replay_cases corrected p with ⟨estimator, previous, status, hFailed⟩ |
    ⟨firstIndex, latest, estimator, trajectory, hBracket, hLatest, hDomain, hPredicted, hDone⟩
  · rw [hFailed]
    refine ⟨?_, .inr ⟨⟨status, rfl⟩, rfl⟩⟩
    intro hValid
    cases hValid
  · obtain ⟨-, history, hPruned⟩ := (hp.replayed corrected estimator latest).prune
    obtain ⟨-, ⟨x, hx, hxt⟩, -⟩ := bracketHistory_ok hBracket
    have hIn : x ∈ p.recorded := by
      have hHistory := List.mem_of_mem_drop (List.mem_of_mem_head? hx)
      exact hp.suffix.subset hHistory
    have hStart := positive_of_fault (hp.sound x hIn)
    have hLast := List.getLast?_eq_some_getLast (List.ne_nil_of_mem hIn)
    have hTime := hp.latest_of_getLast hLast
    have hEnd := positive_of_fault (hp.sound _ (List.getLast_mem (List.ne_nil_of_mem hIn)))
    rw [hDone, hPruned]
    refine ⟨fun _ => ⟨corrected, latest, rfl, ?_, hDomain, ?_, ?_⟩, .inl ⟨rfl, rfl, rfl⟩⟩
    · show p.latestImuTime = some latest
      rw [hLatest, hTime]
      rfl
    · exact le_of_lt (lt_of_lt_of_le hStart hxt)
    · rw [hLatest, hTime]
      exact le_of_lt hEnd

theorem kinematicEstimate_time (hp : Kept p) {e : KinematicStateEstimate K}
    (h : p.kinematicEstimate = some e) :
    p.valid = true ∧ p.latestImuTime = some e.estimate.time := by
  unfold kinematicEstimate at h
  split at h
  · rename_i estimate x hEstimate hx
    have hValid : p.valid = true := by
      cases hInvalid : p.valid with
      | false =>
        rw [estimate_invalid hInvalid] at hEstimate
        cases hEstimate
      | true => rfl
    split at h
    · rename_i hTime
      have hSame : e.estimate = estimate := by
        unfold resolveExact at h
        dsimp only at h
        split at h
        · cases h
          rfl
        · cases h
      have hLast : x ∈ p.recorded.getLast? := by
        obtain ⟨old, hOld⟩ := hp.suffix
        rw [← hOld, List.getLast?_append, hx]
        rfl
      refine ⟨hValid, ?_⟩
      rw [hp.latest_of_getLast hLast, hSame, hTime]
    · cases h
  · cases h

end ImuStatePropagator

/-! ## What the producers can do to the worker -/

open Sections

def EstimatorStateUpdate.Valid (update : EstimatorStateUpdate K) : Prop :=
  update.status = .tracking ∧ update.navigationValid = true

def ProducerCall.Invalidates (call : ProducerCall K) : Prop :=
  ∃ update, call = .enqueueEstimatorState update ∧ ¬update.Valid

def PendingCorrection.Genuine (c : PendingCorrection K) (log : List (ProducerCall K)) : Prop :=
  ∃ i update, log[i]? = some (.enqueueEstimatorState update) ∧ c.acceptedAt = i + 1 ∧
    update.Valid ∧ update.correctedEstimate = some c.estimate ∧
    update.correctionSequence = c.correctionSequence

theorem PendingCorrection.Genuine.mono {c : PendingCorrection K} {log more : List (ProducerCall K)}
    (h : c.Genuine log) (hPrefix : log <+: more) : c.Genuine more := by
  obtain ⟨i, update, hCall, hRest⟩ := h
  refine ⟨i, update, ?_, hRest⟩
  obtain ⟨hIn, -⟩ := List.getElem?_eq_some_iff.mp hCall
  obtain ⟨rest, rfl⟩ := hPrefix
  rw [List.getElem?_append_left hIn]
  exact hCall

namespace PropagatedOdometryWorker
variable {w s t u : PropagatedOdometryWorker K} {c : PendingCorrection K}

def MainValid (w : PropagatedOdometryWorker K) : Prop :=
  w.mainStatus = .tracking ∧ w.navigationValid = true

structure Known (w : PropagatedOdometryWorker K) (c : PendingCorrection K) : Prop where
  generation : c.controlGeneration ≤ w.controlGeneration
  after : c.controlGeneration = w.controlGeneration → w.generationBornAt < c.acceptedAt
  genuine : c.Genuine w.log
  identified : c.correctionSequence ≠ 0

def Newer (w : PropagatedOdometryWorker K) (c : PendingCorrection K) : Prop :=
  w.notNewerThanApplied c.correctionSequence c.estimate.time = false

structure Waits (w : PropagatedOdometryWorker K) (c : PendingCorrection K) : Prop where
  known : Known w c
  current : c.controlGeneration = w.controlGeneration
  newer : Newer w c
  main : w.stopRequested = false → MainValid w

/-- What holds wherever the worker and its producers are. -/
structure Sound (w : PropagatedOdometryWorker K) : Prop where
  kept : w.propagator.Kept
  anchored : w.propagator.Anchored
  closed : w.accepting = false → w.stopRequested = true
  born : w.generationBornAt ≤ w.log.length
  shed : w.stopRequested = false → w.shedAt ≤ w.generationBornAt
  invalidated : w.stopRequested = false → ∀ i call, w.log[i]? = some call → call.Invalidates →
    i < w.generationBornAt
  pending : ∀ c, w.pendingCorrection = some c → Waits w c

theorem create_sound (config : PropagatedOdometryWorkerConfig) :
    Sound (create config : PropagatedOdometryWorker K) where
  kept := ImuStatePropagator.create_kept config.propagator
  anchored := fun h => by cases h
  closed := fun h => by cases h
  born := Nat.le_refl _
  shed := fun _ => Nat.le_refl _
  invalidated := fun _ i call h => by simp [create] at h
  pending := fun c h => by cases h

/-- What `enqueueEstimatorState` can do. -/
inductive Enqueueing (w : PropagatedOdometryWorker K) (update : EstimatorStateUpdate K) :
    PropagatedOdometryWorker K → Prop where
  | refused (hClosed : w.accepting = false) : Enqueueing w update w
  | exhausted (hInvalid : ¬update.Valid) : Enqueueing w update { w with
      mainStatus := update.status
      navigationValid := update.navigationValid
      accepting := false
      suspended := true
      stopRequested := true }
  | invalidated (hOpen : w.accepting = true) (hInvalid : ¬update.Valid) :
      Enqueueing w update { w with
        mainStatus := update.status
        navigationValid := update.navigationValid
        controlGeneration := w.controlGeneration + 1
        generationBornAt := w.log.length
        pendingCorrection := none
        invalidationRequested := true }
  | noted (hValid : update.Valid) : Enqueueing w update { w with
      mainStatus := update.status
      navigationValid := update.navigationValid }
  | stored (hValid : update.Valid) (estimate : K.Estimate)
      (hEstimate : update.correctedEstimate = some estimate)
      (hIdentified : update.correctionSequence ≠ 0)
      (hNewer : w.notNewerThanApplied update.correctionSequence estimate.time = false)
      (hBeyond : ∀ held, w.pendingCorrection = some held →
        held.correctionSequence < update.correctionSequence ∧
          held.estimate.time.nanoseconds ≤ estimate.time.nanoseconds) :
      Enqueueing w update { w with
        mainStatus := update.status
        navigationValid := update.navigationValid
        pendingCorrection := some ⟨estimate, update.correctionSequence, w.controlGeneration,
          w.log.length⟩
        lastCorrectionTime := some estimate.time
        correctionRequested := true }

theorem enqueueEstimatorState_enqueueing (update : EstimatorStateUpdate K)
    (w : PropagatedOdometryWorker K) :
    Enqueueing w update (w.enqueueEstimatorState update).1 := by
  unfold enqueueEstimatorState
  split
  · rename_i hClosed
    exact .refused (by simpa using hClosed)
  rename_i hOpen
  dsimp only
  split
  · rename_i hInvalid
    have hNot : ¬update.Valid := by
      rintro ⟨hStatus, hNavigation⟩
      rcases hInvalid with h | h
      · exact h hStatus
      · rw [hNavigation] at h
        cases h
    unfold advanceControlGeneration
    by_cases hLast : w.controlGeneration = 2 ^ 64 - 1
    · simp only [hLast, if_true]
      have hExhausted := Enqueueing.exhausted (w := w) hNot
      simpa only [hLast] using hExhausted
    · simp only [hLast, if_false]
      exact .invalidated (by simpa using hOpen) hNot
  · rename_i hInvalid
    have hValid : update.Valid := by
      simpa [EstimatorStateUpdate.Valid] using hInvalid
    split
    · exact .noted hValid
    rename_i estimate hEstimate
    unfold enqueueCorrection
    split
    · exact .noted hValid
    rename_i hSound
    split
    · exact .noted hValid
    split
    · exact .noted hValid
    split
    · exact .noted hValid
    rename_i hNewer
    split
    · exact .noted hValid
    rename_i hBeyond
    apply Enqueueing.stored hValid estimate hEstimate
    · exact fun h => hSound (.inl h)
    · exact Bool.eq_false_iff.mpr hNewer
    · intro held hHeld
      simp only [hHeld] at hBeyond
      simpa using hBeyond

/-! ## Interference -/

/-- What the producers can do between two sections of the worker. -/
structure Interference (s t : PropagatedOdometryWorker K) : Prop where
  config : t.config = s.config
  propagator : t.propagator = s.propagator
  lastApplied : t.lastAppliedCorrectionTime = s.lastAppliedCorrectionTime ∧
    t.lastAppliedCorrectionSequence = s.lastAppliedCorrectionSequence
  lastPublished : t.lastPublishedTime = s.lastPublishedTime
  replaying : t.replayInProgress = s.replayInProgress ∧ t.inFlight = s.inFlight
  replayed : t.replayed = s.replayed
  shedAt : t.shedAt = s.shedAt
  suspended : s.suspended = true → t.suspended = true
  loadShed : s.loadShedRequested = true → t.loadShedRequested = true
  reset : s.resetRequested = true → t.resetRequested = true
  invalidation : s.invalidationRequested = true → t.invalidationRequested = true
  stopped : s.stopRequested = true → t.stopRequested = true
  log : s.log <+: t.log
  generation : s.controlGeneration ≤ t.controlGeneration
  born : t.controlGeneration = s.controlGeneration → t.generationBornAt = s.generationBornAt
  changed : s.controlGeneration < t.controlGeneration → t.invalidationRequested = true
  main : MainValid s → MainValid t ∨ s.controlGeneration < t.controlGeneration ∨
    t.stopRequested = true
  shedCalls : ∀ i, s.log.length ≤ i → t.log[i]? = some .requestLoadShedding →
    t.loadShedRequested = true
  resetCalls : Sound s → ∀ i, s.log.length ≤ i → t.log[i]? = some .reset →
    t.resetRequested = true ∨ t.stopRequested = true
  sound : Sound s → Sound t ∧ s.generationBornAt ≤ t.generationBornAt

variable {call : ProducerCall K} {update : EstimatorStateUpdate K}

theorem Interference.refl (s : PropagatedOdometryWorker K) : Interference s s where
  config := rfl
  propagator := rfl
  lastApplied := ⟨rfl, rfl⟩
  lastPublished := rfl
  replaying := ⟨rfl, rfl⟩
  replayed := rfl
  shedAt := rfl
  suspended := id
  loadShed := id
  reset := id
  invalidation := id
  stopped := id
  log := List.prefix_refl _
  generation := Nat.le_refl _
  born := fun _ => rfl
  changed := fun h => absurd h (Nat.lt_irrefl _)
  main := .inl
  shedCalls := by
    intro i hi h
    rw [List.getElem?_eq_none hi] at h
    cases h
  resetCalls := by
    intro _ i hi h
    rw [List.getElem?_eq_none hi] at h
    cases h
  sound := fun h => ⟨h, Nat.le_refl _⟩

/-- A call that came after `s` came after `t` or is among those of `t`. -/
theorem log_cases {t u : PropagatedOdometryWorker K} (htu : t.log <+: u.log) {i : Nat}
    (h : u.log[i]? = some call) : t.log[i]? = some call ∨ t.log.length ≤ i := by
  rcases Nat.lt_or_ge i t.log.length with hi | hi
  · left
    obtain ⟨rest, hRest⟩ := htu
    rw [← hRest, List.getElem?_append_left hi] at h
    exact h
  · exact .inr hi

theorem Interference.trans (hst : Interference s t) (htu : Interference t u) :
    Interference s u where
  config := htu.config.trans hst.config
  propagator := htu.propagator.trans hst.propagator
  lastApplied := ⟨htu.lastApplied.1.trans hst.lastApplied.1,
    htu.lastApplied.2.trans hst.lastApplied.2⟩
  lastPublished := htu.lastPublished.trans hst.lastPublished
  replaying := ⟨htu.replaying.1.trans hst.replaying.1, htu.replaying.2.trans hst.replaying.2⟩
  replayed := htu.replayed.trans hst.replayed
  shedAt := htu.shedAt.trans hst.shedAt
  suspended := fun h => htu.suspended (hst.suspended h)
  loadShed := fun h => htu.loadShed (hst.loadShed h)
  reset := fun h => htu.reset (hst.reset h)
  invalidation := fun h => htu.invalidation (hst.invalidation h)
  stopped := fun h => htu.stopped (hst.stopped h)
  log := hst.log.trans htu.log
  generation := Nat.le_trans hst.generation htu.generation
  born := by
    intro hSame
    have hFirst := hst.generation
    have hSecond := htu.generation
    rw [htu.born (by omega), hst.born (by omega)]
  changed := by
    intro hChanged
    rcases Nat.lt_or_ge s.controlGeneration t.controlGeneration with h | h
    · exact htu.invalidation (hst.changed h)
    · exact htu.changed (by omega)
  main := by
    intro hMain
    have hSecond := htu.generation
    rcases hst.main hMain with h | h | h
    · rcases htu.main h with h | h | h
      · exact .inl h
      · exact .inr (.inl (Nat.lt_of_le_of_lt hst.generation h))
      · exact .inr (.inr h)
    · exact .inr (.inl (by omega))
    · exact .inr (.inr (htu.stopped h))
  shedCalls := by
    intro i hi h
    rcases log_cases htu.log h with hCall | hLate
    · exact htu.loadShed (hst.shedCalls i hi hCall)
    · exact htu.shedCalls i hLate h
  resetCalls := by
    intro hSound i hi h
    rcases log_cases htu.log h with hCall | hLate
    · exact (hst.resetCalls hSound i hi hCall).imp htu.reset htu.stopped
    · exact htu.resetCalls (hst.sound hSound).1 i hLate h
  sound := by
    intro hSound
    obtain ⟨ht, hFirst⟩ := hst.sound hSound
    obtain ⟨hu, hSecond⟩ := htu.sound ht
    exact ⟨hu, Nat.le_trans hFirst hSecond⟩

section
variable {log : List (ProducerCall K)} {other : ProducerCall K} {i : Nat}

theorem getElem?_concat_cases (h : (log ++ [call])[i]? = some other) :
    log[i]? = some other ∨ i = log.length ∧ other = call := by
  rcases Nat.lt_trichotomy i log.length with hi | rfl | hi
  · rw [List.getElem?_append_left hi] at h
    exact .inl h
  · rw [List.getElem?_concat_length] at h
    exact .inr ⟨rfl, (Option.some.inj h).symm⟩
  · rw [List.getElem?_eq_none (by rw [List.length_append, List.length_singleton]; omega)] at h
    cases h

theorem newest_call
    (hi : log.length ≤ i) (h : (log ++ [call])[i]? = some other) : other = call := by
  rcases getElem?_concat_cases h with hOld | ⟨-, hCall⟩
  · rw [List.getElem?_eq_none hi] at hOld
    cases hOld
  · exact hCall

end

section
variable (s : PropagatedOdometryWorker K)

theorem Interference.of_flags {ingress : List (ImuSample D)}
    {loadShed reset stopped accepting suspended navigation : Bool} {status : EstimatorStatus}
    (hLoadShed : s.loadShedRequested = true → loadShed = true)
    (hReset : s.resetRequested = true → reset = true)
    (hStopped : s.stopRequested = true → stopped = true)
    (hSuspended : s.suspended = true → suspended = true)
    (hAccepting : accepting = false → s.accepting = false ∨ stopped = true)
    (hMain : MainValid s → status = .tracking ∧ navigation = true ∨ stopped = true)
    (hShed : call = .requestLoadShedding → loadShed = true)
    (hResets : call = .reset → reset = true ∨ s.accepting = false)
    (hInvalidates : call.Invalidates → s.accepting = false ∨ stopped = true) :
    Interference s { s with
      log := s.log ++ [call]
      imuIngress := ingress
      loadShedRequested := loadShed
      resetRequested := reset
      stopRequested := stopped
      accepting := accepting
      suspended := suspended
      mainStatus := status
      navigationValid := navigation } where
  config := rfl
  propagator := rfl
  lastApplied := ⟨rfl, rfl⟩
  lastPublished := rfl
  replaying := ⟨rfl, rfl⟩
  replayed := rfl
  shedAt := rfl
  suspended := hSuspended
  loadShed := hLoadShed
  reset := hReset
  invalidation := id
  stopped := hStopped
  log := List.prefix_append _ _
  generation := Nat.le_refl _
  born := fun _ => rfl
  changed := fun h => absurd h (Nat.lt_irrefl _)
  main := fun h => (hMain h).imp id .inr
  shedCalls := by
    intro i hi h
    exact hShed (newest_call hi h).symm
  resetCalls := by
    intro hSound i hi h
    exact (hResets (newest_call hi h).symm).imp id fun hClosed => hStopped (hSound.closed hClosed)
  sound := by
    intro hSound
    have hRunning (h : stopped = false) : s.stopRequested = false := by
      cases hBefore : s.stopRequested with
      | false => rfl
      | true =>
        rw [hStopped hBefore] at h
        cases h
    refine ⟨⟨hSound.kept, hSound.anchored, ?_, ?_, fun h => hSound.shed (hRunning h), ?_, ?_⟩,
      Nat.le_refl _⟩
    · intro hClosed
      exact (hAccepting hClosed).elim (fun h => hStopped (hSound.closed h)) id
    · exact Nat.le_trans hSound.born (by simp)
    · intro h i other hOther hInvalid
      rcases getElem?_concat_cases hOther with hOld | ⟨-, rfl⟩
      · exact hSound.invalidated (hRunning h) i other hOld hInvalid
      · change stopped = false at h
        have hStop : stopped = true :=
          (hInvalidates hInvalid).elim (fun hClosed => hStopped (hSound.closed hClosed)) id
        rw [hStop] at h
        cases h
    · intro c hc
      obtain ⟨hKnown, hCurrent, hNewer, hValid⟩ := hSound.pending c hc
      refine ⟨⟨hKnown.generation, hKnown.after, hKnown.genuine.mono (List.prefix_append _ _),
        hKnown.identified⟩, hCurrent, hNewer, ?_⟩
      intro h
      change stopped = false at h
      rcases hMain (hValid (hRunning h)) with hGood | hStop
      · exact hGood
      · rw [hStop] at h
        cases h

theorem Interference.invalidate (update : EstimatorStateUpdate K) : Interference s { s with
      log := s.log ++ [.enqueueEstimatorState update]
      mainStatus := update.status
      navigationValid := update.navigationValid
      controlGeneration := s.controlGeneration + 1
      generationBornAt := (s.log ++ [ProducerCall.enqueueEstimatorState update]).length
      pendingCorrection := none
      invalidationRequested := true } where
  config := rfl
  propagator := rfl
  lastApplied := ⟨rfl, rfl⟩
  lastPublished := rfl
  replaying := ⟨rfl, rfl⟩
  replayed := rfl
  shedAt := rfl
  suspended := id
  loadShed := id
  reset := id
  invalidation := fun _ => rfl
  stopped := id
  log := List.prefix_append _ _
  generation := Nat.le_succ _
  born := fun h => absurd h (Nat.succ_ne_self _)
  changed := fun _ => rfl
  main := fun _ => .inr (.inl (Nat.lt_succ_self _))
  shedCalls := by
    intro i hi h
    cases newest_call hi h
  resetCalls := by
    intro _ i hi h
    cases newest_call hi h
  sound := by
    intro hSound
    have hLength : s.generationBornAt ≤ (s.log ++ [ProducerCall.enqueueEstimatorState update]).length :=
      Nat.le_trans hSound.born (by simp)
    refine ⟨⟨hSound.kept, hSound.anchored, hSound.closed, Nat.le_refl _, ?_, ?_, ?_⟩, hLength⟩
    · exact fun h => Nat.le_trans (hSound.shed h) hLength
    · intro _ i other hOther _
      obtain ⟨hIn, -⟩ := List.getElem?_eq_some_iff.mp hOther
      exact hIn
    · intro c hc
      cases hc

theorem Interference.store (hValid : update.Valid)
    {estimate : K.Estimate} (hEstimate : update.correctedEstimate = some estimate)
    (hIdentified : update.correctionSequence ≠ 0)
    (hNewer : s.notNewerThanApplied update.correctionSequence estimate.time = false) :
    Interference s { s with
      log := s.log ++ [.enqueueEstimatorState update]
      mainStatus := update.status
      navigationValid := update.navigationValid
      pendingCorrection := some ⟨estimate, update.correctionSequence, s.controlGeneration,
        (s.log ++ [ProducerCall.enqueueEstimatorState update]).length⟩
      lastCorrectionTime := some estimate.time
      correctionRequested := true } where
  config := rfl
  propagator := rfl
  lastApplied := ⟨rfl, rfl⟩
  lastPublished := rfl
  replaying := ⟨rfl, rfl⟩
  replayed := rfl
  shedAt := rfl
  suspended := id
  loadShed := id
  reset := id
  invalidation := id
  stopped := id
  log := List.prefix_append _ _
  generation := Nat.le_refl _
  born := fun _ => rfl
  changed := fun h => absurd h (Nat.lt_irrefl _)
  main := fun _ => .inl hValid
  shedCalls := by
    intro i hi h
    cases newest_call hi h
  resetCalls := by
    intro _ i hi h
    cases newest_call hi h
  sound := by
    intro hSound
    refine ⟨⟨hSound.kept, hSound.anchored, hSound.closed, ?_, hSound.shed, ?_, ?_⟩, Nat.le_refl _⟩
    · exact Nat.le_trans hSound.born (by simp)
    · intro hRunning i other hOther hInvalid
      rcases getElem?_concat_cases hOther with hOld | ⟨-, rfl⟩
      · exact hSound.invalidated hRunning i other hOld hInvalid
      · obtain ⟨other, hCall, hNot⟩ := hInvalid
        cases hCall
        exact absurd hValid hNot
    · intro c hc
      cases hc
      refine ⟨⟨Nat.le_refl _, fun _ => ?_, ?_, hIdentified⟩, rfl, hNewer, fun _ => hValid⟩
      · have hBorn := hSound.born
        simp only [List.length_append, List.length_singleton]
        omega
      · exact ⟨s.log.length, update, List.getElem?_concat_length, by simp, hValid, hEstimate, rfl⟩

theorem produce_interference (call : ProducerCall K) : Interference s (s.produce call) := by
  unfold produce
  cases call with
  | enqueueImu sample =>
    have hNot : ¬(ProducerCall.enqueueImu sample : ProducerCall K).Invalidates := by
      rintro ⟨update, hCall, -⟩
      cases hCall
    unfold handle enqueueImu
    dsimp only
    split
    · exact .of_flags s id id id id .inl .inl nofun nofun fun h => absurd h hNot
    split
    · exact .of_flags s (fun _ => rfl) id id id .inl .inl nofun nofun fun h => absurd h hNot
    · exact .of_flags s id id id id .inl .inl nofun nofun fun h => absurd h hNot
  | enqueueEstimatorState update =>
    have hCases := enqueueEstimatorState_enqueueing update
      { s with log := s.log ++ [.enqueueEstimatorState update] }
    unfold handle
    dsimp only
    generalize (({ s with log := s.log ++ [.enqueueEstimatorState update] } :
      PropagatedOdometryWorker K).enqueueEstimatorState update).1 = r at hCases ⊢
    cases hCases with
    | refused hClosed =>
      exact .of_flags s id id id id .inl .inl nofun nofun fun _ => .inl hClosed
    | exhausted hInvalid =>
      exact .of_flags s id id (fun _ => rfl) (fun _ => rfl) (fun _ => .inr rfl)
        (fun _ => .inr rfl) nofun nofun fun _ => .inr rfl
    | invalidated hOpen hInvalid => exact .invalidate s update
    | noted hValid =>
      refine .of_flags s id id id id .inl (fun _ => .inl hValid) nofun nofun ?_
      rintro ⟨other, hCall, hNot⟩
      cases hCall
      exact absurd hValid hNot
    | stored hValid estimate hEstimate hIdentified hNewer hBeyond =>
      exact .store s hValid hEstimate hIdentified hNewer
  | requestLoadShedding =>
    have hNot : ¬(ProducerCall.requestLoadShedding : ProducerCall K).Invalidates := by
      rintro ⟨update, hCall, -⟩
      cases hCall
    exact .of_flags s (fun _ => rfl) id id id .inl .inl (fun _ => rfl) nofun
      fun h => absurd h hNot
  | reset =>
    have hNot : ¬(ProducerCall.reset : ProducerCall K).Invalidates := by
      rintro ⟨update, hCall, -⟩
      cases hCall
    unfold handle reset
    dsimp only
    split
    · rename_i hClosed
      refine .of_flags s id id id id .inl .inl nofun (fun _ => .inr ?_) fun h => absurd h hNot
      simpa using hClosed
    · exact .of_flags s id (fun _ => rfl) id id .inl .inl nofun (fun _ => .inl rfl)
        fun h => absurd h hNot
  | stop =>
    exact .of_flags s id id (fun _ => rfl) id (fun _ => .inr rfl) (fun _ => .inr rfl) nofun nofun
      fun _ => .inr rfl

end

theorem handle_accepting (w : PropagatedOdometryWorker K) (call : ProducerCall K)
    (h : (w.handle call).accepting = true) : w.accepting = true := by
  cases call with
  | enqueueImu sample =>
    change (w.enqueueImu sample).1.accepting = true at h
    revert h
    fun_cases enqueueImu
    all_goals intro h
    all_goals exact h
  | enqueueEstimatorState update =>
    have hCases := enqueueEstimatorState_enqueueing update w
    change (w.enqueueEstimatorState update).1.accepting = true at h
    generalize (w.enqueueEstimatorState update).1 = t at h hCases
    cases hCases with
    | refused => exact h
    | exhausted => cases h
    | invalidated hOpen => exact hOpen
    | noted => exact h
    | stored => exact h
  | requestLoadShedding => exact h
  | reset =>
    change w.reset.accepting = true at h
    unfold reset at h
    split at h <;> exact h
  | stop => cases h

theorem enqueueEstimatorState_invalid {w : PropagatedOdometryWorker K} (hInvalid : ¬update.Valid)
    (h : (w.enqueueEstimatorState update).1.accepting = true) :
    (w.enqueueEstimatorState update).2 = true := by
  have hOpen := handle_accepting w (.enqueueEstimatorState update) h
  have hLoss : update.status ≠ .tracking ∨ (!update.navigationValid) = true := by
    simpa [EstimatorStateUpdate.Valid, or_iff_not_imp_left] using hInvalid
  unfold enqueueEstimatorState advanceControlGeneration at h ⊢
  rw [if_neg (by simp [hOpen]), if_pos hLoss] at h ⊢
  by_cases hLast : w.controlGeneration = 2 ^ 64 - 1
  · rw [if_pos hLast] at h
    cases h
  · rw [if_neg hLast]

end PropagatedOdometryWorker

/-! ## The cycle of the worker -/

open Sections ImuStatePropagator

namespace PropagatedOdometryWorker
variable {w t : PropagatedOdometryWorker K} {c : PendingCorrection K} {r : Replayed K}
  {sofar : List (WorkerOutput K)} {startedAt cycleGeneration : Nat}

/-- The propagator stands on an applied correction of the current generation. -/
structure Standing (w : PropagatedOdometryWorker K) (r : Replayed K) : Prop where
  generation : r.correction.controlGeneration = w.controlGeneration
  after : w.generationBornAt < r.correction.acceptedAt
  genuine : r.correction.Genuine w.log
  lastApplied : w.lastAppliedCorrectionTime = some r.correction.estimate.time

/-- A valid propagator stands on what was replayed last, unless a request is waiting. -/
def Settled (w : PropagatedOdometryWorker K) : Prop :=
  w.stopRequested = false → w.propagator.valid = true → ∃ r, w.replayed = some r ∧
    w.propagator.applied = some r.correction.estimate ∧
    (w.loadShedRequested = false → ∀ i, w.log[i]? = some .requestLoadShedding → i < r.replayedAt) ∧
    (w.loadShedRequested = false → w.invalidationRequested = false → Standing w r)

/-- What was put out stays behind what the worker remembers. -/
structure Remembers (w : PropagatedOdometryWorker K) (sofar : List (WorkerOutput K)) : Prop where
  published : ∀ p, .published p ∈ sofar → ∃ time, w.lastPublishedTime = some time ∧
    p.estimate.estimate.time.nanoseconds ≤ time.nanoseconds
  applied : ∀ c, .applied c ∈ sofar → c.correctionSequence ≤ w.lastAppliedCorrectionSequence ∧
    ∃ time, w.lastAppliedCorrectionTime = some time ∧ c.estimate.time.nanoseconds ≤ time.nanoseconds

/-- What holds in a cycle whatever its sections have done. `startedAt` counts the calls before
the cycle polled its requests; the generation was `cycleGeneration` or older when it read it. -/
structure Ongoing (startedAt cycleGeneration : Nat) (sofar : List (WorkerOutput K))
    (w : PropagatedOdometryWorker K) : Prop where
  sound : Sound w
  remembers : Remembers w sofar
  resets : w.stopRequested = false → w.resetRequested = false →
    ∀ i, w.log[i]? = some .reset → i < w.generationBornAt
  started : startedAt ≤ w.log.length
  polled : w.stopRequested = false → ∀ i, i < startedAt → w.log[i]? = some .reset →
    i < w.generationBornAt
  cycle : cycleGeneration ≤ w.controlGeneration

structure Cycle (startedAt cycleGeneration : Nat) (sofar : List (WorkerOutput K))
    (w : PropagatedOdometryWorker K) : Prop where
  ongoing : Ongoing startedAt cycleGeneration sofar w
  idle : w.replayInProgress = false ∧ w.inFlight = none
  settled : Settled w

theorem settled_of_invalid (h : w.propagator.valid = false) : Settled w := by
  intro _ hValid
  rw [h] at hValid
  cases hValid

theorem settled_of_stopped (h : w.stopRequested = true) : Settled w := by
  intro hRunning
  rw [h] at hRunning
  cases hRunning

theorem flag_before {a b : Bool} (h : a = true → b = true) (hb : b = false) : a = false := by
  cases a with
  | false => rfl
  | true =>
    rw [h rfl] at hb
    cases hb

section Interference
variable (h : Interference w t)
include h

theorem Newer.of_interference (hc : Newer w c) : Newer t c := by
  unfold Newer notNewerThanApplied at hc ⊢
  rw [h.lastApplied.1, h.lastApplied.2]
  exact hc

theorem Known.of_interference (hc : Known w c) : Known t c where
  generation := Nat.le_trans hc.generation h.generation
  after := by
    intro hSame
    have hFirst := hc.generation
    have hSecond := h.generation
    rw [h.born (by omega)]
    exact hc.after (by omega)
  genuine := hc.genuine.mono h.log
  identified := hc.identified

theorem Standing.of_interference (hInvalidation : t.invalidationRequested = false)
    (hr : Standing w r) : Standing t r := by
  have hSame : t.controlGeneration = w.controlGeneration := by
    rcases Nat.lt_or_ge w.controlGeneration t.controlGeneration with hChanged | hLe
    · rw [h.changed hChanged] at hInvalidation
      cases hInvalidation
    · exact Nat.le_antisymm hLe h.generation
  exact ⟨hr.generation.trans hSame.symm, by rw [h.born hSame]; exact hr.after,
    hr.genuine.mono h.log, h.lastApplied.1.trans hr.lastApplied⟩

theorem shed_calls_before (hShed : t.loadShedRequested = false) {i : Nat}
    (hi : t.log[i]? = some .requestLoadShedding) : w.log[i]? = some .requestLoadShedding := by
  rcases log_cases h.log hi with hOld | hLate
  · exact hOld
  · rw [h.shedCalls i hLate hi] at hShed
    cases hShed

theorem Settled.of_interference (hw : Settled w) : Settled t := by
  intro hRunning hValid
  rw [h.propagator] at hValid ⊢
  obtain ⟨r, hReplayed, hApplied, hShedding, hStanding⟩ :=
    hw (flag_before h.stopped hRunning) hValid
  refine ⟨r, h.replayed.trans hReplayed, hApplied, ?_, ?_⟩
  · intro hShed i hi
    exact hShedding (flag_before h.loadShed hShed) i (shed_calls_before h hShed hi)
  · intro hShed hInvalidation
    exact (hStanding (flag_before h.loadShed hShed)
      (flag_before h.invalidation hInvalidation)).of_interference h hInvalidation

theorem Remembers.of_interference (hw : Remembers w sofar) : Remembers t sofar where
  published := by
    rw [h.lastPublished]
    exact hw.published
  applied := by
    rw [h.lastApplied.1, h.lastApplied.2]
    exact hw.applied

theorem Ongoing.of_interference (hw : Ongoing startedAt cycleGeneration sofar w) :
    Ongoing startedAt cycleGeneration sofar t := by
  obtain ⟨hSound, hBorn⟩ := h.sound hw.sound
  refine ⟨hSound, hw.remembers.of_interference h, ?_, Nat.le_trans hw.started h.log.length_le, ?_,
    Nat.le_trans hw.cycle h.generation⟩
  · intro hRunning hReset i hi
    rcases log_cases h.log hi with hOld | hLate
    · exact Nat.lt_of_lt_of_le (hw.resets (flag_before h.stopped hRunning)
        (flag_before h.reset hReset) i hOld) hBorn
    · rcases h.resetCalls hw.sound i hLate hi with hSet | hStop
      · rw [hSet] at hReset
        cases hReset
      · rw [hStop] at hRunning
        cases hRunning
  · intro hRunning i hStarted hi
    rcases log_cases h.log hi with hOld | hLate
    · exact Nat.lt_of_lt_of_le (hw.polled (flag_before h.stopped hRunning) i hStarted hOld) hBorn
    · have hLength := hw.started
      omega

theorem Cycle.of_interference (hw : Cycle startedAt cycleGeneration sofar w) :
    Cycle startedAt cycleGeneration sofar t where
  ongoing := hw.ongoing.of_interference h
  idle := ⟨h.replaying.1.trans hw.idle.1, h.replaying.2.trans hw.idle.2⟩
  settled := hw.settled.of_interference h

end Interference

theorem Cycle.weaken (h : Cycle startedAt cycleGeneration sofar w) : Cycle 0 0 sofar w where
  ongoing := ⟨h.ongoing.sound, h.ongoing.remembers, h.ongoing.resets, Nat.zero_le _,
    fun _ i hi => absurd hi (Nat.not_lt_zero i), Nat.zero_le _⟩
  idle := h.idle
  settled := h.settled

/-! ## Sections that leave the generation alone -/

variable {pending : Option (PendingCorrection K)} {q : ImuStatePropagator K}

theorem Sound.update (h : Sound w) (hKept : q.Kept) (hAnchored : q.Anchored)
    (hPending : ∀ c, pending = some c → w.pendingCorrection = some c) (ingress : List (ImuSample D))
    (loadShed reset invalidation correction suspended replaying : Bool)
    (inFlight : Option (PendingCorrection K)) (replayed : Option (Replayed K))
    (lastPublished deadline : Option Timestamp) : Sound { w with
      propagator := q
      pendingCorrection := pending
      imuIngress := ingress
      loadShedRequested := loadShed
      resetRequested := reset
      invalidationRequested := invalidation
      correctionRequested := correction
      suspended := suspended
      replayInProgress := replaying
      inFlight := inFlight
      replayed := replayed
      lastPublishedTime := lastPublished
      nextPublishDeadline := deadline } where
  kept := hKept
  anchored := hAnchored
  closed := h.closed
  born := h.born
  shed := h.shed
  invalidated := h.invalidated
  pending := by
    intro c hc
    obtain ⟨hKnown, hCurrent, hNewer, hMain⟩ := h.pending c (hPending c hc)
    exact ⟨⟨hKnown.generation, hKnown.after, hKnown.genuine, hKnown.identified⟩, hCurrent, hNewer,
      hMain⟩

theorem Ongoing.update (h : Ongoing startedAt cycleGeneration sofar w) (hKept : q.Kept)
    (hAnchored : q.Anchored) (hPending : ∀ c, pending = some c → w.pendingCorrection = some c)
    (ingress : List (ImuSample D)) (loadShed invalidation correction suspended replaying : Bool)
    (inFlight : Option (PendingCorrection K)) (replayed : Option (Replayed K))
    (deadline : Option Timestamp) : Ongoing startedAt cycleGeneration sofar { w with
      propagator := q
      pendingCorrection := pending
      imuIngress := ingress
      loadShedRequested := loadShed
      invalidationRequested := invalidation
      correctionRequested := correction
      suspended := suspended
      replayInProgress := replaying
      inFlight := inFlight
      replayed := replayed
      nextPublishDeadline := deadline } where
  sound := h.sound.update hKept hAnchored hPending _ _ _ _ _ _ _ _ _ _ _
  remembers := ⟨h.remembers.published, h.remembers.applied⟩
  resets := h.resets
  started := h.started
  polled := h.polled
  cycle := h.cycle

theorem Settled.update (h : Settled w) (hCarries : Carries w.propagator q)
    (pending : Option (PendingCorrection K)) (ingress : List (ImuSample D))
    (correction suspended : Bool) (published deadline : Option Timestamp) : Settled { w with
      propagator := q
      pendingCorrection := pending
      imuIngress := ingress
      correctionRequested := correction
      suspended := suspended
      lastPublishedTime := published
      nextPublishDeadline := deadline } := by
  intro hRunning hValid
  obtain ⟨hBefore, hSame⟩ := hCarries hValid
  obtain ⟨r, hReplayed, hApplied, hShedding, hStanding⟩ := h hRunning hBefore
  refine ⟨r, hReplayed, hSame.trans hApplied, hShedding, fun hShed hInvalidation => ?_⟩
  obtain ⟨hGeneration, hAfter, hGenuine, hLast⟩ := hStanding hShed hInvalidation
  exact ⟨hGeneration, hAfter, hGenuine, hLast⟩

section
variable (h : Cycle startedAt cycleGeneration sofar w)
include h

theorem Cycle.flags (ingress : List (ImuSample D))
    (correction suspended : Bool) (deadline : Option Timestamp) :
    Cycle startedAt cycleGeneration sofar { w with
      imuIngress := ingress
      correctionRequested := correction
      suspended := suspended
      nextPublishDeadline := deadline } where
  ongoing := h.ongoing.update h.ongoing.sound.kept h.ongoing.sound.anchored (fun _ => id) _ _ _ _ _
    _ _ _ _
  idle := h.idle
  settled := h.settled.update (fun hValid => ⟨hValid, rfl⟩) _ _ _ _ _ _

theorem Cycle.notePublished {p : Publication K}
    (hLater : ∀ q, .published q ∈ sofar → q.estimate.estimate.time.nanoseconds ≤
      p.estimate.estimate.time.nanoseconds) :
    Cycle startedAt cycleGeneration (sofar ++ [.published p])
      (w.effect (.notePublished p.estimate.estimate.time)) where
  ongoing := by
    have ho := h.ongoing
    refine ⟨ho.sound.update ho.sound.kept ho.sound.anchored (fun _ => id) _ _ _ _ _ _ _ _ _ _ _,
      ⟨?_, ?_⟩, ho.resets, ho.started, ho.polled, ho.cycle⟩
    · intro q hq
      refine ⟨p.estimate.estimate.time, rfl, ?_⟩
      rcases List.mem_append.mp hq with hq | hq
      · exact hLater q hq
      · cases List.mem_singleton.mp hq
        exact le_refl _
    · intro c hc
      rcases List.mem_append.mp hc with hc | hc
      · exact ho.remembers.applied c hc
      · cases List.mem_singleton.mp hc
  idle := h.idle
  settled := h.settled.update (fun hValid => ⟨hValid, rfl⟩) _ _ _ _ _ _

theorem Cycle.propagate (hKept : q.Kept)
    (hAnchored : q.Anchored) (hCarries : Carries w.propagator q) :
    Cycle startedAt cycleGeneration sofar { w with propagator := q } where
  ongoing := h.ongoing.update hKept hAnchored (fun _ => id) _ _ _ _ _ _ _ _ _
  idle := h.idle
  settled := h.settled.update hCarries _ _ _ _ _ _

theorem Cycle.flush : Cycle startedAt cycleGeneration sofar (w.effect .flush) :=
  h.propagate h.ongoing.sound.kept.flush (h.ongoing.sound.anchored.flush h.ongoing.sound.kept)
    (flush_carries h.ongoing.sound.kept).1

theorem Cycle.record (sample : ImuSample D) (append : Bool) : Cycle startedAt cycleGeneration sofar
      { w with propagator := (w.propagator.validateAndRecordImu sample append).1 } := by
  have hKept := h.ongoing.sound.kept
  have hRecording := validateAndRecordImu_recording sample append w.propagator
  exact h.propagate (hKept.recording hRecording)
    (h.ongoing.sound.anchored.recording hKept hRecording)
    (recording_carries hKept hRecording)

end

theorem Ongoing.cycle_of_invalid (h : Ongoing startedAt cycleGeneration sofar w)
    (hIdle : w.replayInProgress = false ∧ w.inFlight = none) (status : PropagatedOdometryStatus) :
    Cycle startedAt cycleGeneration sofar (w.effect (.invalidate status)) where
  ongoing := h.update (h.sound.kept.invalidate status) (fun hValid => by cases hValid) (fun _ => id)
    _ _ _ _ _ _ _ _ _
  idle := hIdle
  settled := settled_of_invalid rfl

/-! ## Sections that begin a generation -/

theorem Sound.advance (h : Sound w) {shedAt : Nat} (hShedAt : w.stopRequested = false →
    shedAt ≤ w.log.length) (ingress : List (ImuSample D))
    (loadShed invalidation correction suspended : Bool) : Sound { w with
      pendingCorrection := none
      controlGeneration := w.controlGeneration + 1
      generationBornAt := w.log.length
      shedAt := shedAt
      imuIngress := ingress
      loadShedRequested := loadShed
      invalidationRequested := invalidation
      correctionRequested := correction
      suspended := suspended } where
  kept := h.kept
  anchored := h.anchored
  closed := h.closed
  born := Nat.le_refl _
  shed := hShedAt
  invalidated := by
    intro _ i call hCall _
    obtain ⟨hIn, -⟩ := List.getElem?_eq_some_iff.mp hCall
    exact hIn
  pending := by
    intro c hc
    cases hc

section
variable (hSound : Sound w) (hRemembers : Remembers w sofar) (hStarted : startedAt ≤ w.log.length)
  (hCycle : cycleGeneration ≤ w.controlGeneration)
include hSound hRemembers hStarted hCycle

theorem ongoing_of_advance
    {shedAt : Nat} (hShedAt : w.stopRequested = false → shedAt ≤ w.log.length)
    (ingress : List (ImuSample D)) (loadShed invalidation correction suspended : Bool) :
    Ongoing startedAt cycleGeneration sofar { w with
      pendingCorrection := none
      controlGeneration := w.controlGeneration + 1
      generationBornAt := w.log.length
      shedAt := shedAt
      imuIngress := ingress
      loadShedRequested := loadShed
      invalidationRequested := invalidation
      correctionRequested := correction
      suspended := suspended } where
  sound := hSound.advance hShedAt _ _ _ _ _
  remembers := ⟨hRemembers.published, hRemembers.applied⟩
  resets := by
    intro _ _ i hi
    exact (List.getElem?_eq_some_iff.mp hi).1
  started := hStarted
  polled := by
    intro _ i _ hi
    exact (List.getElem?_eq_some_iff.mp hi).1
  cycle := Nat.le_succ_of_le hCycle

theorem ongoing_of_exhausted (hPending : ∀ c, pending = some c → w.pendingCorrection = some c)
    (shedAt : Nat) (ingress : List (ImuSample D)) : Ongoing startedAt cycleGeneration sofar { w with
      pendingCorrection := pending
      shedAt := shedAt
      imuIngress := ingress
      accepting := false
      suspended := true
      stopRequested := true } where
  sound := by
    refine ⟨hSound.kept, hSound.anchored, fun _ => rfl, hSound.born, nofun, nofun, ?_⟩
    intro c hc
    obtain ⟨hKnown, hCurrent, hNewer, -⟩ := hSound.pending c (hPending c hc)
    exact ⟨⟨hKnown.generation, hKnown.after, hKnown.genuine, hKnown.identified⟩, hCurrent, hNewer,
      nofun⟩
  remembers := ⟨hRemembers.published, hRemembers.applied⟩
  resets := nofun
  started := hStarted
  polled := nofun
  cycle := hCycle

end

theorem cycle_of_finishReset (hSound : Sound w) (hRemembers : Remembers w sofar)
    (hIdle : w.replayInProgress = false ∧ w.inFlight = none)
    (hInvalid : w.propagator.valid = false) : Cycle 0 0 sofar w.finishReset := by
  unfold finishReset discardPendingCorrection advanceControlGeneration
  by_cases hLast : w.controlGeneration = 2 ^ 64 - 1
  · rw [if_pos hLast]
    exact ⟨ongoing_of_exhausted hSound hRemembers (Nat.zero_le _) (Nat.zero_le _)
      (fun _ hc => by cases hc) _ _, hIdle,
      settled_of_invalid hInvalid⟩
  · rw [if_neg hLast]
    exact ⟨ongoing_of_advance hSound hRemembers (Nat.zero_le _) (Nat.zero_le _)
      (fun hRunning => Nat.le_trans (hSound.shed hRunning) hSound.born) _ _ _ _ _, hIdle,
      settled_of_invalid hInvalid⟩

theorem Ongoing.shedding (h : Ongoing startedAt cycleGeneration sofar w) :
    Ongoing startedAt cycleGeneration sofar w.shed.1 ∧
      (w.shed.1.replayInProgress = w.replayInProgress ∧ w.shed.1.inFlight = w.inFlight) ∧
      (w.shed.2 = true ∨ w.shed.1.stopRequested = true) := by
  unfold shed
  split
  · exact ⟨h, ⟨rfl, rfl⟩, .inl rfl⟩
  · unfold advanceControlGeneration discardPendingCorrection
    by_cases hLast : w.controlGeneration = 2 ^ 64 - 1
    · rw [if_pos hLast]
      exact ⟨ongoing_of_exhausted h.sound h.remembers h.started h.cycle
        (fun _ hc => by cases hc) _ _, ⟨rfl, rfl⟩, .inr rfl⟩
    · rw [if_neg hLast]
      exact ⟨ongoing_of_advance h.sound h.remembers h.started h.cycle
        (fun _ => Nat.le_refl _) _ _ _ _ _, ⟨rfl, rfl⟩, .inl rfl⟩

theorem Cycle.continuityReset (h : Cycle startedAt cycleGeneration sofar w)
    (hInvalid : w.propagator.valid = false) :
    Cycle startedAt cycleGeneration sofar w.handleContinuityReset := by
  have ho := h.ongoing
  unfold handleContinuityReset discardPendingCorrection advanceControlGeneration
  by_cases hLast : w.controlGeneration = 2 ^ 64 - 1
  · rw [if_pos hLast]
    exact ⟨ongoing_of_exhausted ho.sound ho.remembers ho.started ho.cycle (fun _ => id) _ _, h.idle,
      settled_of_invalid hInvalid⟩
  · rw [if_neg hLast]
    exact ⟨ongoing_of_advance ho.sound ho.remembers ho.started ho.cycle
      (fun hRunning => Nat.le_trans (ho.sound.shed hRunning) ho.sound.born) _ _ _ _ _, h.idle,
      settled_of_invalid hInvalid⟩

theorem notNewerThanApplied_iff {correctionSequence : Nat} {correctionTime : Timestamp} :
    w.notNewerThanApplied correctionSequence correctionTime = true ↔
      (w.lastAppliedCorrectionSequence ≠ 0 ∧ correctionSequence ≤ w.lastAppliedCorrectionSequence) ∨
        ∃ time, w.lastAppliedCorrectionTime = some time ∧
          correctionTime.nanoseconds ≤ time.nanoseconds := by
  have hTimes : (∃ time, w.lastAppliedCorrectionTime = some time ∧
      correctionTime.nanoseconds ≤ time.nanoseconds) ↔
      (w.lastAppliedCorrectionTime.any fun t => correctionTime.nanoseconds < t.nanoseconds) = true ∨
      (w.lastAppliedCorrectionTime.any fun t => correctionTime.nanoseconds = t.nanoseconds) =
        true := by
    cases w.lastAppliedCorrectionTime with
    | none => simp
    | some time => simp [le_iff_lt_or_eq]
  rw [hTimes]
  unfold notNewerThanApplied
  simp only [Bool.or_eq_true, Bool.and_eq_true, bne_iff_ne, decide_eq_true_iff]
  constructor
  · rintro ((⟨hSome, hOld⟩ | hOld) | ⟨hSome, hSame⟩ | hSame)
    · exact .inl ⟨hSome, Nat.le_of_lt hOld⟩
    · exact .inr (.inl hOld)
    · exact .inl ⟨hSome, Nat.le_of_eq hSame⟩
    · exact .inr (.inr hSame)
  · rintro (⟨hSome, hLe⟩ | hOld | hSame)
    · rcases Nat.lt_or_eq_of_le hLe with hOld | hSame
      · exact .inl (.inl ⟨hSome, hOld⟩)
      · exact .inr (.inl ⟨hSome, hSame⟩)
    · exact .inl (.inr hOld)
    · exact .inr (.inr hSame)

theorem newer_iff : Newer w c ↔ (w.lastAppliedCorrectionSequence ≠ 0 →
        w.lastAppliedCorrectionSequence < c.correctionSequence) ∧
      ∀ time, w.lastAppliedCorrectionTime = some time →
        time.nanoseconds < c.estimate.time.nanoseconds := by
  unfold Newer
  rw [← Bool.not_eq_true, notNewerThanApplied_iff]
  constructor
  · intro h
    refine ⟨fun hSome => ?_, fun time hTime => ?_⟩
    · by_contra hNot
      exact h (.inl ⟨hSome, Nat.not_lt.mp hNot⟩)
    · by_contra hNot
      exact h (.inr ⟨time, hTime, not_lt.mp hNot⟩)
  · rintro ⟨hSequence, hTimes⟩ (⟨hSome, hLe⟩ | ⟨time, hTime, hLe⟩)
    · exact Nat.not_lt.mpr hLe (hSequence hSome)
    · exact not_lt.mpr hLe (hTimes time hTime)

/-! ## A replay -/

structure InFlight (startedAt cycleGeneration : Nat) (sofar : List (WorkerOutput K))
    (c : PendingCorrection K) (w : PropagatedOdometryWorker K) : Prop where
  ongoing : Ongoing startedAt cycleGeneration sofar w
  flying : w.inFlight = some c
  known : Known w c
  newer : Newer w c
  main : MainValid w ∨ c.controlGeneration < w.controlGeneration ∨ w.stopRequested = true
  changed : c.controlGeneration < w.controlGeneration → w.invalidationRequested = true

def Outcome (c : PendingCorrection K) (status : Except Status Unit)
    (w : PropagatedOdometryWorker K) : Prop :=
  match status with
  | .ok _ => w.propagator.applied = some c.estimate ∧
    ∃ replayedAt, w.replayed = some ⟨c, replayedAt⟩ ∧
      (w.loadShedRequested = false → ∀ i, w.log[i]? = some .requestLoadShedding → i < replayedAt)
  | .error _ => w.propagator.valid = false

variable {status : Except Status Unit}

theorem InFlight.of_interference (h : Interference w t)
    (hw : InFlight startedAt cycleGeneration sofar c w) :
    InFlight startedAt cycleGeneration sofar c t where
  ongoing := hw.ongoing.of_interference h
  flying := h.replaying.2.trans hw.flying
  known := hw.known.of_interference h
  newer := hw.newer.of_interference h
  main := by
    have hGeneration := h.generation
    rcases hw.main with hMain | hChanged | hStop
    · rcases h.main hMain with hValid | hChanged | hStop
      · exact .inl hValid
      · exact .inr (.inl (Nat.lt_of_le_of_lt hw.known.generation hChanged))
      · exact .inr (.inr hStop)
    · exact .inr (.inl (by omega))
    · exact .inr (.inr (h.stopped hStop))
  changed := by
    intro hChanged
    rcases Nat.lt_or_ge c.controlGeneration w.controlGeneration with hBefore | hSame
    · exact h.invalidation (hw.changed hBefore)
    · exact h.changed (by omega)

theorem Outcome.of_interference (h : Interference w t) (hw : Outcome c status w) :
    Outcome c status t := by
  cases status with
  | ok value =>
    obtain ⟨hApplied, replayedAt, hReplayed, hShedding⟩ := hw
    refine ⟨h.propagator ▸ hApplied, replayedAt, h.replayed.trans hReplayed, ?_⟩
    intro hShed i hi
    exact hShedding (flag_before h.loadShed hShed) i (shed_calls_before h hShed hi)
  | error failure =>
    show t.propagator.valid = false
    rw [h.propagator]
    exact hw

theorem Cycle.take (h : Cycle startedAt cycleGeneration sofar w) :
    w.takePendingCorrection.2 = none ∧
        Cycle startedAt cycleGeneration sofar w.takePendingCorrection.1 ∨
      ∃ c, w.takePendingCorrection.2 = some c ∧
        InFlight startedAt cycleGeneration sofar c w.takePendingCorrection.1 := by
  have hEmptied : Cycle startedAt cycleGeneration sofar w.discardPendingCorrection := by
    refine ⟨h.ongoing.update h.ongoing.sound.kept h.ongoing.sound.anchored (fun _ hc => by cases hc)
      _ _ _ _ _ _ _ _ _, h.idle, h.settled.update (fun hValid => ⟨hValid, rfl⟩) _ _ _ _ _ _⟩
  unfold takePendingCorrection
  split
  · exact .inl ⟨rfl, h⟩
  rename_i c hPending
  dsimp only
  split
  · exact .inl ⟨rfl, hEmptied⟩
  rename_i hAccepted
  split
  · exact .inl ⟨rfl, hEmptied⟩
  obtain ⟨hKnown, hCurrent, hNewer, -⟩ := h.ongoing.sound.pending c hPending
  obtain ⟨-, hMain⟩ := not_or.mp hAccepted
  refine .inr ⟨c, rfl, ?_, rfl, ⟨hKnown.generation, hKnown.after, hKnown.genuine,
    hKnown.identified⟩, hNewer, .inl ?_, fun hChanged => ?_⟩
  · exact h.ongoing.update h.ongoing.sound.kept h.ongoing.sound.anchored (fun _ hc => by cases hc)
      _ _ _ _ _ _ _ _ _
  · simpa [MainValid, discardPendingCorrection] using hMain
  · exact absurd hCurrent (Nat.ne_of_lt hChanged)

theorem InFlight.replay (h : InFlight startedAt cycleGeneration sofar c w) :
    InFlight startedAt cycleGeneration sofar c (w.replay c) ∧
      Outcome c (w.propagator.reanchorAndReplay c.estimate).2 (w.replay c) := by
  have hKept := h.ongoing.sound.kept
  obtain ⟨hAnchored, hOutcome⟩ := replay_anchors hKept c.estimate
  refine ⟨⟨h.ongoing.update (hKept.replay c.estimate) hAnchored (fun _ => id) _ _ _ _ _ _ _ _ _,
    h.flying, ⟨h.known.generation, h.known.after, h.known.genuine, h.known.identified⟩, h.newer,
    h.main, h.changed⟩, ?_⟩
  rcases hOutcome with ⟨hOk, -, hApplied⟩ | ⟨⟨failure, hError⟩, hInvalid⟩
  · rw [hOk]
    refine ⟨hApplied, w.log.length, ?_, ?_⟩
    · simp [PropagatedOdometryWorker.replay, hOk]
    · intro _ i hi
      exact (List.getElem?_eq_some_iff.mp hi).1
  · rw [hError]
    exact hInvalid

inductive Completing (w : PropagatedOdometryWorker K) (c : PendingCorrection K)
    (status : Except Status Unit) : PropagatedOdometryWorker K × Bool → Prop where
  | outdated (hGeneration : w.controlGeneration ≠ c.controlGeneration) :
      Completing w c status ({ w with replayInProgress := false, inFlight := none }, false)
  | dropped (hGeneration : w.controlGeneration = c.controlGeneration)
      (hPending : ¬MainValid w ∨ w.loadShedRequested = true ∨ w.invalidationRequested = true) :
      Completing w c status ({ w with replayInProgress := false, inFlight := none }, false)
  | superseded (held : PendingCorrection K) (hHeld : w.pendingCorrection = some held)
      (hSequence : c.correctionSequence < held.correctionSequence)
      (hTime : c.estimate.time.nanoseconds ≤ held.estimate.time.nanoseconds) :
      Completing w c status ({ w with
        replayInProgress := false
        inFlight := none
        suspended := true
        propagator := w.propagator.invalidate .waitingForCorrection }, false)
  | applied (hGeneration : w.controlGeneration = c.controlGeneration) (hMain : MainValid w)
      (hOk : status = .ok ()) (pending : Option (PendingCorrection K))
      (hPending : pending = w.pendingCorrection ∧ (∀ held, w.pendingCorrection = some held →
          held.controlGeneration = c.controlGeneration →
          Newer { w with
            lastAppliedCorrectionTime := some c.estimate.time
            lastAppliedCorrectionSequence := c.correctionSequence } held) ∨
        pending = none ∧ ∃ held, w.pendingCorrection = some held ∧
          ¬Newer { w with
            lastAppliedCorrectionTime := some c.estimate.time
            lastAppliedCorrectionSequence := c.correctionSequence } held) :
      Completing w c status ({ w with
        replayInProgress := false
        inFlight := none
        suspended := false
        lastAppliedCorrectionTime := some c.estimate.time
        lastAppliedCorrectionSequence := c.correctionSequence
        pendingCorrection := pending }, true)
  | failed (failure : Status) (hStatus : status = .error failure)
      (hCode : failure.code ≠ .missingEndBracket) :
      Completing w c status ({ w with replayInProgress := false, inFlight := none }, false)
  | requeued (hGeneration : w.controlGeneration = c.controlGeneration) (hMain : MainValid w)
      (failure : Status) (hStatus : status = .error failure)
      (hBeyond : ∀ held, w.pendingCorrection = some held →
        held.correctionSequence < c.correctionSequence ∧
          held.estimate.time.nanoseconds ≤ c.estimate.time.nanoseconds) :
      Completing w c status ({ w with
        replayInProgress := false
        inFlight := none
        pendingCorrection := some c }, false)
  | outrun (failure : Status) (hStatus : status = .error failure) (held : PendingCorrection K)
      (hHeld : w.pendingCorrection = some held)
      (hNot : c.correctionSequence ≤ held.correctionSequence ∨
        c.estimate.time.nanoseconds < held.estimate.time.nanoseconds) :
      Completing w c status ({ w with replayInProgress := false, inFlight := none }, false)

theorem completeReplay_completing (w : PropagatedOdometryWorker K) (c : PendingCorrection K)
    (status : Except Status Unit) : Completing w c status (w.completeReplay c status) := by
  unfold completeReplay
  dsimp only
  split
  · rename_i hGeneration
    exact .outdated hGeneration
  rename_i hSame
  have hGeneration : w.controlGeneration = c.controlGeneration := not_not.mp hSame
  split
  · rename_i hPending
    refine .dropped hGeneration ?_
    rcases hPending with hMain | hFlags
    · refine .inl ?_
      rintro ⟨hStatus, hValid⟩
      rcases hMain with hMain | hMain
      · exact hMain hStatus
      · rw [hValid] at hMain
        cases hMain
    · exact .inr hFlags
  rename_i hClear
  have hMain : MainValid w := by
    obtain ⟨hMain, -⟩ := not_or.mp hClear
    simpa [MainValid] using hMain
  split
  · split
    · rename_i hSupersedes
      obtain ⟨held, hHeld, hBeyond⟩ := (Option.any_eq_true _ _).mp hSupersedes
      obtain ⟨-, hSequence, hTime⟩ := of_decide_eq_true hBeyond
      exact .superseded held hHeld hSequence hTime
    · split
      · rename_i hPurge
        obtain ⟨held, hHeld, hNot⟩ := (Option.any_eq_true _ _).mp hPurge
        refine .applied hGeneration hMain rfl none (.inr ⟨rfl, held, hHeld, ?_⟩)
        intro hNewer
        exact absurd ((of_decide_eq_true hNot).2.symm.trans hNewer) nofun
      · rename_i hKeep
        refine .applied hGeneration hMain rfl w.pendingCorrection (.inl ⟨rfl, ?_⟩)
        intro held hHeld hCurrent
        unfold Newer
        rw [← Bool.not_eq_true]
        intro hNot
        exact hKeep ((Option.any_eq_true _ _).mpr ⟨held, hHeld, decide_eq_true ⟨hCurrent, hNot⟩⟩)
  · rename_i failure
    split
    · unfold requeue
      split
      · rename_i hOutrun
        obtain ⟨held, hHeld, hNot⟩ := (Option.any_eq_true _ _).mp hOutrun
        exact .outrun failure rfl held hHeld (of_decide_eq_true hNot)
      · rename_i hBeyond
        refine .requeued hGeneration hMain failure rfl ?_
        intro held hHeld
        have hNot : ¬(c.correctionSequence ≤ held.correctionSequence ∨
            c.estimate.time.nanoseconds < held.estimate.time.nanoseconds) := fun h =>
          hBeyond ((Option.any_eq_true _ _).mpr ⟨held, hHeld, decide_eq_true h⟩)
        exact ⟨Nat.lt_of_not_le fun h => hNot (.inl h), not_lt.mp fun h => hNot (.inr h)⟩
    · rename_i hCode
      exact .failed failure rfl hCode

structure Applies (sofar : List (WorkerOutput K)) (c : PendingCorrection K)
    (w : PropagatedOdometryWorker K) : Prop where
  earlier : ∀ d, .applied d ∈ sofar → d.correctionSequence < c.correctionSequence ∧
    d.estimate.time.nanoseconds < c.estimate.time.nanoseconds
  current : c.controlGeneration = w.controlGeneration
  genuine : c.Genuine w.log
  recorded : w.lastAppliedCorrectionSequence = c.correctionSequence ∧
    w.lastAppliedCorrectionTime = some c.estimate.time

section
variable (h : InFlight startedAt cycleGeneration sofar c w)
include h

theorem InFlight.beyond {d : PendingCorrection K} (hd : .applied d ∈ sofar) :
    d.correctionSequence < c.correctionSequence ∧
      d.estimate.time.nanoseconds < c.estimate.time.nanoseconds := by
  obtain ⟨hSequence, time, hTime, hLe⟩ := h.ongoing.remembers.applied d hd
  obtain ⟨hBeyond, hLater⟩ := newer_iff.mp h.newer
  refine ⟨?_, lt_of_le_of_lt hLe (hLater time hTime)⟩
  have hIdentified := h.known.identified
  by_cases hNone : w.lastAppliedCorrectionSequence = 0
  · omega
  · have hNext := hBeyond hNone
    omega

theorem InFlight.leave (ho : Outcome c status w)
    (hRequest : (w.stopRequested = false → w.loadShedRequested = false →
      w.invalidationRequested = true) ∨ w.propagator.valid = false)
    (hPending : ∀ d, pending = some d → w.pendingCorrection = some d) :
    Cycle startedAt cycleGeneration sofar { w with
      replayInProgress := false
      inFlight := none
      pendingCorrection := pending } := by
  refine ⟨h.ongoing.update h.ongoing.sound.kept h.ongoing.sound.anchored hPending _ _ _ _ _ _ _ _ _,
    ⟨rfl, rfl⟩, ?_⟩
  intro hRunning hValid
  cases status with
  | ok value =>
    obtain ⟨hApplied, replayedAt, hReplayed, hShedding⟩ := ho
    refine ⟨⟨c, replayedAt⟩, hReplayed, hApplied, hShedding, ?_⟩
    intro hShed hInvalidation
    rcases hRequest with hRequest | hInvalid
    · exact absurd ((hRequest hRunning hShed).symm.trans hInvalidation) nofun
    · exact absurd (hInvalid.symm.trans hValid) nofun
  | error failure => exact absurd (Eq.trans (Eq.symm ho) hValid) nofun

theorem InFlight.complete (ho : Outcome c status w) :
    (w.completeReplay c status).2 = true ∧ Applies sofar c (w.completeReplay c status).1 ∧
        Cycle startedAt cycleGeneration (sofar ++ [.applied c]) (w.completeReplay c status).1 ∨
      (w.completeReplay c status).2 = false ∧
        Cycle startedAt cycleGeneration sofar (w.completeReplay c status).1 := by
  have hCompleting := completeReplay_completing w c status
  generalize w.completeReplay c status = r at hCompleting
  cases hCompleting with
  | outdated hGeneration =>
    refine .inr ⟨rfl, h.leave ho (.inl fun _ _ => h.changed ?_) fun _ => id⟩
    exact Nat.lt_of_le_of_ne h.known.generation (Ne.symm hGeneration)
  | dropped hGeneration hPending =>
    refine .inr ⟨rfl, h.leave ho (.inl fun hRunning hShed => ?_) fun _ => id⟩
    rcases hPending with hMain | hSet | hInvalidation
    · rcases h.main with hValid | hChanged | hStop
      · exact absurd hValid hMain
      · exact h.changed hChanged
      · exact absurd (hStop.symm.trans hRunning) nofun
    · exact absurd (hSet.symm.trans hShed) nofun
    · exact hInvalidation
  | superseded held hHeld hSequence hTime =>
    refine .inr ⟨rfl, ?_⟩
    refine ⟨h.ongoing.update (h.ongoing.sound.kept.invalidate _) (fun hValid => by cases hValid)
      (fun _ => id) _ _ _ _ _ _ _ _ _, ⟨rfl, rfl⟩, settled_of_invalid rfl⟩
  | applied hGeneration hMain hOk pending hPending =>
    subst hOk
    obtain ⟨hApplied, replayedAt, hReplayed, hShedding⟩ := ho
    have hs := h.ongoing.sound
    refine .inl ⟨rfl, ⟨fun _ hd => h.beyond hd, hGeneration.symm, h.known.genuine, rfl, rfl⟩, ⟨⟨?_, ?_,
      h.ongoing.resets, h.ongoing.started, h.ongoing.polled, h.ongoing.cycle⟩, ⟨rfl, rfl⟩, ?_⟩⟩
    · refine ⟨hs.kept, hs.anchored, hs.closed, hs.born, hs.shed, hs.invalidated, ?_⟩
      intro d hd
      rcases hPending with ⟨rfl, hNewer⟩ | ⟨rfl, -⟩
      · obtain ⟨hKnown, hCurrent, -, -⟩ := hs.pending d hd
        exact ⟨⟨hKnown.generation, hKnown.after, hKnown.genuine, hKnown.identified⟩, hCurrent,
          hNewer d hd (hCurrent.trans hGeneration), fun _ => hMain⟩
      · cases hd
    · refine ⟨?_, ?_⟩
      · intro p hp
        rcases List.mem_append.mp hp with hp | hp
        · exact h.ongoing.remembers.published p hp
        · cases List.mem_singleton.mp hp
      · intro d hd
        rcases List.mem_append.mp hd with hd | hd
        · obtain ⟨hSequence, hTime⟩ := h.beyond hd
          exact ⟨Nat.le_of_lt hSequence, c.estimate.time, rfl, le_of_lt hTime⟩
        · cases List.mem_singleton.mp hd
          exact ⟨Nat.le_refl _, c.estimate.time, rfl, le_refl _⟩
    · intro _ _
      refine ⟨⟨c, replayedAt⟩, hReplayed, hApplied, hShedding, fun _ _ => ?_⟩
      exact ⟨hGeneration.symm, h.known.after hGeneration.symm, h.known.genuine, rfl⟩
  | failed failure hStatus hCode =>
    subst hStatus
    exact .inr ⟨rfl, h.leave ho (.inr ho) fun _ => id⟩
  | requeued hGeneration hMain failure hStatus hBeyond =>
    subst hStatus
    have hs := h.ongoing.sound
    refine .inr ⟨rfl, ⟨⟨?_, ⟨h.ongoing.remembers.published, h.ongoing.remembers.applied⟩,
      h.ongoing.resets, h.ongoing.started, h.ongoing.polled, h.ongoing.cycle⟩, ⟨rfl, rfl⟩,
      settled_of_invalid ho⟩⟩
    refine ⟨hs.kept, hs.anchored, hs.closed, hs.born, hs.shed, hs.invalidated, ?_⟩
    intro d hd
    cases hd
    exact ⟨⟨h.known.generation, h.known.after, h.known.genuine, h.known.identified⟩,
      hGeneration.symm, h.newer, fun _ => hMain⟩
  | outrun failure hStatus held hHeld hNot =>
    subst hStatus
    exact .inr ⟨rfl, h.leave ho (.inr ho) fun _ => id⟩

end

structure Frame (w t : PropagatedOdometryWorker K) : Prop where
  config : t.config = w.config
  log : t.log = w.log
  generation : w.controlGeneration ≤ t.controlGeneration
  accepting : t.accepting = true → w.accepting = true

theorem advanceControlGeneration_frame (w : PropagatedOdometryWorker K) :
    Frame w w.advanceControlGeneration.1 := by
  unfold advanceControlGeneration
  by_cases hLast : w.controlGeneration = 2 ^ 64 - 1
  · rw [if_pos hLast]
    refine ⟨rfl, rfl, Nat.le_refl _, ?_⟩
    intro hAccepting
    cases hAccepting
  · rw [if_neg hLast]
    exact ⟨rfl, rfl, Nat.le_succ _, id⟩

theorem effect_frame (w : PropagatedOdometryWorker K) (label : WorkerSection K) :
    Frame w (w.effect label) := by
  cases label with
  | drain =>
    unfold effect drain
    dsimp only
    split <;> exact ⟨rfl, rfl, Nat.le_refl _, id⟩
  | finishReset =>
    have hNext := advanceControlGeneration_frame { w with imuIngress := [] }.discardPendingCorrection
    unfold effect finishReset
    dsimp only
    split
    · rename_i v hv
      rw [hv] at hNext
      exact ⟨hNext.config, hNext.log, hNext.generation, hNext.accepting⟩
    · rename_i v hv
      rw [hv] at hNext
      exact ⟨hNext.config, hNext.log, hNext.generation, hNext.accepting⟩
  | shed =>
    unfold effect shed
    dsimp only
    split
    · exact ⟨rfl, rfl, Nat.le_refl _, id⟩
    · have hNext := advanceControlGeneration_frame { w with suspended := true }
      exact ⟨hNext.config, hNext.log, hNext.generation, hNext.accepting⟩
  | continuityReset =>
    have hNext := advanceControlGeneration_frame { w with suspended := true }
    unfold effect handleContinuityReset
    dsimp only
    split
    · rename_i v hv
      rw [hv] at hNext
      exact ⟨hNext.config, hNext.log, hNext.generation, hNext.accepting⟩
    · rename_i v hv
      rw [hv] at hNext
      exact ⟨hNext.config, hNext.log, hNext.generation, hNext.accepting⟩
  | take =>
    unfold effect takePendingCorrection discardPendingCorrection
    dsimp only
    split
    · exact ⟨rfl, rfl, Nat.le_refl _, id⟩
    split
    · exact ⟨rfl, rfl, Nat.le_refl _, id⟩
    split <;> exact ⟨rfl, rfl, Nat.le_refl _, id⟩
  | complete correction status =>
    have hCompleting := completeReplay_completing w correction status
    show Frame w (w.completeReplay correction status).1
    generalize w.completeReplay correction status = r at hCompleting
    cases hCompleting <;> exact ⟨rfl, rfl, Nat.le_refl _, id⟩
  | takeReset => exact ⟨rfl, rfl, Nat.le_refl _, id⟩
  | resetPropagator => exact ⟨rfl, rfl, Nat.le_refl _, id⟩
  | takeLoadShed => exact ⟨rfl, rfl, Nat.le_refl _, id⟩
  | takeInvalidation => exact ⟨rfl, rfl, Nat.le_refl _, id⟩
  | suspend => exact ⟨rfl, rfl, Nat.le_refl _, id⟩
  | invalidate status => exact ⟨rfl, rfl, Nat.le_refl _, id⟩
  | acceptImu sample => exact ⟨rfl, rfl, Nat.le_refl _, id⟩
  | recordImuForReplay sample => exact ⟨rfl, rfl, Nat.le_refl _, id⟩
  | replay correction => exact ⟨rfl, rfl, Nat.le_refl _, id⟩
  | flush => exact ⟨rfl, rfl, Nat.le_refl _, id⟩
  | look => exact ⟨rfl, rfl, Nat.le_refl _, id⟩
  | startDeadline time => exact ⟨rfl, rfl, Nat.le_refl _, id⟩
  | notePublished time => exact ⟨rfl, rfl, Nat.le_refl _, id⟩
  | setDeadline deadline => exact ⟨rfl, rfl, Nat.le_refl _, id⟩

theorem step_accepting (s : Sections.Threads (PropagatedOdometryWorker K) Moment
      (WorkerSection K) (WorkerOutput K))
    (op : Sections.Operation Unit (ProducerCall K) Moment)
    (h : (system.step s op).1.shared.accepting = true) : s.shared.accepting = true := by
  cases Sections.step_effect system s op with
  | silent _ hShared =>
    change (system.step s op).1.shared = s.shared at hShared
    rw [← hShared]
    exact h
  | locked label moment _ _ hShared =>
    change (system.step s op).1.shared = s.shared.effect label at hShared
    rw [hShared] at h
    exact (effect_frame s.shared label).accepting h
  | external call _ _ _ hShared =>
    change (system.step s op).1.shared = s.shared.produce call at hShared
    rw [hShared] at h
    exact handle_accepting { s.shared with log := s.shared.log ++ [call] } call h

end PropagatedOdometryWorker

end UavNavigation.FastLio
