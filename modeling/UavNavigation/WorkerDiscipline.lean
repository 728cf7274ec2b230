import UavNavigation.WorkerInterference

/-!
# The discipline of the worker

Every cycle of the worker, whatever the producers do between its sections, ends as
it began, applies corrections in order and publishes only what it may.
-/

namespace UavNavigation.FastLio

open Runs Sections

set_option autoImplicit false

variable {D : Type} [FloatOps D] {K : FilterKernel D}

namespace PropagatedOdometryWorker
variable {w t : PropagatedOdometryWorker K} {c : PendingCorrection K} {r : Replayed K}
  {sofar : List (WorkerOutput K)} {startedAt cycleGeneration : Nat}

/-- The calls that are older than the correction a publication goes back to, or than its
replay. -/
structure Behind (log : List (ProducerCall K)) (shedAt startedAt checkedAt : Nat)
    (r : Replayed K) : Prop where
  invalidated : ∀ i call, i < checkedAt → log[i]? = some call → call.Invalidates →
    i + 1 < r.correction.acceptedAt
  shed : ∀ i, i < checkedAt → log[i]? = some .requestLoadShedding → i < r.replayedAt
  shedding : shedAt < r.correction.acceptedAt
  resets : ∀ i, i < startedAt → log[i]? = some .reset → i + 1 < r.correction.acceptedAt

structure Publishes (sofar : List (WorkerOutput K)) (p : Publication K)
    (w : PropagatedOdometryWorker K) : Prop where
  later : ∀ q, .published q ∈ sofar →
    q.estimate.estimate.time.nanoseconds < p.estimate.estimate.time.nanoseconds
  control : p.control = ⟨.tracking, true, false, false, false⟩
  descends : ∃ r, p.replayed = some r ∧ w.propagator.valid = true ∧
    w.propagator.applied = some r.correction.estimate ∧ r.correction.Genuine w.log ∧
    p.estimate.estimate.time.nanoseconds - r.correction.estimate.time.nanoseconds ≤
      w.config.maximumCorrectionAgeNs ∧
    Behind w.log w.shedAt p.startedAt p.checkedAt r

def Puts (sofar : List (WorkerOutput K)) (w : PropagatedOdometryWorker K) : WorkerOutput K → Prop
  | .applied c => Applies sofar c w
  | .published p => Publishes sofar p w

/-- Which correction is in flight where a section of a replay begins. -/
def Enters (w : PropagatedOdometryWorker K) : WorkerSection K → Prop
  | .take => w.inFlight = none
  | .complete c _ => w.inFlight = some c ∧ c.controlGeneration ≤ w.controlGeneration
  | _ => True

def discipline : Discipline (PropagatedOdometryWorker K) (WorkerSection K) (WorkerOutput K) where
  rely := Interference
  between := fun sofar w => Cycle 0 0 sofar w
  enter := fun label w => Sound w ∧ Enters w label
  out := Puts

theorem discipline_stable : (discipline (K := K)).Stable system where
  refl := Interference.refl
  trans := Interference.trans
  input := produce_interference
  between := fun h hwt => h.of_interference hwt

abbrev Keeps (p : WorkerProgram K) (sofar : List (WorkerOutput K))
    (w : PropagatedOdometryWorker K) : Prop := p.Secures system discipline sofar w

theorem processPendingCorrection_keeps {next : Option Timestamp → WorkerProgram K}
    (hNext : ∀ applied sofar w, Cycle startedAt cycleGeneration sofar w →
      Keeps (next applied) sofar w)
    (h : Cycle startedAt cycleGeneration sofar w) :
    Keeps (processPendingCorrection next) sofar w := by
  intro t moment hwt
  have ht := h.of_interference hwt
  refine ⟨⟨ht.ongoing.sound, ht.idle.2⟩, ?_⟩
  dsimp only [system, effect]
  rcases ht.take with ⟨hNone, hTaken⟩ | ⟨c, hSome, hTaken⟩
  · rw [hNone]
    exact hNext none sofar _ hTaken
  · rw [hSome]
    intro u moment htu
    have hu := hTaken.of_interference htu
    obtain ⟨hReplay, hOutcome⟩ := hu.replay
    refine ⟨⟨hu.ongoing.sound, trivial⟩, ?_⟩
    intro v moment huv
    have hv := hReplay.of_interference huv
    refine ⟨⟨hv.ongoing.sound, hv.flying, hv.known.generation⟩, ?_⟩
    dsimp only [system, effect]
    rcases hv.complete (hOutcome.of_interference huv) with
      ⟨hDone, hApplies, hCycle⟩ | ⟨hNot, hCycle⟩
    · rw [if_pos hDone]
      exact ⟨hApplies, hNext _ _ _ hCycle⟩
    · rw [if_neg (by rw [hNot]; decide)]
      exact hNext none sofar _ hCycle

theorem recordBatch_keeps {next : Option (ImuSample D) → Bool → WorkerProgram K}
    (hNext : ∀ latest ok w, Cycle startedAt cycleGeneration sofar w →
      Keeps (next latest ok) sofar w) (batch : List (ImuSample D)) (suspended : Bool)
    (latest : Option (ImuSample D)) (h : Cycle startedAt cycleGeneration sofar w) :
    Keeps (recordBatch next batch suspended latest) sofar w := by
  induction batch generalizing suspended latest w with
  | nil => exact hNext latest true w h
  | cons sample rest ih =>
    intro t moment hwt
    have ht := h.of_interference hwt
    have hRecorded : Cycle startedAt cycleGeneration sofar
        (t.effect (if suspended then .recordImuForReplay sample else .acceptImu sample)) := by
      cases suspended with
      | false => exact ht.record sample true
      | true => exact ht.record sample false
    have hEffect : (t.effect (if suspended then .recordImuForReplay sample else
        .acceptImu sample)).propagator =
        (t.propagator.validateAndRecordImu sample !suspended).1 := by
      cases suspended with
      | false => rfl
      | true => rfl
    refine ⟨⟨ht.ongoing.sound, by cases suspended <;> trivial⟩, ?_⟩
    dsimp only
    split
    · rename_i hRestarted
      intro u moment htu
      have hu := hRecorded.of_interference htu
      refine ⟨⟨hu.ongoing.sound, trivial⟩, ?_⟩
      refine ih true (some sample) (hu.continuityReset ?_)
      rw [htu.propagator]
      change (t.effect _).propagator.valid = false
      rw [hEffect]
      exact ImuStatePropagator.restarted_invalid hRestarted
    split
    · exact hNext latest false _ hRecorded
    · exact ih suspended (some sample) hRecorded

/-! ## Publishing -/

/-- What the recheck of the control channel has established for a propagator that is valid. -/
def Cleared (facts : CycleFacts D) (w : PropagatedOdometryWorker K) : Prop :=
  w.propagator.valid = true → facts.control = ⟨.tracking, true, false, false, false⟩ ∧
    ∃ r, w.replayed = some r ∧ w.propagator.applied = some r.correction.estimate ∧
      r.correction.Genuine w.log ∧
      w.lastAppliedCorrectionTime = some r.correction.estimate.time ∧
      Behind w.log w.shedAt facts.startedAt facts.checkedAt r

theorem Behind.of_interference {checkedAt : Nat} (h : Interference w t)
    (hStarted : startedAt ≤ w.log.length) (hChecked : checkedAt ≤ w.log.length)
    (hr : Behind w.log w.shedAt startedAt checkedAt r) :
    Behind t.log t.shedAt startedAt checkedAt r where
  invalidated := by
    intro i call hi hCall hInvalidates
    rcases log_cases h.log hCall with hOld | hLate
    · exact hr.invalidated i call hi hOld hInvalidates
    · omega
  shed := by
    intro i hi hCall
    rcases log_cases h.log hCall with hOld | hLate
    · exact hr.shed i hi hOld
    · omega
  shedding := by
    rw [h.shedAt]
    exact hr.shedding
  resets := by
    intro i hi hCall
    rcases log_cases h.log hCall with hOld | hLate
    · exact hr.resets i hi hOld
    · omega

theorem Cleared.of_interference {facts : CycleFacts D} (h : Interference w t)
    (hStarted : facts.startedAt ≤ w.log.length) (hChecked : facts.checkedAt ≤ w.log.length)
    (hw : Cleared facts w) : Cleared facts t := by
  intro hValid
  rw [h.propagator] at hValid ⊢
  obtain ⟨hControl, r, hReplayed, hApplied, hGenuine, hLast, hBehind⟩ := hw hValid
  exact ⟨hControl, r, h.replayed.trans hReplayed, hApplied, hGenuine.mono h.log,
    h.lastApplied.1.trans hLast, hBehind.of_interference h hStarted hChecked⟩

theorem correctionStale_of_interference (h : Interference w t) :
    t.correctionStale = w.correctionStale := by
  unfold correctionStale
  rw [h.propagator, h.lastApplied.1, h.config]

theorem age_of_fresh (hSound : Sound w) (hFresh : w.correctionStale = false)
    {e : KinematicStateEstimate K} (hEstimate : w.propagator.kinematicEstimate = some e)
    (hApplied : w.propagator.applied = some r.correction.estimate)
    (hLast : w.lastAppliedCorrectionTime = some r.correction.estimate.time) :
    e.estimate.time.nanoseconds - r.correction.estimate.time.nanoseconds ≤
      w.config.maximumCorrectionAgeNs := by
  obtain ⟨hValid, hLatest⟩ := ImuStatePropagator.kinematicEstimate_time hSound.kept hEstimate
  obtain ⟨corrected, latest, hCorrected, hTime, hDomain, hFirst, hSecond⟩ :=
    hSound.anchored hValid
  obtain rfl : r.correction.estimate = corrected := Option.some.inj (hApplied.symm.trans hCorrected)
  obtain rfl : e.estimate.time = latest := Option.some.inj (hLatest.symm.trans hTime)
  unfold correctionStale at hFresh
  rw [hLatest, hLast] at hFresh
  dsimp only at hFresh
  rw [checkedDifference_of_nonneg hDomain.symm hSecond hFirst] at hFresh
  exact not_lt.mp (of_decide_eq_false hFresh)

theorem maybePublishOnImu_keeps {facts : CycleFacts D} (h : Cycle startedAt cycleGeneration sofar w)
    (hStarted : facts.startedAt ≤ w.log.length) (hChecked : facts.checkedAt ≤ w.log.length)
    (hFresh : w.correctionStale = false) (hCleared : w.stopRequested = false → Cleared facts w) :
    Keeps (maybePublishOnImu facts) sofar w := by
  intro t _ hwt
  have ht := h.of_interference hwt
  refine ⟨⟨ht.ongoing.sound, trivial⟩, ?_⟩
  dsimp only [system, effect]
  split
  · exact ht.weaken
  rename_i hRunning
  have hStart := hwt.log.length_le
  have hCleared := (hCleared (flag_before hwt.stopped (Bool.eq_false_iff.mpr hRunning))
    ).of_interference hwt hStarted hChecked
  intro u _ htu
  have hu := ht.of_interference htu
  refine ⟨⟨hu.ongoing.sound, trivial⟩, ?_⟩
  dsimp only [system, effect]
  split
  · exact hu.weaken
  split
  · exact hu.weaken
  intro v moment huv
  have htv := htu.trans huv
  have hCleared := hCleared.of_interference htv (by omega) (by omega)
  have hv := hu.of_interference huv
  refine ⟨⟨hv.ongoing.sound, trivial⟩, ?_⟩
  dsimp only [system, effect]
  have hMarked := hv.flags v.imuIngress v.correctionRequested v.suspended
    (v.nextPublishDeadline.or (some facts.sample.time))
  split
  · exact hMarked.weaken
  split
  · exact hMarked.weaken
  rename_i e hEstimate
  split
  · exact hMarked.weaken
  rename_i hLater
  split
  · intro x _ hvx
    have hx := hMarked.of_interference hvx
    refine ⟨⟨hx.ongoing.sound, trivial⟩, ?_⟩
    exact (hx.flags x.imuIngress x.correctionRequested true x.nextPublishDeadline).weaken
  · obtain ⟨hValid, -⟩ := ImuStatePropagator.kinematicEstimate_time hv.ongoing.sound.kept hEstimate
    obtain ⟨hControl, r, hReplayed, hApplied, hGenuine, hLast, hBehind⟩ := hCleared hValid
    have hStale : v.correctionStale = false := by
      rw [correctionStale_of_interference (hwt.trans htv)]
      exact hFresh
    have hAge := age_of_fresh hv.ongoing.sound hStale hEstimate hApplied hLast
    have hBeyond (time : Timestamp) (hTime : v.lastPublishedTime = some time) :
        time.nanoseconds < e.estimate.time.nanoseconds := by
      rw [hTime] at hLater
      simpa using hLater
    have hNewest (q : Publication K) (hq : .published q ∈ sofar) :
        q.estimate.estimate.time.nanoseconds < e.estimate.time.nanoseconds := by
      obtain ⟨time, hTime, hLe⟩ := hv.ongoing.remembers.published q hq
      exact lt_of_le_of_lt hLe (hBeyond time hTime)
    refine ⟨⟨hNewest, hControl, r, hReplayed, hValid, hApplied, hGenuine, hAge, hBehind⟩, ?_⟩
    intro x _ hvx
    have hx := hMarked.of_interference hvx
    refine ⟨⟨hx.ongoing.sound, trivial⟩, ?_⟩
    have hNoted := hx.notePublished (p := ⟨e, v.replayed, facts.control, facts.startedAt,
      facts.checkedAt⟩) fun q hq => le_of_lt (hNewest q hq)
    dsimp only [system, effect]
    split
    · intro y _ hxy
      have hy := hNoted.of_interference hxy
      refine ⟨⟨hy.ongoing.sound, trivial⟩, ?_⟩
      exact (hy.flags y.imuIngress y.correctionRequested true y.nextPublishDeadline).weaken
    · intro y _ hxy
      have hy := hNoted.of_interference hxy
      refine ⟨⟨hy.ongoing.sound, trivial⟩, ?_⟩
      exact (hy.flags y.imuIngress y.correctionRequested y.suspended _).weaken

/-! ## The rechecks -/

variable {latest : Option (ImuSample D)} {applied : Option Timestamp}

section
variable {next : PropagatedOdometryWorker K → Bool → WorkerProgram K}
  (h : Cycle startedAt cycleGeneration sofar w)
include h

theorem loadTransition_keeps
    (hRequested : ∀ t, Interference w t → Cycle startedAt cycleGeneration sofar t →
      t.loadShedRequested = true → Keeps (next t true) sofar t)
    (hElse : ∀ t u, Interference w t → Interference t u →
      Cycle startedAt cycleGeneration sofar t → Cycle startedAt cycleGeneration sofar u →
      t.loadShedRequested = false → Keeps (next t u.invalidationRequested) sofar u) :
    Keeps (loadTransition next) sofar w := by
  intro t _ hwt
  have ht := h.of_interference hwt
  refine ⟨⟨ht.ongoing.sound, trivial⟩, ?_⟩
  dsimp only [system, effect]
  split
  · rename_i hShed
    exact hRequested t hwt ht hShed
  · rename_i hShed
    intro u _ htu
    have hu := ht.of_interference htu
    refine ⟨⟨hu.ongoing.sound, trivial⟩, ?_⟩
    exact hElse t u hwt htu ht hu (Bool.eq_false_iff.mpr hShed)

theorem loadTransition_uniform (hNext : ∀ s requested t, Cycle startedAt cycleGeneration sofar t →
      (requested = true → t.loadShedRequested = true ∨ t.invalidationRequested = true) →
        Keeps (next s requested) sofar t) : Keeps (loadTransition next) sofar w :=
  loadTransition_keeps h (fun t _ ht hShed => hNext t true t ht fun _ => .inl hShed)
    fun t u _ _ _ hu _ => hNext t u.invalidationRequested u hu .inr

theorem Cycle.behind (hRunning : w.stopRequested = false) (hShed : w.loadShedRequested = false)
    (hInvalidation : w.invalidationRequested = false) (hValid : w.propagator.valid = true) :
    ∃ r, w.replayed = some r ∧ w.propagator.applied = some r.correction.estimate ∧
      r.correction.Genuine w.log ∧
      w.lastAppliedCorrectionTime = some r.correction.estimate.time ∧
      Behind w.log w.shedAt startedAt w.log.length r := by
  obtain ⟨r, hReplayed, hApplied, hShedding, hStanding⟩ := h.settled hRunning hValid
  obtain ⟨-, hAfter, hGenuine, hLast⟩ := hStanding hShed hInvalidation
  refine ⟨r, hReplayed, hApplied, hGenuine, hLast, ?_, ?_, ?_, ?_⟩
  · intro i call _ hCall hInvalidates
    have hBorn := h.ongoing.sound.invalidated hRunning i call hCall hInvalidates
    omega
  · exact fun i _ hCall => hShedding hShed i hCall
  · exact Nat.lt_of_le_of_lt (h.ongoing.sound.shed hRunning) hAfter
  · intro i hi hCall
    have hBorn := h.ongoing.polled hRunning i hi hCall
    omega

end

theorem recheckControl_keeps {ok : Bool} (h : Cycle startedAt cycleGeneration sofar w)
    (hFresh : ok = true → (w.loadShedRequested = true ∨ w.invalidationRequested = true ∨
      cycleGeneration < w.controlGeneration) ∨ w.correctionStale = false) :
    Keeps (recheckControl startedAt cycleGeneration latest ok applied) sofar w := by
  apply loadTransition_keeps h
  · intro t _ ht _ u _ htu
    have hu := ht.of_interference htu
    refine ⟨⟨hu.ongoing.sound, trivial⟩, ?_⟩
    intro v _ huv
    have hv := hu.of_interference huv
    refine ⟨⟨hv.ongoing.sound, trivial⟩, ?_⟩
    split
    · exact hv.weaken
    · simp only [Bool.true_or, Bool.not_true, Bool.false_and, Bool.false_eq_true, if_false]
      exact hv.weaken
  · intro t u hwt htu ht hu hShed x _ hux
    have hx := hu.of_interference hux
    refine ⟨⟨hx.ongoing.sound, trivial⟩, ?_⟩
    intro y _ hxy
    have hy := hx.of_interference hxy
    refine ⟨⟨hy.ongoing.sound, trivial⟩, ?_⟩
    dsimp only [system, effect]
    split
    · exact hy.weaken
    split
    · rename_i hPublish
      simp only [Bool.and_eq_true, Bool.not_eq_true', Bool.or_eq_false_iff, bne_eq_false_iff_eq,
        Bool.not_eq_false', Option.isSome_eq_false_iff] at hPublish
      obtain ⟨⟨⟨⟨hPending, hSuspended⟩, hOk⟩, hValid⟩, -⟩ := hPublish
      obtain ⟨⟨⟨⟨⟨⟨hInvalidation, hGeneration⟩, hStatus⟩, hNavigation⟩, hMailbox⟩, hReplaying⟩, -⟩ :=
        hPending
      have htx := htu.trans hux
      have hty := htx.trans hxy
      have hStale : y.correctionStale = false := by
        rw [correctionStale_of_interference (hwt.trans hty)]
        rcases hFresh hOk with (hSet | hSet | hLess) | hFresh
        · exact absurd ((hwt.loadShed hSet).symm.trans hShed) nofun
        · exact absurd (((hwt.trans htu).invalidation hSet).symm.trans hInvalidation) nofun
        · have hLe := (hwt.trans htx).generation
          omega
        · exact hFresh
      apply maybePublishOnImu_keeps hy hy.ongoing.started hty.log.length_le hStale
      intro hRunning _
      rw [hty.propagator] at hValid ⊢
      obtain ⟨r, hReplayed, hApplied, hGenuine, hLast, hBehind⟩ := ht.behind
        (flag_before hty.stopped hRunning) hShed (flag_before htu.invalidation hInvalidation) hValid
      refine ⟨?_, r, hty.replayed.trans hReplayed, hApplied, hGenuine.mono hty.log,
        hty.lastApplied.1.trans hLast,
        hBehind.of_interference hty ht.ongoing.started (Nat.le_refl _)⟩
      have hEmpty : x.pendingCorrection.isSome = false := by simpa using hMailbox
      have hFree : x.suspended = false := flag_before (Interference.suspended hxy) hSuspended
      simp [controlView, hStatus, hNavigation, hEmpty, hReplaying, hFree]
    · exact hy.weaken

theorem moved_of_interference (h : Interference w t)
    (hw : w.loadShedRequested = true ∨ w.invalidationRequested = true ∨
      cycleGeneration < w.controlGeneration) :
    t.loadShedRequested = true ∨ t.invalidationRequested = true ∨
      cycleGeneration < t.controlGeneration :=
  hw.imp h.loadShed (Or.imp h.invalidation fun hLess => Nat.lt_of_lt_of_le hLess h.generation)

theorem checkAge_keeps {ok : Bool} {transitionPending : Bool}
    (h : Cycle startedAt cycleGeneration sofar w)
    (hMoved : transitionPending = true → w.loadShedRequested = true ∨
      w.invalidationRequested = true ∨ cycleGeneration < w.controlGeneration) :
    Keeps (.lock .look fun x _ =>
      if !transitionPending && ok && x.correctionStale then
        .lock (.invalidate .staleCorrection) fun _ _ =>
          recheckControl startedAt cycleGeneration latest false applied
      else recheckControl startedAt cycleGeneration latest ok applied) sofar w := by
  intro x _ hwx
  have hx := h.of_interference hwx
  refine ⟨⟨hx.ongoing.sound, trivial⟩, ?_⟩
  dsimp only [system, effect]
  split
  · intro y _ hxy
    have hy := hx.of_interference hxy
    refine ⟨⟨hy.ongoing.sound, trivial⟩, ?_⟩
    apply recheckControl_keeps (hy.ongoing.cycle_of_invalid hy.idle .staleCorrection)
    exact nofun
  · rename_i hYoung
    apply recheckControl_keeps hx
    intro hOk
    cases hPending : transitionPending with
    | true => exact .inl (moved_of_interference hwx (hMoved hPending))
    | false =>
      right
      rw [hPending, hOk] at hYoung
      simpa using hYoung

theorem finishBatch_keeps {ok : Bool} (h : Cycle startedAt cycleGeneration sofar w) :
    Keeps (finishBatch startedAt cycleGeneration latest ok applied) sofar w := by
  refine loadTransition_uniform h fun _ requested t ht hRequested => ?_
  dsimp only
  intro u _ htu
  have hu := ht.of_interference htu
  refine ⟨⟨hu.ongoing.sound, trivial⟩, ?_⟩
  have hMoved : (requested || u.controlGeneration != cycleGeneration) = true →
      u.loadShedRequested = true ∨ u.invalidationRequested = true ∨
        cycleGeneration < u.controlGeneration := by
    intro hPending
    rcases Bool.or_eq_true _ _ ▸ hPending with hSet | hOther
    · exact (hRequested hSet).imp (Interference.loadShed htu)
        fun h => .inl (Interference.invalidation htu h)
    · have hLe := hu.ongoing.cycle
      have hNe : u.controlGeneration ≠ cycleGeneration := bne_iff_ne.mp hOther
      exact .inr (.inr (by omega))
  intro v _ huv
  have hv := hu.of_interference huv
  refine ⟨⟨hv.ongoing.sound, trivial⟩, ?_⟩
  intro x _ hvx
  have hx := hv.of_interference hvx
  have hux := Interference.trans huv hvx
  refine ⟨⟨hx.ongoing.sound, trivial⟩, ?_⟩
  dsimp only [system, effect]
  split
  · intro y _ hxy
    have hy := hx.of_interference hxy
    refine ⟨⟨hy.ongoing.sound, trivial⟩, ?_⟩
    apply checkAge_keeps hy.flush
    intro hPending
    have hSet := moved_of_interference (hux.trans hxy) (hMoved hPending)
    exact hSet
  · exact checkAge_keeps hx fun hPending => moved_of_interference hux (hMoved hPending)

/-! ## The cycle -/

theorem processInputs_keeps (h : Cycle startedAt 0 sofar w) (batch : List (ImuSample D)) :
    Keeps (processInputs startedAt batch) sofar w := by
  cases batch with
  | nil =>
    show Keeps (processPendingCorrection fun _ => .done) sofar w
    apply processPendingCorrection_keeps _ h
    exact fun _ _ _ hw => hw.weaken
  | cons sample rest =>
    intro t _ hwt
    have ht := h.of_interference hwt
    refine ⟨⟨ht.ongoing.sound, trivial⟩, ?_⟩
    intro u _ htu
    have hu := ht.of_interference htu
    refine ⟨⟨hu.ongoing.sound, trivial⟩, ?_⟩
    have ho := hu.ongoing
    -- from here on the generation of the cycle is the one just read
    have hRead : Cycle startedAt u.controlGeneration sofar u :=
      ⟨⟨ho.sound, ho.remembers, ho.resets, ho.started, ho.polled, Nat.le_refl _⟩, hu.idle,
        hu.settled⟩
    apply recordBatch_keeps _ (sample :: rest) t.suspended none hRead
    intro latest ok v hv
    exact processPendingCorrection_keeps (fun _ _ _ hx => finishBatch_keeps hx) hv

/-! A flag that is taken and was not set leaves everything as it was. -/

theorem take_invalidation (hUnset : w.invalidationRequested = false) :
    w.effect .takeInvalidation = w := by
  unfold effect
  rw [← hUnset]

theorem take_loadShed (hUnset : w.loadShedRequested = false) : w.effect .takeLoadShed = w := by
  unfold effect
  rw [← hUnset]

theorem take_reset (hUnset : w.resetRequested = false) : w.effect .takeReset = w := by
  unfold effect
  rw [← hUnset]

section
variable {next : WorkerProgram K}
  (hNext : ∀ w, Cycle startedAt cycleGeneration sofar w → Keeps next sofar w)
  (h : Cycle startedAt cycleGeneration sofar w)
include hNext h

theorem handleInvalidation_keeps : Keeps (handleInvalidation next) sofar w := by
  intro t _ hwt
  have ht := h.of_interference hwt
  refine ⟨⟨ht.ongoing.sound, trivial⟩, ?_⟩
  have hTaken : Ongoing startedAt cycleGeneration sofar (t.effect .takeInvalidation) :=
    ht.ongoing.update ht.ongoing.sound.kept ht.ongoing.sound.anchored (fun _ => id) _ _ _ _ _ _ _ _ _
  dsimp only
  split
  · intro u _ htu
    have hu := hTaken.of_interference htu
    refine ⟨⟨hu.sound, trivial⟩, ?_⟩
    have hSuspended : Ongoing startedAt cycleGeneration sofar (u.effect .suspend) :=
      hu.update hu.sound.kept hu.sound.anchored (fun _ => id) _ _ _ _ _ _ _ _ _
    intro v _ huv
    have hv := hSuspended.of_interference huv
    refine ⟨⟨hv.sound, trivial⟩, ?_⟩
    apply hNext
    apply hv.cycle_of_invalid
    have hIdle : u.replayInProgress = false ∧ u.inFlight = none :=
      ⟨(Interference.replaying htu).1.trans ht.idle.1, (Interference.replaying htu).2.trans ht.idle.2⟩
    exact ⟨(Interference.replaying huv).1.trans hIdle.1,
      (Interference.replaying huv).2.trans hIdle.2⟩
  · rename_i hUnset
    show Keeps next sofar (t.effect .takeInvalidation)
    rw [take_invalidation (Bool.eq_false_iff.mpr hUnset)]
    exact hNext t ht

theorem handleLoadShedding_keeps : Keeps (handleLoadShedding next) sofar w := by
  intro t _ hwt
  have ht := h.of_interference hwt
  refine ⟨⟨ht.ongoing.sound, trivial⟩, ?_⟩
  have hTaken : Ongoing startedAt cycleGeneration sofar (t.effect .takeLoadShed) :=
    ht.ongoing.update ht.ongoing.sound.kept ht.ongoing.sound.anchored (fun _ => id) _ _ _ _ _ _ _ _ _
  dsimp only
  split
  · intro u _ htu
    have hu := hTaken.of_interference htu
    refine ⟨⟨hu.sound, trivial⟩, ?_⟩
    obtain ⟨hShed, hSame, hGoesOn⟩ := hu.shedding
    have hIdle : u.shed.1.replayInProgress = false ∧ u.shed.1.inFlight = none :=
      ⟨hSame.1.trans ((Interference.replaying htu).1.trans ht.idle.1),
        hSame.2.trans ((Interference.replaying htu).2.trans ht.idle.2)⟩
    dsimp only
    split
    · intro v _ huv
      have hv := hShed.of_interference huv
      refine ⟨⟨hv.sound, trivial⟩, ?_⟩
      apply hNext
      apply hv.cycle_of_invalid
      exact ⟨(Interference.replaying huv).1.trans hIdle.1,
        (Interference.replaying huv).2.trans hIdle.2⟩
    · rename_i hNot
      have hStop := hGoesOn.resolve_left hNot
      exact Cycle.weaken ⟨hShed, hIdle, settled_of_stopped hStop⟩
  · rename_i hUnset
    show Keeps next sofar (t.effect .takeLoadShed)
    rw [take_loadShed (Bool.eq_false_iff.mpr hUnset)]
    exact hNext t ht

end

theorem runCycle_keeps (h : Cycle 0 0 sofar w) : Keeps runCycle sofar w := by
  intro t _ hwt
  have ht := h.of_interference hwt
  refine ⟨⟨ht.ongoing.sound, trivial⟩, ?_⟩
  have hDrained : Cycle 0 0 sofar t.drain := by
    unfold drain
    split
    · exact ht
    · exact ht.flags [] false t.suspended t.nextPublishDeadline
  dsimp only
  split
  · exact hDrained
  intro u _ htu
  have hu := hDrained.of_interference htu
  refine ⟨⟨hu.ongoing.sound, trivial⟩, ?_⟩
  dsimp only
  split
  · have hSound : Sound (u.effect .takeReset) :=
      hu.ongoing.sound.update hu.ongoing.sound.kept hu.ongoing.sound.anchored (fun _ => id)
        _ _ _ _ _ _ _ _ _ _ _
    have hRemembers : Remembers (u.effect .takeReset) sofar :=
      ⟨hu.ongoing.remembers.published, hu.ongoing.remembers.applied⟩
    intro v _ huv
    obtain ⟨hv, -⟩ := Interference.sound huv hSound
    have hMemory := hRemembers.of_interference huv
    refine ⟨⟨hv, trivial⟩, ?_⟩
    have hReset : Sound (v.effect .resetPropagator) :=
      hv.update (ImuStatePropagator.reset_kept v.propagator) (fun hValid => by cases hValid)
        (fun _ => id) _ _ _ _ _ _ _ _ _ _ _
    have hEmpty : Remembers (v.effect .resetPropagator) sofar :=
      ⟨hMemory.published, hMemory.applied⟩
    have hIdle : v.replayInProgress = false ∧ v.inFlight = none :=
      ⟨(Interference.replaying huv).1.trans hu.idle.1,
        (Interference.replaying huv).2.trans hu.idle.2⟩
    intro x _ hvx
    obtain ⟨hx, -⟩ := Interference.sound hvx hReset
    refine ⟨⟨hx, trivial⟩, ?_⟩
    apply cycle_of_finishReset hx (hEmpty.of_interference hvx)
    · exact ⟨(Interference.replaying hvx).1.trans hIdle.1,
        (Interference.replaying hvx).2.trans hIdle.2⟩
    · rw [Interference.propagator hvx]
      rfl
  · rename_i hUnset
    have hReset := Bool.eq_false_iff.mpr hUnset
    show Keeps _ sofar (u.effect .takeReset)
    rw [take_reset hReset]
    have ho := hu.ongoing
    -- no reset is waiting, so every reset asked for so far has been carried out
    have hPolled : Cycle u.log.length 0 sofar u :=
      ⟨⟨ho.sound, ho.remembers, ho.resets, Nat.le_refl _,
        fun hRunning i _ hi => ho.resets hRunning hReset i hi, ho.cycle⟩, hu.idle, hu.settled⟩
    apply handleLoadShedding_keeps _ hPolled
    intro v hv
    apply handleInvalidation_keeps _ hv
    exact fun x hx => processInputs_keeps hx t.imuIngress

theorem create_cycle (config : PropagatedOdometryWorkerConfig) :
    Cycle 0 0 [] (create config : PropagatedOdometryWorker K) where
  ongoing := by
    refine ⟨create_sound config, ⟨?_, ?_⟩, ?_, Nat.zero_le _, ?_, Nat.zero_le _⟩
    · exact fun _ hp => (List.not_mem_nil hp).elim
    · exact fun _ hc => (List.not_mem_nil hc).elim
    · intro _ _ i hi
      cases hi
    · exact fun _ i hi => absurd hi (Nat.not_lt_zero i)
  idle := ⟨rfl, rfl⟩
  settled := settled_of_invalid rfl

section
variable (config : PropagatedOdometryWorkerConfig)
  (ops : List (Operation Unit (ProducerCall K) Moment))

theorem runSteps_puts :
    ∀ e ∈ runSteps config ops, ∀ o ∈ e.result.outputs, ∃ sofar, Puts sofar e.after.shared o :=
  emitted_out discipline_stable (fun _ _ _ _ h => runCycle_keeps h) (create_cycle config)

theorem runSteps_enter : ∀ e ∈ runSteps config ops, ∀ label, e.result.label = some label →
      Sound e.before.shared ∧ Enters e.before.shared label :=
  events_enter discipline_stable (fun _ _ _ _ h => runCycle_keeps h) (create_cycle config)

theorem runSteps_sound : ∀ e ∈ runSteps config ops, Sound e.before.shared := by
  intro e he
  obtain ⟨before, op, after, -, rfl⟩ := exists_split_of_mem_events he
  exact run_holds discipline_stable (fun _ _ _ _ h => runCycle_keeps h) (create_cycle config) {}
    (fun _ _ h => h.1) (fun _ _ h => h.ongoing.sound) before

end

theorem runSteps_pairwise {r : WorkerOutput K → WorkerOutput K → Prop}
    (hPuts : ∀ sofar w o, Puts sofar w o → ∀ p ∈ sofar, r p o)
    (config : PropagatedOdometryWorkerConfig)
    (ops : List (Operation Unit (ProducerCall K) Moment)) :
    (emittedIn (runSteps config ops)).Pairwise r :=
  emitted_pairwise_of_out discipline_stable (fun _ _ _ _ h => runCycle_keeps h)
    (create_cycle config) hPuts ops

end PropagatedOdometryWorker

/-! ## What the worker may publish -/

open Runs Sections ImuStatePropagator

namespace PropagatedOdometryWorker

theorem handle_log (w : PropagatedOdometryWorker K) (call : ProducerCall K) :
    (w.handle call).log = w.log := by
  cases call with
  | enqueueImu sample =>
    unfold handle enqueueImu
    dsimp only
    split
    · rfl
    split <;> rfl
  | enqueueEstimatorState update =>
    have hCases := enqueueEstimatorState_enqueueing update w
    show (w.enqueueEstimatorState update).1.log = w.log
    generalize (w.enqueueEstimatorState update).1 = r at hCases
    cases hCases <;> rfl
  | requestLoadShedding => rfl
  | reset =>
    unfold handle reset
    dsimp only
    split <;> rfl
  | stop => rfl

def callsOf (ops : List (Operation Unit (ProducerCall K) Moment)) : List (ProducerCall K) :=
  ops.filterMap fun op =>
    match op with
    | .input call => some call
    | _ => none

theorem run_frame (config : PropagatedOdometryWorkerConfig)
    (ops : List (Operation Unit (ProducerCall K) Moment)) :
    (run system.step ⟨create config, .done⟩ ops).shared.config = config ∧
      (run system.step ⟨create config, .done⟩ ops).shared.log = callsOf ops := by
  apply run_history system.step
    (P := fun ops (t : Threads (PropagatedOdometryWorker K) Moment (WorkerSection K)
      (WorkerOutput K)) => t.shared.config = config ∧ t.shared.log = callsOf ops)
  · exact ⟨rfl, rfl⟩
  · intro ops op ih
    generalize run system.step ⟨create config, .done⟩ ops = s at ih
    obtain ⟨shared, program⟩ := s
    have hOther (hNone : callsOf [op] = []) : callsOf (ops ++ [op]) = callsOf ops := by
      unfold callsOf at hNone ⊢
      rw [List.filterMap_append, hNone, List.append_nil]
    cases op with
    | call c moment =>
      rw [hOther rfl]
      cases program <;> exact ih
    | advance moment =>
      rw [hOther rfl]
      cases program with
      | done => exact ih
      | emit output rest => exact ih
      | lock label rest =>
        have hFrame := effect_frame shared label
        exact ⟨hFrame.config.trans ih.1, hFrame.log.trans ih.2⟩
    | input call =>
      refine ⟨(produce_interference shared call).config.trans ih.1, ?_⟩
      show (shared.produce call).log = _
      unfold produce
      rw [handle_log]
      unfold callsOf
      rw [List.filterMap_append]
      exact congrArg (· ++ [call]) ih.2

/-- What holds of a publication where it is put out. -/
structure SafePublication (config : PropagatedOdometryWorkerConfig)
    (w : PropagatedOdometryWorker K) (p : Publication K) : Prop where
  control : p.control = ⟨.tracking, true, false, false, false⟩
  descends : ∃ r, p.replayed = some r ∧ w.propagator.valid = true ∧
    w.propagator.applied = some r.correction.estimate ∧ r.correction.Genuine w.log ∧
    p.estimate.estimate.time.nanoseconds - r.correction.estimate.time.nanoseconds ≤
      config.maximumCorrectionAgeNs ∧
    Behind w.log w.shedAt p.startedAt p.checkedAt r

def publishedTimes (es : List (WorkerStep K)) : List Int :=
  (emittedIn es).filterMap fun o =>
    match o with
    | .published p => some p.estimate.estimate.time.nanoseconds
    | .applied _ => none

structure PublicationLaws (config : PropagatedOdometryWorkerConfig) (es : List (WorkerStep K)) :
    Prop where
  increasing : (publishedTimes es).Pairwise (· < ·)
  safe : ∀ e ∈ es, ∀ p, .published p ∈ e.result.outputs → SafePublication config e.after.shared p

/-- Every run of the worker publishes in order and safely. -/
theorem publication_safety (config : PropagatedOdometryWorkerConfig)
    (ops : List (Operation Unit (ProducerCall K) Moment)) :
    PublicationLaws config (runSteps config ops) := by
  constructor
  case increasing =>
    have hOrder := runSteps_pairwise (K := K)
      (r := fun o next => ∀ p q, o = .published p → next = .published q →
        p.estimate.estimate.time.nanoseconds < q.estimate.estimate.time.nanoseconds)
      (fun sofar w o hPuts earlier hEarlier p q hp hq => by
        subst hp hq
        exact hPuts.later p hEarlier) config ops
    apply List.Pairwise.filterMap _ _ hOrder
    intro o next hLess s hs t ht
    cases o with
    | applied c => cases hs
    | published p =>
      cases next with
      | applied c => cases ht
      | published q =>
        cases hs
        cases ht
        exact hLess p q rfl rfl
  case safe =>
    intro e he p hp
    obtain ⟨sofar, hPublishes⟩ := runSteps_puts config ops e he _ hp
    have hConfig : e.after.shared.config = config := by
      obtain ⟨before, op, after, -, rfl⟩ := exists_split_of_mem_events he
      rw [eventAt_after, ← run_concat]
      exact (run_frame config _).1
    refine ⟨hPublishes.control, ?_⟩
    rw [← hConfig]
    exact hPublishes.descends

def trackingCorrection (time : Timestamp) (correctionSequence : Nat) :
    EstimatorStateUpdate countingKernel where
  status := .tracking
  navigationValid := true
  correctedEstimate := some ⟨time, (0 : Nat), ()⟩
  correctionSequence := correctionSequence

def publishingCycle (late : List (Operation Unit (ProducerCall countingKernel) Moment)) :
    List (Operation Unit (ProducerCall countingKernel) Moment) :=
  [.input (.enqueueImu (sampleAtTime (.rosTime 10))),
    .input (.enqueueImu (sampleAtTime (.rosTime 20))),
    .input (.enqueueEstimatorState (trackingCorrection (.rosTime 10) 1)),
    .call () {}, .advance {}, .advance {}] ++ late ++ List.replicate 24 (.advance {})

def lateReset : List (Operation Unit (ProducerCall countingKernel) Moment) :=
  publishingCycle [.input .reset]

/-- The output is published behind a call of `reset`, goes back to a correction accepted before
it, and its control was checked behind it. -/
def ignoresReset (w : PropagatedOdometryWorker countingKernel) : WorkerOutput countingKernel → Bool
  | .applied _ => false
  | .published p =>
    p.replayed.any fun r => (List.range p.checkedAt).any fun i =>
      (match w.log[i]? with
        | some .reset => true
        | _ => false) && decide (r.correction.acceptedAt ≤ i)

/-- After `reset` has returned, the cycle that goes on checks its control and publishes what
goes back to a correction accepted before. -/
theorem published_after_reset : ∃ e ∈ runSteps {} lateReset, ∃ p r i,
    .published p ∈ e.result.outputs ∧ p.replayed = some r ∧ i < p.checkedAt ∧
      e.after.shared.log[i]? = some .reset ∧ r.correction.acceptedAt ≤ i := by
  have hFound : ((runSteps {} lateReset).any fun e =>
      e.result.outputs.any fun o => ignoresReset e.after.shared o) = true := by decide +kernel
  obtain ⟨e, he, hOutputs⟩ := List.any_eq_true.mp hFound
  obtain ⟨o, ho, hIgnores⟩ := List.any_eq_true.mp hOutputs
  cases o with
  | applied c => cases hIgnores
  | published p =>
    obtain ⟨r, hReplayed, hCall⟩ := (Option.any_eq_true _ _).mp hIgnores
    obtain ⟨i, hi, hBoth⟩ := List.any_eq_true.mp hCall
    obtain ⟨hReset, hOld⟩ := Bool.and_eq_true _ _ ▸ hBoth
    refine ⟨e, he, p, r, i, ho, hReplayed, List.mem_range.mp hi, ?_, of_decide_eq_true hOld⟩
    split at hReset
    · rename_i hLog
      exact hLog
    · cases hReset

/-! ## The mailbox of corrections -/

variable {w t : PropagatedOdometryWorker K} {c d : PendingCorrection K}

def Holds (w : PropagatedOdometryWorker K) (c : PendingCorrection K) : Prop :=
  w.pendingCorrection = some c ∨ w.inFlight = some c

def RecordsApplied (w : PropagatedOdometryWorker K) (c : PendingCorrection K) : Prop :=
  w.lastAppliedCorrectionSequence = c.correctionSequence ∧
    w.lastAppliedCorrectionTime = some c.estimate.time

/-- The correction does not go beyond the other one in both coordinates. -/
def Outrun (c d : PendingCorrection K) : Prop :=
  c.correctionSequence ≤ d.correctionSequence ∨
    c.estimate.time.nanoseconds ≤ d.estimate.time.nanoseconds

/-- Why the worker no longer has a correction. -/
inductive Leaves (e : WorkerStep K) (c : PendingCorrection K) : Prop where
  | applied (hApplied : RecordsApplied e.after.shared c)
      (hLabel : e.result.label = some (.complete c (.ok ())))
  | outdated (hGeneration : c.controlGeneration < e.after.shared.controlGeneration)
  | stopped (hStopped : e.after.shared.stopRequested = true)
  | outrun (d : PendingCorrection K)
      (hOther : Holds e.after.shared d ∨ RecordsApplied e.after.shared d) (hOutrun : Outrun c d)
  | failed (failure : Status) (hLabel : e.result.label = some (.complete c (.error failure)))
      (hCode : failure.code ≠ .missingEndBracket)
  | transition (status : Except Status Unit) (hLabel : e.result.label = some (.complete c status))
      (hPending : ¬MainValid e.before.shared ∨ e.before.shared.loadShedRequested = true ∨
        e.before.shared.invalidationRequested = true)

/-! ## Sections -/

/-- The sections that touch neither the mailbox nor what is in flight. -/
def Spares : WorkerSection K → Prop
  | .finishReset => False
  | .shed => False
  | .continuityReset => False
  | .take => False
  | .complete _ _ => False
  | _ => True

theorem effect_spares {label : WorkerSection K} (h : Spares label) :
    (w.effect label).pendingCorrection = w.pendingCorrection ∧
      (w.effect label).inFlight = w.inFlight := by
  cases label with
  | drain =>
    unfold effect drain
    dsimp only
    split <;> exact ⟨rfl, rfl⟩
  | finishReset => exact h.elim
  | shed => exact h.elim
  | continuityReset => exact h.elim
  | take => exact h.elim
  | complete correction status => exact h.elim
  | takeReset => exact ⟨rfl, rfl⟩
  | resetPropagator => exact ⟨rfl, rfl⟩
  | takeLoadShed => exact ⟨rfl, rfl⟩
  | takeInvalidation => exact ⟨rfl, rfl⟩
  | suspend => exact ⟨rfl, rfl⟩
  | invalidate status => exact ⟨rfl, rfl⟩
  | acceptImu sample => exact ⟨rfl, rfl⟩
  | recordImuForReplay sample => exact ⟨rfl, rfl⟩
  | replay correction => exact ⟨rfl, rfl⟩
  | flush => exact ⟨rfl, rfl⟩
  | look => exact ⟨rfl, rfl⟩
  | startDeadline time => exact ⟨rfl, rfl⟩
  | notePublished time => exact ⟨rfl, rfl⟩
  | setDeadline deadline => exact ⟨rfl, rfl⟩

/-- What a section does that clears the mailbox: it begins a generation or stops the worker. -/
def Renews (w t : PropagatedOdometryWorker K) : Prop :=
  t.inFlight = w.inFlight ∧ (t.pendingCorrection = w.pendingCorrection ∨
    t.controlGeneration = w.controlGeneration + 1 ∨ t.stopRequested = true)

variable {e : WorkerStep K}

section
variable (w : PropagatedOdometryWorker K)

theorem finishReset_renews : Renews w w.finishReset := by
  unfold finishReset discardPendingCorrection advanceControlGeneration
  by_cases hLast : w.controlGeneration = 2 ^ 64 - 1
  · rw [if_pos hLast]
    exact ⟨rfl, .inr (.inr rfl)⟩
  · rw [if_neg hLast]
    exact ⟨rfl, .inr (.inl rfl)⟩

theorem shed_renews : Renews w w.shed.1 := by
  unfold shed
  split
  · exact ⟨rfl, .inl rfl⟩
  · unfold advanceControlGeneration discardPendingCorrection
    by_cases hLast : w.controlGeneration = 2 ^ 64 - 1
    · rw [if_pos hLast]
      exact ⟨rfl, .inr (.inr rfl)⟩
    · rw [if_neg hLast]
      exact ⟨rfl, .inr (.inl rfl)⟩

theorem handleContinuityReset_renews : Renews w w.handleContinuityReset := by
  unfold handleContinuityReset discardPendingCorrection advanceControlGeneration
  by_cases hLast : w.controlGeneration = 2 ^ 64 - 1
  · rw [if_pos hLast]
    exact ⟨rfl, .inl rfl⟩
  · rw [if_neg hLast]
    exact ⟨rfl, .inr (.inl rfl)⟩

end

theorem Renews.leaves (h : Renews e.before.shared e.after.shared) (hSound : Sound e.before.shared)
    (hc : Holds e.before.shared c) : Holds e.after.shared c ∨ Leaves e c := by
  obtain ⟨hFlight, hMailbox⟩ := h
  rcases hc with hPending | hFlying
  · rcases hMailbox with hSame | hNext | hStop
    · exact .inl (.inl (hSame.trans hPending))
    · have hCurrent := (hSound.pending c hPending).current
      exact .inr (.outdated (by omega))
    · exact .inr (.stopped hStop)
  · exact .inl (.inr (hFlight.trans hFlying))

theorem take_holds (hSound : Sound w) (hIdle : w.inFlight = none) (hc : Holds w c) :
    Holds w.takePendingCorrection.1 c ∨ w.takePendingCorrection.1.stopRequested = true := by
  have hPending : w.pendingCorrection = some c := by
    rcases hc with hPending | hFlying
    · exact hPending
    · rw [hIdle] at hFlying
      cases hFlying
  obtain ⟨-, hCurrent, hNewer, hMain⟩ := hSound.pending c hPending
  unfold takePendingCorrection
  rw [hPending]
  dsimp only
  split
  · rename_i hRefused
    right
    by_contra hRunning
    obtain ⟨hStatus, hNavigation⟩ := hMain (Bool.eq_false_iff.mpr hRunning)
    rcases hRefused with hOther | hOther | hOther
    · exact hOther hCurrent
    · exact hOther hStatus
    · rw [show w.discardPendingCorrection.navigationValid = true from hNavigation] at hOther
      cases hOther
  split
  · rename_i hNot
    exact absurd (hNot.symm.trans hNewer) nofun
  · exact .inl (.inr rfl)

theorem complete_leaves {status : Except Status Unit}
    (hLabel : e.result.label = some (.complete d status))
    (hAfter : e.after.shared = (e.before.shared.completeReplay d status).1)
    (hFlight : e.before.shared.inFlight = some d)
    (hKnown : d.controlGeneration ≤ e.before.shared.controlGeneration)
    (hc : Holds e.before.shared c) : Holds e.after.shared c ∨ Leaves e c := by
  have hCompleting := completeReplay_completing e.before.shared d status
  generalize e.before.shared.completeReplay d status = r at hCompleting hAfter
  -- the correction waits in the mailbox, or it is the one that was replayed
  have hCases : e.before.shared.pendingCorrection = some c ∨ c = d := by
    rcases hc with hPending | hFlying
    · exact .inl hPending
    · exact .inr (Option.some.inj (hFlying.symm.trans hFlight))
  cases hCompleting with
  | outdated hGeneration =>
    rcases hCases with hPending | rfl
    · exact .inl (.inl (hAfter ▸ hPending))
    · refine .inr (.outdated ?_)
      rw [hAfter]
      exact Nat.lt_of_le_of_ne hKnown (Ne.symm hGeneration)
  | dropped hGeneration hTransition =>
    rcases hCases with hPending | rfl
    · exact .inl (.inl (hAfter ▸ hPending))
    · exact .inr (.transition status hLabel hTransition)
  | superseded held hHeld hSequence hTime =>
    rcases hCases with hPending | rfl
    · exact .inl (.inl (hAfter ▸ hPending))
    · refine .inr (.outrun held (.inl (.inl ?_)) (.inl (Nat.le_of_lt hSequence)))
      rw [hAfter]
      exact hHeld
  | applied hGeneration hMain hOk pending hMailbox =>
    subst hOk
    have hRecords : RecordsApplied e.after.shared d := by
      rw [hAfter]
      exact ⟨rfl, rfl⟩
    rcases hCases with hPending | rfl
    · rcases hMailbox with ⟨rfl, -⟩ | ⟨rfl, held, hHeld, hNot⟩
      · exact .inl (.inl (hAfter ▸ hPending))
      · obtain rfl : held = c := Option.some.inj (hHeld.symm.trans hPending)
        refine .inr (.outrun d (.inr hRecords) ?_)
        by_contra hBeyond
        apply hNot
        obtain ⟨hSequence, hTime⟩ := not_or.mp hBeyond
        refine newer_iff.mpr ⟨fun _ => Nat.lt_of_not_le hSequence, ?_⟩
        intro time hSome
        cases hSome
        exact not_le.mp hTime
    · exact .inr (.applied hRecords hLabel)
  | failed failure hStatus hCode =>
    subst hStatus
    rcases hCases with hPending | rfl
    · exact .inl (.inl (hAfter ▸ hPending))
    · exact .inr (.failed failure hLabel hCode)
  | requeued hGeneration hMain failure hStatus hBeyond =>
    have hHolds : Holds e.after.shared d := by
      rw [hAfter]
      exact .inl rfl
    rcases hCases with hPending | rfl
    · obtain ⟨hSequence, -⟩ := hBeyond c hPending
      exact .inr (.outrun d (.inl hHolds) (.inl (Nat.le_of_lt hSequence)))
    · exact .inl hHolds
  | outrun failure hStatus held hHeld hNot =>
    rcases hCases with hPending | rfl
    · exact .inl (.inl (hAfter ▸ hPending))
    · refine .inr (.outrun held (.inl (.inl ?_)) (hNot.imp id le_of_lt))
      rw [hAfter]
      exact hHeld

/-! ## Calls -/

theorem produce_leaves {call : ProducerCall K}
    (hAfter : e.after.shared = e.before.shared.produce call) (hSound : Sound e.before.shared)
    (hc : Holds e.before.shared c) : Holds e.after.shared c ∨ Leaves e c := by
  generalize hBefore : e.before.shared = w at hAfter hSound hc
  have hFlight := (produce_interference w call).replaying.2
  rcases hc with hPending | hFlying
  swap
  · exact .inl (.inr (by rw [hAfter, hFlight, hFlying]))
  cases call with
  | enqueueEstimatorState update =>
    have hCases := enqueueEstimatorState_enqueueing update
      { w with log := w.log ++ [.enqueueEstimatorState update] }
    unfold produce handle at hAfter
    dsimp only at hAfter
    generalize (({ w with log := w.log ++ [.enqueueEstimatorState update] } :
      PropagatedOdometryWorker K).enqueueEstimatorState update).1 = r at hCases hAfter
    cases hCases with
    | refused hClosed => exact .inl (.inl (hAfter ▸ hPending))
    | exhausted hInvalid => exact .inl (.inl (hAfter ▸ hPending))
    | invalidated hOpen hInvalid =>
      refine .inr (.outdated ?_)
      have hCurrent := (hSound.pending c hPending).current
      rw [hAfter]
      show c.controlGeneration < w.controlGeneration + 1
      omega
    | noted hValid => exact .inl (.inl (hAfter ▸ hPending))
    | stored hValid estimate hEstimate hIdentified hNewer hBeyond =>
      obtain ⟨hSequence, -⟩ := hBeyond c hPending
      have hStored := congrArg pendingCorrection hAfter
      exact .inr (.outrun _ (.inl (.inl hStored)) (.inl (Nat.le_of_lt hSequence)))
  | enqueueImu sample =>
    have hSame : (w.produce (.enqueueImu sample)).pendingCorrection = w.pendingCorrection := by
      unfold produce handle enqueueImu
      dsimp only
      split
      · rfl
      split <;> rfl
    exact .inl (.inl (by rw [hAfter, hSame, hPending]))
  | requestLoadShedding => exact .inl (.inl (hAfter ▸ hPending))
  | reset =>
    have hSame : (w.produce .reset).pendingCorrection = w.pendingCorrection := by
      unfold produce handle reset
      dsimp only
      split <;> rfl
    exact .inl (.inl (by rw [hAfter, hSame, hPending]))
  | stop => exact .inl (.inl (hAfter ▸ hPending))

theorem enqueueCorrection_stored {estimate : K.Estimate} {correctionSequence : Nat}
    (hIdentified : correctionSequence ≠ 0) (hFinite : K.estimateFinite estimate = true)
    (hLast : ∀ time, w.lastCorrectionTime = some time →
      estimate.time.clockDomain = time.clockDomain)
    (hHeld : ∀ held, w.pendingCorrection = some held →
      estimate.time.clockDomain = held.estimate.time.clockDomain)
    (hNewer : ¬w.notNewerThanApplied correctionSequence estimate.time = true)
    (hBeyond : ∀ held, w.pendingCorrection = some held →
      held.correctionSequence < correctionSequence ∧
        held.estimate.time.nanoseconds ≤ estimate.time.nanoseconds) :
    w.enqueueCorrection estimate correctionSequence = ({ w with
      pendingCorrection :=
        some ⟨estimate, correctionSequence, w.controlGeneration, w.log.length⟩
      lastCorrectionTime := some estimate.time
      correctionRequested := true }, true) := by
  have hDomain : ¬(w.lastCorrectionTime.any fun t => !estimate.time.sameClockDomain t) = true := by
    intro h
    obtain ⟨time, hTime, hOther⟩ := (Option.any_eq_true _ _).mp h
    simp [Timestamp.sameClockDomain, hLast time hTime] at hOther
  have hMailbox : ¬(w.pendingCorrection.any fun held =>
      !estimate.time.sameClockDomain held.estimate.time) = true := by
    intro h
    obtain ⟨held, hPending, hOther⟩ := (Option.any_eq_true _ _).mp h
    simp [Timestamp.sameClockDomain, hHeld held hPending] at hOther
  have hOutrun : ¬(w.pendingCorrection.any fun held =>
      correctionSequence ≤ held.correctionSequence ∨
        estimate.time.nanoseconds < held.estimate.time.nanoseconds) = true := by
    intro h
    obtain ⟨held, hPending, hOther⟩ := (Option.any_eq_true _ _).mp h
    obtain ⟨hSequence, hTime⟩ := hBeyond held hPending
    rcases of_decide_eq_true hOther with hNot | hNot
    · exact Nat.not_le.mpr hSequence hNot
    · exact not_lt.mpr hTime hNot
  unfold enqueueCorrection
  rw [if_neg (by rw [hFinite]; simp [hIdentified]), if_neg hDomain, if_neg hMailbox,
    if_neg hNewer, if_neg hOutrun]

/-- A correction of a valid state is put into the mailbox, unless it does not go beyond what was
applied or what waits already. -/
theorem enqueue_stores {update : EstimatorStateUpdate K} {estimate : K.Estimate}
    (hOpen : w.accepting = true) (hValid : update.Valid)
    (hEstimate : update.correctedEstimate = some estimate)
    (hIdentified : update.correctionSequence ≠ 0) (hFinite : K.estimateFinite estimate = true)
    (hLast : ∀ time, w.lastCorrectionTime = some time →
      estimate.time.clockDomain = time.clockDomain)
    (hHeld : ∀ held, w.pendingCorrection = some held →
      estimate.time.clockDomain = held.estimate.time.clockDomain) :
    (w.produce (.enqueueEstimatorState update)).pendingCorrection =
        some ⟨estimate, update.correctionSequence, w.controlGeneration, w.log.length + 1⟩ ∨
      w.notNewerThanApplied update.correctionSequence estimate.time = true ∨
      ∃ held, w.pendingCorrection = some held ∧
        (update.correctionSequence ≤ held.correctionSequence ∨
          estimate.time.nanoseconds < held.estimate.time.nanoseconds) := by
  obtain ⟨hStatus, hNavigation⟩ := hValid
  by_cases hNot : w.notNewerThanApplied update.correctionSequence estimate.time = true
  · exact .inr (.inl hNot)
  by_cases hOutrun : ∃ held, w.pendingCorrection = some held ∧
      (update.correctionSequence ≤ held.correctionSequence ∨
        estimate.time.nanoseconds < held.estimate.time.nanoseconds)
  · exact .inr (.inr hOutrun)
  left
  have hBeyond (held : PendingCorrection K) (hPending : w.pendingCorrection = some held) :
      held.correctionSequence < update.correctionSequence ∧
        held.estimate.time.nanoseconds ≤ estimate.time.nanoseconds := by
    have hBoth := fun h => hOutrun ⟨held, hPending, h⟩
    exact ⟨Nat.lt_of_not_le fun h => hBoth (.inl h), not_lt.mp fun h => hBoth (.inr h)⟩
  have hStored := enqueueCorrection_stored (w := { w with
    log := w.log ++ [.enqueueEstimatorState update]
    mainStatus := update.status
    navigationValid := update.navigationValid }) hIdentified hFinite hLast hHeld hNot hBeyond
  unfold produce handle enqueueEstimatorState
  dsimp only
  rw [if_neg (by rw [hOpen]; decide), if_neg (by rw [hStatus, hNavigation]; decide), hEstimate]
  dsimp only
  rw [hStored]
  simp

structure MailboxLaws (es : List (WorkerStep K)) : Prop where
  increasing : (emittedIn es).Pairwise fun o next => ∀ c d, o = .applied c → next = .applied d →
    c.correctionSequence < d.correctionSequence ∧
      c.estimate.time.nanoseconds < d.estimate.time.nanoseconds
  applied : ∀ e ∈ es, ∀ c, .applied c ∈ e.result.outputs →
    c.Genuine e.after.shared.log ∧ RecordsApplied e.after.shared c ∧
      c.controlGeneration = e.after.shared.controlGeneration
  generation : ∀ e ∈ es, e.before.shared.controlGeneration ≤ e.after.shared.controlGeneration
  kept : ∀ e ∈ es, ∀ c, Holds e.before.shared c → Holds e.after.shared c ∨ Leaves e c
  stored : ∀ e ∈ es, ∀ update estimate, e.op = .input (.enqueueEstimatorState update) →
    e.before.shared.accepting = true → update.Valid → update.correctedEstimate = some estimate →
    update.correctionSequence ≠ 0 → K.estimateFinite estimate = true →
    (∀ time, e.before.shared.lastCorrectionTime = some time →
      estimate.time.clockDomain = time.clockDomain) →
    (∀ held, e.before.shared.pendingCorrection = some held →
      estimate.time.clockDomain = held.estimate.time.clockDomain) →
    e.after.shared.pendingCorrection = some ⟨estimate, update.correctionSequence,
        e.before.shared.controlGeneration, e.before.shared.log.length + 1⟩ ∨
      e.before.shared.notNewerThanApplied update.correctionSequence estimate.time = true ∨
      ∃ held, e.before.shared.pendingCorrection = some held ∧
        (update.correctionSequence ≤ held.correctionSequence ∨
          estimate.time.nanoseconds < held.estimate.time.nanoseconds)

/-- Every run obeys the laws of the mailbox. -/
theorem mailbox_laws (config : PropagatedOdometryWorkerConfig)
    (ops : List (Operation Unit (ProducerCall K) Moment)) :
    MailboxLaws (runSteps config ops) := by
  have hEffect : ∀ e ∈ runSteps config ops, Effect (system (K := K)) e := by
    intro e he
    obtain ⟨before, op, after, -, rfl⟩ := exists_split_of_mem_events he
    exact step_effect _ _ _
  constructor
  case increasing =>
    refine runSteps_pairwise ?_ config ops
    intro sofar w o hPuts earlier hEarlier c d hc hd
    subst hc hd
    exact hPuts.earlier c hEarlier
  case applied =>
    intro e he c hc
    obtain ⟨sofar, hApplies⟩ := runSteps_puts config ops e he _ hc
    exact ⟨hApplies.genuine, hApplies.recorded, hApplies.current⟩
  case generation =>
    intro e he
    cases hEffect e he with
    | silent hLabel hShared => rw [hShared]
    | locked label moment hOp hLabel hShared =>
      rw [hShared]
      exact (effect_frame _ label).generation
    | external call hOp hLabel hOutputs hShared =>
      rw [hShared]
      exact (produce_interference _ call).generation
  case stored =>
    intro e he update estimate hOp hOpen hValid hEstimate hIdentified hFinite hLast hHeld
    obtain ⟨before, op, after, -, rfl⟩ := exists_split_of_mem_events he
    obtain rfl : op = .input (.enqueueEstimatorState update) := hOp
    exact enqueue_stores hOpen hValid hEstimate hIdentified hFinite hLast hHeld
  case kept =>
    intro e he c hc
    cases hEffect e he with
    | silent hLabel hShared => exact .inl (by rw [hShared]; exact hc)
    | external call hOp hLabel hOutputs hShared =>
      exact produce_leaves hShared (runSteps_sound config ops e he) hc
    | locked label moment hOp hLabel hShared =>
      obtain ⟨hSound, hEnters⟩ := runSteps_enter config ops e he label hLabel
      by_cases hSpares : Spares label
      · obtain ⟨hPending, hFlight⟩ := effect_spares (w := e.before.shared) hSpares
        left
        rw [hShared]
        exact hc.imp hPending.trans hFlight.trans
      cases label with
      | finishReset =>
        exact Renews.leaves (hShared ▸ finishReset_renews e.before.shared) hSound hc
      | shed => exact Renews.leaves (hShared ▸ shed_renews e.before.shared) hSound hc
      | continuityReset =>
        exact Renews.leaves (hShared ▸ handleContinuityReset_renews e.before.shared) hSound hc
      | take =>
        rcases take_holds hSound hEnters hc with hTaken | hStopped
        · exact .inl (hShared ▸ hTaken)
        · exact .inr (.stopped (hShared ▸ hStopped))
      | complete d status =>
        exact complete_leaves hLabel hShared hEnters.1 hEnters.2 hc
      | _ => exact absurd trivial hSpares

/-- Load shedding is requested when the only correction has just been replayed. -/
def sheddingReplay : List (Operation Unit (ProducerCall countingKernel) Moment) :=
  [.input (.enqueueImu (sampleAtTime (.rosTime 10))),
    .input (.enqueueImu (sampleAtTime (.rosTime 20))),
    .input (.enqueueEstimatorState (trackingCorrection (.rosTime 10) 1)),
    .call () {}] ++ List.replicate 10 (.advance {}) ++ [.input .requestLoadShedding, .advance {}]

/-- The step completes a successful replay in the generation of its correction, and leaves
nothing of it. -/
def dropsReplayed (e : WorkerStep countingKernel) : Bool :=
  match e.result.label with
  | some (.complete c (.ok _)) =>
    (e.before.shared.inFlight.any fun d => d.acceptedAt == c.acceptedAt) &&
      c.controlGeneration == e.after.shared.controlGeneration &&
      e.after.shared.lastAppliedCorrectionSequence == 0 &&
      e.after.shared.pendingCorrection.isNone && e.after.shared.inFlight.isNone
  | _ => false

/-- The replay of the only correction succeeds in its generation, and the correction is lost. -/
theorem replayed_correction_dropped : ∃ e ∈ runSteps {} sheddingReplay, ∃ c,
    e.result.label = some (.complete c (.ok ())) ∧
      c.controlGeneration = e.after.shared.controlGeneration ∧
      e.after.shared.lastAppliedCorrectionSequence = 0 ∧
      ∀ d, ¬Holds e.after.shared d := by
  have hFound : (runSteps {} sheddingReplay).any dropsReplayed = true := by decide +kernel
  obtain ⟨e, he, hDrops⟩ := List.any_eq_true.mp hFound
  unfold dropsReplayed at hDrops
  split at hDrops
  · rename_i c value hLabel
    simp only [Bool.and_eq_true, beq_iff_eq, Option.isNone_iff_eq_none] at hDrops
    obtain ⟨⟨⟨⟨-, hGeneration⟩, hNever⟩, hMailbox⟩, hFlight⟩ := hDrops
    refine ⟨e, he, c, hLabel, hGeneration, hNever, ?_⟩
    rintro d (hPending | hFlying)
    · rw [hMailbox] at hPending
      cases hPending
    · rw [hFlight] at hFlying
      cases hFlying
  · cases hDrops

end PropagatedOdometryWorker

end UavNavigation.FastLio
