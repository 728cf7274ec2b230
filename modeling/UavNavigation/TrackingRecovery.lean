import UavNavigation.ExactReals
import UavNavigation.PipelineCalls

/-!
# Regaining tracking

The journal of the lifecycle says what happened before tracking was regained. As
long as no step gives the estimator up while it is recovering, the successes that
are counted are the newest events, one after another.
-/

namespace UavNavigation.FastLio

open Relation Runs List

set_option autoImplicit false

variable {D : Type} [FloatOps D] {N : Numerics D}

def EntersFailure (e : LifecycleEvent) : Prop := e.before ≠ e.after ∧ e.after.recovering = true

/-- Consecutive successful corrections, with nothing failing after the first of them. -/
structure FreshEvidence (updates : Nat) (evidence : List LifecycleEvent) : Prop where
  enough : updates ≤ evidence.length
  corrected : ∀ e ∈ evidence, e.cause = .corrected
  steady : ∀ e ∈ evidence.tail, ¬EntersFailure e

/-- Whenever tracking was regained, fresh evidence came right before it. -/
def RegainedFresh (updates : Nat) (journal : List LifecycleEvent) : Prop :=
  ∀ past e future, journal = past ++ e :: future → (∃ c ∈ past, c.cause = .confirmed) →
    e.before.recovering = true → e.after = .tracking →
    ∃ older evidence, past ++ [e] = older ++ evidence ∧ FreshEvidence updates evidence

section Journal
variable {updates n : Nat} {journal evidence : List LifecycleEvent} {e : LifecycleEvent}

theorem RegainedFresh.append (h : RegainedFresh updates journal)
    (hEvent : (∃ c ∈ journal, c.cause = .confirmed) → e.before.recovering = true →
      e.after = .tracking →
      ∃ older evidence, journal ++ [e] = older ++ evidence ∧ FreshEvidence updates evidence) :
    RegainedFresh updates (journal ++ [e]) := by
  intro past x future hSplit hConfirmed hBefore hAfter
  rcases eq_nil_or_concat future with rfl | ⟨future, last, rfl⟩
  · obtain ⟨rfl, hx⟩ := append_inj' hSplit rfl
    cases hx
    exact hEvent hConfirmed hBefore hAfter
  · rw [concat_eq_append, ← cons_append, ← append_assoc] at hSplit
    obtain ⟨rfl, -⟩ := append_inj' hSplit rfl
    exact h past x future rfl hConfirmed hBefore hAfter

theorem RegainedFresh.append_other (h : RegainedFresh updates journal)
    (hEvent : e.after ≠ .tracking) : RegainedFresh updates (journal ++ [e]) :=
  h.append fun _ _ hAfter => absurd hAfter hEvent

theorem FreshEvidence.single (hCause : e.cause = .corrected) : FreshEvidence 1 [e] where
  enough := le_refl _
  corrected := by simp [hCause]
  steady := by simp

theorem FreshEvidence.concat (h : FreshEvidence n evidence) (hCause : e.cause = .corrected)
    (hSteady : ¬EntersFailure e) : FreshEvidence (n + 1) (evidence ++ [e]) where
  enough := by
    have hEnough := h.enough
    simp only [length_append, length_singleton]
    omega
  corrected := by
    intro x hx
    rcases mem_append.mp hx with hx | hx
    · exact h.corrected x hx
    · cases mem_singleton.mp hx
      exact hCause
  steady := by
    intro x hx
    cases evidence with
    | nil => cases hx
    | cons first rest =>
      rcases mem_append.mp hx with hx | hx
      · exact h.steady x hx
      · cases mem_singleton.mp hx
        exact hSteady

theorem FreshEvidence.mono {m : Nat} (h : FreshEvidence n evidence) (hm : m ≤ n) :
    FreshEvidence m evidence := ⟨le_trans hm h.enough, h.corrected, h.steady⟩

end Journal

namespace Lifecycle
variable {config : LifecycleConfig} {confirmations : Nat} {l next : Lifecycle}

/-- The counted successes are the newest events of the journal. -/
structure CountedFresh (confirmations : Nat) (l : Lifecycle) : Prop where
  idle : l.status = .tracking → l.consecutiveRecoverySuccesses = 0
  pending : l.RecoveryPending → l.trackingEverConfirmed = true ∧ l.status = .degraded ∧
    ∃ older evidence, l.journal = older ++ evidence ∧
      FreshEvidence l.consecutiveRecoverySuccesses evidence
  confirmed : (∃ e ∈ l.journal, e.cause = .confirmed) → l.trackingEverConfirmed = true
  fresh : RegainedFresh confirmations l.journal

theorem initial_fresh (confirmations : Nat) : CountedFresh confirmations {} where
  idle := by simp
  pending := by
    intro h
    exact absurd h.1 (by simp)
  confirmed := by simp
  fresh := by
    intro past e future hSplit
    cases past <;> cases hSplit

section
variable (hl : CountedFresh confirmations l)
include hl

theorem CountedFresh.idleEvent {e : LifecycleEvent} (hJournal : next.journal = l.journal ++ [e])
    (hCause : e.cause ≠ .confirmed) (hAfter : e.after ≠ .tracking)
    (hStatus : next.status ≠ .tracking) (hPending : ¬next.RecoveryPending)
    (hConfirmed : l.trackingEverConfirmed = true → next.trackingEverConfirmed = true) :
    CountedFresh confirmations next where
  idle := fun h => absurd h hStatus
  pending := fun h => absurd h hPending
  confirmed := by
    rintro ⟨x, hx, hConfirms⟩
    rw [hJournal] at hx
    rcases mem_append.mp hx with hx | hx
    · exact hConfirmed (hl.confirmed ⟨x, hx, hConfirms⟩)
    · cases mem_singleton.mp hx
      exact absurd hConfirms hCause
  fresh := by
    rw [hJournal]
    exact hl.fresh.append_other hAfter

theorem CountedFresh.same (hStatus : next.status = l.status)
    (hSuccesses : next.consecutiveRecoverySuccesses = l.consecutiveRecoverySuccesses)
    (hGuard : next.mapRecoveryRequired = l.mapRecoveryRequired)
    (hConfirmed : next.trackingEverConfirmed = l.trackingEverConfirmed)
    (hJournal : next.journal = l.journal) : CountedFresh confirmations next where
  idle := by
    rw [hStatus, hSuccesses]
    exact hl.idle
  pending := by
    unfold RecoveryPending
    rw [hStatus, hSuccesses, hGuard, hConfirmed, hJournal]
    exact hl.pending
  confirmed := by
    rw [hConfirmed, hJournal]
    exact hl.confirmed
  fresh := hJournal ▸ hl.fresh

theorem CountedFresh.evidence (hGuard : l.mapRecoveryRequired = false) {e : LifecycleEvent}
    (hCause : e.cause = .corrected) (hSteady : l.status = .degraded → ¬EntersFailure e) :
    ∃ older evidence, l.journal ++ [e] = older ++ evidence ∧
      FreshEvidence (l.consecutiveRecoverySuccesses + 1) evidence := by
  rcases Nat.eq_zero_or_pos l.consecutiveRecoverySuccesses with hZero | hPositive
  · rw [hZero]
    exact ⟨l.journal, [e], rfl, .single hCause⟩
  · obtain ⟨-, hStatus, older, evidence, hJournal, hFresh⟩ := hl.pending ⟨hPositive, hGuard⟩
    refine ⟨older, evidence ++ [e], ?_, hFresh.concat hCause (hSteady hStatus)⟩
    rw [hJournal, append_assoc]

theorem CountedFresh.accepted (h : Accepted confirmations l next)
    (hGuard : next.mapRecoveryRequired = l.mapRecoveryRequired) :
    CountedFresh confirmations next := by
  have hNow := h.now_confirmed
  cases h with
  | confirmed hNever hStatus _ hZero hJournal =>
    constructor
    case idle => exact fun _ => hZero
    case pending => exact fun hPending => absurd hPending.1 hZero.not_gt
    case confirmed => exact fun _ => hNow
    case fresh =>
      rw [hJournal]
      apply hl.fresh.append
      intro hConfirmed
      rw [hl.confirmed hConfirmed] at hNever
      cases hNever
  | steady _ hBefore hStatus hSame hJournal =>
    constructor
    case idle =>
      intro hTracking
      rw [hSame]
      exact hl.idle (hStatus.symm.trans hTracking)
    case pending =>
      intro hPending
      rw [RecoveryPending, hSame, hGuard] at hPending
      obtain ⟨-, hDegraded, -⟩ := hl.pending hPending
      rw [hDegraded] at hBefore
      cases hBefore
    case confirmed => exact fun _ => hNow
    case fresh =>
      rw [hJournal]
      apply hl.fresh.append
      intro _ hRecovering
      rw [show l.status.recovering = true from hRecovering] at hBefore
      cases hBefore
  | guarded _ hOwed hStatus hBefore hJournal =>
    have hNot : next.status ≠ .tracking := by
      rw [hStatus]
      exact recovering_not_tracking hBefore
    refine hl.idleEvent hJournal (by simp) (recovering_not_tracking hBefore) hNot ?_ fun _ => hNow
    intro hPending
    rw [RecoveryPending, hGuard, hOwed] at hPending
    cases hPending.2
  | regained _ hFree hBefore hEnough hStatus hZero hJournal =>
    constructor
    case idle => exact fun _ => hZero
    case pending => exact fun hPending => absurd hPending.1 hZero.not_gt
    case confirmed => exact fun _ => hNow
    case fresh =>
      rw [hJournal]
      apply hl.fresh.append
      intro _ _ _
      obtain ⟨older, evidence, hSplit, hFresh⟩ :=
        hl.evidence (e := ⟨.corrected, l.status, .tracking⟩) hFree rfl
          fun _ hEnters => absurd hEnters.2 (by simp [EstimatorStatus.recovering])
      exact ⟨older, evidence, hSplit, hFresh.mono hEnough⟩
  | pending _ hFree hBefore hStatus hMore hJournal =>
    obtain ⟨older, evidence, hSplit, hFresh⟩ :=
      hl.evidence (e := ⟨.corrected, l.status, .degraded⟩) hFree rfl
        fun hDegraded hEnters => hEnters.1 hDegraded
    constructor
    case idle =>
      intro hTracking
      rw [hStatus] at hTracking
      cases hTracking
    case pending =>
      intro _
      rw [hMore, hJournal]
      exact ⟨hNow, hStatus, older, evidence, hSplit, hFresh⟩
    case confirmed => exact fun _ => hNow
    case fresh =>
      rw [hJournal]
      exact hl.fresh.append_other (by simp)

end

theorem not_pending (hBefore : ¬l.RecoveryPending)
    (hSuccesses : next.consecutiveRecoverySuccesses = l.consecutiveRecoverySuccesses)
    (hGuard : next.mapRecoveryRequired = l.mapRecoveryRequired) : ¬next.RecoveryPending := by
  unfold RecoveryPending at hBefore ⊢
  rw [hSuccesses, hGuard]
  exact hBefore

variable (hl : CountedFresh confirmations l)
include hl

theorem CountedFresh.timedOut (elapsedNs : Int) (hStale : l.RecoveryPending → l.status = .degraded →
      config.lostAfterLidarGapNs ≤ elapsedNs → False) :
    CountedFresh confirmations (l.superviseLidarTimeout config elapsedNs) := by
  unfold superviseLidarTimeout
  dsimp only
  by_cases hTracking : l.status = .tracking ∧ config.degradedAfterLidarGapNs ≤ elapsedNs
  · rw [if_pos hTracking]
    have hZero := hl.idle hTracking.1
    have hIdle : ¬l.RecoveryPending := by
      rw [RecoveryPending, hZero]
      rintro ⟨hPositive, -⟩
      exact lt_irrefl 0 hPositive
    have hFirst : CountedFresh confirmations (l.record .lidarTimeout
        (transitionTo .degraded "LIDAR_TIMEOUT_DEGRADED_INERTIAL")) :=
      hl.idleEvent (record_journal _ _ _) (by simp) (by simp) (by simp)
        (not_pending hIdle (by simp) (by simp)) (by simp)
    split
    · exact hFirst.idleEvent (record_journal _ _ _) (by simp) (by simp) (by simp)
        (not_pending hIdle (by simp) (by simp)) (by simp)
    · exact hFirst
  · rw [if_neg hTracking]
    split
    · rename_i hDegraded
      have hIdle : ¬l.RecoveryPending := fun h => hStale h hDegraded.1 hDegraded.2
      exact hl.idleEvent (record_journal _ _ _) (by simp) (by simp) (by simp)
        (not_pending hIdle (by simp) (by simp)) (by simp)
    · exact hl

theorem CountedFresh.move
    (h : Move config confirmations False l next) : CountedFresh confirmations next := by
  cases h with
  | reason reason => exact hl.same rfl rfl rfl rfl rfl
  | startUp target reason hBefore hNext =>
    have hTarget : target ≠ .tracking := by
      rcases hNext with rfl | rfl | rfl <;> simp
    have hIdle : ¬l.RecoveryPending := by
      intro hPending
      rw [(hl.pending hPending).2.1] at hBefore
      cases hBefore
    exact hl.idleEvent (record_journal _ _ _) (by simp) (by simpa using hTarget)
      (by simpa [startUp] using hTarget) (not_pending hIdle (by simp [startUp]) (by simp [startUp]))
      (by simp [startUp])
  | uncorrected failureClass =>
    cases hConfirmed : l.trackingEverConfirmed with
    | false =>
      rw [uncorrected_unconfirmed hConfirmed]
      exact hl.same rfl rfl rfl rfl rfl
    | true =>
      obtain ⟨status, hRecovering, hStatus, hKept, -, hZero, hJournal⟩ :=
        uncorrected_confirmed config hConfirmed failureClass
      have hNot := recovering_not_tracking hRecovering
      refine hl.idleEvent hJournal (by simp) hNot (hStatus ▸ hNot) ?_ fun _ => hKept
      rintro ⟨hPositive, -⟩
      rw [hZero] at hPositive
      exact lt_irrefl 0 hPositive
  | corrected converged =>
    obtain ⟨hAccepted, hGuard⟩ := acceptCorrection_accepted confirmations converged l
    exact hl.accepted hAccepted hGuard
  | initialFailure =>
    unfold failInitialMap
    split
    · rename_i hStatus
      have hIdle : ¬l.RecoveryPending := by
        intro hPending
        rw [(hl.pending hPending).2.1] at hStatus
        cases hStatus
      dsimp only
      split
      · exact hl.idleEvent (record_journal _ _ _) (by simp) (by simp) (by simp)
          (not_pending hIdle (by simp) (by simp)) (by simp)
      · exact hl.same rfl rfl rfl rfl rfl
    · exact hl
  | mapGuard hConfirmed =>
    unfold exceedMapGuard
    dsimp only
    split
    · refine hl.idleEvent (record_journal _ _ _) (by simp) (by simp) (by simp) ?_ (by simp)
      rintro ⟨-, hFree⟩
      simp at hFree
    · rename_i hStatus
      constructor
      case idle => exact fun h => absurd h hStatus
      case pending =>
        rintro ⟨-, hFree⟩
        cases hFree
      case confirmed => exact hl.confirmed
      case fresh => exact hl.fresh
  | restart => exact hl.same rfl rfl rfl rfl rfl
  | restarted reason hNever =>
    have hIdle : ¬l.RecoveryPending := by
      intro hPending
      rw [(hl.pending hPending).1] at hNever
      cases hNever
    exact hl.idleEvent (record_journal _ _ _) (by simp) (by simp) (by simp [discontinue])
      (not_pending hIdle (by simp [discontinue]) (by simp [discontinue])) (by simp [discontinue])
  | gaveUp reason hStale hUses =>
    exact hl.idleEvent (record_journal _ _ _) (by simp) (by simp) (by simp [discontinue])
      (not_pending hStale (by simp [discontinue]) (by simp [discontinue])) (by simp [discontinue])
  | timeout elapsedNs hStale => exact hl.timedOut elapsedNs hStale

theorem CountedFresh.moves
    (h : Moves config confirmations False l next) : CountedFresh confirmations next := by
  induction h with
  | refl => exact hl
  | tail _ hMove ih => exact ih.move hMove

end Lifecycle

namespace FastLioPipeline
variable {D : Type} [FloatOps D] {N : Numerics D} {p : FastLioPipeline N}

/-- A pipeline of this configuration whose successes are counted fresh. -/
structure Recovers (config : EstimatorConfig N) (p : FastLioPipeline N) : Prop where
  configured : p.config = config
  owed : RecoveryOwed p
  counted : Lifecycle.CountedFresh config.tracking.recoveryConfirmationUpdates p.lifecycle

theorem Recovers.step {config : EstimatorConfig N} (hp : Recovers config p)
    (call : PipelineCall N) (hFresh : ¬StaleRecovery p call) :
    Recovers config (p.step call).1 := by
  have hEffect := step_effect (S := False) hp.owed call hFresh
  have hMoves := hEffect.moves
  rw [hp.configured] at hMoves
  exact ⟨hEffect.config.trans hp.configured, hEffect.owed, hp.counted.moves hMoves⟩

/-- A run that never gives the estimator up while a recovery is pending regains tracking only
by fresh consecutive evidence. -/
theorem tracking_regained_fresh (config : EstimatorConfig N) (calls : List (PipelineCall N))
    (hFresh : ∀ e ∈ events step (create config) calls, ¬StaleRecovery e.before e.op) :
    RegainedFresh config.tracking.recoveryConfirmationUpdates
      (run step (create config) calls).lifecycle.journal := by
  have hStart : Recovers config (create config) :=
    ⟨rfl, (create_healthy config).owed, Lifecycle.initial_fresh _⟩
  have hRun : Recovers config (run step (create config) calls) :=
    run_guarded (P := Recovers config) (Q := fun e => ¬StaleRecovery e.before e.op)
      (fun _ call hp hFresh => hp.step call hFresh) hStart hFresh
  exact hRun.counted.fresh

variable {predictions corrections : List Bool}

/-- Tracking starts, one correction fails, one succeeds, the scans stop for a second, and one
more correction succeeds. -/
def interruptedRecovery : List (PipelineCall (scripted [] [true, false, true, true])) :=
  .pushImu (sampleAt (.rosTime 10)) :: (deliver 0 (.rosTime 10) (.rosTime 20) ++
      deliver 0 (.rosTime 20) (.rosTime 30) ++
      deliver 0 (.rosTime 30) (.rosTime 40) ++
      deliver 0 (.rosTime 40) (.rosTime 50) ++
      .superviseLidarTimeout 1000000000 :: deliver 1000000000 (.rosTime 50) (.rosTime 60))

/-- Two successes are asked for, and one of the two that counted lies before the timeout. -/
theorem stale_success_counted :
    ¬RegainedFresh 2 (run step (create (scriptedConfig [] [true, false, true, true] 2 (by decide)))
      interruptedRecovery).lifecycle.journal := by
  have hJournal : (run step (create (scriptedConfig [] [true, false, true, true] 2 (by decide)))
      interruptedRecovery).lifecycle.journal =
      [⟨.startup, .waitingForSensors, .collectingImu⟩, ⟨.startup, .collectingImu, .initializingImu⟩,
        ⟨.startup, .initializingImu, .initializingImu⟩,
        ⟨.startup, .initializingImu, .initializingMap⟩, ⟨.confirmed, .initializingMap, .tracking⟩,
        ⟨.uncorrected .registration, .tracking, .degraded⟩, ⟨.corrected, .degraded, .degraded⟩,
        ⟨.lidarTimeout, .degraded, .lost⟩] ++ ⟨.corrected, .lost, .tracking⟩ :: [] := by
    decide +kernel
  intro hFresh
  obtain ⟨older, evidence, hSplit, hEvidence⟩ := hFresh _ _ _ hJournal (by simp) rfl rfl
  have hLast : [⟨.lidarTimeout, .degraded, .lost⟩, ⟨.corrected, .lost, .tracking⟩] <:+ evidence := by
    have hBoth : [⟨.lidarTimeout, .degraded, .lost⟩, ⟨.corrected, .lost, .tracking⟩] <:+
        older ++ evidence := by
      rw [← hSplit]
      decide
    exact suffix_of_suffix_length_le hBoth (suffix_append older evidence) hEvidence.enough
  have hTimeout := hEvidence.corrected ⟨.lidarTimeout, .degraded, .lost⟩ (hLast.mem (by simp))
  cases hTimeout

theorem StaleRecovery.supervised {p : FastLioPipeline (scripted predictions corrections)}
    {call : PipelineCall (scripted predictions corrections)} (h : StaleRecovery p call) :
    ∃ now, call = .superviseLidarTimeout now := by
  cases call with
  | superviseLidarTimeout now => exact ⟨now, rfl⟩
  | processNext => cases h.2.1
  | pushImu | pushLidar | submitInitialStatePrior | setInitialStatePriorGeometry | process =>
    cases h

/-- Without the timeout both successes are fresh. -/
theorem tracking_regained_fresh_uninterrupted :
    (run step (create (scriptedConfig [] [true, false, true, true] 2 (by decide)))
        (interruptedRecovery.eraseIdx 13)).status = .tracking ∧
      RegainedFresh 2 (run step (create (scriptedConfig [] [true, false, true, true] 2 (by decide)))
        (interruptedRecovery.eraseIdx 13)).lifecycle.journal := by
  refine ⟨by decide +kernel, ?_⟩
  apply tracking_regained_fresh (scriptedConfig [] [true, false, true, true] 2 (by decide))
  intro e he hStale
  obtain ⟨before, call, after, hCalls, rfl⟩ := exists_split_of_mem_events he
  obtain ⟨now, rfl⟩ := hStale.supervised
  have hMem : PipelineCall.superviseLidarTimeout now ∈ interruptedRecovery.eraseIdx 13 := by
    rw [hCalls]
    simp
  simp [interruptedRecovery, deliver, List.eraseIdx] at hMem

end FastLioPipeline

end UavNavigation.FastLio
