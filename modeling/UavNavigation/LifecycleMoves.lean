import UavNavigation.SensorSamples

/-!
# What can move the lifecycle

One constructor for each operation of the lifecycle, with what the pipeline
knows when it calls it. The parameter `stale` says whether the estimator may be
given up while a recovery is pending. Laws about the lifecycle are proved for one
move and hold for any number of them.
-/

namespace UavNavigation.FastLio

open Relation

set_option autoImplicit false

namespace Lifecycle

/-- A recovery has counted successes that may still lead to tracking. -/
def RecoveryPending (l : Lifecycle) : Prop :=
  0 < l.consecutiveRecoverySuccesses ∧ l.mapRecoveryRequired = false

inductive Move (config : LifecycleConfig) (confirmations : Nat) (stale : Prop) :
    Lifecycle → Lifecycle → Prop where
  | reason (l : Lifecycle) (reason : String) : Move config confirmations stale l (l.setReason reason)
  | startUp (l : Lifecycle) (next : EstimatorStatus) (reason : String)
      (hBefore : l.status.usesEstimatorState = false)
      (hNext : next = .collectingImu ∨ next = .initializingImu ∨ next = .initializingMap) :
      Move config confirmations stale l (l.startUp next reason)
  | uncorrected (l : Lifecycle) (failureClass : LidarUpdateFailureClass) :
      Move config confirmations stale l (l.recordUncorrectedUpdate config failureClass)
  | corrected (l : Lifecycle) (converged : Bool) :
      Move config confirmations stale l (l.acceptCorrection confirmations converged)
  | initialFailure (l : Lifecycle) : Move config confirmations stale l (l.failInitialMap config)
  | mapGuard (l : Lifecycle) (hConfirmed : l.trackingEverConfirmed = true) :
      Move config confirmations stale l l.exceedMapGuard
  | restart (l : Lifecycle) : Move config confirmations stale l l.restartInitialMap
  | restarted (l : Lifecycle) (reason : String) (hNever : l.trackingEverConfirmed = false) :
      Move config confirmations stale l (l.discontinue .initializingMap reason)
  | gaveUp (l : Lifecycle) (reason : String) (hStale : l.RecoveryPending → stale)
      (hUses : l.status.usesEstimatorState = true) :
      Move config confirmations stale l (l.discontinue .lost reason)
  | timeout (l : Lifecycle) (elapsedNs : Int) (hStale : l.RecoveryPending → l.status = .degraded →
        config.lostAfterLidarGapNs ≤ elapsedNs → stale) :
      Move config confirmations stale l (l.superviseLidarTimeout config elapsedNs)

abbrev Moves (config : LifecycleConfig) (confirmations : Nat) (stale : Prop) :
    Lifecycle → Lifecycle → Prop :=
  ReflTransGen (Move config confirmations stale)

section
variable (next : EstimatorStatus) (reason : String) (l : Lifecycle)

@[simp] theorem transitionTo_status : (l.transitionTo next reason).status = next := by
  unfold transitionTo
  split
  · rfl
  · rename_i hSame
    exact not_not.mp hSame

@[simp] theorem transitionTo_confirmed :
    (l.transitionTo next reason).trackingEverConfirmed = l.trackingEverConfirmed := by
  unfold transitionTo
  split <;> rfl

@[simp] theorem transitionTo_mapRecovery :
    (l.transitionTo next reason).mapRecoveryRequired = l.mapRecoveryRequired := by
  unfold transitionTo
  split <;> rfl

@[simp] theorem transitionTo_successes : (l.transitionTo next reason).consecutiveRecoverySuccesses =
      l.consecutiveRecoverySuccesses := by
  unfold transitionTo
  split <;> rfl

end

section Record
variable (cause : LifecycleCause) (operation : Lifecycle → Lifecycle) (l : Lifecycle)

@[simp] theorem record_status : (l.record cause operation).status = (operation l).status := rfl

@[simp] theorem record_confirmed :
    (l.record cause operation).trackingEverConfirmed = (operation l).trackingEverConfirmed := rfl

@[simp] theorem record_mapRecovery :
    (l.record cause operation).mapRecoveryRequired = (operation l).mapRecoveryRequired := rfl

@[simp] theorem record_successes : (l.record cause operation).consecutiveRecoverySuccesses =
      (operation l).consecutiveRecoverySuccesses := rfl

@[simp] theorem record_journal : (l.record cause operation).journal =
      l.journal ++ [⟨cause, l.status, (operation l).status⟩] := rfl

end Record

/-! ## What the operations do -/

variable {config : LifecycleConfig} {confirmations : Nat} {stale : Prop} {l next : Lifecycle}

theorem uncorrected_unconfirmed (hNever : l.trackingEverConfirmed = false)
    (failureClass : LidarUpdateFailureClass) :
    l.recordUncorrectedUpdate config failureClass =
      { l with lastUpdateFailureClass := failureClass } := by
  unfold recordUncorrectedUpdate
  simp [hNever]

theorem uncorrected_confirmed (config : LifecycleConfig)
    (hConfirmed : l.trackingEverConfirmed = true) (failureClass : LidarUpdateFailureClass) :
    ∃ status, EstimatorStatus.recovering status = true ∧
      (l.recordUncorrectedUpdate config failureClass).status = status ∧
      (l.recordUncorrectedUpdate config failureClass).trackingEverConfirmed = true ∧
      (l.recordUncorrectedUpdate config failureClass).mapRecoveryRequired = l.mapRecoveryRequired ∧
      (l.recordUncorrectedUpdate config failureClass).consecutiveRecoverySuccesses = 0 ∧
      (l.recordUncorrectedUpdate config failureClass).journal =
        l.journal ++ [⟨.uncorrected failureClass, l.status, status⟩] := by
  unfold recordUncorrectedUpdate
  simp only [hConfirmed, Bool.not_true, Bool.false_eq_true, if_false, record_status,
    record_confirmed, record_mapRecovery, record_successes, record_journal]
  split
  · exact ⟨.lost, rfl, by simp, by simp, by simp, by simp, by simp⟩
  split
  · exact ⟨.degraded, rfl, by simp, by simp, by simp, by simp, by simp⟩
  · rename_i hLost
    have hStatus : l.status = .lost := not_not.mp hLost
    exact ⟨.lost, rfl, hStatus, rfl, rfl, rfl, by rw [hStatus]⟩

theorem uncorrected_forgets (config : LifecycleConfig) (failureClass : LidarUpdateFailureClass)
    (h : (l.recordUncorrectedUpdate config failureClass).trackingEverConfirmed = true) :
    (l.recordUncorrectedUpdate config failureClass).consecutiveRecoverySuccesses = 0 := by
  cases hConfirmed : l.trackingEverConfirmed with
  | true =>
    obtain ⟨-, -, -, -, -, hZero, -⟩ :=
      uncorrected_confirmed config hConfirmed failureClass
    exact hZero
  | false =>
    rw [uncorrected_unconfirmed hConfirmed] at h
    rw [show l.trackingEverConfirmed = true from h] at hConfirmed
    cases hConfirmed

/-- The five things an accepted correction can do. -/
inductive Accepted (confirmations : Nat) (l next : Lifecycle) : Prop where
  | confirmed (hBefore : l.trackingEverConfirmed = false) (hStatus : next.status = .tracking)
      (hConfirmed : next.trackingEverConfirmed = true)
      (hSuccesses : next.consecutiveRecoverySuccesses = 0)
      (hJournal : next.journal = l.journal ++ [⟨.confirmed, l.status, .tracking⟩])
  | steady (hConfirmed : next.trackingEverConfirmed = true ∧ l.trackingEverConfirmed = true)
      (hBefore : l.status.recovering = false) (hStatus : next.status = l.status)
      (hSuccesses : next.consecutiveRecoverySuccesses = l.consecutiveRecoverySuccesses)
      (hJournal : next.journal = l.journal ++ [⟨.corrected, l.status, l.status⟩])
  | guarded (hConfirmed : next.trackingEverConfirmed = true ∧ l.trackingEverConfirmed = true)
      (hGuard : l.mapRecoveryRequired = true) (hStatus : next.status = l.status)
      (hBefore : l.status.recovering = true)
      (hJournal : next.journal = l.journal ++ [⟨.corrected, l.status, l.status⟩])
  | regained (hConfirmed : next.trackingEverConfirmed = true ∧ l.trackingEverConfirmed = true)
      (hGuard : l.mapRecoveryRequired = false) (hBefore : l.status.recovering = true)
      (hEnough : confirmations ≤ l.consecutiveRecoverySuccesses + 1)
      (hStatus : next.status = .tracking) (hSuccesses : next.consecutiveRecoverySuccesses = 0)
      (hJournal : next.journal = l.journal ++ [⟨.corrected, l.status, .tracking⟩])
  | pending (hConfirmed : next.trackingEverConfirmed = true ∧ l.trackingEverConfirmed = true)
      (hGuard : l.mapRecoveryRequired = false) (hBefore : l.status.recovering = true)
      (hStatus : next.status = .degraded)
      (hSuccesses : next.consecutiveRecoverySuccesses = l.consecutiveRecoverySuccesses + 1)
      (hJournal : next.journal = l.journal ++ [⟨.corrected, l.status, .degraded⟩])

theorem acceptCorrection_accepted (confirmations : Nat) (converged : Bool) (l : Lifecycle) :
    Accepted confirmations l (l.acceptCorrection confirmations converged) ∧
      (l.acceptCorrection confirmations converged).mapRecoveryRequired = l.mapRecoveryRequired := by
  cases hConfirmed : l.trackingEverConfirmed with
  | false =>
    refine ⟨.confirmed hConfirmed ?_ ?_ ?_ ?_, ?_⟩ <;> simp [acceptCorrection, hConfirmed]
  | true =>
    cases hBefore : l.status.recovering with
    | false =>
      refine ⟨.steady ⟨?_, hConfirmed⟩ hBefore ?_ ?_ ?_, ?_⟩ <;>
        simp [acceptCorrection, hConfirmed, hBefore]
    | true =>
      cases hGuard : l.mapRecoveryRequired with
      | true =>
        have hStatus : l.status = .degraded ∨ l.status = .lost := by
          cases hStatus : l.status <;> simp_all [EstimatorStatus.recovering]
        rcases hStatus with hStatus | hStatus
        · refine ⟨.guarded ⟨?_, hConfirmed⟩ hGuard ?_ hBefore ?_, ?_⟩ <;>
            simp [acceptCorrection, hConfirmed, hGuard, hStatus, EstimatorStatus.recovering]
        · refine ⟨.guarded ⟨?_, hConfirmed⟩ hGuard ?_ hBefore ?_, ?_⟩ <;>
            simp [acceptCorrection, hConfirmed, hGuard, hStatus, EstimatorStatus.recovering]
      | false =>
        by_cases hEnough : confirmations ≤ l.consecutiveRecoverySuccesses + 1
        · refine ⟨.regained ⟨?_, hConfirmed⟩ hGuard hBefore hEnough ?_ ?_ ?_, ?_⟩ <;>
            simp [acceptCorrection, hConfirmed, hGuard, hBefore, hEnough]
        · refine ⟨.pending ⟨?_, hConfirmed⟩ hGuard hBefore ?_ ?_ ?_, ?_⟩ <;>
            simp [acceptCorrection, hConfirmed, hGuard, hBefore, hEnough]

theorem Accepted.now_confirmed (h : Accepted confirmations l next) :
    next.trackingEverConfirmed = true := by
  cases h with
  | confirmed _ _ h => exact h
  | steady h => exact h.1
  | guarded h => exact h.1
  | regained h => exact h.1
  | pending h => exact h.1

theorem Accepted.event (h : Accepted confirmations l next) :
    ∃ e : LifecycleEvent, (e.cause = .confirmed ∨ e.cause = .corrected) ∧ e.after = next.status ∧
      next.journal = l.journal ++ [e] := by
  cases h with
  | confirmed _ hStatus _ _ hJournal => exact ⟨_, .inl rfl, hStatus.symm, hJournal⟩
  | steady _ _ hStatus _ hJournal => exact ⟨_, .inr rfl, hStatus.symm, hJournal⟩
  | guarded _ _ hStatus _ hJournal => exact ⟨_, .inr rfl, hStatus.symm, hJournal⟩
  | regained _ _ _ _ hStatus _ hJournal => exact ⟨_, .inr rfl, hStatus.symm, hJournal⟩
  | pending _ _ _ hStatus _ hJournal => exact ⟨_, .inr rfl, hStatus.symm, hJournal⟩

theorem requireMapRecovery_owed (h : l.mapRecoveryRequired = true) : l.requireMapRecovery = l := by
  cases l
  simp_all [requireMapRecovery]

/-! ## What every move keeps -/

structure Sane (l : Lifecycle) : Prop where
  confirmed : l.trackingEverConfirmed = true → l.status = .tracking ∨ l.status.recovering = true
  tracking : l.status = .tracking → l.trackingEverConfirmed = true
  guarded : l.mapRecoveryRequired = true → l.trackingEverConfirmed = true ∧ l.status ≠ .tracking

theorem initial_sane : Sane {} := by
  constructor <;> decide

structure Onward (l next : Lifecycle) : Prop where
  confirmed : l.trackingEverConfirmed = true → next.trackingEverConfirmed = true
  guarded : l.mapRecoveryRequired = true → next.mapRecoveryRequired = true
  uses : l.status.usesEstimatorState = true → next.status.usesEstimatorState = true
  journal : l.journal <+: next.journal

theorem Onward.refl (l : Lifecycle) : Onward l l := ⟨id, id, id, List.prefix_rfl⟩

theorem Onward.trans {a b c : Lifecycle} (hab : Onward a b) (hbc : Onward b c) : Onward a c :=
  ⟨hbc.confirmed ∘ hab.confirmed, hbc.guarded ∘ hab.guarded, hbc.uses ∘ hab.uses,
    hab.journal.trans hbc.journal⟩

theorem recovering_uses {status : EstimatorStatus} (h : status.recovering = true) :
    status.usesEstimatorState = true := by
  cases status <;> simp_all [EstimatorStatus.recovering, EstimatorStatus.usesEstimatorState]

theorem recovering_not_tracking {status : EstimatorStatus} (h : status.recovering = true) :
    status ≠ .tracking := by
  rintro rfl
  cases h

theorem onward_uncorrected (failureClass : LidarUpdateFailureClass) (l : Lifecycle) :
    Onward l (l.recordUncorrectedUpdate config failureClass) := by
  cases hConfirmed : l.trackingEverConfirmed with
  | false =>
    rw [uncorrected_unconfirmed hConfirmed]
    exact ⟨id, id, id, List.prefix_rfl⟩
  | true =>
    obtain ⟨status, hRecovering, hStatus, hKept, hGuard, -, hJournal⟩ :=
      uncorrected_confirmed config hConfirmed failureClass
    refine ⟨fun _ => hKept, fun h => hGuard.trans h, fun _ => ?_, ?_⟩
    · rw [hStatus]
      exact recovering_uses hRecovering
    · rw [hJournal]
      exact List.prefix_append _ _

theorem onward_accepted (confirmations : Nat) (converged : Bool) (l : Lifecycle) :
    Onward l (l.acceptCorrection confirmations converged) := by
  obtain ⟨hAccepted, hGuard⟩ := acceptCorrection_accepted confirmations converged l
  obtain ⟨e, -, -, hJournal⟩ := hAccepted.event
  refine ⟨fun _ => hAccepted.now_confirmed, fun h => hGuard.trans h, fun hUses => ?_, ?_⟩
  rotate_left
  · rw [hJournal]
    exact List.prefix_append _ _
  · cases hAccepted with
    | confirmed _ hStatus => rw [hStatus]; rfl
    | steady _ _ hStatus => rw [hStatus]; exact hUses
    | guarded _ _ hStatus => rw [hStatus]; exact hUses
    | regained _ _ _ _ hStatus => rw [hStatus]; rfl
    | pending _ _ _ hStatus => rw [hStatus]; rfl

theorem Move.onward (h : Move config confirmations stale l next) : Onward l next := by
  cases h with
  | reason reason => exact ⟨id, id, id, List.prefix_rfl⟩
  | startUp target reason hBefore hNext =>
    refine ⟨fun h => ?_, fun h => ?_, fun h => ?_, ?_⟩
    · simpa [Lifecycle.startUp] using h
    · simpa [Lifecycle.startUp] using h
    · rw [hBefore] at h
      cases h
    · simp [Lifecycle.startUp]
  | uncorrected failureClass => exact onward_uncorrected failureClass l
  | corrected converged => exact onward_accepted confirmations converged l
  | initialFailure =>
    unfold failInitialMap
    split
    · rename_i hStatus
      dsimp only
      split
      · refine ⟨fun h => ?_, fun h => ?_, fun _ => ?_, ?_⟩
        · simpa using h
        · simpa using h
        · rw [record_status, transitionTo_status]
          rfl
        · simp
      · exact ⟨id, id, id, List.prefix_rfl⟩
    · exact Onward.refl l
  | mapGuard hConfirmed =>
    unfold exceedMapGuard
    dsimp only
    split
    · refine ⟨fun h => ?_, fun _ => ?_, fun _ => ?_, ?_⟩
      · simpa using h
      · simp
      · rw [record_status, transitionTo_status]
        rfl
      · simp
    · exact ⟨id, fun _ => rfl, id, List.prefix_rfl⟩
  | restart => exact ⟨id, id, id, List.prefix_rfl⟩
  | restarted reason hNever =>
    refine ⟨fun h => ?_, fun h => ?_, fun _ => ?_, ?_⟩
    · simpa [discontinue] using h
    · simpa [discontinue] using h
    · rw [discontinue, record_status, transitionTo_status]
      rfl
    · simp [discontinue]
  | gaveUp reason hStale hUses =>
    refine ⟨fun h => ?_, fun h => ?_, fun _ => ?_, ?_⟩
    · simpa [discontinue] using h
    · simpa [discontinue] using h
    · rw [discontinue, record_status, transitionTo_status]
      rfl
    · simp [discontinue]
  | timeout elapsedNs hStale =>
    unfold superviseLidarTimeout
    dsimp only
    split <;> split <;> refine ⟨fun h => ?_, fun h => ?_, fun h => ?_, ?_⟩ <;>
      simp_all [EstimatorStatus.usesEstimatorState]

theorem Moves.onward (h : Moves config confirmations stale l next) : Onward l next := by
  induction h with
  | refl => exact Onward.refl l
  | tail _ hMove ih => exact ih.trans hMove.onward

theorem Sane.uses (hl : Sane l) (h : l.trackingEverConfirmed = true) :
    l.status.usesEstimatorState = true := by
  rcases hl.confirmed h with hTracking | hRecovering
  · rw [hTracking]
    rfl
  · exact recovering_uses hRecovering

theorem Sane.move (hl : Sane l) (h : Move config confirmations stale l next) : Sane next := by
  cases h with
  | reason reason => exact ⟨hl.confirmed, hl.tracking, hl.guarded⟩
  | startUp target reason hBefore hNext =>
    have hNever : l.trackingEverConfirmed = false := by
      by_contra hConfirmed
      have hUses := hl.uses (by simpa using hConfirmed)
      rw [hBefore] at hUses
      cases hUses
    have hFree : l.mapRecoveryRequired = false := by
      by_contra hGuard
      have hConfirmed := (hl.guarded (by simpa using hGuard)).1
      rw [hNever] at hConfirmed
      cases hConfirmed
    constructor <;> rcases hNext with rfl | rfl | rfl <;> simp [startUp, hNever, hFree]
  | uncorrected failureClass =>
    cases hConfirmed : l.trackingEverConfirmed with
    | false =>
      rw [uncorrected_unconfirmed hConfirmed]
      exact ⟨hl.confirmed, hl.tracking, hl.guarded⟩
    | true =>
      obtain ⟨status, hRecovering, hStatus, hKept, hGuard, -, -⟩ :=
        uncorrected_confirmed config hConfirmed failureClass
      have hNot := recovering_not_tracking hRecovering
      exact ⟨fun _ => .inr (hStatus ▸ hRecovering), fun _ => hKept,
        fun _ => ⟨hKept, hStatus ▸ hNot⟩⟩
  | corrected converged =>
    obtain ⟨hAccepted, hGuard⟩ := acceptCorrection_accepted confirmations converged l
    cases hAccepted with
    | confirmed hBefore hStatus hKept =>
      refine ⟨fun _ => .inl hStatus, fun _ => hKept, fun h => ?_⟩
      have hConfirmed := (hl.guarded (hGuard.symm.trans h)).1
      rw [hBefore] at hConfirmed
      cases hConfirmed
    | steady hKept hBefore hStatus =>
      refine ⟨fun _ => hStatus ▸ hl.confirmed hKept.2, fun _ => hKept.1, fun h => ⟨hKept.1, ?_⟩⟩
      rw [hStatus]
      exact (hl.guarded (hGuard.symm.trans h)).2
    | guarded hKept _ hStatus hBefore =>
      refine ⟨fun _ => hStatus ▸ hl.confirmed hKept.2, fun _ => hKept.1, fun _ => ⟨hKept.1, ?_⟩⟩
      rw [hStatus]
      exact recovering_not_tracking hBefore
    | regained hKept hFree _ _ hStatus =>
      refine ⟨fun _ => .inl hStatus, fun _ => hKept.1, fun h => ?_⟩
      rw [hGuard, hFree] at h
      cases h
    | pending hKept hFree _ hStatus =>
      refine ⟨fun _ => .inr (hStatus ▸ rfl), fun _ => hKept.1, fun h => ?_⟩
      rw [hGuard, hFree] at h
      cases h
  | initialFailure =>
    fun_cases failInitialMap
    · constructor
      · simp [EstimatorStatus.recovering]
      · simp
      · intro h
        refine ⟨?_, by simp⟩
        simpa using (hl.guarded (by simpa using h)).1
    · exact ⟨hl.confirmed, hl.tracking, hl.guarded⟩
    · exact hl
  | mapGuard hConfirmed =>
    unfold exceedMapGuard
    dsimp only
    split
    · constructor <;> simp [hConfirmed, EstimatorStatus.recovering]
    · rename_i hStatus
      exact ⟨hl.confirmed, hl.tracking, fun _ => ⟨hConfirmed, hStatus⟩⟩
  | restart => exact ⟨hl.confirmed, hl.tracking, hl.guarded⟩
  | restarted reason hNever =>
    constructor
    · simp [discontinue, hNever]
    · simp [discontinue]
    · intro h
      have hConfirmed := (hl.guarded (by simpa [discontinue] using h)).1
      rw [hNever] at hConfirmed
      cases hConfirmed
  | gaveUp reason hStale hUses =>
    constructor
    · simp [discontinue, EstimatorStatus.recovering]
    · simp [discontinue]
    · intro h
      refine ⟨?_, by simp [discontinue]⟩
      simpa [discontinue] using (hl.guarded (by simpa [discontinue] using h)).1
  | timeout elapsedNs hStale =>
    have hTracking := hl.tracking
    have hConfirmed := hl.confirmed
    have hGuarded := hl.guarded
    unfold superviseLidarTimeout
    dsimp only
    split <;> split <;> constructor <;> simp_all [EstimatorStatus.recovering]

theorem Sane.moves (hl : Sane l) (h : Moves config confirmations stale l next) : Sane next := by
  induction h with
  | refl => exact hl
  | tail _ hMove ih => exact ih.move hMove

end Lifecycle

/-! ## Counting uncorrected updates -/

/-- An uncorrected update took the estimator to lost: the failure limit was reached. -/
def LifecycleEvent.ReachesLimit (e : LifecycleEvent) : Prop :=
  (∃ failureClass, e.cause = .uncorrected failureClass) ∧ e.before ≠ .lost ∧ e.after = .lost

/-- How many updates were not corrected since the last one that was, or since the first. -/
def uncorrectedSince (outcomes : List Bool) : Nat := (outcomes.reverse.takeWhile (!·)).length

@[simp] theorem uncorrectedSince_concat_true (outcomes : List Bool) :
    uncorrectedSince (outcomes ++ [true]) = 0 := by
  simp [uncorrectedSince]

@[simp] theorem uncorrectedSince_concat_false (outcomes : List Bool) :
    uncorrectedSince (outcomes ++ [false]) = uncorrectedSince outcomes + 1 := by
  simp [uncorrectedSince]

namespace Lifecycle

section Fields
variable (next : EstimatorStatus) (reason : String) (cause : LifecycleCause)
  (operation : Lifecycle → Lifecycle) (l : Lifecycle)

@[simp] theorem transitionTo_count :
    (l.transitionTo next reason).consecutiveUncorrectedLidarUpdates =
      l.consecutiveUncorrectedLidarUpdates := by
  unfold transitionTo
  split <;> rfl

@[simp] theorem record_count : (l.record cause operation).consecutiveUncorrectedLidarUpdates =
      (operation l).consecutiveUncorrectedLidarUpdates := rfl

end Fields

/-- The count at the end of a stretch, and that the limit was reached in it only at a count that
is not above it. -/
structure Counts (limit count : Nat) (l next : Lifecycle) : Prop where
  counted : next.consecutiveUncorrectedLidarUpdates = count
  journal : ∃ entered, next.journal = l.journal ++ entered ∧
    ∀ e ∈ entered, e.ReachesLimit → limit ≤ count

variable {config : LifecycleConfig} {confirmations limit n k : Nat} {stale : Prop}
  {l m next : Lifecycle}

theorem Counts.still (hCount : next.consecutiveUncorrectedLidarUpdates = n)
    (hJournal : next.journal = l.journal) : Counts limit n l next :=
  ⟨hCount, [], by rw [hJournal, List.append_nil], by simp⟩

theorem Counts.event {e : LifecycleEvent} (hCount : next.consecutiveUncorrectedLidarUpdates = n)
    (hJournal : next.journal = l.journal ++ [e]) (hLimit : e.ReachesLimit → limit ≤ n) :
    Counts limit n l next := by
  refine ⟨hCount, [e], hJournal, ?_⟩
  intro x hx
  rw [List.mem_singleton.mp hx]
  exact hLimit

theorem Counts.trans (hlm : Counts limit n l m) (hmn : Counts limit k m next) (h : n ≤ k) :
    Counts limit k l next := by
  obtain ⟨before, hBefore, hFirst⟩ := hlm.journal
  obtain ⟨after, hAfter, hSecond⟩ := hmn.journal
  refine ⟨hmn.counted, before ++ after, by rw [hAfter, hBefore, List.append_assoc], ?_⟩
  intro e he hLimit
  rcases List.mem_append.mp he with he | he
  · exact (hFirst e he hLimit).trans h
  · exact hSecond e he hLimit

theorem Counts.congr {l' : Lifecycle} (h : Counts limit n l next) (hJournal : l'.journal = l.journal) :
    Counts limit n l' next := by
  obtain ⟨entered, hEntered, hLimit⟩ := h.journal
  exact ⟨h.counted, entered, by rw [hJournal, hEntered], hLimit⟩

theorem not_reachesLimit {cause : LifecycleCause} {before after : EstimatorStatus}
    (h : ∀ failureClass, cause ≠ .uncorrected failureClass) :
    ¬LifecycleEvent.ReachesLimit ⟨cause, before, after⟩ := by
  rintro ⟨⟨failureClass, hCause⟩, -⟩
  exact h failureClass hCause

section
variable (config : LifecycleConfig) (hConfirmed : l.trackingEverConfirmed = true)
  (failureClass : LidarUpdateFailureClass)
include hConfirmed

theorem counts_uncorrected :
    Counts config.lostAfterRegistrationFailures (l.consecutiveUncorrectedLidarUpdates + 1) l
      (l.recordUncorrectedUpdate config failureClass) := by
  obtain ⟨status, -, hStatus, -, -, -, hJournal⟩ :=
    uncorrected_confirmed config hConfirmed failureClass
  refine .event ?_ hJournal ?_
  · unfold recordUncorrectedUpdate
    simp only [hConfirmed, Bool.not_true, Bool.false_eq_true, if_false, record_count]
    split
    · simp
    split
    · simp
    · rfl
  · rintro ⟨-, hBefore, hAfter⟩
    by_contra hBelow
    rw [show status = .lost from hAfter] at hStatus
    unfold recordUncorrectedUpdate at hStatus
    simp only [hConfirmed, Bool.not_true, Bool.false_eq_true, if_false, record_status, if_neg hBelow,
      if_pos (show l.status ≠ .lost from hBefore), transitionTo_status] at hStatus
    cases hStatus

theorem uncorrected_stays :
    (l.recordUncorrectedUpdate config failureClass).trackingEverConfirmed = true :=
  (onward_uncorrected failureClass l).confirmed hConfirmed

end

section
variable (confirmations : Nat) (converged : Bool) (l : Lifecycle)

/-- An accepted correction clears the count when it confirms tracking, for the first time or at
the end of a recovery. -/
theorem acceptCorrection_count :
    (l.acceptCorrection confirmations converged).consecutiveUncorrectedLidarUpdates =
      if l.trackingEverConfirmed = true →
          l.status.recovering = true ∧ l.mapRecoveryRequired = false ∧
            confirmations ≤ l.consecutiveRecoverySuccesses + 1
      then 0 else l.consecutiveUncorrectedLidarUpdates := by
  cases hConfirmed : l.trackingEverConfirmed with
  | false => simp [acceptCorrection, hConfirmed]
  | true =>
    cases hRecovering : l.status.recovering with
    | false => simp [acceptCorrection, hConfirmed, hRecovering]
    | true =>
      cases hGuard : l.mapRecoveryRequired with
      | true =>
        have hStatus : l.status = .degraded ∨ l.status = .lost := by
          cases hStatus : l.status <;> simp_all [EstimatorStatus.recovering]
        rcases hStatus with hStatus | hStatus <;>
          simp [acceptCorrection, hConfirmed, hGuard, hStatus, EstimatorStatus.recovering]
      | false =>
        by_cases hEnough : confirmations ≤ l.consecutiveRecoverySuccesses + 1
        · simp [acceptCorrection, hConfirmed, hRecovering, hGuard, hEnough]
        · simp [acceptCorrection, hConfirmed, hRecovering, hGuard, hEnough]

theorem counts_accepted
    (hCleared : l.trackingEverConfirmed = true → l.consecutiveUncorrectedLidarUpdates = 0 ∨
      l.status.recovering = true ∧ l.mapRecoveryRequired = false ∧
        confirmations ≤ l.consecutiveRecoverySuccesses + 1) :
    Counts limit 0 l (l.acceptCorrection confirmations converged) := by
  obtain ⟨e, hCause, -, hJournal⟩ := (acceptCorrection_accepted confirmations converged l).1.event
  refine .event ?_ hJournal ?_
  · rw [acceptCorrection_count]
    split
    · rfl
    · rename_i hKept
      push Not at hKept
      obtain ⟨hConfirmed, hKept⟩ := hKept
      rcases hCleared hConfirmed with hZero | ⟨hRecovering, hGuard, hEnough⟩
      · exact hZero
      · exact absurd hEnough (not_le.mpr (hKept hRecovering hGuard))
  · rintro ⟨⟨failureClass, hUncorrected⟩, -⟩
    rcases hCause with hCause | hCause <;> rw [hCause] at hUncorrected <;> cases hUncorrected

end

variable (limit : Nat)

theorem counts_exceedMapGuard (l : Lifecycle) :
    Counts limit l.consecutiveUncorrectedLidarUpdates l l.exceedMapGuard := by
  unfold exceedMapGuard
  dsimp only
  split
  · exact .event (by simp) rfl fun h => absurd h (not_reachesLimit (by simp))
  · exact .still rfl rfl

theorem counts_discontinue (next : EstimatorStatus) (reason : String) (l : Lifecycle) :
    Counts limit l.consecutiveUncorrectedLidarUpdates l (l.discontinue next reason) :=
  .event (by simp [discontinue]) rfl fun h => absurd h (not_reachesLimit (by simp))

theorem counts_superviseLidarTimeout (config : LifecycleConfig) (elapsedNs : Int) (l : Lifecycle) :
    Counts limit l.consecutiveUncorrectedLidarUpdates l (l.superviseLidarTimeout config elapsedNs) := by
  have hTimeout (next : EstimatorStatus) (reason : String) (l : Lifecycle) :
      Counts limit l.consecutiveUncorrectedLidarUpdates l
        (l.record .lidarTimeout (transitionTo next reason)) :=
    .event (by simp) rfl fun h => absurd h (not_reachesLimit (by simp))
  have hFirst : Counts limit l.consecutiveUncorrectedLidarUpdates l
      (if l.status = .tracking ∧ config.degradedAfterLidarGapNs ≤ elapsedNs then
        l.record .lidarTimeout (transitionTo .degraded "LIDAR_TIMEOUT_DEGRADED_INERTIAL")
      else l) := by
    split
    · exact hTimeout _ _ _
    · exact .still rfl rfl
  unfold superviseLidarTimeout
  dsimp only
  generalize (if l.status = .tracking ∧ config.degradedAfterLidarGapNs ≤ elapsedNs then
    l.record .lidarTimeout (transitionTo .degraded "LIDAR_TIMEOUT_DEGRADED_INERTIAL")
    else l) = m at hFirst ⊢
  split
  · have hSecond := hTimeout .lost "LIDAR_TIMEOUT_LOST" m
    rw [hFirst.counted] at hSecond
    exact hFirst.trans hSecond (le_refl _)
  · exact hFirst

/-! ## What every move keeps -/

/-- The count belongs to a confirmed estimator that is not tracking. -/
structure Tallied (l : Lifecycle) : Prop where
  fresh : l.trackingEverConfirmed = false → l.consecutiveUncorrectedLidarUpdates = 0
  settled : l.trackingEverConfirmed = true → l.status = .tracking ∨ l.status.recovering = true
  steady : l.status = .tracking → l.consecutiveUncorrectedLidarUpdates = 0

theorem initial_tallied : Tallied {} := by
  constructor <;> simp

theorem Sane.unconfirmed (hl : Sane l) (h : l.status.usesEstimatorState = false) :
    l.trackingEverConfirmed = false := by
  by_contra hConfirmed
  rw [hl.uses (by simpa using hConfirmed)] at h
  cases h

theorem Tallied.move (hl : Tallied l) (hSane : Sane l)
    (h : Move config confirmations stale l next) : Tallied next := by
  cases h with
  | reason reason => exact ⟨hl.fresh, hl.settled, hl.steady⟩
  | startUp target reason hBefore hNext =>
    have hNever := hSane.unconfirmed hBefore
    have hZero := hl.fresh hNever
    constructor <;> rcases hNext with rfl | rfl | rfl <;> simp [startUp, hNever, hZero]
  | uncorrected failureClass =>
    cases hConfirmed : l.trackingEverConfirmed with
    | false =>
      rw [uncorrected_unconfirmed hConfirmed]
      exact ⟨hl.fresh, hl.settled, hl.steady⟩
    | true =>
      obtain ⟨status, hRecovering, hStatus, hKept, -⟩ :=
        uncorrected_confirmed config hConfirmed failureClass
      refine ⟨fun h => ?_, fun _ => .inr (hStatus ▸ hRecovering), fun h => ?_⟩
      · rw [hKept] at h
        cases h
      · exact absurd (hStatus.symm.trans h) (recovering_not_tracking hRecovering)
  | corrected converged =>
    have hCount := acceptCorrection_count confirmations converged l
    have hAccepted := (acceptCorrection_accepted confirmations converged l).1
    refine ⟨fun h => ?_, fun _ => ?_, fun h => ?_⟩
    · rw [hAccepted.now_confirmed] at h
      cases h
    · cases hAccepted with
      | confirmed _ hStatus => exact .inl hStatus
      | steady hKept _ hStatus => exact hStatus ▸ hl.settled hKept.2
      | guarded hKept _ hStatus => exact hStatus ▸ hl.settled hKept.2
      | regained _ _ _ _ hStatus => exact .inl hStatus
      | pending _ _ _ hStatus => exact .inr (hStatus ▸ rfl)
    · rw [hCount]
      cases hAccepted with
      | confirmed hBefore => rw [if_pos (by simp [hBefore])]
      | steady _ _ hStatus =>
        split
        · rfl
        · exact hl.steady (hStatus.symm.trans h)
      | guarded _ _ hStatus hBefore =>
        exact absurd (hStatus.symm.trans h) (recovering_not_tracking hBefore)
      | regained _ hGuard hBefore hEnough => rw [if_pos fun _ => ⟨hBefore, hGuard, hEnough⟩]
      | pending _ _ _ hStatus =>
        rw [hStatus] at h
        cases h
  | initialFailure =>
    fun_cases failInitialMap
    · refine ⟨fun h => ?_, fun _ => .inr ?_, fun h => ?_⟩
      · simpa using hl.fresh (by simpa using h)
      · rw [record_status, transitionTo_status]
        rfl
      · rw [record_status, transitionTo_status] at h
        cases h
    · exact ⟨hl.fresh, hl.settled, hl.steady⟩
    · exact hl
  | mapGuard hConfirmed =>
    unfold exceedMapGuard
    dsimp only
    split
    · constructor <;> simp [hConfirmed, EstimatorStatus.recovering]
    · exact ⟨hl.fresh, hl.settled, hl.steady⟩
  | restart => exact ⟨hl.fresh, hl.settled, hl.steady⟩
  | restarted reason hNever =>
    have hZero := hl.fresh hNever
    constructor <;> simp [discontinue, hNever, hZero]
  | gaveUp reason hStale hUses =>
    refine ⟨fun h => ?_, fun _ => .inr ?_, fun h => ?_⟩
    · simpa [discontinue] using hl.fresh (by simpa [discontinue] using h)
    · rw [discontinue, record_status, transitionTo_status]
      rfl
    · rw [discontinue, record_status, transitionTo_status] at h
      cases h
  | timeout elapsedNs hStale =>
    have hCount := (counts_superviseLidarTimeout 0 config elapsedNs l).counted
    have hKept : (l.superviseLidarTimeout config elapsedNs).trackingEverConfirmed =
        l.trackingEverConfirmed := by
      unfold superviseLidarTimeout
      dsimp only
      split <;> split <;> simp
    have hStatus : (l.superviseLidarTimeout config elapsedNs).status = l.status ∨
        (l.superviseLidarTimeout config elapsedNs).status.recovering = true := by
      unfold superviseLidarTimeout
      dsimp only
      split <;> split <;> simp [EstimatorStatus.recovering]
    refine ⟨fun h => hCount.trans (hl.fresh (hKept.symm.trans h)), fun h => ?_, fun h => ?_⟩
    · rcases hStatus with hStatus | hStatus
      · exact hStatus ▸ hl.settled (hKept.symm.trans h)
      · exact .inr hStatus
    · rcases hStatus with hStatus | hStatus
      · exact hCount.trans (hl.steady (hStatus.symm.trans h))
      · exact absurd h (recovering_not_tracking hStatus)

theorem Tallied.moves (hl : Tallied l) (hSane : Sane l)
    (h : Moves config confirmations stale l next) : Tallied next := by
  induction h with
  | refl => exact hl
  | tail hMoves hMove ih => exact ih.move (hSane.moves hMoves) hMove

theorem Move.counts_unconfirmed (h : Move config confirmations stale l next) (hl : Tallied l)
    (hSane : Sane l) (hNever : next.trackingEverConfirmed = false) : Counts limit 0 l next := by
  have hBefore : l.trackingEverConfirmed = false := by
    by_contra hConfirmed
    rw [h.onward.confirmed (by simpa using hConfirmed)] at hNever
    cases hNever
  have hZero := (hl.move hSane h).fresh hNever
  cases h with
  | reason reason => exact .still hZero rfl
  | startUp target reason => exact .event hZero rfl fun h => absurd h (not_reachesLimit (by simp))
  | uncorrected failureClass =>
    rw [uncorrected_unconfirmed hBefore] at hZero ⊢
    exact .still hZero rfl
  | corrected converged =>
    rw [(acceptCorrection_accepted confirmations converged l).1.now_confirmed] at hNever
    cases hNever
  | initialFailure =>
    unfold failInitialMap at hZero ⊢
    split
    · dsimp only
      split
      · refine .event ?_ rfl fun h => absurd h (not_reachesLimit (by simp))
        simpa using hl.fresh hBefore
      · exact .still (hl.fresh hBefore) rfl
    · exact .still (hl.fresh hBefore) rfl
  | mapGuard hConfirmed =>
    rw [hBefore] at hConfirmed
    cases hConfirmed
  | restart => exact .still hZero rfl
  | restarted reason => exact .event hZero rfl fun h => absurd h (not_reachesLimit (by simp))
  | gaveUp reason => exact .event hZero rfl fun h => absurd h (not_reachesLimit (by simp))
  | timeout elapsedNs =>
    have hCounts := counts_superviseLidarTimeout limit config elapsedNs l
    rw [hl.fresh hBefore] at hCounts
    exact hCounts

theorem Moves.counts_unconfirmed (h : Moves config confirmations stale l next) (hl : Tallied l)
    (hSane : Sane l) (hNever : next.trackingEverConfirmed = false) : Counts limit 0 l next := by
  induction h with
  | refl => exact .still (hl.fresh hNever) rfl
  | @tail m next hMoves hMove ih =>
    have hBefore : m.trackingEverConfirmed = false := by
      by_contra hConfirmed
      rw [hMove.onward.confirmed (by simpa using hConfirmed)] at hNever
      cases hNever
    have hFirst := ih hBefore
    exact hFirst.trans (hMove.counts_unconfirmed limit (hl.moves hSane hMoves) (hSane.moves hMoves) hNever)
      (le_refl 0)

end Lifecycle

end UavNavigation.FastLio
