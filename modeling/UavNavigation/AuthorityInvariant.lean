import UavNavigation.ExecutionAuthority
import UavNavigation.Runs

/-!
# Operations of the authority

`Operation` lists the public mutators and the exposure gate with their
arguments and callback outcomes; the remaining public members only read the
state. A world publication carries the state its first critical section saw,
so a run covers every interleaving of the two sections with other operations.
-/

namespace UavNavigation.ExecutionAuthority

set_option autoImplicit false

variable {D F : Type}

inductive Operation (D F : Type) where
  | setAdmissionGoalEpoch (goalEpoch : Nat) (retainCommittedBundle : Bool)
  | beginGoal (localizationEpoch goalEpoch : Nat) (retainActive : Bool)
  | reset (localizationEpoch : Nat)
  | clearGoal (localizationEpoch : Nat)
  | failClosed
  | suspendCommand
  | observeRetainedCommand (bundle : CandidateBundle D F) (safetySuffixActive : Bool)
  | observeSampledSafetyRole (bundle : CandidateBundle D F) (sampledRole : CandidateRole)
  | preserveSafetySuffix (bundle : CandidateBundle D F)
  | requestRestartFromRest (bundle : CandidateBundle D F)
  | clearRestartFromRest
  | applyRecoveryEvent (event : ExecutionRecoveryEvent) (bundle : CandidateBundle D F)
  | stoppedHold (bundle : CandidateBundle D F)
  | publishWorldIdentity (seen : ExecutionAuthority D F) (refresh : WorldRefresh D F)
  | failClosedIfCurrentSnapshot (expected : ExecutionAuthoritySnapshot D F)
  | suspendIfCurrentSnapshot (expected : ExecutionAuthoritySnapshot D F)
  | stagePending (expected : CommitToken) (anchor : ExecutionAnchor D)
      (goal : Option GoalPtr) (candidate : Option (BundlePtr D F))
  | stagePendingAndFinalize (expected : CommitToken) (anchor : ExecutionAnchor D)
      (goal : Option GoalPtr) (candidate : Option (BundlePtr D F)) (finalize : Callback)
  | activatePendingIfDueAndFinalize (nowNs : Int) (expected : ExecutionAuthoritySnapshot D F)
      (finalize : Nat → Callback)
  | publishIfCurrent (expected : Option (BundlePtr D F)) (expectedGoalEpoch : Nat)
      (expose : ExecutionLifecycleState → Callback)
  | invalidateIfCurrent (expected : ExecutionAuthoritySnapshot D F)
  | tryCommit (expected : CommitToken) (goal : Option GoalPtr) (candidate : Option (BundlePtr D F))
  | tryCommitIfCurrent (expected : CommitToken) (predecessor : ExecutionAuthoritySnapshot D F)
      (goal : Option GoalPtr) (candidate : Option (BundlePtr D F)) (admission : Callback)
  | tryCommitAndFinalize (expected : CommitToken) (goal : Option GoalPtr)
      (candidate : Option (BundlePtr D F)) (finalize : Callback)
  | invalidate

inductive Outcome where
  | done
  | answered (value : Bool)
  | mutation (result : ConditionalExecutionMutation)
  | world (decision : WorldCommitDecision) (revocationFinalized : Bool)
  | commit (decision : CommitDecision)
  | stage (decision : StageDecision)
  | exposure (shown : Option ExecutionLifecycleState) (result : Bool)
deriving DecidableEq

section Step
variable [Floating D] [DecidableEq D] [DecidableEq F]

def step (s : ExecutionAuthority D F) : Operation D F → ExecutionAuthority D F × Outcome
  | .setAdmissionGoalEpoch goalEpoch retain =>
    Prod.map id .answered (s.setAdmissionGoalEpoch goalEpoch retain)
  | .beginGoal localizationEpoch goalEpoch retain =>
    Prod.map id .answered (s.beginGoal localizationEpoch goalEpoch retain)
  | .reset localizationEpoch => (s.reset localizationEpoch, .done)
  | .clearGoal localizationEpoch => (s.clearGoal localizationEpoch, .done)
  | .failClosed => (s.failClosed, .done)
  | .suspendCommand => (s.suspendCommand, .done)
  | .observeRetainedCommand bundle suffix =>
    Prod.map id .answered (s.observeRetainedCommand bundle suffix)
  | .observeSampledSafetyRole bundle role =>
    Prod.map id .answered (s.observeSampledSafetyRole bundle role)
  | .preserveSafetySuffix bundle => Prod.map id .answered (s.preserveSafetySuffix bundle)
  | .requestRestartFromRest bundle => Prod.map id .answered (s.requestRestartFromRest bundle)
  | .clearRestartFromRest => (s.clearRestartFromRest, .done)
  | .applyRecoveryEvent event bundle =>
    Prod.map id .answered (s.applyRecoveryEvent event bundle)
  | .stoppedHold bundle => Prod.map id .answered (s.stoppedHold bundle)
  | .publishWorldIdentity seen refresh =>
    Prod.map id (fun r => .world r.1 r.2)
      (publishWorldIdentityIfCurrentAndFinalizeRevocation seen s refresh)
  | .failClosedIfCurrentSnapshot expected =>
    Prod.map id .mutation (s.failClosedIfCurrentSnapshot expected)
  | .suspendIfCurrentSnapshot expected =>
    Prod.map id .answered (s.suspendIfCurrentSnapshot expected)
  | .stagePending expected anchor goal candidate =>
    Prod.map id .stage (s.stagePending expected anchor goal candidate)
  | .stagePendingAndFinalize expected anchor goal candidate finalize =>
    Prod.map id .stage (s.stagePendingAndFinalize expected anchor goal candidate finalize)
  | .activatePendingIfDueAndFinalize nowNs expected finalize =>
    Prod.map id .answered (s.activatePendingIfDueAndFinalize nowNs expected finalize)
  | .publishIfCurrent expected goalEpoch expose =>
    (s, .exposure (s.publishIfCurrent expected goalEpoch expose).1
      (s.publishIfCurrent expected goalEpoch expose).2)
  | .invalidateIfCurrent expected => Prod.map id .answered (s.invalidateIfCurrent expected)
  | .tryCommit expected goal candidate =>
    Prod.map id .commit (s.tryCommit expected goal candidate)
  | .tryCommitIfCurrent expected predecessor goal candidate admission =>
    Prod.map id .commit (s.tryCommitIfCurrent expected predecessor goal candidate admission)
  | .tryCommitAndFinalize expected goal candidate finalize =>
    Prod.map id .commit (s.tryCommitAndFinalize expected goal candidate finalize)
  | .invalidate => (s.invalidate, .done)

end Step

/-- The transaction token of the five commit and staging operations. -/
def Operation.token : Operation D F → Option CommitToken
  | .tryCommit expected _ _ => some expected
  | .tryCommitIfCurrent expected _ _ _ _ => some expected
  | .tryCommitAndFinalize expected _ _ _ => some expected
  | .stagePending expected _ _ _ => some expected
  | .stagePendingAndFinalize expected _ _ _ _ => some expected
  | _ => none

/-- The operation took a transaction: it returned `kCommitted` or `kStaged`. -/
def Outcome.accepts : Outcome → Bool
  | .commit .committed => true
  | .stage .staged => true
  | _ => false

def activates : Operation D F → Outcome → Bool
  | .activatePendingIfDueAndFinalize _ _ _, .answered true => true
  | _, _ => false

/-- The operation succeeded and overwrote the whole lifecycle with its initial value. -/
def resetsLifecycle (s : ExecutionAuthority D F) : Operation D F → Outcome → Bool
  | .setAdmissionGoalEpoch _ false, .answered true => true
  | .beginGoal localizationEpoch _ retain, .answered true =>
    !s.retainsActive localizationEpoch retain
  | .reset _, _ => true
  | .clearGoal _, _ => true
  | .invalidate, _ => true
  | _, _ => false

/-- The candidate of a staging call that passes every check, its finalizer included. -/
def admittedCandidate (s : ExecutionAuthority D F) [Floating D] :
    Operation D F → Option (BundlePtr D F)
  | .stagePending expected anchor goal candidate =>
    (s.admitStage expected anchor goal candidate).toOption.map (·.2)
  | .stagePendingAndFinalize expected anchor goal candidate finalize =>
    if finalize.succeeded then
      (s.admitStage expected anchor goal candidate).toOption.map (·.2)
    else none
  | _ => none

structure CommitAdmitted (s : ExecutionAuthority D F) [Floating D] (token : CommitToken)
    (goal : GoalPtr) (candidate : BundlePtr D F) : Prop where
  requestId : goal.object.requestId = candidate.object.requestId
  valid : candidate.object.valid = true
  notFailed : s.lifecycle.exposure ≠ .failed
  goalEpoch : candidate.object.goalEpoch = s.admissionGoalEpoch
  world : s.worldIdentity = some candidate.object.worldIdentity
  fresh : s.lastTransactionId < token.transactionId
  generation : ∀ active, s.active.bundle = some active →
    active.object.bundleGeneration ≤ candidate.object.bundleGeneration

structure StageAdmitted (s : ExecutionAuthority D F) [Floating D] (token : CommitToken)
    (anchor : ExecutionAnchor D) (goal : GoalPtr) (candidate : BundlePtr D F) : Prop where
  requestId : goal.object.requestId = candidate.object.requestId
  valid : candidate.object.valid = true
  validFrom : candidate.object.validFromNs = anchor.activationStampNs
  notFailed : s.lifecycle.exposure ≠ .failed
  goalEpoch : candidate.object.goalEpoch = s.admissionGoalEpoch
  world : s.worldIdentity = some candidate.object.worldIdentity
  fresh : s.lastTransactionId < token.transactionId
  lineage : s.activeLineageVersion = anchor.executionLineageVersion
  predecessor : s.active.bundle.isSome = true

@[simp] theorem worldIs_iff (s : ExecutionAuthority D F) (identity : WorldSnapshotIdentity) :
    s.worldIs identity = true ↔ s.worldIdentity = some identity := by
  cases h : s.worldIdentity <;> simp [worldIs, h]

theorem goalMatchesCandidate_eq_some {goal : Option GoalPtr} {candidate : Option (BundlePtr D F)}
    {p : GoalPtr × BundlePtr D F} (h : goalMatchesCandidate goal candidate = some p) :
    p.1.object.requestId = p.2.object.requestId := by
  revert h
  fun_cases goalMatchesCandidate
  all_goals intro h
  case case1 hMatch =>
    simp only [Bool.and_eq_true, beq_iff_eq] at hMatch
    cases h
    exact hMatch.2
  all_goals cases h

section Admission
variable [Floating D] {s : ExecutionAuthority D F} {token : CommitToken}
  {goal : Option GoalPtr} {candidate : Option (BundlePtr D F)} {p : GoalPtr × BundlePtr D F}
  {anchor : ExecutionAnchor D}

theorem admitCommit_ok (h : s.admitCommit token goal candidate = .ok p) :
    s.CommitAdmitted token p.1 p.2 := by
  unfold admitCommit at h
  split at h
  · cases h
  rename_i goal' candidate' hMatch
  have hRequest := goalMatchesCandidate_eq_some hMatch
  split_ifs at h with h1 h2 h3 h4 h5 h6 h7
  cases h
  simp only [Bool.or_eq_true, Bool.not_eq_true', decide_eq_true_eq, not_or,
    Bool.not_eq_false, worldIs_iff, ne_eq, Decidable.not_not] at h1 h4 h5
  refine ⟨hRequest, h1.1.1, h3, h4.2.trans h4.1.symm, h5.2, by omega, ?_⟩
  intro active hActive
  simpa [hActive] using h7

theorem admitStage_ok (h : s.admitStage token anchor goal candidate = .ok p) :
    s.StageAdmitted token anchor p.1 p.2 := by
  unfold admitStage at h
  split at h
  · cases h
  rename_i goal' candidate' hMatch
  have hRequest := goalMatchesCandidate_eq_some hMatch
  split_ifs at h with h1 h2 h3 h4 h5 h6 h7 h8 h9
  cases h
  simp only [Bool.or_eq_true, Bool.not_eq_true', decide_eq_true_eq, not_or, Bool.not_eq_false,
    worldIs_iff, sameWorldSnapshotIdentity_iff, ne_eq, Decidable.not_not] at h1 h2 h5 h6 h9
  refine ⟨hRequest, h1.1.1, h2.1.1.1.2, h4, h5.2.trans h5.1.symm, ?_, by omega, h9.1, ?_⟩
  · rw [h6, h2.2]
  · cases hActive : s.active.bundle with
    | none => simp [hActive] at h9
    | some active => rfl

theorem admitCommit_error {decision : CommitDecision}
    (h : s.admitCommit token goal candidate = .error decision) :
    (Outcome.commit decision).accepts = false := by
  unfold admitCommit at h
  split at h
  · cases h
    rfl
  · split_ifs at h <;> cases h <;> rfl

theorem admitStage_error {decision : StageDecision}
    (h : s.admitStage token anchor goal candidate = .error decision) :
    (Outcome.stage decision).accepts = false := by
  unfold admitStage at h
  split at h
  · cases h
    rfl
  · split_ifs at h <;> cases h <;> rfl

end Admission

/-! ## The abstract authority

`Effect` lists the ways in which an operation may change the state, each with its guard.
Later modules argue about `Effect` and do not unfold an operation again. -/

def Quiet (op : Operation D F) (out : Outcome) : Prop :=
  out.accepts = false ∧ activates op out = false

/-- The recovery event an observation reports, and the bundle it names. -/
def Operation.recoveryEvent : Operation D F → Option (ExecutionRecoveryEvent × CandidateBundle D F)
  | .observeSampledSafetyRole bundle role =>
    some (if role = .emergency then .emergencyCommitted else .backupActivated, bundle)
  | .applyRecoveryEvent event bundle => some (event, bundle)
  | _ => none

inductive LifecycleMove (s : ExecutionAuthority D F) :
    Operation D F → ExecutionLifecycleState → Prop where
  | failClosed {op : Operation D F}
      (hOp : op = .failClosed ∨ ∃ expected, op = .failClosedIfCurrentSnapshot expected) :
      LifecycleMove s op failClosedLifecycle
  | suspended {op : Operation D F} (hNotFailed : s.lifecycle.exposure ≠ .failed) :
      LifecycleMove s op { s.lifecycle with exposure := .suspended }
  | restartCleared {op : Operation D F} : LifecycleMove s op { s.lifecycle with restart := .none }
  | observed {op : Operation D F} {lifecycle : ExecutionLifecycleState}
      (bundle : CandidateBundle D F)
      (hMatch : s.activeBundleIdentityMatchesLocked bundle = true)
      (hNotFailed : s.lifecycle.exposure ≠ .failed) (hStill : lifecycle.exposure ≠ .failed)
      (hRecovery : lifecycle.recovery = s.lifecycle.recovery ∨
        ∃ event, op.recoveryEvent = some (event, bundle) ∧
          lifecycle.recovery = transitionExecutionRecovery s.lifecycle.recovery event) :
      LifecycleMove s op lifecycle

inductive Effect [Floating D] (s : ExecutionAuthority D F) :
    Operation D F → Outcome → ExecutionAuthority D F → Prop where
  | idle {op : Operation D F} {out : Outcome} (hQuiet : Quiet op out) : Effect s op out s
  | rolledBack {op : Operation D F} {out : Outcome}
      (hOut : out = .commit .finalizationFailed ∨ out = .stage .finalizationFailed) :
      Effect s op out { s with timelineVersion := next64 (next64 s.timelineVersion) }
  | relabeled {op : Operation D F} {out : Outcome} {lifecycle : ExecutionLifecycleState}
      (hQuiet : Quiet op out) (hMove : LifecycleMove s op lifecycle) :
      Effect s op out { s with lifecycle := lifecycle, timelineVersion := next64 s.timelineVersion }
  /-- A new admission scope that keeps the active record and its lifecycle. -/
  | rescoped {op : Operation D F} {out : Outcome} (hQuiet : Quiet op out)
      (goalEpoch localizationEpoch : Nat) :
      Effect s op out
        { s with
          admissionGoalEpoch := goalEpoch
          admissionLocalizationEpoch := localizationEpoch
          staged := {}
          timelineVersion := next64 s.timelineVersion }
  /-- The execution identity is withdrawn by its owner. -/
  | withdrawn {op : Operation D F} {out : Outcome} (hQuiet : Quiet op out)
      (goalEpoch localizationEpoch lineage : Nat) (active : ActiveRecord D F)
      (lifecycle : ExecutionLifecycleState)
      (hActive : active = {} ∨ (active = s.active ∧ s.active.bundle = none))
      (hLineage : lineage = next64 s.activeLineageVersion ∨
        (lineage = s.activeLineageVersion ∧ s.active.bundle = none))
      (hLifecycle : (lifecycle = {} ∧ resetsLifecycle s op out = true) ∨
        (lifecycle = withdrawnLifecycle s.lifecycle ∧
          ∃ expected, op = .invalidateIfCurrent expected ∧
            s.timelineVersion = expected.version ∧ s.active.bundle = expected.active)) :
      Effect s op out
        { s with
          admissionGoalEpoch := goalEpoch
          admissionLocalizationEpoch := localizationEpoch
          active := active
          staged := {}
          lifecycle := lifecycle
          activeLineageVersion := lineage
          timelineVersion := next64 s.timelineVersion }
  | committed {op : Operation D F} {token : CommitToken} {goal : GoalPtr}
      {candidate : BundlePtr D F} (hToken : op.token = some token)
      (hAdmitted : s.CommitAdmitted token goal candidate) :
      Effect s op (.commit .committed) (s.swapActiveLocked token goal candidate).bumpLineage
  | staged {op : Operation D F} {token : CommitToken} {anchor : ExecutionAnchor D}
      {goal : GoalPtr} {candidate : BundlePtr D F} (hToken : op.token = some token)
      (hCandidate : s.admittedCandidate op = some candidate)
      (hAdmitted : s.StageAdmitted token anchor goal candidate) :
      Effect s op (.stage .staged) (s.installStagedLocked token anchor goal candidate)
  | dropped {op : Operation D F} {out : Outcome} (hQuiet : Quiet op out) (version : Nat)
      (hVersion : version = next64 s.timelineVersion ∨
        version = next64 (next64 s.timelineVersion)) :
      Effect s op out { s with staged := {}, timelineVersion := version }
  | activated {op : Operation D F} {out : Outcome} {successor : BundlePtr D F} {nowNs : Int}
      (hOut : out.accepts = false) (hStaged : s.staged.bundle = some successor)
      (hReady : s.successorReady successor nowNs = true)
      (hNotFailed : s.lifecycle.exposure ≠ .failed) :
      Effect s op out
        { s with
          active := ⟨s.staged.goal, some successor⟩
          staged := {}
          lifecycle := { s with active := ⟨s.staged.goal, some successor⟩ }.committedLifecycle
            successor.object s.activeGeneration
          activeLineageVersion := next64 s.activeLineageVersion
          timelineVersion := next64 s.timelineVersion }
  | recertified {seen : ExecutionAuthority D F} {refresh : WorldRefresh D F} {out : Outcome}
      (hQuiet : out.accepts = false) {active recertified : BundlePtr D F}
      {staged : StagedRecord D F} (hActive : s.active.bundle = some active)
      (hRecertified : prepare refresh.activeCopy active refresh.identity
        refresh.refreshedValidUntilNs = some recertified)
      (hStaged : staged = {} ∨ ∃ pending copy, s.staged.bundle = some pending ∧
        prepare refresh.pendingCopy pending refresh.identity 0 = some copy ∧
        staged = { s.staged with bundle := some copy }) :
      Effect s (.publishWorldIdentity seen refresh) out
        { s with
          active := { s.active with bundle := some recertified }
          staged := staged
          worldIdentity := some refresh.identity
          timelineVersion := next64 s.timelineVersion }
  /-- A publication that does not recertify the active bundle retires it. -/
  | revoked {seen : ExecutionAuthority D F} {refresh : WorldRefresh D F} {out : Outcome}
      (hQuiet : out.accepts = false) (world : Option WorldSnapshotIdentity) :
      Effect s (.publishWorldIdentity seen refresh) out
        { s.retireActiveLocked with
          staged := {}
          worldIdentity := world
          timelineVersion := next64 s.timelineVersion }

/-! ## The code refines the abstract authority -/

theorem quiet_answered_false (op : Operation D F) : Quiet op (.answered false) := by
  refine ⟨rfl, ?_⟩
  cases op <;> rfl

@[simp] theorem enforceInvariantLocked_clearStagedLocked (s : ExecutionAuthority D F) :
    s.clearStagedLocked.enforceInvariantLocked = s.clearStagedLocked := by
  unfold enforceInvariantLocked
  split <;> rfl

theorem lineage_moves (s : ExecutionAuthority D F) :
    s.bumpLineageIfActive.activeLineageVersion = next64 s.activeLineageVersion ∨
      (s.bumpLineageIfActive.activeLineageVersion = s.activeLineageVersion ∧
        s.active.bundle = none) := by
  cases hActive : s.active.bundle with
  | none => exact .inr ⟨by simp [bumpLineageIfActive, hActive], rfl⟩
  | some bundle => exact .inl (by simp [bumpLineageIfActive, hActive])

section Refinement
variable [Floating D] {s : ExecutionAuthority D F}
  {edit : ExecutionLifecycleState → ExecutionLifecycleState} {op : Operation D F}

theorem editLifecycle_effect {out : Outcome} (hQuiet : Quiet op out)
    (hMove : LifecycleMove s op (edit s.lifecycle)) : Effect s op out (s.editLifecycle edit) := by
  unfold editLifecycle noteLifecycleChangeLocked
  split
  · rename_i hSame
    have hState : { s with lifecycle := edit s.lifecycle } = s := by
      rw [show edit s.lifecycle = s.lifecycle from hSame]
    rw [hState]
    exact .idle hQuiet
  · exact .relabeled hQuiet hMove

theorem observeActive_effect {bundle : CandidateBundle D F} (hQuiet : Quiet op (.answered true))
    (hStill : s.lifecycle.exposure ≠ .failed → (edit s.lifecycle).exposure ≠ .failed)
    (hRecovery : (edit s.lifecycle).recovery = s.lifecycle.recovery ∨
      ∃ event, op.recoveryEvent = some (event, bundle) ∧
        (edit s.lifecycle).recovery = transitionExecutionRecovery s.lifecycle.recovery event) :
    Effect s op (.answered (s.observeActive bundle edit).2) (s.observeActive bundle edit).1 := by
  unfold observeActive
  split
  · exact .idle (quiet_answered_false op)
  · rename_i hGuard
    simp only [Bool.or_eq_true, decide_eq_true_eq, Bool.not_eq_true', not_or,
      Bool.not_eq_false] at hGuard
    exact editLifecycle_effect hQuiet
      (.observed bundle hGuard.2 hGuard.1 (hStill hGuard.1) hRecovery)

theorem setAdmissionGoalEpoch_effect (goalEpoch : Nat) (retain : Bool) :
    Effect s (.setAdmissionGoalEpoch goalEpoch retain)
      (.answered (s.setAdmissionGoalEpoch goalEpoch retain).2)
      (s.setAdmissionGoalEpoch goalEpoch retain).1 := by
  unfold setAdmissionGoalEpoch
  split
  · exact .idle (quiet_answered_false _)
  split
  · exact .idle (quiet_answered_false _)
  simp only [enforceInvariantLocked_clearStagedLocked]
  cases retain with
  | true => exact .rescoped ⟨rfl, rfl⟩ goalEpoch _
  | false =>
    cases hActive : s.active.bundle with
    | none =>
      exact .withdrawn ⟨rfl, rfl⟩ goalEpoch _ s.activeLineageVersion s.active {}
        (.inr ⟨rfl, hActive⟩) (.inr ⟨rfl, hActive⟩) (.inl ⟨rfl, rfl⟩)
    | some bundle =>
      exact .withdrawn ⟨rfl, rfl⟩ goalEpoch _
        (next64 s.activeLineageVersion) {} {} (.inl rfl) (.inl rfl) (.inl ⟨rfl, rfl⟩)

theorem beginGoal_effect (localizationEpoch goalEpoch : Nat) (retain : Bool) :
    Effect s (.beginGoal localizationEpoch goalEpoch retain)
      (.answered (s.beginGoal localizationEpoch goalEpoch retain).2)
      (s.beginGoal localizationEpoch goalEpoch retain).1 := by
  unfold beginGoal
  split
  · exact .idle (quiet_answered_false _)
  split
  · exact .idle (quiet_answered_false _)
  cases hRetain : s.retainsActive localizationEpoch retain with
  | true => exact .rescoped ⟨rfl, rfl⟩ goalEpoch localizationEpoch
  | false =>
    have hReset : resetsLifecycle s (.beginGoal localizationEpoch goalEpoch retain)
        (.answered true) = true := by simp [resetsLifecycle, hRetain]
    exact .withdrawn ⟨rfl, rfl⟩ goalEpoch localizationEpoch _ {} {} (.inl rfl)
      (lineage_moves s) (.inl ⟨rfl, hReset⟩)

theorem reset_effect {out : Outcome} (hQuiet : Quiet op out)
    (hReset : resetsLifecycle s op out = true) (localizationEpoch : Nat) :
    Effect s op out (s.reset localizationEpoch) :=
  .withdrawn hQuiet 0 localizationEpoch _ {} {} (.inl rfl) (lineage_moves s) (.inl ⟨rfl, hReset⟩)

theorem invalidate_effect : Effect s .invalidate .done s.invalidate := by
  exact .withdrawn ⟨rfl, rfl⟩ _ _ _ {} {} (.inl rfl) (lineage_moves s) (.inl ⟨rfl, rfl⟩)

theorem failClosed_effect : Effect s .failClosed .done s.failClosed := by
  apply editLifecycle_effect ⟨rfl, rfl⟩
  exact .failClosed (.inl rfl)

theorem suspendCommand_effect : Effect s .suspendCommand .done s.suspendCommand := by
  unfold suspendCommand
  split
  · rename_i hNotFailed
    exact editLifecycle_effect ⟨rfl, rfl⟩ (.suspended hNotFailed)
  · exact .idle ⟨rfl, rfl⟩

theorem clearRestartFromRest_effect :
    Effect s .clearRestartFromRest .done s.clearRestartFromRest := by
  unfold clearRestartFromRest
  split
  · exact editLifecycle_effect ⟨rfl, rfl⟩ .restartCleared
  · exact .idle ⟨rfl, rfl⟩

theorem observeSampledSafetyRole_effect (bundle : CandidateBundle D F) (role : CandidateRole) :
    Effect s (.observeSampledSafetyRole bundle role)
      (.answered (s.observeSampledSafetyRole bundle role).2)
      (s.observeSampledSafetyRole bundle role).1 := by
  unfold observeSampledSafetyRole
  split
  · exact .idle (quiet_answered_false _)
  · exact observeActive_effect ⟨rfl, rfl⟩ (fun h => h) (.inr ⟨_, rfl, rfl⟩)

theorem preserveSafetySuffix_effect (bundle : CandidateBundle D F) :
    Effect s (.preserveSafetySuffix bundle)
      (.answered (s.preserveSafetySuffix bundle).2) (s.preserveSafetySuffix bundle).1 := by
  unfold preserveSafetySuffix
  split
  · exact .idle (quiet_answered_false _)
  · rename_i hGuard
    simp only [Bool.or_eq_true, decide_eq_true_eq, Bool.not_eq_true', not_or,
      Bool.not_eq_false, ne_eq, Decidable.not_not] at hGuard
    have hNotFailed : s.lifecycle.exposure ≠ .failed := by
      rw [hGuard.1]
      decide
    dsimp only
    apply editLifecycle_effect ⟨rfl, rfl⟩
    exact .observed bundle hGuard.2 hNotFailed hNotFailed (.inl rfl)

section Pointers
variable [DecidableEq D] [DecidableEq F] {seen : ExecutionAuthority D F}
  {refresh : WorldRefresh D F}

section
variable (expected : ExecutionAuthoritySnapshot D F)

theorem failClosedIfCurrentSnapshot_effect : Effect s (.failClosedIfCurrentSnapshot expected)
      (.mutation (s.failClosedIfCurrentSnapshot expected).2)
      (s.failClosedIfCurrentSnapshot expected).1 := by
  unfold failClosedIfCurrentSnapshot
  split
  · exact .idle ⟨rfl, rfl⟩
  split
  · exact .idle ⟨rfl, rfl⟩
  · dsimp only
    apply editLifecycle_effect ⟨rfl, rfl⟩
    exact .failClosed (.inr ⟨expected, rfl⟩)

theorem suspendIfCurrentSnapshot_effect : Effect s (.suspendIfCurrentSnapshot expected)
      (.answered (s.suspendIfCurrentSnapshot expected).2)
      (s.suspendIfCurrentSnapshot expected).1 := by
  unfold suspendIfCurrentSnapshot
  split
  · exact .idle (quiet_answered_false _)
  · rename_i hGuard
    simp only [Bool.or_eq_true, decide_eq_true_eq, not_or] at hGuard
    dsimp only
    apply editLifecycle_effect ⟨rfl, rfl⟩
    exact .suspended hGuard.2

theorem invalidateIfCurrent_effect :
    Effect s (.invalidateIfCurrent expected) (.answered (s.invalidateIfCurrent expected).2)
      (s.invalidateIfCurrent expected).1 := by
  unfold invalidateIfCurrent
  split
  · exact .idle (quiet_answered_false _)
  · rename_i hCurrent
    simp only [Bool.or_eq_true, decide_eq_true_eq, not_or, ne_eq, Decidable.not_not] at hCurrent
    exact .withdrawn ⟨rfl, rfl⟩ _ _ (next64 s.activeLineageVersion) {} _ (.inl rfl) (.inl rfl)
      (.inr ⟨rfl, expected, rfl, hCurrent⟩)

end

theorem activatePending_effect (nowNs : Int) (expected : ExecutionAuthoritySnapshot D F)
    (finalize : Nat → Callback) :
    Effect s (.activatePendingIfDueAndFinalize nowNs expected finalize)
      (.answered (s.activatePendingIfDueAndFinalize nowNs expected finalize).2)
      (s.activatePendingIfDueAndFinalize nowNs expected finalize).1 := by
  unfold activatePendingIfDueAndFinalize
  split
  · exact .idle (quiet_answered_false _)
  rename_i hNotFailed
  split
  · exact .dropped (quiet_answered_false _) _ (.inl rfl)
  split
  · exact .idle (quiet_answered_false _)
  rename_i successor hStaged
  split
  · exact .idle (quiet_answered_false _)
  split
  · exact .idle (quiet_answered_false _)
  split
  · exact .idle (quiet_answered_false _)
  split
  · exact .dropped (quiet_answered_false _) _ (.inl rfl)
  rename_i hReady
  simp only [enforceInvariantLocked_clearStagedLocked]
  split
  · exact .dropped (quiet_answered_false _) _ (.inr rfl)
  · exact .activated rfl hStaged (by simpa using hReady) hNotFailed

theorem prepareRefresh_active {recertified : BundlePtr D F}
    (h : (prepareRefresh seen refresh).recertifiedActive = some recertified) :
    ∃ active, seen.active.bundle = some active ∧
      prepare refresh.activeCopy active refresh.identity refresh.refreshedValidUntilNs =
        some recertified := by
  simp only [prepareRefresh] at h
  split at h
  · exact Option.bind_eq_some_iff.mp h
  · cases h

theorem prepareRefresh_pending {copy : BundlePtr D F}
    (h : (prepareRefresh seen refresh).recertifiedPending = some copy) :
    ∃ pending, seen.staged.bundle = some pending ∧
      prepare refresh.pendingCopy pending refresh.identity 0 = some copy := by
  simp only [prepareRefresh] at h
  generalize (Bool.and _ (Option.isSome _)) = preparing at h
  cases preparing with
  | true => exact Option.bind_eq_some_iff.mp h
  | false => cases h

variable (seen : ExecutionAuthority D F) (refresh : WorldRefresh D F)

theorem publishPrepared_effect (hActive : s.active.bundle = seen.active.bundle)
    (hStaged : s.staged.bundle = seen.staged.bundle) (decision : WorldCommitDecision)
    (finalized : Bool) :
    Effect s (.publishWorldIdentity seen refresh) (.world decision finalized)
      (s.publishPrepared refresh.identity (prepareRefresh seen refresh)).1 := by
  generalize hp : prepareRefresh seen refresh = p
  unfold publishPrepared
  split
  · exact .revoked rfl s.worldIdentity
  rename_i hNotFailed
  cases hPrepare : p.prepareActive with
  | false => exact .revoked rfl (some refresh.identity)
  | true =>
    cases hRecertified : p.recertifiedActive with
    | none => simp [Prepared.activePreparationFailed, hPrepare, hRecertified] at hNotFailed
    | some recertified =>
      obtain ⟨active, hSeen, hCopy⟩ := prepareRefresh_active (hp ▸ hRecertified)
      cases hPending : p.recertifiedPending with
      | none => exact .recertified rfl (hActive.trans hSeen) hCopy (.inl rfl)
      | some copy =>
        obtain ⟨pending, hSeenPending, hPendingCopy⟩ := prepareRefresh_pending (hp ▸ hPending)
        exact .recertified rfl (hActive.trans hSeen) hCopy
          (.inr ⟨pending, copy, hStaged.trans hSeenPending, hPendingCopy, rfl⟩)

theorem publishWorldIdentity_effect :
    Effect s (.publishWorldIdentity seen refresh) (step s (.publishWorldIdentity seen refresh)).2
      (step s (.publishWorldIdentity seen refresh)).1 := by
  simp only [step, Prod.map, id]
  unfold publishWorldIdentityIfCurrentAndFinalizeRevocation
  split
  · exact .idle ⟨rfl, rfl⟩
  split
  · exact .idle ⟨rfl, rfl⟩
  split
  · exact .idle ⟨rfl, rfl⟩
  split
  · exact .idle ⟨rfl, rfl⟩
  rename_i hCurrent
  simp only [Bool.or_eq_true, decide_eq_true_eq, not_or, ne_eq, Decidable.not_not] at hCurrent
  split
  · exact .idle ⟨rfl, rfl⟩
  · exact publishPrepared_effect seen refresh hCurrent.1.1.2 hCurrent.1.2 _ _

end Pointers

section
variable (token : CommitToken) (goal : Option GoalPtr) (candidate : Option (BundlePtr D F))

theorem tryCommit_effect :
    Effect s (.tryCommit token goal candidate) (.commit (s.tryCommit token goal candidate).2)
      (s.tryCommit token goal candidate).1 := by
  unfold tryCommit
  split
  · rename_i decision hDecision
    exact .idle ⟨admitCommit_error hDecision, rfl⟩
  · rename_i goal' candidate' hAdmit
    exact .committed rfl (admitCommit_ok hAdmit)

theorem tryCommitIfCurrent_effect [DecidableEq D] [DecidableEq F] (token : CommitToken)
    (predecessor : ExecutionAuthoritySnapshot D F) (goal : Option GoalPtr)
    (candidate : Option (BundlePtr D F)) (admission : Callback) :
    Effect s (.tryCommitIfCurrent token predecessor goal candidate admission)
      (.commit (s.tryCommitIfCurrent token predecessor goal candidate admission).2)
      (s.tryCommitIfCurrent token predecessor goal candidate admission).1 := by
  fun_cases tryCommitIfCurrent
  case case1 decision hDecision => exact .idle ⟨admitCommit_error hDecision, rfl⟩
  case case4 goal' candidate' hAdmit _ _ => exact .committed rfl (admitCommit_ok hAdmit)
  all_goals exact .idle ⟨rfl, rfl⟩

theorem tryCommitAndFinalize_effect (finalize : Callback) :
    Effect s (.tryCommitAndFinalize token goal candidate finalize)
      (.commit (s.tryCommitAndFinalize token goal candidate finalize).2)
      (s.tryCommitAndFinalize token goal candidate finalize).1 := by
  unfold tryCommitAndFinalize
  split
  · rename_i decision hDecision
    exact .idle ⟨admitCommit_error hDecision, rfl⟩
  · rename_i goal' candidate' hAdmit
    split
    · exact .rolledBack (.inl rfl)
    · exact .committed rfl (admitCommit_ok hAdmit)

end

section
variable (token : CommitToken) (anchor : ExecutionAnchor D) (goal : Option GoalPtr)
  (candidate : Option (BundlePtr D F))

theorem stagePending_effect : Effect s (.stagePending token anchor goal candidate)
      (.stage (s.stagePending token anchor goal candidate).2)
      (s.stagePending token anchor goal candidate).1 := by
  unfold stagePending
  split
  · rename_i decision hDecision
    exact .idle ⟨admitStage_error hDecision, rfl⟩
  · rename_i goal' candidate' hAdmit
    have hCandidate : s.admittedCandidate (.stagePending token anchor goal candidate) =
        some candidate' := by
      simp [admittedCandidate, hAdmit, Except.toOption]
    exact .staged rfl hCandidate (admitStage_ok hAdmit)

theorem stagePendingAndFinalize_effect (finalize : Callback) :
    Effect s (.stagePendingAndFinalize token anchor goal candidate finalize)
      (.stage (s.stagePendingAndFinalize token anchor goal candidate finalize).2)
      (s.stagePendingAndFinalize token anchor goal candidate finalize).1 := by
  unfold stagePendingAndFinalize
  split
  · rename_i decision hDecision
    exact .idle ⟨admitStage_error hDecision, rfl⟩
  · rename_i goal' candidate' hAdmit
    split
    · exact .rolledBack (.inr rfl)
    · rename_i hFinalize
      have hCandidate : s.admittedCandidate
          (.stagePendingAndFinalize token anchor goal candidate finalize) = some candidate' := by
        simp_all [admittedCandidate, Except.toOption]
      exact .staged rfl hCandidate (admitStage_ok hAdmit)

end

theorem step_effect [DecidableEq D] [DecidableEq F] (s : ExecutionAuthority D F)
    (op : Operation D F) : Effect s op (step s op).2 (step s op).1 := by
  cases op with
  | setAdmissionGoalEpoch goalEpoch retain => exact setAdmissionGoalEpoch_effect goalEpoch retain
  | beginGoal localizationEpoch goalEpoch retain =>
    exact beginGoal_effect localizationEpoch goalEpoch retain
  | reset localizationEpoch => exact reset_effect ⟨rfl, rfl⟩ rfl localizationEpoch
  | clearGoal localizationEpoch => exact reset_effect ⟨rfl, rfl⟩ rfl localizationEpoch
  | failClosed => exact failClosed_effect
  | suspendCommand => exact suspendCommand_effect
  | observeRetainedCommand bundle suffix =>
    exact observeActive_effect ⟨rfl, rfl⟩ (fun _ => by simp) (.inl rfl)
  | observeSampledSafetyRole bundle role => exact observeSampledSafetyRole_effect bundle role
  | preserveSafetySuffix bundle => exact preserveSafetySuffix_effect bundle
  | requestRestartFromRest bundle =>
    exact observeActive_effect ⟨rfl, rfl⟩ (fun h => h) (.inl rfl)
  | clearRestartFromRest => exact clearRestartFromRest_effect
  | applyRecoveryEvent event bundle =>
    exact observeActive_effect ⟨rfl, rfl⟩ (fun h => h) (.inr ⟨event, rfl, rfl⟩)
  | stoppedHold bundle => exact observeActive_effect ⟨rfl, rfl⟩ (fun _ => by simp) (.inl rfl)
  | publishWorldIdentity seen refresh => exact publishWorldIdentity_effect seen refresh
  | failClosedIfCurrentSnapshot expected => exact failClosedIfCurrentSnapshot_effect expected
  | suspendIfCurrentSnapshot expected => exact suspendIfCurrentSnapshot_effect expected
  | stagePending token anchor goal candidate =>
    exact stagePending_effect token anchor goal candidate
  | stagePendingAndFinalize token anchor goal candidate finalize =>
    exact stagePendingAndFinalize_effect token anchor goal candidate finalize
  | activatePendingIfDueAndFinalize nowNs expected finalize =>
    exact activatePending_effect nowNs expected finalize
  | publishIfCurrent expected goalEpoch expose => exact .idle ⟨rfl, rfl⟩
  | invalidateIfCurrent expected => exact invalidateIfCurrent_effect expected
  | tryCommit token goal candidate => exact tryCommit_effect token goal candidate
  | tryCommitIfCurrent token predecessor goal candidate admission =>
    exact tryCommitIfCurrent_effect token predecessor goal candidate admission
  | tryCommitAndFinalize token goal candidate finalize =>
    exact tryCommitAndFinalize_effect token goal candidate finalize
  | invalidate => exact invalidate_effect

end Refinement

/-! ## The two slots of the authority -/

open Runs

/-- One slot: the goal and the bundle come together and belong together. -/
structure SlotHeld [Floating D] (world : Option WorldSnapshotIdentity) (goal : Option GoalPtr)
    (bundle : Option (BundlePtr D F)) : Prop where
  paired : goal.isSome = bundle.isSome
  request : ∀ g b, goal = some g → bundle = some b → g.object.requestId = b.object.requestId
  valid : ∀ b, bundle = some b → b.object.valid = true
  world : ∀ b, bundle = some b → world = some b.object.worldIdentity

structure RepresentationInvariant [Floating D] (s : ExecutionAuthority D F) : Prop where
  stagedOverActive : s.staged.bundle.isSome → s.active.bundle.isSome
  active : SlotHeld s.worldIdentity s.active.goal s.active.bundle
  staged : SlotHeld s.worldIdentity s.staged.goal s.staged.bundle
  activation : ∀ b, s.staged.bundle = some b →
    s.staged.activationNs = b.object.validFromNs ∧ 0 < b.object.validFromNs ∧
      b.object.goalEpoch = s.admissionGoalEpoch
  noActivation : s.staged.bundle = none → s.staged.activationNs = 0

section Slots
variable [Floating D] {world : Option WorldSnapshotIdentity}

theorem SlotHeld.empty : SlotHeld (D := D) (F := F) world none none := by
  constructor <;> simp

theorem SlotHeld.record {goal : GoalPtr} {bundle : BundlePtr D F}
    (hRequest : goal.object.requestId = bundle.object.requestId)
    (hValid : bundle.object.valid = true) (hWorld : world = some bundle.object.worldIdentity) :
    SlotHeld world (some goal) (some bundle) := by
  refine ⟨rfl, ?_, ?_, ?_⟩
  · rintro _ _ ⟨⟩ ⟨⟩
    exact hRequest
  · rintro _ ⟨⟩
    exact hValid
  · rintro _ ⟨⟩
    exact hWorld

/-- What a recertified copy keeps of its source, and what it may change. -/
structure Recertifies (source copy : CandidateBundle D F) (next : WorldSnapshotIdentity)
    (refreshedUntilNs : Int) : Prop where
  valid : copy.valid = true
  same : copy = { source with worldIdentity := next, validUntilNs := copy.validUntilNs }
  lease : copy.validUntilNs = source.validUntilNs ∨ (source.validUntilNs < refreshedUntilNs ∧
      copy.validUntilNs = min refreshedUntilNs source.declaredEndNs)

variable {next : WorldSnapshotIdentity} {refreshedUntilNs : Int}

theorem recertify_some {source copy : CandidateBundle D F} (hSource : source.valid = true)
    (h : recertify source next refreshedUntilNs = some copy) :
    Recertifies source copy next refreshedUntilNs := by
  obtain ⟨hDeclared, hEndpoint⟩ := CandidateBundle.declared_endpoint hSource
  have hDeclared' : ({ source with worldIdentity := next } :
      CandidateBundle D F).hasDeclaredEndpointMetadata = true := hDeclared
  simp only [recertify, hDeclared', hEndpoint, if_true] at h
  rw [Option.filter_eq_some_iff] at h
  obtain ⟨hRenewed, hValid⟩ := h
  split at hRenewed
  · rename_i hLease
    split at hRenewed
    · cases hRenewed
    · cases hRenewed
      exact ⟨hValid, rfl, .inr ⟨hLease, rfl⟩⟩
  · cases hRenewed
    exact ⟨hValid, rfl, .inl rfl⟩

theorem prepare_some {address : Option Nat} {source copy : BundlePtr D F}
    (hSource : source.object.valid = true)
    (h : prepare address source next refreshedUntilNs = some copy) :
    Recertifies source.object copy.object next refreshedUntilNs := by
  obtain ⟨_, _, h⟩ := Option.bind_eq_some_iff.mp h
  obtain ⟨bundle, hBundle, rfl⟩ := Option.map_eq_some_iff.mp h
  exact recertify_some hSource hBundle

theorem SlotHeld.recertified {goal : Option GoalPtr} {source copy : BundlePtr D F}
    (hSlot : SlotHeld world goal (some source))
    (hCopy : Recertifies source.object copy.object next refreshedUntilNs) :
    SlotHeld (some next) goal (some copy) := by
  refine ⟨hSlot.paired, ?_, ?_, ?_⟩
  · rintro g _ hGoal ⟨⟩
    rw [hCopy.same]
    exact hSlot.request g source hGoal rfl
  · rintro _ ⟨⟩
    exact hCopy.valid
  · rintro _ ⟨⟩
    rw [hCopy.same]

end Slots

/-! ## The representation invariant -/

section Invariant
variable [Floating D] {s t : ExecutionAuthority D F} {op : Operation D F} {out : Outcome}

theorem RepresentationInvariant.ofEmptyStaged (hStaged : s.staged = {})
    (hActive : SlotHeld s.worldIdentity s.active.goal s.active.bundle) :
    RepresentationInvariant s := by
  refine ⟨?_, hActive, ?_, ?_, ?_⟩ <;> rw [hStaged]
  · simp
  · exact .empty
  · simp
  · simp

theorem initial_representation : RepresentationInvariant ({} : ExecutionAuthority D F) :=
  .ofEmptyStaged rfl .empty

theorem SlotHeld.ofCleared {world world' : Option WorldSnapshotIdentity} {active : ActiveRecord D F}
    {prior : ActiveRecord D F} (hPrior : SlotHeld world prior.goal prior.bundle)
    (hActive : active = {} ∨ (active = prior ∧ prior.bundle = none)) :
    SlotHeld world' active.goal active.bundle := by
  rcases hActive with rfl | ⟨rfl, hNone⟩
  · exact .empty
  · have hGoal : active.goal = none := by simpa [hNone] using hPrior.paired
    rw [hGoal, hNone]
    exact .empty

theorem effect_representation (hEffect : Effect s op out t) (hs : RepresentationInvariant s) :
    RepresentationInvariant t := by
  cases hEffect with
  | idle => exact hs
  | rolledBack => exact ⟨hs.1, hs.2, hs.3, hs.4, hs.5⟩
  | relabeled => exact ⟨hs.1, hs.2, hs.3, hs.4, hs.5⟩
  | rescoped => exact .ofEmptyStaged rfl hs.active
  | withdrawn _ _ _ _ active _ hActive => exact .ofEmptyStaged rfl (hs.active.ofCleared hActive)
  | committed _ hAdmitted =>
    exact .ofEmptyStaged rfl (.record hAdmitted.requestId hAdmitted.valid hAdmitted.world)
  | @staged _ token anchor goal candidate _ _ hAdmitted =>
    have hPos := CandidateBundle.validFromNs_pos hAdmitted.valid
    refine ⟨fun _ => hAdmitted.predecessor, hs.active,
      .record hAdmitted.requestId hAdmitted.valid hAdmitted.world, ?_,
      by simp [installStagedLocked, bumpTimeline]⟩
    rintro _ ⟨⟩
    exact ⟨hAdmitted.validFrom.symm, hPos, hAdmitted.goalEpoch⟩
  | dropped => exact .ofEmptyStaged rfl hs.active
  | activated _ hStaged =>
    refine .ofEmptyStaged rfl ?_
    rw [← hStaged]
    exact hs.staged
  | @recertified seen refresh _ _ active recertified staged hActive hRecertified hStaged =>
    have hSlot := hs.active
    rw [hActive] at hSlot
    have hCopy := prepare_some (hSlot.valid active rfl) hRecertified
    have hNewActive := hSlot.recertified hCopy
    rcases hStaged with rfl | ⟨pending, copy, hPending, hPendingCopy, rfl⟩
    · exact .ofEmptyStaged rfl hNewActive
    · have hPendingSlot := hs.staged
      rw [hPending] at hPendingSlot
      have hSame := prepare_some (hPendingSlot.valid pending rfl) hPendingCopy
      refine ⟨fun _ => rfl, hNewActive, hPendingSlot.recertified hSame, ?_, by simp⟩
      rintro _ ⟨⟩
      rw [hSame.same]
      exact hs.activation pending hPending
  | revoked => exact .ofEmptyStaged rfl .empty

variable [DecidableEq D] [DecidableEq F]

theorem step_representation (s : ExecutionAuthority D F) (op : Operation D F)
    (hs : RepresentationInvariant s) : RepresentationInvariant (step s op).1 :=
  effect_representation (step_effect s op) hs

theorem run_representation (ops : List (Operation D F)) :
    RepresentationInvariant (run step ({} : ExecutionAuthority D F) ops) :=
  run_invariant step_representation initial_representation ops

end Invariant

/-! ## A concrete flight

The fixture of the repository's own tests in exact arithmetic: one world, one
goal, and bundles that differ in generation and activation time.
-/

open FloatOps

abbrev Exact := ExactReal ℚ

inductive StraightFlight where
  | along
deriving DecidableEq

instance : Evaluator Exact StraightFlight where
  call _ stampNs point := some (true,
    { point with
      positionWorld := { point.positionWorld with x := ofInt stampNs }
      trajectoryTimeS := ofInt (stampNs - 1) * lit 1e-9 })

def flightWorld : WorldSnapshotIdentity := ⟨3, 4, 1, 1⟩

def flightGoal : GoalPtr := ⟨1, ⟨"mission", 0, 9⟩⟩

def flightBundle (generation : Nat) (fromNs : Int) : BundlePtr Exact StraightFlight :=
  ⟨generation,
    { pinnedWorldIdentity := flightWorld
      worldIdentity := flightWorld
      localizationEpoch := 3
      goalEpoch := 7
      requestId := 9
      bundleGeneration := generation
      validFromNs := fromNs
      validUntilNs := 100
      activationStampNs := fromNs
      role := .main
      startWallTimeS := lit 1e-9
      durationS := lit 399e-9
      declaredStartNs := 1
      declaredEndNs := 400
      backupStartTimeS := lit 0
      backupAvailable := false
      terminalStop := false
      kind := .terminalStop
      certificates := ⟨true, true, true, true⟩
      protectedRegion := ⟨Vec3.zero, ⟨lit 1, lit 1, lit 1⟩⟩
      roleSchedule := [⟨lit 0, lit 399e-9, .main⟩]
      quality := none
      routeBoundaryConstraint := none
      routeBoundaryEvent := none
      evaluator := some .along }⟩

def flightToken (transactionId : Nat) : CommitToken := ⟨flightWorld, 7, transactionId⟩

def takeoff : List (Operation Exact StraightFlight) :=
  [.publishWorldIdentity {} ⟨flightWorld, 0, none, false, 0, none, false, none, none⟩,
    .setAdmissionGoalEpoch 7 false,
    .tryCommit (flightToken 1) (some flightGoal) (some (flightBundle 27 1))]

def airborne : ExecutionAuthority Exact StraightFlight := run step {} takeoff

/-- The anchor which `reserveAnchor` returns over the committed bundle. -/
def flightAnchor : ExecutionAnchor Exact :=
  { activeBundleGeneration := 27
    executionLineageVersion := 1
    localizationEpoch := 3
    goalEpoch := 7
    requestId := 9
    requestStampNs := 50
    activationStampNs := 50
    state := { TrajectoryPoint.initial .main with
      positionWorld := ⟨lit 50, lit 0, lit 0⟩
      trajectoryTimeS := lit 49e-9 }
    activeRole := .main
    activeMainEndNs := 400
    activeBundleEndNs := 400
    commandWorld := flightWorld }

example : reserveAnchor airborne airborne 50 50 = some flightAnchor := by decide +kernel

/-- Stage the given generation at the reserved boundary and activate it there. -/
def handover (generation : Nat) : List (Operation Exact StraightFlight) :=
  let stage : Operation Exact StraightFlight :=
    .stagePending (flightToken 2) flightAnchor (some flightGoal) (some (flightBundle generation 50))
  [stage, .activatePendingIfDueAndFinalize 50 (step airborne stage).1.snapshot
    fun _ => .returned true]

/-! ## Generations

The commits compare the new generation with the active one. The staging calls
do not, so an activation may go back to an older generation.
-/

def StagedNotOlder (s : ExecutionAuthority D F) : Prop :=
  ∀ active staged, s.active.bundle = some active → s.staged.bundle = some staged →
    active.object.bundleGeneration ≤ staged.object.bundleGeneration

/-- A staging call passes every check with a candidate older than the active bundle. -/
def stagesOlder [Floating D] (s : ExecutionAuthority D F) (op : Operation D F) : Bool :=
  (s.admittedCandidate op).any fun candidate =>
    s.active.bundle.any fun active =>
      candidate.object.bundleGeneration < active.object.bundleGeneration

/-- The operation does not replace the active bundle by an older one. -/
def GenerationKept (before after : ExecutionAuthority D F) : Prop :=
  ∀ old new, before.active.bundle = some old → after.active.bundle = some new →
    old.object.bundleGeneration ≤ new.object.bundleGeneration

theorem StagedNotOlder.ofEmptyStaged {s : ExecutionAuthority D F} (hStaged : s.staged = {}) :
    StagedNotOlder s := by
  intro active staged _ hSome
  simp [hStaged] at hSome

theorem GenerationKept.ofSame {s t : ExecutionAuthority D F} (h : t.active = s.active) :
    GenerationKept s t := by
  intro old new hOld hNew
  rw [h, hOld] at hNew
  cases hNew
  exact Nat.le_refl _

section Generations
variable [Floating D] {s t : ExecutionAuthority D F} {op : Operation D F} {out : Outcome}

section
variable (hEffect : Effect s op out t) (hRep : RepresentationInvariant s) (hs : StagedNotOlder s)
include hEffect hRep hs

theorem effect_stagedNotOlder (hOlder : s.stagesOlder op = false) : StagedNotOlder t := by
  cases hEffect with
  | idle => exact hs
  | rolledBack => exact hs
  | relabeled => exact hs
  | rescoped => exact .ofEmptyStaged rfl
  | withdrawn => exact .ofEmptyStaged rfl
  | committed => exact .ofEmptyStaged rfl
  | @staged _ token anchor goal candidate _ hCandidate _ =>
    rintro active _ hActive ⟨⟩
    have hActive' : s.active.bundle = some active := hActive
    simpa [stagesOlder, hCandidate, hActive'] using hOlder
  | dropped => exact .ofEmptyStaged rfl
  | activated => exact .ofEmptyStaged rfl
  | @recertified seen refresh _ _ active recertified staged hActive hRecertified hStaged =>
    rcases hStaged with rfl | ⟨pending, copy, hPending, hPendingCopy, rfl⟩
    · exact .ofEmptyStaged rfl
    · have hActiveCopy := prepare_some (hRep.active.valid active hActive) hRecertified
      have hStagedCopy := prepare_some (hRep.staged.valid pending hPending) hPendingCopy
      rintro _ _ ⟨⟩ ⟨⟩
      rw [hActiveCopy.same, hStagedCopy.same]
      exact hs active pending hActive hPending
  | revoked => exact .ofEmptyStaged rfl

theorem effect_generation : GenerationKept s t := by
  cases hEffect with
  | idle => exact .ofSame rfl
  | rolledBack => exact .ofSame rfl
  | relabeled => exact .ofSame rfl
  | rescoped => exact .ofSame rfl
  | withdrawn _ _ _ _ active _ hActive =>
    rcases hActive with rfl | ⟨rfl, _⟩
    · rintro old new _ ⟨⟩
    · exact .ofSame rfl
  | committed _ hAdmitted =>
    rintro old _ hOld ⟨⟩
    exact hAdmitted.generation old hOld
  | staged => exact .ofSame rfl
  | dropped => exact .ofSame rfl
  | @activated _ _ successor _ _ hStaged =>
    rintro old _ hOld ⟨⟩
    exact hs old successor hOld hStaged
  | @recertified seen refresh _ _ active recertified staged hActive hRecertified =>
    have hCopy := prepare_some (hRep.active.valid active hActive) hRecertified
    rintro old _ hOld ⟨⟩
    rw [hActive] at hOld
    cases hOld
    rw [hCopy.same]
  | revoked => rintro old new _ ⟨⟩

end

variable [DecidableEq D] [DecidableEq F]

/-- A run whose staging calls never name an older candidate never goes back a generation. -/
theorem run_generation_kept (ops : List (Operation D F))
    (hOlder : ∀ e ∈ events step ({} : ExecutionAuthority D F) ops,
      e.before.stagesOlder e.op = false) :
    ∀ e ∈ events step ({} : ExecutionAuthority D F) ops, GenerationKept e.before e.after := by
  have hStep : ∀ (s : ExecutionAuthority D F) op,
      RepresentationInvariant s ∧ StagedNotOlder s → s.stagesOlder op = false →
        RepresentationInvariant (step s op).1 ∧ StagedNotOlder (step s op).1 := by
    intro s op ⟨hRep, hNotOlder⟩ hGuard
    constructor
    · exact step_representation s op hRep
    · exact effect_stagedNotOlder (step_effect s op) hRep hNotOlder hGuard
  intro e he
  obtain ⟨⟨hRep, hNotOlder⟩, _, hEvent⟩ :=
    events_guarded (Q := fun e => e.before.stagesOlder e.op = false) hStep
      ⟨initial_representation, .ofEmptyStaged rfl⟩ hOlder he
  rw [hEvent]
  exact effect_generation (step_effect e.before e.op) hRep hNotOlder

end Generations

/-- The guard is met by a real handover, from generation 27 to generation 28. -/
theorem newer_handover_kept :
    (∀ e ∈ events step {} (takeoff ++ handover 28), e.before.stagesOlder e.op = false) ∧
      (run step {} (takeoff ++ handover 28)).activeGeneration = 28 ∧
      ∀ e ∈ events step {} (takeoff ++ handover 28), GenerationKept e.before e.after := by
  have hGuard : ∀ e ∈ events step {} (takeoff ++ handover 28),
      e.before.stagesOlder e.op = false := by decide +kernel
  exact ⟨hGuard, by decide +kernel, run_generation_kept _ hGuard⟩

/-- Generation 27 is active, generation 26 passes every staging check and replaces it. -/
theorem older_handover_replaces : ¬ ∀ ops : List (Operation Exact StraightFlight),
      ∀ e ∈ events step {} ops, GenerationKept e.before e.after := by
  intro hAll
  have hKept := hAll (takeoff ++ handover 26)
    ((events step {} (takeoff ++ handover 26)).getLast (by decide +kernel)) (List.getLast_mem _)
  have hOlder : (27 : Nat) ≤ 26 :=
    hKept (flightBundle 27 1) (flightBundle 26 50) (by decide +kernel) (by decide +kernel)
  exact absurd hOlder (by decide)

/-! ## The lifecycle of the command -/

section Moves
variable {s : ExecutionAuthority D F}

section
variable (lifecycle : ExecutionLifecycleState)

@[simp] theorem withdrawnLifecycle_failed_iff :
    (withdrawnLifecycle lifecycle).exposure = .failed ↔ lifecycle.exposure = .failed := by
  unfold withdrawnLifecycle
  split
  · rename_i hAvailable
    simp [hAvailable]
  · rfl

@[simp] theorem withdrawnLifecycle_recovery :
    (withdrawnLifecycle lifecycle).recovery = lifecycle.recovery := by
  unfold withdrawnLifecycle
  split <;> rfl

theorem withdrawnLifecycle_commandless_iff :
    (withdrawnLifecycle lifecycle).commandless ↔ lifecycle.claimsMotion = false := by
  rw [ExecutionLifecycleState.commandless_iff]
  unfold withdrawnLifecycle
  split
  · constructor
    · intro h
      exact h.2
    · intro h
      exact ⟨by simp, h⟩
  · rename_i hWithdrawn
    constructor
    · intro h
      exact h.2
    · intro h
      exact ⟨hWithdrawn, h⟩

end

theorem active_of_match {bundle : CandidateBundle D F}
    (h : s.activeBundleIdentityMatchesLocked bundle = true) : s.active.bundle ≠ none := by
  intro hNone
  simp [activeBundleIdentityMatchesLocked, hNone] at h

theorem committedLifecycle_recovery (s : ExecutionAuthority D F) (bundle : CandidateBundle D F)
    (previousGeneration : Nat) :
    (s.committedLifecycle bundle previousGeneration).recovery = s.lifecycle.recovery ∨
      ∃ event, event ≠ .certifiedStopObserved ∧ event ≠ .emergencyCertificationFailed ∧
        (s.committedLifecycle bundle previousGeneration).recovery =
          transitionExecutionRecovery s.lifecycle.recovery event := by
  unfold committedLifecycle
  split
  · exact .inl rfl
  · refine .inr ⟨_, ?_, ?_, rfl⟩
    all_goals
      split
      · decide
      · split <;> decide

end Moves

/-! ## The fail-closed latch -/

theorem publishIfCurrent_shown [DecidableEq D] [DecidableEq F] {s : ExecutionAuthority D F}
    {expected : Option (BundlePtr D F)} {goalEpoch : Nat}
    {expose : ExecutionLifecycleState → Callback} {shown : ExecutionLifecycleState}
    (h : (s.publishIfCurrent expected goalEpoch expose).1 = some shown) :
    ∃ bundle, expected = some bundle ∧ s.active.bundle = some bundle ∧
      bundle.object.goalEpoch = goalEpoch ∧ s.lifecycle.exposure = .available ∧
      s.worldIdentity = some bundle.object.worldIdentity := by
  revert h
  fun_cases publishIfCurrent
  all_goals intro h
  case case2 expected' active hActive hGuard =>
    simp only [Bool.or_eq_true, decide_eq_true_eq, Bool.not_eq_true', not_or,
      Bool.not_eq_false, ne_eq, Decidable.not_not, worldIs_iff] at hGuard
    obtain ⟨⟨⟨rfl, hAvailable⟩, hEpoch⟩, hWorld⟩ := hGuard
    exact ⟨active, rfl, hActive, hEpoch, hAvailable, hWorld⟩
  all_goals cases h

section Latch
variable [Floating D] {s t : ExecutionAuthority D F} {op : Operation D F} {out : Outcome}

theorem effect_failed (hEffect : Effect s op out t) (hFailed : s.lifecycle.exposure = .failed)
    (hReset : resetsLifecycle s op out = false) : t.lifecycle.exposure = .failed := by
  cases hEffect with
  | idle => exact hFailed
  | rolledBack => exact hFailed
  | relabeled _ hMove =>
    cases hMove with
    | failClosed => rfl
    | suspended hNotFailed => exact absurd hFailed hNotFailed
    | restartCleared => exact hFailed
    | observed _ _ hNotFailed => exact absurd hFailed hNotFailed
  | rescoped => exact hFailed
  | withdrawn _ _ _ _ _ _ _ _ hLifecycle =>
    rcases hLifecycle with ⟨_, hIsReset⟩ | ⟨rfl, _⟩
    · simp [hReset] at hIsReset
    · simpa using hFailed
  | committed _ hAdmitted => exact absurd hFailed hAdmitted.notFailed
  | staged => exact hFailed
  | dropped => exact hFailed
  | activated _ _ _ hNotFailed => exact absurd hFailed hNotFailed
  | recertified => exact hFailed
  | revoked =>
    cases hActive : s.active.bundle with
    | none => simp [retireActiveLocked, hActive, hFailed]
    | some bundle => simp [retireActiveLocked, hActive, failClosedLifecycle]

theorem effect_failed_quiet (hEffect : Effect s op out t)
    (hFailed : s.lifecycle.exposure = .failed) : Quiet op out := by
  cases hEffect with
  | idle hQuiet => exact hQuiet
  | rolledBack hOut =>
    rcases hOut with rfl | rfl <;> exact ⟨rfl, by cases op <;> rfl⟩
  | relabeled hQuiet => exact hQuiet
  | rescoped hQuiet => exact hQuiet
  | withdrawn hQuiet => exact hQuiet
  | committed _ hAdmitted => exact absurd hFailed hAdmitted.notFailed
  | staged _ _ hAdmitted => exact absurd hFailed hAdmitted.notFailed
  | dropped hQuiet => exact hQuiet
  | activated _ _ _ hNotFailed => exact absurd hFailed hNotFailed
  | recertified hQuiet => exact ⟨hQuiet, rfl⟩
  | revoked hQuiet => exact ⟨hQuiet, rfl⟩

variable [DecidableEq D] [DecidableEq F]

theorem step_exposure {shown : Option ExecutionLifecycleState} {result : Bool}
    (h : (step s op).2 = .exposure shown result) :
    ∃ expected goalEpoch expose, op = .publishIfCurrent expected goalEpoch expose ∧
      (s.publishIfCurrent expected goalEpoch expose).1 = shown := by
  cases op with
  | publishIfCurrent expected goalEpoch expose =>
    simp only [step, Outcome.exposure.injEq] at h
    exact ⟨expected, goalEpoch, expose, rfl, h.1⟩
  | _ => simp [step, Prod.map] at h

/-- Once failed, the exposure stays failed until the lifecycle is reset; until then
nothing is committed, staged, activated or exposed. An exposure callback only ever
sees the active bundle of the current goal epoch and world while it is available. -/
theorem failed_is_latched : (∀ ops more : List (Operation D F),
      (run step ({} : ExecutionAuthority D F) ops).lifecycle.exposure = .failed →
      (∀ e ∈ events step (run step ({} : ExecutionAuthority D F) ops) more,
        resetsLifecycle e.before e.op e.result = false) →
      (run step ({} : ExecutionAuthority D F) (ops ++ more)).lifecycle.exposure = .failed) ∧
    (∀ ops : List (Operation D F), ∀ e ∈ events step ({} : ExecutionAuthority D F) ops,
      e.before.lifecycle.exposure = .failed →
        e.result.accepts = false ∧ activates e.op e.result = false ∧
          ∀ shown result, e.result = .exposure shown result → shown = none) ∧
    (∀ (s : ExecutionAuthority D F) expected goalEpoch expose shown result,
      (step s (.publishIfCurrent expected goalEpoch expose)).2 = .exposure (some shown) result →
        ∃ bundle, expected = some bundle ∧ s.active.bundle = some bundle ∧
          bundle.object.goalEpoch = goalEpoch ∧ s.lifecycle.exposure = .available ∧
          s.worldIdentity = some bundle.object.worldIdentity) := by
  refine ⟨?_, ?_, ?_⟩
  · intro ops more hFailed hNoReset
    rw [run_append]
    apply run_guarded (P := fun s => s.lifecycle.exposure = .failed) _ hFailed hNoReset
    intro s op hs hGuard
    exact effect_failed (step_effect s op) hs hGuard
  · intro ops e he hFailed
    obtain ⟨xs, op, _, _, rfl⟩ := exists_split_of_mem_events he
    obtain ⟨hAccepts, hActivates⟩ := effect_failed_quiet (step_effect (run step {} xs) op) hFailed
    refine ⟨hAccepts, hActivates, ?_⟩
    intro shown result hShown
    obtain ⟨expected, goalEpoch, expose, _, rfl⟩ := step_exposure hShown
    cases hInvoked : ((run step {} xs).publishIfCurrent expected goalEpoch expose).1 with
    | none => rfl
    | some lifecycle =>
      -- the callback saw an available exposure, so the authority had not failed
      obtain ⟨_, _, _, _, hAvailable, _⟩ := publishIfCurrent_shown hInvoked
      have hBoth : ExecutionExposure.available = .failed := hAvailable.symm.trans hFailed
      cases hBoth
  · intro s expected goalEpoch expose shown result hShown
    simp only [step, Outcome.exposure.injEq] at hShown
    exact publishIfCurrent_shown hShown.1

end Latch

/-- A newer candidate offered after the failure changes nothing. -/
theorem failClosed_latched_in_flight : airborne.lifecycle.exposure = .available ∧
      (run step {} ((takeoff ++ [.failClosed]) ++
        [.tryCommit (flightToken 2) (some flightGoal) (some (flightBundle 28 1)),
          .suspendCommand])).lifecycle.exposure = .failed := by
  refine ⟨by decide +kernel, ?_⟩
  exact failed_is_latched.1 _ _ (by decide +kernel) (by decide +kernel)

/-! ## The recovery facet -/

/-- Every way in which an operation may move the recovery facet. -/
inductive RecoveryMove (s : ExecutionAuthority D F) (op : Operation D F) (out : Outcome) :
    ExecutionRecoveryState → Prop where
  | kept : RecoveryMove s op out s.lifecycle.recovery
  | failedClosed (hOp : op = .failClosed ∨ ∃ expected, op = .failClosedIfCurrentSnapshot expected) :
      RecoveryMove s op out .px4Hold
  | revoked {seen : ExecutionAuthority D F} {refresh : WorldRefresh D F}
      (hOp : op = .publishWorldIdentity seen refresh) (hActive : s.active.bundle.isSome) :
      RecoveryMove s op out .px4Hold
  | reset (hReset : resetsLifecycle s op out = true) : RecoveryMove s op out .initialHold
  | observed {event : ExecutionRecoveryEvent} {bundle : CandidateBundle D F}
      (hEvent : op.recoveryEvent = some (event, bundle))
      (hMatch : s.activeBundleIdentityMatchesLocked bundle = true) :
      RecoveryMove s op out (transitionExecutionRecovery s.lifecycle.recovery event)
  | commanded {event : ExecutionRecoveryEvent} (hStop : event ≠ .certifiedStopObserved)
      (hFailure : event ≠ .emergencyCertificationFailed) :
      RecoveryMove s op out (transitionExecutionRecovery s.lifecycle.recovery event)

section Recovery
variable {s t : ExecutionAuthority D F} {op : Operation D F} {out : Outcome}

theorem RecoveryMove.ofCommitted {recovery : ExecutionRecoveryState}
    (h : recovery = s.lifecycle.recovery ∨
      ∃ event, event ≠ .certifiedStopObserved ∧ event ≠ .emergencyCertificationFailed ∧
        recovery = transitionExecutionRecovery s.lifecycle.recovery event) :
    RecoveryMove s op out recovery := by
  rcases h with rfl | ⟨event, hStop, hFailure, rfl⟩
  · exact .kept
  · exact .commanded hStop hFailure

theorem effect_recovery [Floating D] (hEffect : Effect s op out t) :
    RecoveryMove s op out t.lifecycle.recovery := by
  cases hEffect with
  | idle => exact .kept
  | rolledBack => exact .kept
  | relabeled _ hMove =>
    cases hMove with
    | failClosed hOp => exact .failedClosed hOp
    | suspended => exact .kept
    | restartCleared => exact .kept
    | observed bundle hMatch _ _ hRecovery =>
      rcases hRecovery with hKept | ⟨event, hEvent, hNext⟩
      · exact hKept ▸ .kept
      · exact hNext ▸ .observed hEvent hMatch
  | rescoped => exact .kept
  | withdrawn _ _ _ _ _ _ _ _ hLifecycle =>
    rcases hLifecycle with ⟨rfl, hReset⟩ | ⟨rfl, _⟩
    · exact .reset hReset
    · rw [withdrawnLifecycle_recovery]
      exact .kept
  | @committed _ token goal candidate =>
    exact .ofCommitted (committedLifecycle_recovery
      { s with active := ⟨some goal, some candidate⟩ } candidate.object s.activeGeneration)
  | staged => exact .kept
  | dropped => exact .kept
  | @activated _ _ successor =>
    exact .ofCommitted (committedLifecycle_recovery
      { s with active := ⟨s.staged.goal, some successor⟩ } successor.object s.activeGeneration)
  | recertified => exact .kept
  | revoked =>
    cases hActive : s.active.bundle with
    | none =>
      have hKept : (retireActiveLocked s).lifecycle = s.lifecycle := by
        simp [retireActiveLocked, hActive]
      exact hKept ▸ .kept
    | some bundle =>
      have hHold : (retireActiveLocked s).lifecycle = failClosedLifecycle := by
        simp [retireActiveLocked, hActive]
      exact hHold ▸ .revoked rfl (by simp [hActive])

/-- A stop observation, or a failed certification, is always reported by `applyRecoveryEvent`. -/
theorem recoveryEvent_applied {event : ExecutionRecoveryEvent} {bundle : CandidateBundle D F}
    (hEvent : op.recoveryEvent = some (event, bundle))
    (hKind : event = .certifiedStopObserved ∨ event = .emergencyCertificationFailed) :
    op = .applyRecoveryEvent event bundle := by
  cases op with
  | applyRecoveryEvent event' bundle' =>
    cases hEvent
    rfl
  | observeSampledSafetyRole bundle' role =>
    simp only [Operation.recoveryEvent, Option.some.injEq, Prod.mk.injEq] at hEvent
    rcases hKind with rfl | rfl <;> split at hEvent <;> simp at hEvent
  | _ => simp [Operation.recoveryEvent] at hEvent

inductive BrakingExit (s : ExecutionAuthority D F) (op : Operation D F) (out : Outcome) :
    ExecutionRecoveryState → Prop where
  | certifiedStop (bundle : CandidateBundle D F)
      (hOp : op = .applyRecoveryEvent .certifiedStopObserved bundle)
      (hMatch : s.activeBundleIdentityMatchesLocked bundle = true) :
      BrakingExit s op out .stoppedRecovery
  | failedClosed (hOp : op = .failClosed ∨ ∃ expected, op = .failClosedIfCurrentSnapshot expected) :
      BrakingExit s op out .px4Hold
  | certificationFailed (bundle : CandidateBundle D F)
      (hOp : op = .applyRecoveryEvent .emergencyCertificationFailed bundle)
      (hMatch : s.activeBundleIdentityMatchesLocked bundle = true) :
      BrakingExit s op out .px4Hold
  | worldRevoked {seen : ExecutionAuthority D F} {refresh : WorldRefresh D F}
      (hOp : op = .publishWorldIdentity seen refresh) (hActive : s.active.bundle.isSome) :
      BrakingExit s op out .px4Hold
  | reset (hReset : resetsLifecycle s op out = true) : BrakingExit s op out .initialHold

variable {next : ExecutionRecoveryState}

theorem RecoveryMove.braking (hMove : RecoveryMove s op out next)
    (hBraking : s.lifecycle.recovery.braking) :
    next = s.lifecycle.recovery ∨ BrakingExit s op out next := by
  cases hMove with
  | kept => exact .inl rfl
  | failedClosed hOp => exact .inr (.failedClosed hOp)
  | revoked hOp hActive => exact .inr (.worldRevoked hOp hActive)
  | reset hReset => exact .inr (.reset hReset)
  | @observed event bundle hEvent hMatch =>
    rcases transition_braking hBraking event with ⟨rfl, hNext⟩ | ⟨rfl, hNext⟩ | hKept
    · rw [hNext]
      exact .inr (.certifiedStop bundle (recoveryEvent_applied hEvent (.inl rfl)) hMatch)
    · rw [hNext]
      exact .inr (.certificationFailed bundle (recoveryEvent_applied hEvent (.inr rfl)) hMatch)
    · exact .inl hKept
  | @commanded event hStop hFailure =>
    rcases transition_braking hBraking event with ⟨hEvent, _⟩ | ⟨hEvent, _⟩ | hKept
    · exact absurd hEvent hStop
    · exact absurd hEvent hFailure
    · exact .inl hKept

theorem RecoveryMove.px4Hold (hMove : RecoveryMove s op out next)
    (hHold : s.lifecycle.recovery = .px4Hold) :
    next = .px4Hold ∨ (next = .initialHold ∧ resetsLifecycle s op out = true) := by
  cases hMove with
  | kept => exact .inl hHold
  | failedClosed => exact .inl rfl
  | revoked => exact .inl rfl
  | reset hReset => exact .inr ⟨rfl, hReset⟩
  | observed => exact .inl (by rw [hHold, transition_px4Hold])
  | commanded => exact .inl (by rw [hHold, transition_px4Hold])

variable [Floating D] [DecidableEq D] [DecidableEq F]

/-- The operation names the active bundle in a certified stop, or resets the lifecycle. -/
def endsBraking (s : ExecutionAuthority D F) (op : Operation D F) (out : Outcome) : Prop :=
  (∃ bundle, op = .applyRecoveryEvent .certifiedStopObserved bundle ∧
    s.activeBundleIdentityMatchesLocked bundle = true) ∨ resetsLifecycle s op out = true

theorem step_held {s : ExecutionAuthority D F} {op : Operation D F}
    (hHeld : s.lifecycle.recovery.braking ∨ s.lifecycle.recovery = .px4Hold)
    (hGuard : ¬ endsBraking s op (step s op).2) :
    (step s op).1.lifecycle.recovery.braking ∨ (step s op).1.lifecycle.recovery = .px4Hold := by
  have hMove := effect_recovery (step_effect s op)
  rcases hHeld with hBraking | hHold
  · rcases hMove.braking hBraking with hKept | hExit
    · exact .inl (hKept ▸ hBraking)
    · generalize (step s op).1.lifecycle.recovery = next at hExit
      cases hExit with
      | certifiedStop bundle hOp hMatch => exact absurd (.inl ⟨bundle, hOp, hMatch⟩) hGuard
      | failedClosed => exact .inr rfl
      | certificationFailed => exact .inr rfl
      | worldRevoked => exact .inr rfl
      | reset hReset => exact absurd (.inr hReset) hGuard
  · rcases hMove.px4Hold hHold with hKept | ⟨_, hReset⟩
    · exact .inr hKept
    · exact absurd (.inr hReset) hGuard

/-- A braking recovery state ends in a certified stop, a hold or a lifecycle reset,
a hold ends in a lifecycle reset, and without the first and the last of these no
continuation of a run tracks the main trajectory again. -/
theorem braking_is_one_way :
    (∀ ops : List (Operation D F), ∀ e ∈ events step ({} : ExecutionAuthority D F) ops,
      e.before.lifecycle.recovery.braking →
        e.after.lifecycle.recovery = e.before.lifecycle.recovery ∨
          BrakingExit e.before e.op e.result e.after.lifecycle.recovery) ∧
    (∀ ops : List (Operation D F), ∀ e ∈ events step ({} : ExecutionAuthority D F) ops,
      e.before.lifecycle.recovery = .px4Hold → e.after.lifecycle.recovery = .px4Hold ∨
          (e.after.lifecycle.recovery = .initialHold ∧
            resetsLifecycle e.before e.op e.result = true)) ∧
    (∀ ops more : List (Operation D F),
      (run step ({} : ExecutionAuthority D F) ops).lifecycle.recovery.braking →
      (∀ e ∈ events step (run step ({} : ExecutionAuthority D F) ops) more,
        ¬ endsBraking e.before e.op e.result) →
      (run step ({} : ExecutionAuthority D F) (ops ++ more)).lifecycle.recovery ≠ .trackMain) := by
  refine ⟨?_, ?_, ?_⟩
  · intro ops e he hBraking
    obtain ⟨xs, op, _, _, rfl⟩ := exists_split_of_mem_events he
    exact (effect_recovery (step_effect _ op)).braking hBraking
  · intro ops e he hHold
    obtain ⟨xs, op, _, _, rfl⟩ := exists_split_of_mem_events he
    exact (effect_recovery (step_effect _ op)).px4Hold hHold
  · intro ops more hBraking hGuard
    rw [run_append]
    have hHeld := run_guarded (P := fun s : ExecutionAuthority D F =>
        s.lifecycle.recovery.braking ∨ s.lifecycle.recovery = .px4Hold)
      (fun s op hs hOp => step_held hs hOp) (.inl hBraking) hGuard
    rcases hHeld with (hNext | hNext) | hNext <;> rw [hNext] <;> decide

end Recovery

/-- A newer main commit after a sampled backup role does not end the braking. -/
theorem late_commit_stays_braking : (run step {} (takeoff ++
        [.observeSampledSafetyRole (flightBundle 27 1).object .backup])).lifecycle.recovery =
      .trackBackup ∧
    (run step {} ((takeoff ++ [.observeSampledSafetyRole (flightBundle 27 1).object .backup]) ++
        [.tryCommit (flightToken 2) (some flightGoal)
          (some (flightBundle 28 1))])).lifecycle.recovery ≠ .trackMain := by
  have hBackup : (run step {} (takeoff ++
      [.observeSampledSafetyRole (flightBundle 27 1).object .backup])).lifecycle.recovery =
        .trackBackup := by decide +kernel
  refine ⟨hBackup, braking_is_one_way.2.2 _ _ (.inl hBackup) ?_⟩
  intro e he
  obtain rfl := List.mem_singleton.mp he
  rintro (⟨_, hOp, _⟩ | hReset)
  · cases hOp
  · cases hReset

def CommandlessLaw (s : ExecutionAuthority D F) : Prop :=
  s.active.bundle = none → s.lifecycle.commandless

/-- `invalidateIfCurrent` passes its check while a facet other than the exposure
claims the command it revokes. -/
def strandsLifecycle [DecidableEq D] [DecidableEq F] (s : ExecutionAuthority D F) :
    Operation D F → Bool
  | .invalidateIfCurrent expected =>
    s.timelineVersion == expected.version && s.active.bundle == expected.active &&
      s.lifecycle.claimsMotion
  | _ => false

section Commandless
variable {s t : ExecutionAuthority D F} {op : Operation D F} {out : Outcome}

theorem CommandlessLaw.ofActive {bundle : BundlePtr D F} (h : s.active.bundle = some bundle) :
    CommandlessLaw s := by
  intro hNone
  rw [h] at hNone
  cases hNone

theorem LifecycleMove.commandless {lifecycle : ExecutionLifecycleState}
    (hMove : LifecycleMove s op lifecycle) (hNone : s.active.bundle = none)
    (hs : s.lifecycle.commandless) : lifecycle.commandless := by
  cases hMove with
  | failClosed => decide
  | suspended => exact ⟨by simp, hs.2⟩
  | restartCleared => exact ⟨hs.1, hs.2.1, hs.2.2.1, rfl⟩
  | observed _ hMatch => exact absurd hNone (active_of_match hMatch)

variable [Floating D] [DecidableEq D] [DecidableEq F]

theorem effect_commandless (hEffect : Effect s op out t) (hs : CommandlessLaw s)
    (hStrands : s.strandsLifecycle op = false) : CommandlessLaw t := by
  cases hEffect with
  | idle => exact hs
  | rolledBack => exact hs
  | relabeled _ hMove =>
    intro hNone
    exact hMove.commandless hNone (hs hNone)
  | rescoped => exact hs
  | withdrawn _ _ _ _ _ _ _ _ hLifecycle =>
    intro _
    rcases hLifecycle with ⟨rfl, _⟩ | ⟨rfl, expected, rfl, hVersion, hActive⟩
    · exact ExecutionLifecycleState.initial_commandless
    · rw [withdrawnLifecycle_commandless_iff]
      simpa [strandsLifecycle, hVersion, hActive] using hStrands
  | committed => exact .ofActive rfl
  | staged => exact hs
  | dropped => exact hs
  | activated => exact .ofActive rfl
  | recertified => exact .ofActive rfl
  | revoked =>
    intro _
    cases hActive : s.active.bundle with
    | none => simpa [retireActiveLocked, hActive] using hs hActive
    | some bundle =>
      have hHold : (retireActiveLocked s).lifecycle = failClosedLifecycle := by
        simp [retireActiveLocked, hActive]
      rw [show ExecutionAuthority.lifecycle _ = _ from hHold]
      decide

theorem stranded_not_commandless (hStrands : s.strandsLifecycle op = true) :
    ¬ CommandlessLaw (step s op).1 := by
  cases op with
  | invalidateIfCurrent expected =>
    simp only [strandsLifecycle, Bool.and_eq_true, beq_iff_eq] at hStrands
    obtain ⟨⟨hVersion, hActive⟩, hClaims⟩ := hStrands
    intro hLaw
    have hState : (step s (.invalidateIfCurrent expected)).1 =
        s.clearActiveLocked.bumpLineage.clearStagedLocked.bumpTimeline := by
      simp [step, invalidateIfCurrent, hVersion, hActive]
    rw [hState] at hLaw
    have hWithdrawn : (withdrawnLifecycle s.lifecycle).commandless := hLaw rfl
    rw [withdrawnLifecycle_commandless_iff, hClaims] at hWithdrawn
    cases hWithdrawn
  | _ => simp [strandsLifecycle] at hStrands

/-- Every state of a run obeys the law exactly when no step strands the lifecycle. -/
theorem run_commandless_iff (ops : List (Operation D F)) :
    (∀ e ∈ events step ({} : ExecutionAuthority D F) ops, CommandlessLaw e.after) ↔
      ∀ e ∈ events step ({} : ExecutionAuthority D F) ops,
        e.before.strandsLifecycle e.op = false := by
  constructor
  · intro hLaw e he
    have hAfter := hLaw e he
    obtain ⟨xs, op, _, _, rfl⟩ := exists_split_of_mem_events he
    cases hStrands : (run step {} xs).strandsLifecycle op with
    | false => exact hStrands
    | true => exact absurd hAfter (stranded_not_commandless hStrands)
  · intro hGuard
    have hStart : CommandlessLaw ({} : ExecutionAuthority D F) := by
      intro _
      exact ExecutionLifecycleState.initial_commandless
    have hStep : ∀ (s : ExecutionAuthority D F) op, CommandlessLaw s →
        s.strandsLifecycle op = false → CommandlessLaw (step s op).1 := by
      intro s op hs hOp
      exact effect_commandless (step_effect s op) hs hOp
    intro e he
    obtain ⟨hBefore, hOp, hEvent⟩ := events_guarded
      (Q := fun e => e.before.strandsLifecycle e.op = false) hStep hStart hGuard he
    rw [hEvent]
    exact effect_commandless (step_effect e.before e.op) hBefore hOp

end Commandless

/-- Revoking the exact command in flight leaves a state that still tracks it. -/
theorem invalidateIfCurrent_strands :
    ¬ ∀ ops : List (Operation Exact StraightFlight), CommandlessLaw (run step {} ops) := by
  intro hLaw
  have hCommandless := hLaw (takeoff ++ [.invalidateIfCurrent airborne.snapshot])
    (by decide +kernel)
  exact absurd hCommandless (by decide +kernel)

end UavNavigation.ExecutionAuthority
