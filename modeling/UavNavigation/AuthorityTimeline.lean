import UavNavigation.AuthorityInvariant

/-!
# The timeline version and the transaction watermark

Every operation that changes the state advances the timeline version by one or
by two, so on a stretch of a run where the counter has not wrapped the version
names the state. Refused transactions change nothing but that counter, and
accepted ones carry ever larger ids.
-/

namespace UavNavigation.ExecutionAuthority

set_option autoImplicit false

open Runs

variable {D F : Type}

/-! ## The version names the state -/

def Operation.expectedVersion : Operation D F → Option Nat
  | .failClosedIfCurrentSnapshot expected => some expected.version
  | .suspendIfCurrentSnapshot expected => some expected.version
  | .invalidateIfCurrent expected => some expected.version
  | .tryCommitIfCurrent _ predecessor _ _ _ => some predecessor.version
  | .publishWorldIdentity _ refresh => some refresh.expectedTimelineVersion
  | .activatePendingIfDueAndFinalize _ expected _ => some expected.version
  | _ => none

section Version
variable [Floating D] {s t : ExecutionAuthority D F} {op : Operation D F} {out : Outcome}

theorem effect_timeline (hEffect : Effect s op out t) :
    t = s ∨ t.timelineVersion = next64 s.timelineVersion ∨
      t.timelineVersion = next64 (next64 s.timelineVersion) := by
  cases hEffect with
  | idle => exact .inl rfl
  | rolledBack => exact .inr (.inr rfl)
  | dropped _ version hVersion => exact .inr hVersion
  | _ => exact .inr (.inl rfl)

theorem effect_timeline_lt (hEffect : Effect s op out t)
    (hNoWrap : s.timelineVersion ≤ t.timelineVersion) :
    t = s ∨ s.timelineVersion < t.timelineVersion := by
  rcases effect_timeline hEffect with hSame | hNext | hNext
  · exact .inl hSame
  · have hMoved := next64_ne s.timelineVersion
    exact .inr (by omega)
  · have hMoved := next64_next64_ne s.timelineVersion
    exact .inr (by omega)

variable [DecidableEq D] [DecidableEq F]

theorem state_of_timeline_eq {ops : List (Operation D F)}
    (hNoWrap : ∀ e ∈ events step s ops, e.before.timelineVersion ≤ e.after.timelineVersion)
    (hEqual : (run step s ops).timelineVersion = s.timelineVersion) : run step s ops = s := by
  have hRel : s = run step s ops :=
    rel_of_counter_eq (c := timelineVersion) (P := fun _ => True)
      (E := fun s t : ExecutionAuthority D F => s = t) (fun _ _ => rfl) Eq.trans
      (fun _ _ _ => trivial)
      (fun s op _ hFixed => by
        rcases effect_timeline_lt (step_effect s op) hFixed.ge with hSame | hLess
        · exact hSame.symm
        · omega)
      trivial hNoWrap hEqual
  exact hRel.symm

/-- A stale version token has no effect. Activation also clears a pending bundle
without an active one before it looks at the version, a state that is never reached. -/
theorem step_stale (hRep : RepresentationInvariant s) {version : Nat}
    (hToken : op.expectedVersion = some version) (hStale : s.timelineVersion ≠ version) :
    (step s op).1 = s := by
  cases op with
  | failClosedIfCurrentSnapshot expected =>
    cases hToken
    simp [step, failClosedIfCurrentSnapshot, isCurrentSnapshot, hStale]
  | suspendIfCurrentSnapshot expected =>
    cases hToken
    simp [step, suspendIfCurrentSnapshot, hStale]
  | invalidateIfCurrent expected =>
    cases hToken
    simp [step, invalidateIfCurrent, hStale]
  | tryCommitIfCurrent token predecessor goal candidate admission =>
    cases hToken
    simp only [step, Prod.map, tryCommitIfCurrent, id]
    split
    · rfl
    · simp [hStale]
  | publishWorldIdentity seen refresh =>
    cases hToken
    simp only [step, Prod.map, publishWorldIdentityIfCurrentAndFinalizeRevocation, id]
    split
    · rfl
    split
    · rfl
    split
    · rfl
    · simp [hStale]
  | activatePendingIfDueAndFinalize nowNs expected finalize =>
    cases hToken
    have hOwned : (s.staged.bundle.isSome && s.active.bundle.isNone) = false := by
      cases hStaged : s.staged.bundle.isSome with
      | false => rfl
      | true => simp [hRep.stagedOverActive hStaged]
    simp only [step, Prod.map, activatePendingIfDueAndFinalize, hOwned, Bool.false_eq_true,
      if_false, id]
    split
    · rfl
    split
    · rfl
    · split <;> simp [hStale]
  | _ => simp [Operation.expectedVersion] at hToken

/-- On a stretch of a run where the version has not wrapped, every step keeps the
whole state or raises the version, equal versions mean equal states, and an operation
whose token was read at the start of the stretch only acts if nothing changed since. -/
theorem timeline_names_state (ops more : List (Operation D F))
    (hNoWrap : ∀ e ∈ events step (run step ({} : ExecutionAuthority D F) ops) more,
      e.before.timelineVersion ≤ e.after.timelineVersion) :
    (∀ e ∈ events step (run step ({} : ExecutionAuthority D F) ops) more,
      e.after = e.before ∨ e.before.timelineVersion < e.after.timelineVersion) ∧
    ((run step ({} : ExecutionAuthority D F) (ops ++ more)).timelineVersion =
        (run step ({} : ExecutionAuthority D F) ops).timelineVersion →
      run step ({} : ExecutionAuthority D F) (ops ++ more) = run step {} ops) ∧
    (∀ op : Operation D F,
      op.expectedVersion = some (run step ({} : ExecutionAuthority D F) ops).timelineVersion →
      (step (run step {} (ops ++ more)) op).1 ≠ run step {} (ops ++ more) →
      run step ({} : ExecutionAuthority D F) (ops ++ more) = run step {} ops) := by
  have hNamed : (run step ({} : ExecutionAuthority D F) (ops ++ more)).timelineVersion =
        (run step ({} : ExecutionAuthority D F) ops).timelineVersion →
      run step ({} : ExecutionAuthority D F) (ops ++ more) = run step {} ops := by
    rw [run_append]
    exact state_of_timeline_eq hNoWrap
  refine ⟨?_, hNamed, ?_⟩
  · intro e he
    have hStep := hNoWrap e he
    obtain ⟨xs, op, _, _, rfl⟩ := exists_split_of_mem_events he
    exact effect_timeline_lt (step_effect _ op) hStep
  · intro op hToken hActs
    apply hNamed
    by_contra hStale
    have hRep := run_invariant step_representation initial_representation (ops ++ more)
    exact hActs (step_stale hRep hToken hStale)

end Version

/-- A snapshot taken before a suspension can no longer revoke the command. -/
theorem suspended_snapshot_is_stale : (∀ e ∈ events step (run step {} takeoff) [.suspendCommand],
      e.before.timelineVersion ≤ e.after.timelineVersion) ∧
    (step (run step {} (takeoff ++ [.suspendCommand]))
      (.invalidateIfCurrent airborne.snapshot)).1 = run step {} (takeoff ++ [.suspendCommand]) := by
  have hNoWrap : ∀ e ∈ events step (run step {} takeoff) [.suspendCommand],
      e.before.timelineVersion ≤ e.after.timelineVersion := by decide +kernel
  refine ⟨hNoWrap, ?_⟩
  by_contra hActs
  have hSame := (timeline_names_state takeoff [.suspendCommand] hNoWrap).2.2
    (.invalidateIfCurrent airborne.snapshot) rfl hActs
  exact absurd hSame (by decide +kernel)

section Refusal
variable [Floating D] [DecidableEq D] [DecidableEq F] {s : ExecutionAuthority D F}
  {op : Operation D F}

/-- A refused commit or staging leaves everything but the version, and that too unless
its finalizer had already run. -/
theorem step_refused {token : CommitToken} (hToken : op.token = some token)
    (hRefused : (step s op).2.accepts = false) :
    (step s op).1 = s ∨
      (((step s op).2 = .commit .finalizationFailed ∨ (step s op).2 = .stage .finalizationFailed) ∧
        (step s op).1 = { s with timelineVersion := next64 (next64 s.timelineVersion) }) := by
  cases op with
  | tryCommit token' goal candidate =>
    simp only [step, Prod.map, tryCommit, id] at hRefused ⊢
    split at hRefused
    · exact .inl rfl
    · cases hRefused
  | tryCommitIfCurrent token' predecessor goal candidate admission =>
    simp only [step, Prod.map, tryCommitIfCurrent, id] at hRefused ⊢
    split at hRefused
    · exact .inl rfl
    split at hRefused
    · rename_i hStale
      rw [if_pos hStale]
      exact .inl rfl
    split at hRefused
    · rename_i hCurrent hRejected
      rw [if_neg hCurrent, if_pos hRejected]
      exact .inl rfl
    · cases hRefused
  | tryCommitAndFinalize token' goal candidate finalize =>
    simp only [step, Prod.map, tryCommitAndFinalize, id] at hRefused ⊢
    split at hRefused
    · exact .inl rfl
    split at hRefused
    · rename_i hFailed
      rw [if_pos hFailed]
      exact .inr ⟨.inl rfl, rfl⟩
    · cases hRefused
  | stagePending token' anchor goal candidate =>
    simp only [step, Prod.map, stagePending, id] at hRefused ⊢
    split at hRefused
    · exact .inl rfl
    · cases hRefused
  | stagePendingAndFinalize token' anchor goal candidate finalize =>
    simp only [step, Prod.map, stagePendingAndFinalize, id] at hRefused ⊢
    split at hRefused
    · exact .inl rfl
    split at hRefused
    · rename_i hFailed
      rw [if_pos hFailed]
      exact .inr ⟨.inr rfl, rfl⟩
    · cases hRefused
  | _ => simp [Operation.token] at hToken

theorem activation_refused (s : ExecutionAuthority D F) (nowNs : Int)
    (expected : ExecutionAuthoritySnapshot D F) (finalize : Nat → Callback) :
    (s.activatePendingIfDueAndFinalize nowNs expected finalize).2 = true ∨
      ∃ staged version, (staged = s.staged ∨ staged = {}) ∧
        (s.activatePendingIfDueAndFinalize nowNs expected finalize).1 =
          { s with staged := staged, timelineVersion := version } := by
  have hKept : ∃ staged version, (staged = s.staged ∨ staged = {}) ∧
      s = { s with staged := staged, timelineVersion := version } := ⟨_, _, .inl rfl, rfl⟩
  unfold activatePendingIfDueAndFinalize
  split
  · exact .inr hKept
  split
  · exact .inr ⟨{}, _, .inr rfl, rfl⟩
  split
  · exact .inr hKept
  split
  · exact .inr hKept
  split
  · exact .inr hKept
  split
  · exact .inr hKept
  split
  · exact .inr ⟨{}, _, .inr rfl, rfl⟩
  simp only [enforceInvariantLocked_clearStagedLocked]
  split
  · exact .inr ⟨{}, _, .inr rfl, rfl⟩
  · exact .inl rfl

end Refusal

def acceptedId (e : Event (ExecutionAuthority D F) (Operation D F) Outcome) : Option Nat :=
  if e.result.accepts then e.op.token.map (·.transactionId) else none

section Watermark
variable [Floating D] {s t : ExecutionAuthority D F} {op : Operation D F} {out : Outcome}

theorem effect_watermark (hEffect : Effect s op out t) :
    (out.accepts = false ∧ t.lastTransactionId = s.lastTransactionId) ∨
      ∃ token, op.token = some token ∧ s.lastTransactionId < token.transactionId ∧
        t.lastTransactionId = token.transactionId := by
  cases hEffect with
  | idle hQuiet => exact .inl ⟨hQuiet.1, rfl⟩
  | rolledBack hOut =>
    rcases hOut with rfl | rfl <;> exact .inl ⟨rfl, rfl⟩
  | relabeled hQuiet => exact .inl ⟨hQuiet.1, rfl⟩
  | rescoped hQuiet => exact .inl ⟨hQuiet.1, rfl⟩
  | withdrawn hQuiet => exact .inl ⟨hQuiet.1, rfl⟩
  | committed hToken hAdmitted => exact .inr ⟨_, hToken, hAdmitted.fresh, rfl⟩
  | staged hToken _ hAdmitted => exact .inr ⟨_, hToken, hAdmitted.fresh, rfl⟩
  | dropped hQuiet => exact .inl ⟨hQuiet.1, rfl⟩
  | activated hOut => exact .inl ⟨hOut, rfl⟩
  | recertified hQuiet => exact .inl ⟨hQuiet, rfl⟩
  | revoked hQuiet => exact .inl ⟨hQuiet, rfl⟩

variable [DecidableEq D] [DecidableEq F]

theorem accepted_increasing (ops : List (Operation D F)) :
    (emitted acceptedId (events step ({} : ExecutionAuthority D F) ops)).Pairwise (· < ·) := by
  refine (emitted_increasing (P := fun _ => True) (Q := fun _ => True)
    (m := lastTransactionId) (fun _ _ _ _ => trivial) ?_ ?_ trivial fun _ _ => trivial).1
  · intro s op _ _
    rcases effect_watermark (step_effect s op) with ⟨_, hKept⟩ | ⟨_, _, hFresh, hMark⟩
    · exact hKept.ge
    · omega
  · intro s op v _ _ hAccepted
    rcases effect_watermark (step_effect s op) with ⟨hRefused, _⟩ | ⟨token, hToken, hFresh, hMark⟩
    · simp [acceptedId, hRefused] at hAccepted
    · simp only [acceptedId, eventAt_op, hToken, Option.map_some] at hAccepted
      split at hAccepted
      · cases hAccepted
        exact ⟨hFresh, hMark.ge⟩
      · cases hAccepted

/-- A refused transaction leaves every field but the version, and that only moves when a
finalizer was rolled back; a refused activation can at most clear the staged slot; and
the ids of the accepted transactions of a run increase. -/
theorem transactions_are_atomic :
    (∀ (s : ExecutionAuthority D F) (op : Operation D F) (token : CommitToken),
      op.token = some token → (step s op).2.accepts = false → (step s op).1 = s ∨
          (((step s op).2 = .commit .finalizationFailed ∨
              (step s op).2 = .stage .finalizationFailed) ∧
            (step s op).1 = { s with timelineVersion := next64 (next64 s.timelineVersion) })) ∧
    (∀ (s : ExecutionAuthority D F) nowNs expected finalize,
      (step s (.activatePendingIfDueAndFinalize nowNs expected finalize)).2 = .answered false →
        ∃ staged version, (staged = s.staged ∨ staged = {}) ∧
          (step s (.activatePendingIfDueAndFinalize nowNs expected finalize)).1 =
            { s with staged := staged, timelineVersion := version }) ∧
    (∀ ops : List (Operation D F),
      (emitted acceptedId (events step ({} : ExecutionAuthority D F) ops)).Pairwise (· < ·)) := by
  refine ⟨?_, ?_, accepted_increasing⟩
  · intro s op token hToken hRefused
    exact step_refused hToken hRefused
  · intro s nowNs expected finalize hAnswer
    simp only [step, Prod.map, Outcome.answered.injEq] at hAnswer
    rcases activation_refused s nowNs expected finalize with hSucceeded | hDropped
    · rw [hAnswer] at hSucceeded
      cases hSucceeded
    · exact hDropped

end Watermark

/-- A commit, a rolled-back staging and its repetition take the ids 1 and 2. -/
example : emitted acceptedId (events step {} (takeoff ++
    [.stagePendingAndFinalize (flightToken 2) flightAnchor (some flightGoal)
        (some (flightBundle 28 50)) .threw,
      .stagePendingAndFinalize (flightToken 2) flightAnchor (some flightGoal)
        (some (flightBundle 28 50)) (.returned true)])) = [1, 2] := by decide +kernel

/-! ## The lineage of the active command -/

/-- The later bundle is the earlier one up to its world and its lease, and the lease
was renewed at most up to the declared end. -/
structure SameBundle (earlier later : CandidateBundle D F) : Prop where
  same : later =
    { earlier with worldIdentity := later.worldIdentity, validUntilNs := later.validUntilNs }
  lease : later.validUntilNs ≤ max earlier.validUntilNs earlier.declaredEndNs

inductive SameCommand (s t : ExecutionAuthority D F) : Prop where
  | none (hEarlier : s.active.bundle = none) (hLater : t.active.bundle = none)
  | some {earlier later : BundlePtr D F} (hEarlier : s.active.bundle = some earlier)
      (hLater : t.active.bundle = some later) (hGoal : t.active.goal = s.active.goal)
      (hBundle : SameBundle earlier.object later.object)

section Relation
variable {s t u : ExecutionAuthority D F}

theorem SameBundle.refl (bundle : CandidateBundle D F) : SameBundle bundle bundle :=
  ⟨rfl, Int.le_max_left _ _⟩

theorem SameBundle.trans {first second third : CandidateBundle D F}
    (h : SameBundle first second) (h' : SameBundle second third) : SameBundle first third := by
  have hEnd : second.declaredEndNs = first.declaredEndNs := by rw [h.same]
  constructor
  · rw [h'.same, h.same]
  · have hFirst := h.lease
    have hSecond := h'.lease
    omega

theorem SameCommand.ofSame (h : t.active = s.active) : SameCommand s t := by
  cases hActive : s.active.bundle with
  | none => exact .none hActive (h ▸ hActive)
  | some bundle => exact .some hActive (h ▸ hActive) (by rw [h]) (.refl bundle.object)

theorem SameCommand.trans (h : SameCommand s t) (h' : SameCommand t u) : SameCommand s u := by
  cases h with
  | none hEarlier hMiddle =>
    cases h' with
    | none _ hLater => exact .none hEarlier hLater
    | some hMiddle' => cases hMiddle.symm.trans hMiddle'
  | some hEarlier hMiddle hGoal hBundle =>
    cases h' with
    | none hMiddle' => cases hMiddle.symm.trans hMiddle'
    | some hMiddle' hLater hGoal' hBundle' =>
      cases hMiddle.symm.trans hMiddle'
      exact .some hEarlier hLater (hGoal'.trans hGoal) (hBundle.trans hBundle')

end Relation

section Lineage
variable [Floating D] {s t : ExecutionAuthority D F} {op : Operation D F} {out : Outcome}

theorem Recertifies.sameBundle {source copy : CandidateBundle D F} {next : WorldSnapshotIdentity}
    {refreshedUntilNs : Int} (h : Recertifies source copy next refreshedUntilNs) :
    SameBundle source copy := by
  have hWorld : copy.worldIdentity = next := by rw [h.same]
  constructor
  · rw [hWorld]
    exact h.same
  · rcases h.lease with hKept | ⟨_, hRenewed⟩ <;> omega

theorem effect_sameCommand (hEffect : Effect s op out t) (hRep : RepresentationInvariant s)
    (hLineage : t.activeLineageVersion = s.activeLineageVersion) : SameCommand s t := by
  have hMoved := next64_ne s.activeLineageVersion
  cases hEffect with
  | idle => exact .ofSame rfl
  | rolledBack => exact .ofSame rfl
  | relabeled => exact .ofSame rfl
  | rescoped => exact .ofSame rfl
  | withdrawn _ _ _ lineage active _ hActive hVersion =>
    rcases hVersion with rfl | ⟨rfl, hNone⟩
    · exact absurd hLineage hMoved
    · rcases hActive with rfl | ⟨rfl, _⟩
      · exact .none hNone rfl
      · exact .ofSame rfl
  | committed => exact absurd hLineage hMoved
  | staged => exact .ofSame rfl
  | dropped => exact .ofSame rfl
  | activated => exact absurd hLineage hMoved
  | @recertified seen refresh _ _ active recertified staged hActive hRecertified =>
    have hCopy := prepare_some (hRep.active.valid active hActive) hRecertified
    exact .some hActive rfl rfl hCopy.sameBundle
  | revoked =>
    cases hActive : s.active.bundle with
    | none => exact .none hActive rfl
    | some bundle =>
      have hBumped : s.retireActiveLocked.activeLineageVersion = next64 s.activeLineageVersion := by
        simp [retireActiveLocked, bumpLineageIfActive, hActive]
      exact absurd (hBumped.symm.trans hLineage) hMoved

theorem effect_lineage_moves (hEffect : Effect s op out t)
    (hTaken : out = .commit .committed ∨ activates op out = true) :
    t.activeLineageVersion ≠ s.activeLineageVersion := by
  have hMoved := next64_ne s.activeLineageVersion
  have hNotQuiet : ¬ Quiet op out := by
    rintro ⟨hAccepts, hActivates⟩
    rcases hTaken with rfl | hTaken
    · cases hAccepts
    · rw [hTaken] at hActivates
      cases hActivates
  cases hEffect with
  | idle hQuiet => exact absurd hQuiet hNotQuiet
  | rolledBack hOut =>
    rcases hOut with rfl | rfl <;> rcases hTaken with hTaken | hTaken <;>
      cases op <;> simp [activates] at hTaken
  | relabeled hQuiet => exact absurd hQuiet hNotQuiet
  | rescoped hQuiet => exact absurd hQuiet hNotQuiet
  | withdrawn hQuiet => exact absurd hQuiet hNotQuiet
  | committed => exact hMoved
  | staged =>
    rcases hTaken with hTaken | hTaken
    · cases hTaken
    · cases op <;> simp [activates] at hTaken
  | dropped hQuiet => exact absurd hQuiet hNotQuiet
  | activated => exact hMoved
  | recertified hQuiet => exact absurd ⟨hQuiet, rfl⟩ hNotQuiet
  | revoked hQuiet => exact absurd ⟨hQuiet, rfl⟩ hNotQuiet

end Lineage

/-! ## Reservations -/

def Operation.anchor : Operation D F → Option (ExecutionAnchor D)
  | .stagePending _ anchor _ _ => some anchor
  | .stagePendingAndFinalize _ anchor _ _ _ => some anchor
  | _ => none

section Reservation
variable [Floating D] [DecidableEq D] [DecidableEq F] {s t : ExecutionAuthority D F}
  {op : Operation D F} {anchor : ExecutionAnchor D}

theorem reserveAnchor_lineage [Evaluator D F] {seen : ExecutionAuthority D F}
    {requestStampNs activationStampNs : Int}
    (h : reserveAnchor seen s requestStampNs activationStampNs = some anchor) :
    anchor.executionLineageVersion = seen.activeLineageVersion := by
  unfold reserveAnchor at h
  split at h
  · cases h
  split at h
  · split at h
    · cases h
    dsimp only at h
    split at h
    · split_ifs at h
      cases h
      rfl
    · cases h
  · cases h

theorem step_staged_lineage (hAnchor : op.anchor = some anchor)
    (hStaged : (step s op).2 = .stage .staged) :
    s.activeLineageVersion = anchor.executionLineageVersion := by
  have hRefused {decision : StageDecision} {token : CommitToken} {goal : Option GoalPtr}
      {candidate : Option (BundlePtr D F)}
      (hError : s.admitStage token anchor goal candidate = .error decision)
      (hDecision : decision = .staged) : False := by
    have hAccepts := admitStage_error hError
    rw [hDecision] at hAccepts
    cases hAccepts
  cases op with
  | stagePending token anchor' goal candidate =>
    cases hAnchor
    simp only [step, Prod.map, stagePending, Outcome.stage.injEq] at hStaged
    split at hStaged
    · rename_i decision hError
      exact (hRefused hError hStaged).elim
    · rename_i hAdmit
      exact (admitStage_ok hAdmit).lineage
  | stagePendingAndFinalize token anchor' goal candidate finalize =>
    cases hAnchor
    simp only [step, Prod.map, stagePendingAndFinalize, Outcome.stage.injEq] at hStaged
    split at hStaged
    · rename_i decision hError
      exact (hRefused hError hStaged).elim
    · rename_i hAdmit
      exact (admitStage_ok hAdmit).lineage
  | _ => simp [Operation.anchor] at hAnchor

theorem run_sameCommand (hRep : RepresentationInvariant s) {ops : List (Operation D F)}
    (hNoWrap : ∀ e ∈ events step s ops, e.before.activeLineageVersion ≤ e.after.activeLineageVersion)
    (hEqual : (run step s ops).activeLineageVersion = s.activeLineageVersion) :
    SameCommand s (run step s ops) :=
  rel_of_counter_eq (c := activeLineageVersion) (fun _ _ => .ofSame rfl) .trans step_representation
    (fun s op hRep hFixed => effect_sameCommand (step_effect s op) hRep hFixed)
    hRep hNoWrap hEqual

/-- On a stretch of a run where the lineage has not wrapped, equal lineages at both
ends mean one command. So between the first look of a reservation and a staging that
accepts its anchor nothing was committed, activated or revoked. -/
theorem lineage_names_command [Evaluator D F] (ops more : List (Operation D F))
    (hNoWrap : ∀ e ∈ events step (run step ({} : ExecutionAuthority D F) ops) more,
      e.before.activeLineageVersion ≤ e.after.activeLineageVersion) :
    ((run step ({} : ExecutionAuthority D F) (ops ++ more)).activeLineageVersion =
        (run step ({} : ExecutionAuthority D F) ops).activeLineageVersion →
      SameCommand (run step ({} : ExecutionAuthority D F) ops) (run step {} (ops ++ more))) ∧
    (∀ reserved later requestStampNs activationStampNs anchor op, more = reserved ++ later →
      reserveAnchor (run step ({} : ExecutionAuthority D F) ops)
          (run step {} (ops ++ reserved)) requestStampNs activationStampNs = some anchor →
      op.anchor = some anchor →
      (step (run step ({} : ExecutionAuthority D F) (ops ++ more)) op).2 = .stage .staged →
      ∀ e ∈ events step (run step ({} : ExecutionAuthority D F) ops) more,
        e.result ≠ .commit .committed ∧ activates e.op e.result = false ∧
          SameCommand e.before e.after) := by
  have hRep := run_invariant step_representation (initial_representation (D := D) (F := F)) ops
  constructor
  · intro hEqual
    rw [run_append] at hEqual ⊢
    exact run_sameCommand hRep hNoWrap hEqual
  · intro reserved later requestStampNs activationStampNs anchor op _ hReserved hAnchor hStaged
    have hStart := reserveAnchor_lineage hReserved
    have hEnd := step_staged_lineage hAnchor hStaged
    rw [run_append] at hEnd
    have hFixed := counter_fixed (c := activeLineageVersion) hNoWrap (hEnd.trans hStart)
    intro e he
    have hStay := hFixed e he
    obtain ⟨hBefore, hEvent⟩ := events_invariant step_representation hRep he
    rw [hEvent] at hStay ⊢
    have hEffect := step_effect e.before e.op
    refine ⟨?_, ?_, effect_sameCommand hEffect hBefore hStay⟩
    · intro hCommitted
      exact effect_lineage_moves hEffect (.inl hCommitted) hStay
    · cases hActivates : activates e.op (step e.before e.op).2 with
      | false => exact hActivates
      | true => exact absurd hStay (effect_lineage_moves hEffect (.inr hActivates))

end Reservation

/-- The next world recertifies the bundle in flight and renews its lease. -/
def recertification : Operation Exact StraightFlight :=
  .publishWorldIdentity airborne
    ⟨⟨3, 4, 2, 2⟩, 3, some (flightBundle 27 1), true, 500, none, false, some 99, none⟩

/-- The renewed lease ends at the declared end, and the command is still the same. -/
theorem recertified_in_flight : (∀ e ∈ events step (run step {} takeoff) [recertification],
      e.before.activeLineageVersion ≤ e.after.activeLineageVersion) ∧
    (run step {} (takeoff ++ [recertification])).active.bundle.map (·.object.validUntilNs) =
      some 400 ∧
    SameCommand (run step {} takeoff) (run step {} (takeoff ++ [recertification])) := by
  have hNoWrap : ∀ e ∈ events step (run step {} takeoff) [recertification],
      e.before.activeLineageVersion ≤ e.after.activeLineageVersion := by decide +kernel
  exact ⟨hNoWrap, by decide +kernel,
    (lineage_names_command takeoff [recertification] hNoWrap).1 (by decide +kernel)⟩

section Wrap
variable [DecidableEq D] [DecidableEq F] [Floating D]

def revocations (s : ExecutionAuthority D F) : Nat → List (Operation D F)
  | 0 => []
  | n + 1 => .invalidateIfCurrent s.snapshot ::
      revocations (step s (.invalidateIfCurrent s.snapshot)).1 n

variable (s : ExecutionAuthority D F) (n : Nat)

theorem step_revocation : (step s (.invalidateIfCurrent s.snapshot)).1 =
      s.clearActiveLocked.bumpLineage.clearStagedLocked.bumpTimeline := by
  simp [step, invalidateIfCurrent, snapshot]

theorem run_revocations_lineage : (run step s (revocations s (n + 1))).activeLineageVersion =
      (s.activeLineageVersion + (n + 1)) % 2 ^ 64 := by
  induction n generalizing s with
  | zero =>
    simp only [revocations, run_cons, run_nil, step_revocation]
    rfl
  | succ n ih =>
    have hRest := ih (step s (.invalidateIfCurrent s.snapshot)).1
    have hLineage : (step s (.invalidateIfCurrent s.snapshot)).1.activeLineageVersion =
        (s.activeLineageVersion + 1) % 2 ^ 64 := by
      rw [step_revocation]
      rfl
    rw [revocations, run_cons, hRest]
    omega

theorem run_revocations_active : (run step s (revocations s (n + 1))).active.bundle = none := by
  induction n generalizing s with
  | zero =>
    simp only [revocations, run_cons, run_nil, step_revocation]
    rfl
  | succ n ih => exact ih _

end Wrap

/-- Without the assumption on the counter the law fails: after `2 ^ 64` revocations of
the command in flight the lineage is the same and the command is gone. -/
theorem wrapped_lineage_forgets : ¬ ∀ ops more : List (Operation Exact StraightFlight),
      (run step {} (ops ++ more)).activeLineageVersion = (run step {} ops).activeLineageVersion →
        SameCommand (run step {} ops) (run step {} (ops ++ more)) := by
  intro hLaw
  have hFlight : run step {} takeoff = airborne := rfl
  have hLineage : airborne.activeLineageVersion = 1 := by decide +kernel
  have hActive : airborne.active.bundle = some (flightBundle 27 1) := by decide +kernel
  have hTurn := run_revocations_lineage airborne (2 ^ 64 - 1)
  have hSame := hLaw takeoff (revocations airborne (2 ^ 64 - 1 + 1)) (by
    rw [run_append, hFlight, hTurn, hLineage]
    decide)
  rw [run_append, hFlight] at hSame
  cases hSame with
  | none hEarlier =>
    rw [hActive] at hEarlier
    cases hEarlier
  | some _ hLater =>
    rw [run_revocations_active] at hLater
    cases hLater

end UavNavigation.ExecutionAuthority
