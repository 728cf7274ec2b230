import UavNavigation.AuthorityInvariant
import UavNavigation.MappingActor

/-!
# World store and execution authority

`navigation_mapping/world_snapshot_store.hpp`, and the system of one store, one
execution authority and their client threads. A publication holds the store's
gate from `enter` to `leave`; inside, its finalizer is the world publication of
the authority, whose two critical sections are separate steps. All other
authority operations may come at any point.

Views are values of an arbitrary type `V` with an identity.
-/

namespace UavNavigation

set_option autoImplicit false

class WorldModelView (V : Type) where
  identity : V → WorldSnapshotIdentity

structure WorldSnapshotStore (V : Type) where
  latest : Option V := none

inductive Finalized where
  | decided (decision : WorldCommitDecision)
  | answered (value : Bool)
  | threw
deriving DecidableEq

namespace WorldSnapshotStore
variable {V : Type} [WorldModelView V]

def strictlyAdvances (current next : WorldSnapshotIdentity) : Bool :=
  if next.localizationEpoch ≠ current.localizationEpoch then
    current.localizationEpoch < next.localizationEpoch
  else if next.generation ≠ current.generation then current.generation < next.generation
  else current.revision < next.revision && current.observationStampNs ≤ next.observationStampNs

def latestIdentity (s : WorldSnapshotStore V) : Option WorldSnapshotIdentity :=
  s.latest.map WorldModelView.identity

def admitsNext (s : WorldSnapshotStore V) (next : WorldSnapshotIdentity) : Bool :=
  !(next.localizationEpoch == 0 || next.generation == 0 || next.observationStampNs < 0) &&
    s.latestIdentity.all fun current => strictlyAdvances current next

/-- `publish`; `none` is an exception. -/
def publish (s : WorldSnapshotStore V) (next : Option V) : Option (WorldSnapshotStore V) :=
  next.bind fun next =>
    if s.admitsNext (WorldModelView.identity next) then some ⟨some next⟩ else none

def conclude (s : WorldSnapshotStore V) (next : V) :
    Finalized → WorldSnapshotStore V × WorldCommitDecision
  | .decided .committed => (⟨some next⟩, .committed)
  | .decided decision => (s, decision)
  | .answered true => (⟨some next⟩, .committed)
  | .answered false => (s, .cancelled)
  | .threw => (s, .cancelled)

/-- `publishAndFinalizeDecision`; `none` is an exception. -/
def publishAndFinalizeDecision (s : WorldSnapshotStore V) (next : Option V)
    (finalize : Finalized) : Option (WorldSnapshotStore V × WorldCommitDecision) :=
  next.bind fun next =>
    if s.admitsNext (WorldModelView.identity next) then some (s.conclude next finalize) else none

omit [WorldModelView V] in
theorem conclude_kept (s : WorldSnapshotStore V) (next : V) {finalize : Finalized}
    (h : (s.conclude next finalize).2 ≠ .committed) : (s.conclude next finalize).1 = s := by
  cases finalize with
  | decided decision => cases decision <;> first | rfl | exact absurd rfl h
  | answered value => cases value <;> first | rfl | exact absurd rfl h
  | threw => rfl

/-- Strictly later in epoch, generation and revision, and not earlier in time within
one generation. -/
def Later (current next : WorldSnapshotIdentity) : Prop :=
  (current.localizationEpoch < next.localizationEpoch ∨
    (current.localizationEpoch = next.localizationEpoch ∧ (current.generation < next.generation ∨
        (current.generation = next.generation ∧ current.revision < next.revision)))) ∧
  (current.localizationEpoch = next.localizationEpoch → current.generation = next.generation →
    current.observationStampNs ≤ next.observationStampNs)

theorem strictlyAdvances_iff (current next : WorldSnapshotIdentity) :
    strictlyAdvances current next = true ↔ Later current next := by
  unfold strictlyAdvances Later
  by_cases hEpoch : next.localizationEpoch = current.localizationEpoch
  · by_cases hGeneration : next.generation = current.generation
    · simp [hEpoch, hGeneration]
    · simp [hEpoch, hGeneration]
      omega
  · simp [hEpoch]
    omega

theorem Later.trans {a b c : WorldSnapshotIdentity} (hab : Later a b) (hbc : Later b c) :
    Later a c := by
  unfold Later at *
  omega

end WorldSnapshotStore

open ExecutionAuthority Runs WorldSnapshotStore

/-- Where the publication that holds the gate stands. -/
inductive GatePhase (D F V : Type) where
  | entered (next : V) (refresh : WorldRefresh D F)
  | observed (next : V) (refresh : WorldRefresh D F) (seen : ExecutionAuthority D F)
  | finalized (next : V) (decision : WorldCommitDecision)

structure WorldSystem (D F V : Type) where
  store : WorldSnapshotStore V
  authority : ExecutionAuthority D F
  gate : Option (GatePhase D F V) := none

namespace WorldSystem
variable {D F V : Type}

/-- `authority` is any operation of the authority but a world publication, which
only the gate makes. -/
inductive Operation (D F V : Type) where
  | authority (op : ExecutionAuthority.Operation D F)
  | enter (next : V) (refresh : WorldRefresh D F)
  | observe
  | finalize
  | leave

inductive Outcome where
  | blocked
  | threw
  | done
  | authority (outcome : ExecutionAuthority.Outcome)
  | left (decision : WorldCommitDecision) (shown : Option WorldSnapshotIdentity)
deriving DecidableEq

def publishesWorld : ExecutionAuthority.Operation D F → Bool
  | .publishWorldIdentity _ _ => true
  | _ => false

section Step
variable [Floating D] [DecidableEq D] [DecidableEq F] [WorldModelView V]

def step (s : WorldSystem D F V) : Operation D F V → WorldSystem D F V × Outcome
  | .authority op =>
    if publishesWorld op then (s, .blocked)
    else
      ({ s with authority := (ExecutionAuthority.step s.authority op).1 },
        .authority (ExecutionAuthority.step s.authority op).2)
  | .enter next refresh =>
    match s.gate with
    | some _ => (s, .blocked)
    | none =>
      if s.store.admitsNext (WorldModelView.identity next) then
        ({ s with
            gate := some (.entered next { refresh with identity := WorldModelView.identity next }) },
          .done)
      else (s, .threw)
  | .observe =>
    match s.gate with
    | some (.entered next refresh) =>
      ({ s with gate := some (.observed next refresh s.authority) }, .done)
    | _ => (s, .blocked)
  | .finalize =>
    match s.gate with
    | some (.observed next refresh seen) =>
      let result := publishWorldIdentityIfCurrentAndFinalizeRevocation seen s.authority refresh
      ({ s with authority := result.1, gate := some (.finalized next result.2.1) }, .done)
    | _ => (s, .blocked)
  | .leave =>
    match s.gate with
    | some (.finalized next decision) =>
      let result := s.store.conclude next (.decided decision)
      ({ s with store := result.1, gate := none },
        .left result.2 (if result.2 = .committed then some (WorldModelView.identity next) else none))
    | _ => (s, .blocked)

end Step

section Agreement
variable [WorldModelView V]

/-- After an optional first `publish`, with a fresh authority. -/
def initial (first : Option V) : WorldSystem D F V :=
  { store := (publish {} first).getD {}, authority := {} }

/-! ## Agreement -/

def Agrees (s : WorldSystem D F V) : Prop :=
  s.authority.worldIdentity = none ∨ s.authority.worldIdentity = s.store.latestIdentity

def Advances (s : WorldSystem D F V) (next : V) : Prop :=
  ∀ current ∈ s.store.latestIdentity, Later current (WorldModelView.identity next)

/-- What holds at each point of a publication. Between a committed finalizer and the
store's own update the authority is one world ahead. -/
def GateInvariant (s : WorldSystem D F V) : Prop :=
  match s.gate with
  | none => Agrees s
  | some (.entered next refresh) =>
    Agrees s ∧ Advances s next ∧ refresh.identity = WorldModelView.identity next
  | some (.observed next refresh _) =>
    Agrees s ∧ Advances s next ∧ refresh.identity = WorldModelView.identity next
  | some (.finalized next decision) => Advances s next ∧
    if decision = .committed then s.authority.worldIdentity = some (WorldModelView.identity next)
    else Agrees s

theorem admitsNext_later {s : WorldSystem D F V} {next : V}
    (h : s.store.admitsNext (WorldModelView.identity next) = true) : Advances s next := by
  intro current hCurrent
  simp only [admitsNext, Bool.and_eq_true] at h
  have hAll := h.2
  rw [Option.mem_def] at hCurrent
  rw [hCurrent, Option.all_some] at hAll
  exact (strictlyAdvances_iff _ _).mp hAll

theorem initial_gateInvariant (first : Option V) :
    GateInvariant (initial first : WorldSystem D F V) := .inl rfl

end Agreement

theorem retireActiveLocked_world (s : ExecutionAuthority D F) :
    s.retireActiveLocked.worldIdentity = s.worldIdentity := by
  unfold retireActiveLocked bumpLineageIfActive
  split <;> rfl

section Publication
variable [Floating D] [DecidableEq D] [DecidableEq F]

theorem publication_world (seen s : ExecutionAuthority D F) (refresh : WorldRefresh D F) :
    let result := publishWorldIdentityIfCurrentAndFinalizeRevocation seen s refresh
    if result.2.1 = .committed then result.1.worldIdentity = some refresh.identity
    else result.1.worldIdentity = s.worldIdentity := by
  intro result
  simp only [result, publishWorldIdentityIfCurrentAndFinalizeRevocation]
  split
  · simp
  · split
    · simp
    · split
      · simp
      · split
        · simp
        · split
          · simp
          · unfold publishPrepared
            simp only
            split
            · simp [clearStagedLocked, bumpTimeline, retireActiveLocked_world]
            · simp [bumpTimeline]

theorem authority_world (s : ExecutionAuthority D F) {op : ExecutionAuthority.Operation D F}
    (hOp : publishesWorld op = false) :
    (ExecutionAuthority.step s op).1.worldIdentity = s.worldIdentity := by
  have hEffect := step_effect s op
  generalize (ExecutionAuthority.step s op).1 = t at hEffect ⊢
  generalize (ExecutionAuthority.step s op).2 = out at hEffect
  cases hEffect with
  | recertified => cases hOp
  | revoked => cases hOp
  | _ => rfl

variable [WorldModelView V]

section
variable (s : WorldSystem D F V) (op : Operation D F V)

theorem step_gateInvariant (hs : GateInvariant s) : GateInvariant (s.step op).1 := by
  cases op with
  | authority op =>
    simp only [step]
    split
    · exact hs
    · rename_i hOp
      have hWorld := authority_world s.authority (by simpa using hOp)
      unfold GateInvariant Agrees at hs ⊢
      simp only [hWorld]
      exact hs
  | enter next refresh =>
    cases hGate : s.gate with
    | some phase =>
      simp only [step, hGate]
      exact hs
    | none =>
      simp only [step, hGate]
      split
      · rename_i hAdmits
        unfold GateInvariant at hs ⊢
        rw [hGate] at hs
        exact ⟨hs, admitsNext_later hAdmits, rfl⟩
      · exact hs
  | observe =>
    cases hGate : s.gate with
    | none =>
      simp only [step, hGate]
      exact hs
    | some phase =>
      cases phase with
      | entered next refresh =>
        simp only [step, hGate]
        unfold GateInvariant at hs ⊢
        rw [hGate] at hs
        exact hs
      | _ =>
        simp only [step, hGate]
        exact hs
  | finalize =>
    cases hGate : s.gate with
    | none =>
      simp only [step, hGate]
      exact hs
    | some phase =>
      cases phase with
      | observed next refresh seen =>
        simp only [step, hGate]
        have hWorld := publication_world seen s.authority refresh
        simp only at hWorld
        unfold GateInvariant at hs ⊢
        rw [hGate] at hs
        obtain ⟨hAgrees, hAdvances, hIdentity⟩ := hs
        refine ⟨hAdvances, ?_⟩
        split at hWorld
        · rename_i hCommitted
          rw [if_pos hCommitted, hWorld, hIdentity]
        · rename_i hKept
          rw [if_neg hKept]
          unfold Agrees at hAgrees ⊢
          rw [hWorld]
          exact hAgrees
      | _ =>
        simp only [step, hGate]
        exact hs
  | leave =>
    cases hGate : s.gate with
    | none =>
      simp only [step, hGate]
      exact hs
    | some phase =>
      cases phase with
      | finalized next decision =>
        simp only [step, hGate]
        unfold GateInvariant at hs ⊢
        rw [hGate] at hs
        obtain ⟨_, hAgrees⟩ := hs
        by_cases hCommitted : decision = .committed
        · rw [if_pos hCommitted] at hAgrees
          subst hCommitted
          exact .inr hAgrees
        · rw [if_neg hCommitted] at hAgrees
          have hStore : (s.store.conclude next (.decided decision)).1 = s.store := by
            cases decision <;> first | rfl | exact absurd rfl hCommitted
          unfold Agrees at hAgrees ⊢
          simp only [hStore]
          exact hAgrees
      | _ =>
        simp only [step, hGate]
        exact hs

/-! ## What becomes visible -/

def shownBy (e : Event (WorldSystem D F V) (Operation D F V) Outcome) :
    Option WorldSnapshotIdentity :=
  match e.result with
  | .left _ shown => shown
  | _ => none

/-- Only `leave` changes the store. -/
theorem step_store {op : Operation D F V} (hOp : op ≠ .leave) :
    shownBy (eventAt step s op) = none ∧ (s.step op).1.store = s.store := by
  unfold shownBy
  rw [eventAt_result]
  cases op with
  | authority op => by_cases h : publishesWorld op <;> simp [step, h]
  | enter next refresh =>
    cases hGate : s.gate with
    | some phase => simp [step, hGate]
    | none => by_cases h : s.store.admitsNext (WorldModelView.identity next) <;> simp [step, hGate, h]
  | observe =>
    cases hGate : s.gate with
    | none => simp [step, hGate]
    | some phase => cases phase <;> simp [step, hGate]
  | finalize =>
    cases hGate : s.gate with
    | none => simp [step, hGate]
    | some phase => cases phase <;> simp [step, hGate]
  | leave => exact absurd rfl hOp

theorem step_shown (hs : GateInvariant s) :
    (shownBy (eventAt step s op) = none ∧ (s.step op).1.store = s.store) ∨
      ∃ identity, shownBy (eventAt step s op) = some identity ∧
        (s.step op).1.store.latestIdentity = some identity ∧
        ∀ current ∈ s.store.latestIdentity, Later current identity := by
  by_cases hOp : op = .leave
  · subst hOp
    cases hGate : s.gate with
    | none =>
      left
      simp [step, shownBy, hGate]
    | some phase =>
      cases phase with
      | finalized next decision =>
        unfold GateInvariant at hs
        rw [hGate] at hs
        by_cases hCommitted : decision = .committed
        · right
          subst hCommitted
          refine ⟨WorldModelView.identity next, ?_, ?_, hs.1⟩
          · simp [step, shownBy, hGate, conclude]
          · simp [step, hGate, conclude, latestIdentity]
        · left
          have hConclude : s.store.conclude next (.decided decision) = (s.store, decision) := by
            cases decision <;> first | rfl | exact absurd rfl hCommitted
          simp [step, shownBy, hGate, hConclude, hCommitted]
      | _ =>
        left
        simp [step, shownBy, hGate]
  · exact .inl (step_store s hOp)

end

/-- The identities shown so far: they follow each other, and the store shows the last. -/
structure Shown (identities : List WorldSnapshotIdentity) (s : WorldSystem D F V) : Prop where
  invariant : GateInvariant s
  order : identities.Pairwise Later
  last : identities.getLast? = s.store.latestIdentity

omit [Floating D] [DecidableEq D] [DecidableEq F] in
theorem Shown.later {identities : List WorldSnapshotIdentity} {s : WorldSystem D F V}
    (hs : Shown identities s) {next : WorldSnapshotIdentity}
    (hNext : ∀ current ∈ s.store.latestIdentity, Later current next) :
    ∀ identity ∈ identities, Later identity next := by
  intro identity hMem
  obtain ⟨front, last, rfl⟩ : ∃ front last, identities = front ++ [last] := by
    obtain h | ⟨front, last, h⟩ := List.eq_nil_or_concat' identities
    · rw [h] at hMem
      cases hMem
    · exact ⟨front, last, h⟩
  have hLast : s.store.latestIdentity = some last := by
    rw [← hs.last]
    simp
  have hLater := hNext last (by rw [hLast]; rfl)
  rcases List.mem_append.mp hMem with hFront | hEnd
  · have hOrder := (List.pairwise_append.mp hs.order).2.2 identity hFront last (by simp)
    exact hOrder.trans hLater
  · rw [List.mem_singleton.mp hEnd]
    exact hLater

theorem run_shown (first : Option V) (ops : List (Operation D F V)) :
    Shown ((initial first : WorldSystem D F V).store.latestIdentity.toList ++
      (events step (initial first) ops).filterMap shownBy) (run step (initial first) ops) := by
  apply run_history step (P := fun ops s =>
    Shown ((initial first : WorldSystem D F V).store.latestIdentity.toList ++
      (events step (initial first) ops).filterMap shownBy) s)
  · refine ⟨initial_gateInvariant first, ?_, ?_⟩
    · cases (initial first : WorldSystem D F V).store.latestIdentity <;> simp
    · cases (initial first : WorldSystem D F V).store.latestIdentity <;> simp
  · intro ops op hs
    have hStep := step_gateInvariant _ op hs.invariant
    rw [events_concat, List.filterMap_append, ← List.append_assoc]
    rcases step_shown _ op hs.invariant with ⟨hNone, hStore⟩ | ⟨identity, hSome, hLatest, hLater⟩
    · refine ⟨hStep, ?_, ?_⟩
      · simpa [hNone] using hs.order
      · rw [hStore, ← hs.last]
        simp [hNone]
    · refine ⟨hStep, ?_, ?_⟩
      · simp only [List.filterMap_cons, hSome, List.filterMap_nil]
        rw [List.pairwise_append]
        refine ⟨hs.order, by simp, ?_⟩
        intro earlier hEarlier later hMem
        rw [List.mem_singleton.mp hMem]
        exact hs.later hLater earlier hEarlier
      · rw [hLatest]
        simp [hSome]

theorem store_and_authority_agree (first : Option V) (ops : List (Operation D F V)) :
    let start := (initial first : WorldSystem D F V)
    let s := run step start ops
    let es := events step start ops
    -- the worlds the store shows, in order
    (start.store.latestIdentity.toList ++ es.filterMap shownBy).Pairwise Later ∧
    -- a finalizer that does not commit leaves the visible world alone
    (∀ (store : WorldSnapshotStore V) (next : Option V) (finalize : Finalized) result decision,
      store.publishAndFinalizeDecision next finalize = some (result, decision) →
      (finalize ≠ .decided .committed ∧ finalize ≠ .answered true → result = store) ∧
        (decision ≠ .committed → result = store)) ∧
    (∀ e ∈ es, shownBy e = none → e.after.store = e.before.store) ∧
    -- outside the gate the two agree, and so does whatever is exposed
    (s.gate = none → ∀ identity, s.authority.worldIdentity = some identity →
      s.store.latestIdentity = some identity) ∧
    ∀ e ∈ es, e.before.gate = none → ∀ expected goalEpoch expose shown result,
      e.op = .authority (.publishIfCurrent expected goalEpoch expose) →
      e.result = .authority (.exposure (some shown) result) →
      ∃ bundle, expected = some bundle ∧
        e.before.store.latestIdentity = some bundle.object.worldIdentity := by
  intro start s es
  have hShown := run_shown (D := D) (F := F) first ops
  have hAgree : ∀ t : WorldSystem D F V, GateInvariant t → t.gate = none → ∀ identity,
      t.authority.worldIdentity = some identity → t.store.latestIdentity = some identity := by
    intro t ht hGate identity hWorld
    unfold GateInvariant at ht
    rw [hGate] at ht
    rcases ht with hNone | hSame
    · rw [hNone] at hWorld
      cases hWorld
    · rw [← hSame, hWorld]
  refine ⟨hShown.order, ?_, ?_, hAgree s hShown.invariant, ?_⟩
  · intro store next finalize result decision h
    unfold publishAndFinalizeDecision at h
    cases next with
    | none => cases h
    | some next =>
      simp only [Option.bind_some] at h
      split at h
      · have hResult := Option.some.inj h
        rw [Prod.ext_iff] at hResult
        obtain ⟨rfl, rfl⟩ := hResult
        refine ⟨?_, store.conclude_kept next⟩
        rintro ⟨hDecided, hAnswered⟩
        cases finalize with
        | decided decision => cases decision <;> first | rfl | exact absurd rfl hDecided
        | answered value => cases value <;> first | rfl | exact absurd rfl hAnswered
        | threw => rfl
      · cases h
  · intro e he hNone
    obtain ⟨hBefore, hEvent⟩ := events_invariant step_gateInvariant (initial_gateInvariant first) he
    rw [hEvent] at hNone ⊢
    rcases step_shown e.before e.op hBefore with ⟨_, hStore⟩ | ⟨identity, hSome, _⟩
    · exact hStore
    · rw [hNone] at hSome
      cases hSome
  · intro e he hGate expected goalEpoch expose shown result hOp hResult
    obtain ⟨hBefore, hEvent⟩ := events_invariant step_gateInvariant (initial_gateInvariant first) he
    rw [hEvent] at hResult
    simp only [eventAt_result, hOp, step, publishesWorld, Bool.false_eq_true, if_false,
      Outcome.authority.injEq, ExecutionAuthority.step, ExecutionAuthority.Outcome.exposure.injEq]
      at hResult
    obtain ⟨bundle, hExpected, _, _, _, hWorld⟩ := publishIfCurrent_shown hResult.1
    exact ⟨bundle, hExpected, hAgree e.before hBefore hGate _ hWorld⟩

end Publication

end WorldSystem

end UavNavigation
