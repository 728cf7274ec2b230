import Mathlib.Data.List.Nodup
import UavNavigation.CandidateStaging

/-!
# The two owners of staged candidates

A section keeps or empties the slots, spends a generation, fills one slot with
it, adds a history to the staged candidate, or promotes what a slot holds. The
counter is above everything that was ever handed out, so a generation names one
registration for ever, and a slot holds what was registered under its generation.
-/

namespace UavNavigation.PlannerCommands

set_option autoImplicit false

variable {D P : Type}

abbrev SectionEvent (D P : Type) :=
  Runs.Event (PlannerCommands D P) (PlannerSection D P) SectionResult

def registration (event : SectionEvent D P) :
    Option (UInt64 × CommandCandidate D × CommandCertificate D) :=
  match event.op, event.result with
  | .authorizeAndStage candidate certificate (some validatedWorld), ⟨some generation, true⟩ =>
    some (generation, candidate, { certificate with validatedWorld := validatedWorld })
  | .registerHeadingRebind _ candidate certificate _ _, ⟨some generation, true⟩ =>
    some (generation, candidate, certificate)
  | _, _ => none

def reservedGeneration (event : SectionEvent D P) : Option UInt64 := event.result.reserved

/-- The history an event added, under the generation it was added to. -/
def registeredHistory (event : SectionEvent D P) : Option (UInt64 × ExpTraj D P) :=
  match event.op, event.before.stagedPlannerCandidate, event.result.done with
  | .stageCommandHistoryForCandidate expTraj, some staged, true => some (staged.generation, expTraj)
  | _, _, _ => none

def historyOf (generation : UInt64) (events : List (SectionEvent D P)) : Option (ExpTraj D P) :=
  (((events.filterMap registeredHistory).filter (·.1 == generation)).getLast?).map Prod.snd

variable {events : List (SectionEvent D P)} {generation : UInt64}

theorem historyOf_concat {event : SectionEvent D P} : historyOf generation (events ++ [event]) =
      match registeredHistory event with
      | some (owner, expTraj) =>
        if owner == generation then some expTraj else historyOf generation events
      | none => historyOf generation events := by
  unfold historyOf
  cases hAdded : registeredHistory event with
  | none => simp [hAdded]
  | some added =>
    obtain ⟨owner, expTraj⟩ := added
    by_cases hOwner : owner = generation <;> simp [hAdded, hOwner]

/-! ## What a section can do -/

def Shrinks (before after : Option (StagedCommandCandidate D P)) : Prop :=
  after = before ∨ after = none

variable {candidate : StagedCommandCandidate D P}

theorem Shrinks.mem {before after : Option (StagedCommandCandidate D P)}
    (h : Shrinks before after) (hHeld : after = some candidate) : before = some candidate := by
  rcases h with rfl | rfl
  · exact hHeld
  · cases hHeld

theorem shrinks_filter (slot : Option (StagedCommandCandidate D P))
    (keep : StagedCommandCandidate D P → Bool) : Shrinks slot (slot.filter keep) := by
  cases slot with
  | none => exact .inl rfl
  | some candidate =>
    cases hKeep : keep candidate with
    | true => exact .inl (by simp [Option.filter, hKeep])
    | false => exact .inr (by simp [Option.filter, hKeep])

def FillsWith (candidate : StagedCommandCandidate D P) (before after : PlannerCommands D P) :
    Prop :=
  (after.stagedPlannerCandidate = some candidate ∧
    after.retainedHeadingCandidate = before.retainedHeadingCandidate) ∨
  (after.stagedPlannerCandidate = before.stagedPlannerCandidate ∧
    after.retainedHeadingCandidate = some candidate)

inductive Outcome [Floating D] [MathLibrary D] (before : PlannerCommands D P)
    (locked : PlannerSection D P) (after : PlannerCommands D P) (result : SectionResult) : Prop
  | kept (reserved : result.reserved = none)
      (history : registeredHistory ⟨before, locked, result, after⟩ = none)
      (staged : Shrinks before.stagedPlannerCandidate after.stagedPlannerCandidate)
      (retained : Shrinks before.retainedHeadingCandidate after.retainedHeadingCandidate)
      (counter : after.lastReservedCandidateGeneration = before.lastReservedCandidateGeneration)
      (store : after.plannerWarmStart = before.plannerWarmStart)
      (exp : after.plannerPreviousExp = before.plannerPreviousExp)
  | spent (generation : UInt64) (next : before.reserveCandidateGeneration = some generation)
      (reserved : result.reserved = some generation)
      (history : registeredHistory ⟨before, locked, result, after⟩ = none)
      (state : after = { before with lastReservedCandidateGeneration := generation })
  | filled (candidate : StagedCommandCandidate D P)
      (next : before.reserveCandidateGeneration = some candidate.generation)
      (reserved : result.reserved = some candidate.generation)
      (history : registeredHistory ⟨before, locked, result, after⟩ = none)
      (registered : registration ⟨before, locked, result, after⟩ =
        some (candidate.generation, candidate.command, candidate.certificate))
      (fresh : candidate.pendingExpHistory = none) (slots : FillsWith candidate before after)
      (counter : after.lastReservedCandidateGeneration = candidate.generation)
      (store : after.plannerWarmStart = before.plannerWarmStart)
      (exp : after.plannerPreviousExp = before.plannerPreviousExp)
  | history (staged : StagedCommandCandidate D P) (expTraj : ExpTraj D P)
      (reserved : result.reserved = none)
      (slot : before.stagedPlannerCandidate = some staged)
      (added : registeredHistory ⟨before, locked, result, after⟩ =
        some (staged.generation, expTraj))
      (state : after = { before with
        stagedPlannerCandidate := some
          { staged with pendingExpHistory := some expTraj, clearNewGoalOnActivation := true } })
  | promoted (candidate : StagedCommandCandidate D P) (generation : UInt64)
      (activation : locked = .onExecutionTimelineActivated generation)
      (named : candidate.generation = generation)
      (reserved : result.reserved = none)
      (held : (before.stagedPlannerCandidate = some candidate ∧ after.stagedPlannerCandidate = none ∧
          after.retainedHeadingCandidate = before.retainedHeadingCandidate.filter
            fun retained => !(retained.generation < generation)) ∨
        (before.retainedHeadingCandidate = some candidate ∧ after.retainedHeadingCandidate = none ∧
          after.stagedPlannerCandidate = before.stagedPlannerCandidate))
      (counter : after.lastReservedCandidateGeneration = before.lastReservedCandidateGeneration)
      (committed : UInt64)
      (taken : CmdTraj.committedGeneration before.plannerWarmStart.generation generation =
        some committed)
      (store : after.plannerWarmStart =
        before.plannerWarmStart.written candidate.command candidate.certificate committed)
      (exp : after.plannerPreviousExp = candidate.pendingExpHistory.getD before.plannerPreviousExp)

variable {planner : PlannerCommands D P}

theorem takeOwner_some {remaining : PlannerCommands D P}
    (h : planner.takeOwner generation = some (candidate, remaining)) :
    candidate.generation = generation ∧ ((planner.stagedPlannerCandidate = some candidate ∧
          remaining = { planner with stagedPlannerCandidate := none }) ∨
        (planner.retainedHeadingCandidate = some candidate ∧
          remaining = { planner with retainedHeadingCandidate := none })) := by
  revert h
  fun_cases takeOwner
  all_goals intro h
  · rename_i hNamed
    cases hSlot : planner.stagedPlannerCandidate with
    | none => simp [hSlot] at h
    | some staged =>
      simp only [hSlot, Option.map_some, Option.some.injEq, Prod.mk.injEq] at h
      obtain ⟨rfl, rfl⟩ := h
      simp only [holdsGeneration, hSlot, Option.any_some, beq_iff_eq] at hNamed
      exact ⟨hNamed, .inl ⟨rfl, rfl⟩⟩
  · rename_i hNamed
    cases hSlot : planner.retainedHeadingCandidate with
    | none => simp [hSlot] at h
    | some retained =>
      simp only [hSlot, Option.map_some, Option.some.injEq, Prod.mk.injEq] at h
      obtain ⟨rfl, rfl⟩ := h
      simp only [holdsGeneration, hSlot, Option.any_some, beq_iff_eq] at hNamed
      exact ⟨hNamed, .inr ⟨rfl, rfl⟩⟩
  · cases h

theorem takeOwner_none (hStaged : holdsGeneration generation planner.stagedPlannerCandidate = false)
    (hRetained : holdsGeneration generation planner.retainedHeadingCandidate = false) :
    planner.takeOwner generation = none := by
  unfold takeOwner
  rw [hStaged, hRetained]
  rfl

variable [Floating D] [MathLibrary D]

section
variable (planner : PlannerCommands D P)

theorem outcome_authorize (candidate : CommandCandidate D)
    (certificate : CommandCertificate D) (commitLease : Option WorldSnapshotIdentity) :
    Outcome planner (.authorizeAndStage candidate certificate commitLease)
      (planner.authorizeAndStage candidate certificate commitLease).1
      (planner.authorizeAndStage candidate certificate commitLease).2 := by
  have hRefused : Outcome planner (.authorizeAndStage candidate certificate commitLease) planner
      ⟨none, false⟩ := .kept rfl rfl (.inl rfl) (.inl rfl) rfl rfl rfl
  unfold authorizeAndStage
  cases commitLease with
  | none => exact hRefused
  | some validatedWorld =>
    dsimp only
    split
    · exact hRefused
    split
    · exact hRefused
    split
    · exact hRefused
    cases hNext : planner.reserveCandidateGeneration with
    | none => exact hRefused
    | some generation => exact .filled _ hNext rfl rfl rfl rfl (.inl ⟨rfl, rfl⟩) rfl rfl rfl

theorem outcome_register (committedGeneration : UInt64)
    (candidate : CommandCandidate D) (certificate : CommandCertificate D) (request : ExportRequest)
    (boundary : Except CandidateExportFailure (RouteBoundary D)) :
    Outcome planner
      (.registerHeadingRebind committedGeneration candidate certificate request boundary)
      (planner.registerHeadingRebind committedGeneration candidate certificate request boundary).1
      (planner.registerHeadingRebind committedGeneration candidate certificate request
        boundary).2 := by
  have hRefused : Outcome planner
      (.registerHeadingRebind committedGeneration candidate certificate request boundary) planner
      ⟨none, false⟩ := .kept rfl rfl (.inl rfl) (.inl rfl) rfl rfl rfl
  unfold registerHeadingRebind
  dsimp only
  split
  · exact hRefused
  cases hNext : planner.reserveCandidateGeneration with
  | none => exact hRefused
  | some generation =>
    dsimp only
    split
    · exact .spent generation hNext rfl rfl rfl
    · exact .filled _ hNext rfl rfl rfl rfl (.inr ⟨rfl, rfl⟩) rfl rfl rfl

theorem outcome_activation (generation : UInt64) :
    Outcome planner (.onExecutionTimelineActivated generation)
      (planner.onExecutionTimelineActivated generation) ⟨none, true⟩ := by
  unfold onExecutionTimelineActivated
  cases hOwner : planner.takeOwner generation with
  | none => exact .kept rfl rfl (.inl rfl) (.inl rfl) rfl rfl rfl
  | some owner =>
    obtain ⟨candidate, remaining⟩ := owner
    obtain ⟨hNamed, hSlot⟩ := takeOwner_some hOwner
    have hStore : remaining.plannerWarmStart = planner.plannerWarmStart := by
      rcases hSlot with ⟨-, rfl⟩ | ⟨-, rfl⟩ <;> rfl
    dsimp only [promote]
    rcases remaining.plannerWarmStart.commitCandidate_cases candidate.command candidate.certificate
      candidate.generation with hSame | ⟨start, committed, -, -, -, hTaken, hWritten⟩
    · rw [hSame]
      rcases hSlot with ⟨hStaged, rfl⟩ | ⟨hRetained, rfl⟩
      · exact .kept rfl rfl (.inr rfl) (.inl rfl) rfl rfl rfl
      · exact .kept rfl rfl (.inl rfl) (.inr rfl) rfl rfl rfl
    · rw [hWritten, hStore]
      rw [hStore, hNamed] at hTaken
      rcases hSlot with ⟨hStaged, rfl⟩ | ⟨hRetained, rfl⟩
      · exact .promoted candidate generation rfl hNamed rfl (.inl ⟨hStaged, rfl, rfl⟩) rfl committed
          hTaken rfl rfl
      · exact .promoted candidate generation rfl hNamed rfl (.inr ⟨hRetained, rfl, rfl⟩) rfl
          committed hTaken rfl rfl

theorem outcome_history (expTraj : ExpTraj D P) :
    Outcome planner (.stageCommandHistoryForCandidate expTraj)
      (planner.stageCommandHistoryForCandidate expTraj).1
      ⟨none, (planner.stageCommandHistoryForCandidate expTraj).2⟩ := by
  have hRefused : Outcome planner (.stageCommandHistoryForCandidate expTraj) planner
      ⟨none, false⟩ := by
    refine .kept rfl ?_ (.inl rfl) (.inl rfl) rfl rfl rfl
    unfold registeredHistory
    cases planner.stagedPlannerCandidate <;> rfl
  unfold stageCommandHistoryForCandidate
  split
  · exact hRefused
  cases hSlot : planner.stagedPlannerCandidate with
  | none => exact hRefused
  | some staged =>
    refine .history staged expTraj rfl hSlot ?_ rfl
    unfold registeredHistory
    rw [hSlot]

theorem outcome_discardRetained (expectedGeneration : UInt64) :
    Outcome planner (.discardRetainedPositionHeadingCandidate expectedGeneration)
      (planner.discardRetainedPositionHeadingCandidate expectedGeneration).1
      ⟨none, (planner.discardRetainedPositionHeadingCandidate expectedGeneration).2⟩ := by
  fun_cases discardRetainedPositionHeadingCandidate
  case case2 => exact .kept rfl rfl (.inl rfl) (.inr rfl) rfl rfl rfl
  case case3 => exact .kept rfl rfl (.inr rfl) (.inl rfl) rfl rfl rfl
  all_goals exact .kept rfl rfl (.inl rfl) (.inl rfl) rfl rfl rfl

theorem step_outcome (locked : PlannerSection D P) :
    Outcome planner locked (planner.step locked).1 (planner.step locked).2 := by
  cases locked with
  | authorizeAndStage candidate certificate commitLease =>
    exact outcome_authorize planner candidate certificate commitLease
  | registerHeadingRebind committedGeneration candidate certificate request boundary =>
    exact outcome_register planner committedGeneration candidate certificate request boundary
  | stageCommandHistoryForCandidate expTraj => exact outcome_history planner expTraj
  | discardCommandCandidate =>
    unfold step discardCommandCandidate
    dsimp only
    split
    · exact .kept rfl rfl (.inr rfl) (.inl rfl) rfl rfl rfl
    · exact .kept rfl rfl (.inl rfl) (.inl rfl) rfl rfl rfl
  | writeCommandIdentity identity => exact .kept rfl rfl (.inl rfl) (.inl rfl) rfl rfl rfl
  | discardRetainedPositionHeadingCandidate expectedGeneration =>
    exact outcome_discardRetained planner expectedGeneration
  | onExecutionTimelineActivated generation => exact outcome_activation planner generation
  | setSolveCancelled cancelled => exact .kept rfl rfl (.inl rfl) (.inl rfl) rfl rfl rfl

end

/-! ## What the slots hold -/

/-- After the events the slots hold what was registered under their generations, and the counter is
above every generation in use. -/
structure Owned (events : List (SectionEvent D P)) (planner : PlannerCommands D P) : Prop where
  held : ∀ candidate, planner.stagedPlannerCandidate = some candidate ∨
      planner.retainedHeadingCandidate = some candidate →
    candidate.generation ≠ 0 ∧ candidate.generation ≤ planner.lastReservedCandidateGeneration ∧
      (candidate.generation, candidate.command, candidate.certificate) ∈
        events.filterMap registration ∧
      candidate.pendingExpHistory = historyOf candidate.generation events
  distinct : ∀ staged retained, planner.stagedPlannerCandidate = some staged →
    planner.retainedHeadingCandidate = some retained → staged.generation ≠ retained.generation
  store : planner.plannerWarmStart.generation ≤ planner.lastReservedCandidateGeneration
  histories : ∀ generation, planner.lastReservedCandidateGeneration < generation →
    historyOf generation events = none

omit [MathLibrary D] in
theorem initial_owned : Owned [] (initial : PlannerCommands D P) where
  held candidate hHeld := by rcases hHeld with h | h <;> cases h
  distinct staged retained hStaged _ := by cases hStaged
  store := UInt64.le_refl _
  histories _ _ := rfl

section
omit [Floating D] [MathLibrary D]

theorem lt_reserved {planner : PlannerCommands D P} {generation : UInt64}
    (hStore : planner.plannerWarmStart.generation ≤ planner.lastReservedCandidateGeneration)
    (h : planner.reserveCandidateGeneration = some generation) :
    planner.lastReservedCandidateGeneration < generation := by
  unfold reserveCandidateGeneration at h
  have hFloor : (if planner.plannerWarmStart.generation < planner.lastReservedCandidateGeneration then
      planner.lastReservedCandidateGeneration else planner.plannerWarmStart.generation) =
      planner.lastReservedCandidateGeneration := by
    split
    · rfl
    · rename_i hNot
      exact UInt64.le_antisymm hStore (UInt64.not_lt.mp hNot)
  rw [hFloor] at h
  have hCommitted : CmdTraj.committedGeneration planner.lastReservedCandidateGeneration 0 = some
      generation := by
    exact h
  exact CmdTraj.lt_committedGeneration hCommitted

theorem mem_registration_concat {events : List (SectionEvent D P)} (event : SectionEvent D P)
    {proposal : UInt64 × CommandCandidate D × CommandCertificate D}
    (h : proposal ∈ events.filterMap registration) :
    proposal ∈ (events ++ [event]).filterMap registration := by
  rw [List.filterMap_append]
  exact List.mem_append_left _ h

theorem historyOf_quiet {events : List (SectionEvent D P)} {event : SectionEvent D P}
    (h : registeredHistory event = none) (generation : UInt64) :
    historyOf generation (events ++ [event]) = historyOf generation events := by
  rw [historyOf_concat, h]

theorem FillsWith.mem {after : PlannerCommands D P} (slots : FillsWith candidate planner after)
    {other : StagedCommandCandidate D P} (hHeld : after.stagedPlannerCandidate = some other ∨
      after.retainedHeadingCandidate = some other) :
    other = candidate ∨ (planner.stagedPlannerCandidate = some other ∨
      planner.retainedHeadingCandidate = some other) := by
  rcases slots with ⟨hStaged, hRetained⟩ | ⟨hStaged, hRetained⟩
  · rw [hStaged, hRetained, Option.some.injEq] at hHeld
    rcases hHeld with rfl | hHeld
    · exact .inl rfl
    · exact .inr (.inr hHeld)
  · rw [hStaged, hRetained, Option.some.injEq] at hHeld
    rcases hHeld with hHeld | rfl
    · exact .inr (.inl hHeld)
    · exact .inl rfl

section Registry
variable {event : SectionEvent D P} {after : PlannerCommands D P} (h : Owned events planner)
include h

/-- A section that empties slots at most leaves the rest of them as they were. -/
theorem Owned.shrink (history : registeredHistory event = none)
    (staged : Shrinks planner.stagedPlannerCandidate after.stagedPlannerCandidate)
    (retained : Shrinks planner.retainedHeadingCandidate after.retainedHeadingCandidate)
    (counter : after.lastReservedCandidateGeneration = planner.lastReservedCandidateGeneration)
    (store : after.plannerWarmStart.generation ≤ planner.lastReservedCandidateGeneration) :
    Owned (events ++ [event]) after := by
  refine ⟨?_, ?_, ?_, ?_⟩
  · intro candidate hHeld
    obtain ⟨hZero, hBound, hRegistered, hHistory⟩ :=
      h.held candidate (hHeld.imp staged.mem retained.mem)
    rw [counter, historyOf_quiet history]
    exact ⟨hZero, hBound, mem_registration_concat _ hRegistered, hHistory⟩
  · intro first second hFirst hSecond
    exact h.distinct first second (staged.mem hFirst) (retained.mem hSecond)
  · rw [counter]
    exact store
  · intro generation hAbove
    rw [counter] at hAbove
    rw [historyOf_quiet history]
    exact h.histories generation hAbove

theorem Owned.spend (next : planner.reserveCandidateGeneration = some generation)
    (history : registeredHistory event = none) :
    Owned (events ++ [event]) { planner with lastReservedCandidateGeneration := generation } := by
  have hNew := lt_reserved h.store next
  refine ⟨?_, h.distinct, ?_, ?_⟩
  · intro candidate hHeld
    obtain ⟨hZero, hBound, hRegistered, hHistory⟩ := h.held candidate hHeld
    rw [historyOf_quiet history]
    exact ⟨hZero, UInt64.le_of_lt (UInt64.lt_of_le_of_lt hBound hNew),
      mem_registration_concat _ hRegistered, hHistory⟩
  · exact UInt64.le_of_lt (UInt64.lt_of_le_of_lt h.store hNew)
  · intro other hAbove
    rw [historyOf_quiet history]
    exact h.histories other (UInt64.lt_trans hNew hAbove)

/-- The filled slot is the only one of its generation: every other is older. -/
theorem Owned.fill (next : planner.reserveCandidateGeneration = some candidate.generation)
    (history : registeredHistory event = none)
    (registered : registration event =
      some (candidate.generation, candidate.command, candidate.certificate))
    (fresh : candidate.pendingExpHistory = none) (slots : FillsWith candidate planner after)
    (counter : after.lastReservedCandidateGeneration = candidate.generation)
    (store : after.plannerWarmStart = planner.plannerWarmStart) :
    Owned (events ++ [event]) after := by
  have hNew := lt_reserved h.store next
  have hOld : ∀ other, planner.stagedPlannerCandidate = some other ∨
      planner.retainedHeadingCandidate = some other → other.generation < candidate.generation := by
    intro other hHeld
    exact UInt64.lt_of_le_of_lt (h.held other hHeld).2.1 hNew
  refine ⟨?_, ?_, ?_, ?_⟩
  · intro other hHeld
    rw [counter, historyOf_quiet history]
    rcases slots.mem hHeld with rfl | hBefore
    · refine ⟨?_, UInt64.le_refl _, ?_, ?_⟩
      · intro hZero
        rw [hZero] at hNew
        exact UInt64.not_lt_zero hNew
      · rw [List.filterMap_append]
        exact List.mem_append_right _ (by simp [registered])
      · rw [fresh, h.histories _ hNew]
    · obtain ⟨hZero, -, hRegistered, hHistory⟩ := h.held other hBefore
      exact ⟨hZero, UInt64.le_of_lt (hOld other hBefore), mem_registration_concat _ hRegistered,
        hHistory⟩
  · intro first second hFirst hSecond
    rcases slots with ⟨hStaged, hRetained⟩ | ⟨hStaged, hRetained⟩
    · rw [hStaged] at hFirst
      rw [hRetained] at hSecond
      obtain rfl : candidate = first := Option.some.inj hFirst
      exact (UInt64.ne_of_lt (hOld second (.inr hSecond))).symm
    · rw [hStaged] at hFirst
      rw [hRetained] at hSecond
      obtain rfl : candidate = second := Option.some.inj hSecond
      exact UInt64.ne_of_lt (hOld first (.inl hFirst))
  · rw [store, counter]
    exact UInt64.le_of_lt (UInt64.lt_of_le_of_lt h.store hNew)
  · intro generation hAbove
    rw [counter] at hAbove
    rw [historyOf_quiet history]
    exact h.histories generation (UInt64.lt_trans hNew hAbove)

theorem Owned.addHistory {staged : StagedCommandCandidate D P} {expTraj : ExpTraj D P}
    (slot : planner.stagedPlannerCandidate = some staged)
    (added : registeredHistory event = some (staged.generation, expTraj)) :
    Owned (events ++ [event]) { planner with
      stagedPlannerCandidate := some
        { staged with pendingExpHistory := some expTraj, clearNewGoalOnActivation := true } } := by
  obtain ⟨hZero, hBound, hRegistered, hHistory⟩ := h.held staged (.inl slot)
  refine ⟨?_, ?_, h.store, ?_⟩
  · intro candidate hHeld
    rw [historyOf_concat, added]
    rcases hHeld with hHeld | hHeld
    · obtain rfl := (Option.some.inj hHeld).symm
      refine ⟨hZero, hBound, mem_registration_concat _ hRegistered, ?_⟩
      simp
    · obtain ⟨hZero', hBound', hRegistered', hHistory'⟩ := h.held candidate (.inr hHeld)
      have hOther := h.distinct staged candidate slot hHeld
      refine ⟨hZero', hBound', mem_registration_concat _ hRegistered', ?_⟩
      simp [hOther, hHistory']
  · intro first second hFirst hSecond
    obtain rfl := (Option.some.inj hFirst).symm
    exact h.distinct staged second slot hSecond
  · intro generation hAbove
    have hOther : staged.generation ≠ generation :=
      UInt64.ne_of_lt (UInt64.lt_of_le_of_lt hBound hAbove)
    rw [historyOf_concat, added]
    simpa [hOther] using h.histories generation hAbove

end Registry

end

theorem step_owned (h : Owned events planner) (locked : PlannerSection D P) :
    Owned (events ++ [Runs.eventAt step planner locked]) (planner.step locked).1 := by
  have hOutcome := step_outcome planner locked
  unfold Runs.eventAt
  generalize (planner.step locked).1 = after at hOutcome ⊢
  generalize (planner.step locked).2 = result at hOutcome ⊢
  cases hOutcome with
  | kept reserved history staged retained counter store exp =>
    refine h.shrink history staged retained counter ?_
    rw [store]
    exact h.store
  | spent generation next reserved history state =>
    subst state
    exact h.spend next history
  | filled candidate next reserved history registered fresh slots counter store exp =>
    exact h.fill next history registered fresh slots counter store
  | history staged expTraj reserved slot added state =>
    subst state
    exact h.addHistory slot added
  | promoted candidate generation activation named reserved held counter committed taken store exp =>
    have hHistory : registeredHistory ⟨planner, locked, result, after⟩ = none := by
      rw [activation]
      rfl
    have hSlots : Shrinks planner.stagedPlannerCandidate after.stagedPlannerCandidate ∧
        Shrinks planner.retainedHeadingCandidate after.retainedHeadingCandidate := by
      rcases held with ⟨-, hStaged, hRetained⟩ | ⟨-, hRetained, hStaged⟩
      · rw [hRetained]
        exact ⟨.inr hStaged, shrinks_filter _ _⟩
      · exact ⟨.inl hStaged, .inr hRetained⟩
    refine h.shrink hHistory hSlots.1 hSlots.2 counter ?_
    -- the store takes the generation the candidate was registered under
    obtain ⟨hZero, hBound, -, -⟩ := h.held candidate (held.imp (·.1) (·.1))
    rw [named] at hZero hBound
    rw [store, CmdTraj.committedGeneration_requested hZero taken]
    exact hBound

section
variable (sections : List (PlannerSection D P))

theorem run_owned : Owned (Runs.events step initial sections)
      (Runs.run step (initial : PlannerCommands D P) sections) := by
  refine Runs.run_history (P := fun sections planner =>
    Owned (Runs.events step initial sections) planner) step initial_owned ?_ sections
  intro sections locked h
  rw [Runs.events_concat]
  exact step_owned h locked

theorem step_counter (h : Owned events planner) (locked : PlannerSection D P) :
    (planner.step locked).1.lastReservedCandidateGeneration =
        (planner.step locked).2.reserved.getD planner.lastReservedCandidateGeneration ∧
      ∀ generation, (planner.step locked).2.reserved = some generation →
        planner.lastReservedCandidateGeneration < generation := by
  cases step_outcome planner locked with
  | kept reserved history staged retained counter store exp =>
    rw [reserved]
    exact ⟨counter, fun _ hReserved => by cases hReserved⟩
  | spent generation next reserved history state =>
    rw [reserved, state]
    refine ⟨rfl, fun other hReserved => ?_⟩
    obtain rfl := (Option.some.inj hReserved).symm
    exact lt_reserved h.store next
  | filled candidate next reserved history registered fresh slots counter store exp =>
    rw [reserved]
    refine ⟨counter, fun other hReserved => ?_⟩
    obtain rfl := (Option.some.inj hReserved).symm
    exact lt_reserved h.store next
  | history staged expTraj reserved slot added state =>
    rw [reserved, state]
    exact ⟨rfl, fun _ hReserved => by cases hReserved⟩
  | promoted candidate generation activation named reserved held counter committed taken store exp =>
    rw [reserved]
    exact ⟨counter, fun _ hReserved => by cases hReserved⟩

theorem reserved_increasing : ((Runs.events step (initial : PlannerCommands D P) sections).filterMap
      reservedGeneration).Pairwise (· < ·) := by
  refine Runs.emitted_pairwise (P := fun planner => ∃ events, Owned events planner)
    (Q := fun _ => True) (B := fun generation planner =>
      generation ≤ planner.lastReservedCandidateGeneration) ?_ ?_ ?_ ?_ ⟨[], initial_owned⟩
    fun _ _ => trivial
  · rintro planner locked ⟨events, h⟩ -
    exact ⟨_, step_owned h locked⟩
  · rintro planner locked generation ⟨events, h⟩ - hReserved
    have hCounter := (step_counter h locked).1
    rw [show (planner.step locked).2.reserved = some generation from hReserved] at hCounter
    rw [hCounter]
    exact UInt64.le_refl _
  · rintro planner locked generation ⟨events, h⟩ - hBound
    obtain ⟨hCounter, hAbove⟩ := step_counter h locked
    rw [hCounter]
    cases hReserved : (planner.step locked).2.reserved with
    | none => exact hBound
    | some next => exact UInt64.le_trans hBound (UInt64.le_of_lt (hAbove next hReserved))
  · rintro planner locked earlier next ⟨events, h⟩ hBound hReserved
    exact UInt64.lt_of_le_of_lt hBound ((step_counter h locked).2 next hReserved)

section
omit [Floating D] [MathLibrary D]

theorem reserved_of_registration {event : SectionEvent D P}
    {proposal : UInt64 × CommandCandidate D × CommandCertificate D}
    (h : registration event = some proposal) : reservedGeneration event = some proposal.1 := by
  unfold registration at h
  split at h
  · rename_i hResult
    obtain rfl := Option.some.inj h
    exact congrArg SectionResult.reserved hResult
  · rename_i hResult
    obtain rfl := Option.some.inj h
    exact congrArg SectionResult.reserved hResult
  · cases h

theorem registrations_sublist (events : List (SectionEvent D P)) :
    ((events.filterMap registration).map Prod.fst).Sublist
      (events.filterMap reservedGeneration) := by
  induction events with
  | nil => exact List.Sublist.slnil
  | cons event rest ih =>
    cases hRegistered : registration event with
    | none =>
      rw [List.filterMap_cons_none hRegistered]
      cases hReserved : reservedGeneration event with
      | none =>
        rw [List.filterMap_cons_none hReserved]
        exact ih
      | some generation =>
        rw [List.filterMap_cons_some hReserved]
        exact ih.cons generation
    | some proposal =>
      rw [List.filterMap_cons_some hRegistered,
        List.filterMap_cons_some (reserved_of_registration hRegistered)]
      exact ih.cons_cons proposal.1

end

theorem registration_unique {first second : UInt64 × CommandCandidate D × CommandCertificate D}
    (hFirst : first ∈ (Runs.events step initial sections).filterMap registration)
    (hSecond : second ∈ (Runs.events step initial sections).filterMap registration)
    (hSame : first.1 = second.1) : first = second := by
  have hIncreasing := (reserved_increasing sections).sublist
    (registrations_sublist (Runs.events step (initial : PlannerCommands D P) sections))
  have hDistinct := hIncreasing.imp fun hLess => UInt64.ne_of_lt hLess
  exact List.inj_on_of_nodup_map hDistinct hFirst hSecond hSame

end

/-! ## The law -/

/-- What a promotion leaves in the slots: besides its own generation it may only remove an older
heading candidate. -/
def LeavesOthers (generation : UInt64) (before after : PlannerCommands D P) : Prop :=
  (∀ staged, before.stagedPlannerCandidate = some staged → staged.generation ≠ generation →
    after.stagedPlannerCandidate = some staged) ∧
  ∀ retained, before.retainedHeadingCandidate = some retained → retained.generation ≠ generation →
    after.retainedHeadingCandidate = some retained ∨
      (after.retainedHeadingCandidate = none ∧ retained.generation < generation)

theorem promotion_of_change (sections : List (PlannerSection D P)) (locked : PlannerSection D P) :
    let events := Runs.events step (initial : PlannerCommands D P) sections
    let planner := Runs.run step initial sections
    let next := (planner.step locked).1
    (next.plannerWarmStart = planner.plannerWarmStart ∧
        next.plannerPreviousExp = planner.plannerPreviousExp) ∨
      ∃ generation command certificate, locked = .onExecutionTimelineActivated generation ∧
        (holdsGeneration generation planner.stagedPlannerCandidate = true ∨
          holdsGeneration generation planner.retainedHeadingCandidate = true) ∧
        (generation, command, certificate) ∈ events.filterMap registration ∧
        planner.plannerWarmStart.generation < generation ∧
        next.plannerWarmStart = planner.plannerWarmStart.written command certificate generation ∧
        next.plannerPreviousExp = (historyOf generation events).getD planner.plannerPreviousExp ∧
        LeavesOthers generation planner next := by
  intro events planner next
  have h : Owned events planner := run_owned sections
  cases step_outcome planner locked with
  | kept reserved history staged retained counter store exp => exact .inl ⟨store, exp⟩
  | spent generation free reserved history state =>
    left
    rw [show next = _ from state]
    exact ⟨rfl, rfl⟩
  | filled candidate free reserved history registered fresh slots counter store exp =>
    exact .inl ⟨store, exp⟩
  | history staged expTraj reserved slot added state =>
    left
    rw [show next = _ from state]
    exact ⟨rfl, rfl⟩
  | promoted candidate generation activation named reserved held counter committed taken store exp =>
    right
    have hBefore : planner.stagedPlannerCandidate = some candidate ∨
        planner.retainedHeadingCandidate = some candidate := held.imp (·.1) (·.1)
    obtain ⟨hZero, -, hRegistered, hHistory⟩ := h.held candidate hBefore
    rw [named] at hZero hRegistered hHistory
    obtain rfl := CmdTraj.committedGeneration_requested hZero taken
    refine ⟨committed, candidate.command, candidate.certificate, activation, ?_, hRegistered,
      CmdTraj.lt_committedGeneration taken, store, ?_, ?_⟩
    · unfold holdsGeneration
      rcases hBefore with hSlot | hSlot
      · left
        simp [hSlot, named]
      · right
        simp [hSlot, named]
    · rw [← hHistory]
      exact exp
    · rcases held with ⟨hOwn, hStaged, hRetained⟩ | ⟨hOwn, hRetained, hStaged⟩
      · refine ⟨fun staged hSlot hOther => ?_, fun retained hSlot hOther => ?_⟩
        · rw [hOwn] at hSlot
          obtain rfl := Option.some.inj hSlot
          exact absurd named hOther
        · rw [hRetained, hSlot]
          by_cases hOlder : retained.generation < committed
          · exact .inr ⟨by simp [Option.filter, hOlder], hOlder⟩
          · exact .inl (by simp [Option.filter, hOlder])
      · refine ⟨fun staged hSlot _ => by rw [hStaged, hSlot], fun retained hSlot hOther => ?_⟩
        rw [hOwn] at hSlot
        obtain rfl := Option.some.inj hSlot
        exact absurd named hOther

omit [Floating D] [MathLibrary D] in
theorem discard_other {planner : PlannerCommands D P} {expectedGeneration : UInt64} :
    (∀ staged, planner.stagedPlannerCandidate = some staged →
      staged.generation ≠ expectedGeneration →
      (planner.discardRetainedPositionHeadingCandidate expectedGeneration).1.stagedPlannerCandidate =
        some staged) ∧
    ∀ retained, planner.retainedHeadingCandidate = some retained →
      retained.generation ≠ expectedGeneration →
      (planner.discardRetainedPositionHeadingCandidate
        expectedGeneration).1.retainedHeadingCandidate = some retained := by
  unfold discardRetainedPositionHeadingCandidate holdsGeneration
  refine ⟨fun staged hSlot hOther => ?_, fun retained hSlot hOther => ?_⟩
  · split
    · exact hSlot
    split
    · exact hSlot
    split
    · rename_i hNamed
      simp [hSlot, hOther] at hNamed
    · exact hSlot
  · split
    · exact hSlot
    split
    · rename_i hNamed
      simp [hSlot, hOther] at hNamed
    split <;> exact hSlot

theorem unheld_unchanged
    (hStaged : holdsGeneration generation planner.stagedPlannerCandidate = false)
    (hRetained : holdsGeneration generation planner.retainedHeadingCandidate = false) :
    planner.onExecutionTimelineActivated generation = planner ∧
      (planner.discardRetainedPositionHeadingCandidate generation).1 = planner := by
  constructor
  · unfold onExecutionTimelineActivated
    rw [takeOwner_none hStaged hRetained]
  · unfold discardRetainedPositionHeadingCandidate
    rw [hStaged, hRetained]
    split <;> rfl

theorem two_owner_staging (sections : List (PlannerSection D P)) :
    let events := Runs.events step (initial : PlannerCommands D P) sections
    let planner := Runs.run step initial sections
    (events.filterMap reservedGeneration).Pairwise (· < ·) ∧
    (∀ staged retained, planner.stagedPlannerCandidate = some staged →
      planner.retainedHeadingCandidate = some retained → staged.generation ≠ retained.generation) ∧
    (∀ first ∈ events.filterMap registration, ∀ second ∈ events.filterMap registration,
      first.1 = second.1 → first = second) ∧
    (∀ locked, let next := (planner.step locked).1
      planner.plannerWarmStart.generation ≤ next.plannerWarmStart.generation ∧
      ((next.plannerWarmStart = planner.plannerWarmStart ∧
          next.plannerPreviousExp = planner.plannerPreviousExp) ∨
        ∃ generation command certificate, locked = .onExecutionTimelineActivated generation ∧
          (holdsGeneration generation planner.stagedPlannerCandidate = true ∨
            holdsGeneration generation planner.retainedHeadingCandidate = true) ∧
          (generation, command, certificate) ∈ events.filterMap registration ∧
          planner.plannerWarmStart.generation < generation ∧
          next.plannerWarmStart = planner.plannerWarmStart.written command certificate generation ∧
          next.plannerPreviousExp = (historyOf generation events).getD planner.plannerPreviousExp ∧
          LeavesOthers generation planner next)) ∧
    (∀ generation, holdsGeneration generation planner.stagedPlannerCandidate = false →
      holdsGeneration generation planner.retainedHeadingCandidate = false →
      (planner.step (.onExecutionTimelineActivated generation)).1 = planner ∧
        (planner.step (.discardRetainedPositionHeadingCandidate generation)).1 = planner) ∧
    (∀ generation, let next := (planner.step (.discardRetainedPositionHeadingCandidate generation)).1
      (∀ staged, planner.stagedPlannerCandidate = some staged → staged.generation ≠ generation →
        next.stagedPlannerCandidate = some staged) ∧
      ∀ retained, planner.retainedHeadingCandidate = some retained →
        retained.generation ≠ generation → next.retainedHeadingCandidate = some retained) := by
  intro events planner
  have h : Owned events planner := run_owned sections
  refine ⟨reserved_increasing sections, h.distinct, ?_, ?_, ?_, ?_⟩
  · intro first hFirst second hSecond hSame
    exact registration_unique sections hFirst hSecond hSame
  · intro locked next
    have hChange := promotion_of_change sections locked
    refine ⟨?_, hChange⟩
    rcases hChange with ⟨hStore, -⟩ | ⟨generation, command, certificate, -, -, -, hAbove, hStore, -⟩
    · change planner.plannerWarmStart.generation ≤ (planner.step locked).1.plannerWarmStart.generation
      rw [hStore]
      exact UInt64.le_refl _
    · change planner.plannerWarmStart.generation ≤ (planner.step locked).1.plannerWarmStart.generation
      rw [hStore]
      exact UInt64.le_of_lt hAbove
  · intro generation hStaged hRetained
    exact unheld_unchanged hStaged hRetained
  · intro generation next
    exact discard_other

end UavNavigation.PlannerCommands
