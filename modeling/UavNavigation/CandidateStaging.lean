import UavNavigation.CommandStore

/-!
# Staged candidates of the planner

The sections of `planner_core/planner.cpp` under the commit mutex. A proposal
waits in one of two slots until the execution names its generation: the slot of
the solver and the slot of the heading worker. Both take their generations from
one counter and both are promoted into one command store.
-/

namespace UavNavigation

set_option autoImplicit false

open FloatOps

/-- `ExpTraj`. `P` is a polytope of its corridor. -/
structure ExpTraj (D P : Type) where
  posTraj : PieceTrajectory D
  yawTraj : PieceTrajectory D
  startWT : D
  sfc : List P
  flagConnectedGoal : Bool
  flagPreserveIncomingRouteTangent : Bool
  flagEmpty : Bool
  onBackupStartTT : D
  onBackupEndTT : D
  requiredMainPrefixDurationTT : D

structure StagedCommandCandidate (D P : Type) where
  command : CommandCandidate D
  certificate : CommandCertificate D
  generation : UInt64
  pendingExpHistory : Option (ExpTraj D P)
  clearNewGoalOnActivation : Bool

/-- The state the commit mutex protects, with the cancellation flag of the solve. -/
structure PlannerCommands (D P : Type) where
  plannerWarmStart : CmdTraj D
  plannerPreviousExp : ExpTraj D P
  stagedPlannerCandidate : Option (StagedCommandCandidate D P)
  retainedHeadingCandidate : Option (StagedCommandCandidate D P)
  lastReservedCandidateGeneration : UInt64
  newGoal : Bool
  solveCancelled : Bool
  commandIdentity : CommandIdentity

/-- What a section reserved, and whether it did what it is for. -/
structure SectionResult where
  reserved : Option UInt64
  done : Bool
deriving DecidableEq

inductive PlannerSection (D P : Type) where
  /-- The commit of `authorizeAndStage`, with the lease it is given. -/
  | authorizeAndStage (candidate : CommandCandidate D) (certificate : CommandCertificate D)
      (commitLease : Option WorldSnapshotIdentity)
  /-- The registration of `buildImmediateHeadingRebindCandidate`: the generation of the command it
  was built from, its request and how the search for the route boundary ends. -/
  | registerHeadingRebind (committedGeneration : UInt64) (candidate : CommandCandidate D)
      (certificate : CommandCertificate D) (request : ExportRequest)
      (boundary : Except CandidateExportFailure (RouteBoundary D))
  | stageCommandHistoryForCandidate (expTraj : ExpTraj D P)
  | discardCommandCandidate
  /-- `setCommandIdentity` after its discard. -/
  | writeCommandIdentity (identity : CommandIdentity)
  | discardRetainedPositionHeadingCandidate (expectedGeneration : UInt64)
  | onExecutionTimelineActivated (generation : UInt64)
  /-- The flag is set by `cancelActiveSolve` and cleared by the next solve. -/
  | setSolveCancelled (cancelled : Bool)

namespace PlannerCommands
variable {D P : Type}

section Initial
variable [FloatOps D]

def initialExp : ExpTraj D P where
  posTraj := PieceTrajectory.none
  yawTraj := PieceTrajectory.none
  startWT := lit 0
  sfc := []
  flagConnectedGoal := false
  flagPreserveIncomingRouteTangent := false
  flagEmpty := true
  onBackupStartTT := lit (-1)
  onBackupEndTT := lit (-1)
  requiredMainPrefixDurationTT := lit 0

def initial : PlannerCommands D P where
  plannerWarmStart := CmdTraj.initial
  plannerPreviousExp := initialExp
  stagedPlannerCandidate := none
  retainedHeadingCandidate := none
  lastReservedCandidateGeneration := 0
  newGoal := true
  solveCancelled := false
  commandIdentity := CommandIdentity.none

end Initial

/-- The generation `reserveCandidateGenerationLocked` gives out. -/
def reserveCandidateGeneration (planner : PlannerCommands D P) : Option UInt64 :=
  let generationFloor :=
    if planner.plannerWarmStart.generation < planner.lastReservedCandidateGeneration then
      planner.lastReservedCandidateGeneration
    else planner.plannerWarmStart.generation
  if generationFloor == CmdTraj.maxGeneration then none else some (generationFloor + 1)

def holdsRebind (slot : Option (StagedCommandCandidate D P)) : Bool :=
  slot.any (·.command.retainedPositionHeadingRebind)

def holdsGeneration (generation : UInt64) (slot : Option (StagedCommandCandidate D P)) : Bool :=
  slot.any (·.generation == generation)

def stageCommandHistoryForCandidate (planner : PlannerCommands D P) (expTraj : ExpTraj D P) :
    PlannerCommands D P × Bool :=
  if expTraj.flagEmpty then (planner, false)
  else
    match planner.stagedPlannerCandidate with
    | none => (planner, false)
    | some staged =>
      ({ planner with
          stagedPlannerCandidate := some
            { staged with
              pendingExpHistory := some expTraj
              clearNewGoalOnActivation := true } }, true)

def discardCommandCandidate (planner : PlannerCommands D P) : PlannerCommands D P :=
  if !holdsRebind planner.stagedPlannerCandidate then { planner with stagedPlannerCandidate := none }
  else planner

def discardRetainedPositionHeadingCandidate (planner : PlannerCommands D P)
    (expectedGeneration : UInt64) : PlannerCommands D P × Bool :=
  if expectedGeneration == 0 then (planner, false)
  else if holdsGeneration expectedGeneration planner.retainedHeadingCandidate then
    ({ planner with retainedHeadingCandidate := none }, true)
  else if holdsGeneration expectedGeneration planner.stagedPlannerCandidate &&
      holdsRebind planner.stagedPlannerCandidate then
    ({ planner with stagedPlannerCandidate := none }, true)
  else (planner, false)

/-- The candidate the generation names, and the planner once its slot is reset. -/
def takeOwner (planner : PlannerCommands D P) (generation : UInt64) :
    Option (StagedCommandCandidate D P × PlannerCommands D P) :=
  if holdsGeneration generation planner.stagedPlannerCandidate then
    planner.stagedPlannerCandidate.map fun staged =>
      (staged, { planner with stagedPlannerCandidate := none })
  else if holdsGeneration generation planner.retainedHeadingCandidate then
    planner.retainedHeadingCandidate.map fun staged =>
      (staged, { planner with retainedHeadingCandidate := none })
  else none

section Sections
variable [Floating D]

def authorizeAndStage (planner : PlannerCommands D P) (candidate : CommandCandidate D)
    (certificate : CommandCertificate D) (commitLease : Option WorldSnapshotIdentity) :
    PlannerCommands D P × SectionResult :=
  match commitLease with
  | none => (planner, ⟨none, false⟩)
  | some validatedWorld =>
    if planner.solveCancelled then (planner, ⟨none, false⟩)
    else if !planner.plannerWarmStart.canCommitCandidate candidate then (planner, ⟨none, false⟩)
    else if holdsRebind planner.stagedPlannerCandidate then (planner, ⟨none, false⟩)
    else
      match planner.reserveCandidateGeneration with
      | none => (planner, ⟨none, false⟩)
      | some generation =>
        ({ planner with
            lastReservedCandidateGeneration := generation
            stagedPlannerCandidate := some
              { command := candidate
                certificate := { certificate with validatedWorld := validatedWorld }
                generation := generation
                pendingExpHistory := none
                clearNewGoalOnActivation := false } }, ⟨some generation, true⟩)

def registerHeadingRebind (planner : PlannerCommands D P) (committedGeneration : UInt64)
    (candidate : CommandCandidate D) (certificate : CommandCertificate D) (request : ExportRequest)
    (boundary : Except CandidateExportFailure (RouteBoundary D)) :
    PlannerCommands D P × SectionResult :=
  let current := planner.plannerWarmStart.snapshot
  if current.generation != committedGeneration ||
      current.identity.localizationEpoch != request.localizationEpoch ||
      planner.retainedHeadingCandidate.isSome ||
      !planner.plannerWarmStart.canCommitCandidate candidate then (planner, ⟨none, false⟩)
  else
    match planner.reserveCandidateGeneration with
    | none => (planner, ⟨none, false⟩)
    | some generation =>
      let reserved := { planner with lastReservedCandidateGeneration := generation }
      match exportStagedCommandCandidate candidate.toBundle certificate
          { request with generation := generation.toNat } boundary with
      | .error _ => (reserved, ⟨some generation, false⟩)
      | .ok _ =>
        ({ reserved with
            retainedHeadingCandidate := some
              { command := candidate
                certificate := certificate
                generation := generation
                pendingExpHistory := none
                clearNewGoalOnActivation := false } }, ⟨some generation, true⟩)

variable [MathLibrary D]

def promote (planner : PlannerCommands D P) (staged : StagedCommandCandidate D P)
    (generation : UInt64) : PlannerCommands D P :=
  let committed :=
    planner.plannerWarmStart.commitCandidate staged.command staged.certificate staged.generation
  if !committed.2 then planner
  else
    { planner with
      plannerWarmStart := committed.1
      plannerPreviousExp := staged.pendingExpHistory.getD planner.plannerPreviousExp
      newGoal := planner.newGoal && !staged.clearNewGoalOnActivation
      retainedHeadingCandidate :=
        planner.retainedHeadingCandidate.filter fun retained => !(retained.generation < generation) }

def onExecutionTimelineActivated (planner : PlannerCommands D P) (generation : UInt64) :
    PlannerCommands D P :=
  match planner.takeOwner generation with
  | none => planner
  | some (staged, remaining) => remaining.promote staged generation

def step (planner : PlannerCommands D P) : PlannerSection D P → PlannerCommands D P × SectionResult
  | .authorizeAndStage candidate certificate commitLease =>
    planner.authorizeAndStage candidate certificate commitLease
  | .registerHeadingRebind committedGeneration candidate certificate request boundary =>
    planner.registerHeadingRebind committedGeneration candidate certificate request boundary
  | .stageCommandHistoryForCandidate expTraj =>
    let staged := planner.stageCommandHistoryForCandidate expTraj
    (staged.1, ⟨none, staged.2⟩)
  | .discardCommandCandidate => (planner.discardCommandCandidate, ⟨none, true⟩)
  | .writeCommandIdentity identity => ({ planner with commandIdentity := identity }, ⟨none, true⟩)
  | .discardRetainedPositionHeadingCandidate expectedGeneration =>
    let discarded := planner.discardRetainedPositionHeadingCandidate expectedGeneration
    (discarded.1, ⟨none, discarded.2⟩)
  | .onExecutionTimelineActivated generation =>
    (planner.onExecutionTimelineActivated generation, ⟨none, true⟩)
  | .setSolveCancelled cancelled => ({ planner with solveCancelled := cancelled }, ⟨none, true⟩)

end Sections

end PlannerCommands

end UavNavigation
