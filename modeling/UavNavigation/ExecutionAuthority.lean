import UavNavigation.CandidateBundle

/-!
# Execution lifecycle and recovery states

`execution_recovery_state.hpp` and `execution_lifecycle.hpp`. The five facets
of the lifecycle are independent facts; only the recovery facet moves through
a transition function.
-/

namespace UavNavigation

set_option autoImplicit false

inductive ExecutionRecoveryState where
  | initialHold
  | trackMain
  | trackBackup
  | emergencyBrake
  | stoppedRecovery
  | px4Hold
deriving DecidableEq

inductive ExecutionRecoveryEvent where
  | mainCommitted
  | backupActivated
  | emergencyCommitted
  | certifiedStopObserved
  | terminalStopCompleted
  | emergencyCertificationFailed
deriving DecidableEq

def executionRecoveryStateKnown (state : ExecutionRecoveryState) : Bool :=
  state == .initialHold || state == .trackMain || state == .trackBackup ||
    state == .emergencyBrake || state == .stoppedRecovery || state == .px4Hold

def transitionExecutionRecovery (state : ExecutionRecoveryState)
    (event : ExecutionRecoveryEvent) : ExecutionRecoveryState :=
  if !executionRecoveryStateKnown state then .px4Hold
  else if state = .px4Hold then state
  else if event = .emergencyCertificationFailed then .px4Hold
  else
    match state with
    | .initialHold =>
      if event = .mainCommitted then .trackMain
      else if event = .backupActivated then .trackBackup
      else if event = .emergencyCommitted then .emergencyBrake
      else state
    | .trackMain =>
      if event = .backupActivated then .trackBackup
      else if event = .emergencyCommitted then .emergencyBrake
      else if event = .terminalStopCompleted then .stoppedRecovery
      else state
    | .trackBackup | .emergencyBrake =>
      if event = .certifiedStopObserved then .stoppedRecovery else state
    | .stoppedRecovery => if event = .mainCommitted then .trackMain else state
    | .px4Hold => state

def ExecutionRecoveryState.braking (state : ExecutionRecoveryState) : Prop :=
  state = .trackBackup ∨ state = .emergencyBrake

@[simp] theorem transition_px4Hold (event : ExecutionRecoveryEvent) :
    transitionExecutionRecovery .px4Hold event = .px4Hold := by
  cases event <;> rfl

theorem transition_braking {state : ExecutionRecoveryState} (h : state.braking)
    (event : ExecutionRecoveryEvent) :
    (event = .certifiedStopObserved ∧ transitionExecutionRecovery state event = .stoppedRecovery) ∨
    (event = .emergencyCertificationFailed ∧ transitionExecutionRecovery state event = .px4Hold) ∨
    transitionExecutionRecovery state event = state := by
  rcases h with rfl | rfl <;> cases event <;> decide

inductive ExecutionPhase where
  | initialHold
  | trackingMain
  | trackingBackup
  | stoppedHold
  | px4Hold
deriving DecidableEq

inductive ExecutionExposure where
  | unavailable
  | available
  | suspended
  | failed
deriving DecidableEq

inductive ExecutionSafetyOwnership where
  | nominal
  | safetySuffix
deriving DecidableEq

inductive ExecutionRestartRequest where
  | none
  | fromRest
deriving DecidableEq

structure ExecutionLifecycleState where
  phase : ExecutionPhase := .initialHold
  recovery : ExecutionRecoveryState := .initialHold
  exposure : ExecutionExposure := .unavailable
  safety : ExecutionSafetyOwnership := .nominal
  restart : ExecutionRestartRequest := .none
deriving DecidableEq

namespace ExecutionLifecycleState

/-- The lifecycle claims no command: nothing exposed, tracked, suffixed or to be restarted. -/
def commandless (lifecycle : ExecutionLifecycleState) : Prop :=
  lifecycle.exposure ≠ .available ∧
    (lifecycle.phase ≠ .trackingMain ∧ lifecycle.phase ≠ .trackingBackup ∧
      lifecycle.phase ≠ .stoppedHold) ∧
    lifecycle.safety = .nominal ∧ lifecycle.restart = .none

def claimsMotion (lifecycle : ExecutionLifecycleState) : Bool :=
  lifecycle.phase == .trackingMain || lifecycle.phase == .trackingBackup ||
    lifecycle.phase == .stoppedHold || lifecycle.safety == .safetySuffix ||
    lifecycle.restart == .fromRest

instance (lifecycle : ExecutionLifecycleState) : Decidable lifecycle.commandless :=
  inferInstanceAs (Decidable (_ ∧ _))

theorem initial_commandless : commandless {} := by decide

theorem commandless_iff (lifecycle : ExecutionLifecycleState) : lifecycle.commandless ↔
      lifecycle.exposure ≠ .available ∧ lifecycle.claimsMotion = false := by
  rcases lifecycle with ⟨phase, _, _, safety, restart⟩
  cases phase <;> cases safety <;> cases restart <;> simp [commandless, claimsMotion]

end ExecutionLifecycleState

/-! ## The execution authority

`execution_authority.hpp`: the sole owner of the command that may reach the sampler. A
public operation is one critical section of the store mutex. The world publication and
the anchor reservation work between two; they take both states, the one their first
section saw and the one their second finds. Callbacks enter as their outcome. The
lock-wait diagnostic is not modelled. -/

open FloatOps

/-- The fields of the goal message which the authority reads. -/
structure NavigationGoal where
  missionId : String
  waypointIndex : Nat
  requestId : Nat
deriving DecidableEq

abbrev GoalPtr := SharedPtr NavigationGoal

abbrev BundlePtr (D F : Type) := SharedPtr (CandidateBundle D F)

structure CommitToken where
  worldIdentity : WorldSnapshotIdentity
  goalEpoch : Nat
  transactionId : Nat
deriving DecidableEq

inductive ConditionalExecutionMutation where
  | applied
  | stale
  | alreadyFailed
deriving DecidableEq

inductive CommitDecision where
  | committed
  | noActiveGoal
  | worldAdvanced
  | goalAdvanced
  | invalidCandidate
  | cancelled
  | finalizationFailed
  | predecessorAdvanced
  | admissionRejected
deriving DecidableEq

inductive StageDecision where
  | staged
  | noActiveGoal
  | worldAdvanced
  | goalAdvanced
  | invalidCandidate
  | invalidAnchor
  | activationTooLate
  | cancelled
  | finalizationFailed
  | predecessorAdvanced
deriving DecidableEq

structure ActiveRecord (D F : Type) where
  goal : Option GoalPtr := none
  bundle : Option (BundlePtr D F) := none
deriving DecidableEq

structure StagedRecord (D F : Type) where
  goal : Option GoalPtr := none
  bundle : Option (BundlePtr D F) := none
  activationNs : Int := 0
deriving DecidableEq

structure ExecutionAuthority (D F : Type) where
  admissionGoalEpoch : Nat := 0
  admissionLocalizationEpoch : Nat := 0
  timelineVersion : Nat := 0
  activeLineageVersion : Nat := 0
  lastTransactionId : Nat := 0
  worldIdentity : Option WorldSnapshotIdentity := none
  active : ActiveRecord D F := {}
  staged : StagedRecord D F := {}
  lifecycle : ExecutionLifecycleState := {}
deriving DecidableEq

structure ExecutionAuthoritySnapshot (D F : Type) where
  version : Nat
  worldIdentity : Option WorldSnapshotIdentity
  active : Option (BundlePtr D F)
  pending : Option (BundlePtr D F)
  pendingActivationNs : Int
  activeGoal : Option GoalPtr
  pendingGoal : Option GoalPtr
  activeLineage : Nat
  admissionGoalEpoch : Nat
  admissionLocalizationEpoch : Nat
  lifecycle : ExecutionLifecycleState
deriving DecidableEq

/-- The arguments of one world publication. The two copies are the addresses
which `make_shared` returns for the recertified bundles, `none` when it throws. -/
structure WorldRefresh (D F : Type) where
  identity : WorldSnapshotIdentity
  expectedTimelineVersion : Nat
  expectedBundle : Option (BundlePtr D F)
  retainValidatedBundle : Bool
  refreshedValidUntilNs : Int
  expectedPending : Option (BundlePtr D F)
  retainValidatedPending : Bool
  activeCopy : Option Nat
  pendingCopy : Option Nat
deriving DecidableEq

namespace ExecutionAuthority

variable {D F : Type}

def bumpTimeline (s : ExecutionAuthority D F) : ExecutionAuthority D F :=
  { s with timelineVersion := next64 s.timelineVersion }

def bumpLineage (s : ExecutionAuthority D F) : ExecutionAuthority D F :=
  { s with activeLineageVersion := next64 s.activeLineageVersion }

/-- `if (active_.bundle) ++active_lineage_version_`. -/
def bumpLineageIfActive (s : ExecutionAuthority D F) : ExecutionAuthority D F :=
  { s with
    activeLineageVersion := if s.active.bundle.isSome then next64 s.activeLineageVersion
      else s.activeLineageVersion }

def noteLifecycleChangeLocked (before : ExecutionLifecycleState) (s : ExecutionAuthority D F) :
    ExecutionAuthority D F :=
  if s.lifecycle = before then s else s.bumpTimeline

def activeBundleIdentityMatchesLocked (s : ExecutionAuthority D F)
    (bundle : CandidateBundle D F) : Bool :=
  match s.active.bundle, s.active.goal with
  | some active, some _ =>
    bundle.localizationEpoch != 0 && bundle.goalEpoch != 0 && bundle.requestId != 0 &&
      bundle.bundleGeneration != 0 &&
      active.object.localizationEpoch == bundle.localizationEpoch &&
      active.object.goalEpoch == bundle.goalEpoch &&
      active.object.requestId == bundle.requestId &&
      active.object.bundleGeneration == bundle.bundleGeneration
  | _, _ => false

/-- `failClosedLifecycleLocked` overwrites every facet. -/
def failClosedLifecycle : ExecutionLifecycleState :=
  { phase := .px4Hold, recovery := .px4Hold, exposure := .failed, safety := .nominal,
    restart := .none }

def safetyRole (role : CandidateRole) : Bool := role == .backup || role == .emergency

/-- The lifecycle after a commit or an activation of `bundle` for `goal`. -/
def committedLifecycle (s : ExecutionAuthority D F) (bundle : CandidateBundle D F)
    (previousGeneration : Nat) : ExecutionLifecycleState :=
  if s.lifecycle.exposure = .failed || bundle.bundleGeneration ≤ previousGeneration ||
      bundle.localizationEpoch != s.admissionLocalizationEpoch ||
      bundle.goalEpoch != s.admissionGoalEpoch ||
      s.active.goal.all (fun goal => goal.object.requestId != bundle.requestId) then s.lifecycle
  else
    { s.lifecycle with
      exposure := .available
      safety := if safetyRole bundle.role then .safetySuffix else .nominal
      phase := if safetyRole bundle.role then .trackingBackup else .trackingMain
      recovery := transitionExecutionRecovery s.lifecycle.recovery
        (if bundle.role = .emergency then .emergencyCommitted
          else if bundle.role = .backup then .backupActivated
          else .mainCommitted) }

def committedLifecycleLocked (s : ExecutionAuthority D F) (bundle : CandidateBundle D F)
    (previousGeneration : Nat) : ExecutionAuthority D F :=
  { s with lifecycle := s.committedLifecycle bundle previousGeneration }

/-- A match returns the two pointers, which are then known not to be null. -/
def goalMatchesCandidate (goal : Option GoalPtr) (candidate : Option (BundlePtr D F)) :
    Option (GoalPtr × BundlePtr D F) :=
  match goal, candidate with
  | some goal, some candidate =>
    if !goal.object.missionId.isEmpty && goal.object.requestId != 0 &&
        goal.object.requestId == candidate.object.requestId then some (goal, candidate)
    else none
  | _, _ => none

/-- What clearing the active record leaves of the lifecycle: only an available
exposure is withdrawn. -/
def withdrawnLifecycle (lifecycle : ExecutionLifecycleState) : ExecutionLifecycleState :=
  if lifecycle.exposure = .available then { lifecycle with exposure := .unavailable }
  else lifecycle

def clearActiveLocked (s : ExecutionAuthority D F) : ExecutionAuthority D F :=
  { s with active := {}, lifecycle := withdrawnLifecycle s.lifecycle }

def clearStagedLocked (s : ExecutionAuthority D F) : ExecutionAuthority D F :=
  { s with staged := {} }

def enforceInvariantLocked (s : ExecutionAuthority D F) : ExecutionAuthority D F :=
  if s.active.bundle.isNone then s.clearStagedLocked else s

def advances (current next : WorldSnapshotIdentity) : Bool :=
  if next.localizationEpoch ≠ current.localizationEpoch then
    current.localizationEpoch < next.localizationEpoch
  else if next.generation ≠ current.generation then current.generation < next.generation
  else current.revision < next.revision && current.observationStampNs ≤ next.observationStampNs

/-- `world_identity_` is set and is the given identity. -/
def worldIs (s : ExecutionAuthority D F) (identity : WorldSnapshotIdentity) : Bool :=
  s.worldIdentity.any (sameWorldSnapshotIdentity · identity)

def activeGeneration (s : ExecutionAuthority D F) : Nat :=
  match s.active.bundle with
  | some bundle => bundle.object.bundleGeneration
  | none => 0

def setAdmissionGoalEpoch (s : ExecutionAuthority D F) (goalEpoch : Nat)
    (retainCommittedBundle : Bool) : ExecutionAuthority D F × Bool :=
  if goalEpoch = 0 then (s, false)
  else if goalEpoch < s.admissionGoalEpoch then (s, false)
  else
    let s := { s with
      admissionGoalEpoch := goalEpoch
      admissionLocalizationEpoch := match s.worldIdentity with
        | some world => world.localizationEpoch
        | none => s.admissionLocalizationEpoch }
    let s := if !retainCommittedBundle && s.active.bundle.isSome then
        s.clearActiveLocked.bumpLineage
      else s
    let s := if !retainCommittedBundle then { s with lifecycle := {} } else s
    let s := s.clearStagedLocked
    (s.enforceInvariantLocked.bumpTimeline, true)

def retainsActive (s : ExecutionAuthority D F) (localizationEpoch : Nat)
    (retainActive : Bool) : Bool :=
  match s.active.bundle, s.active.goal with
  | some bundle, some _ =>
    retainActive && s.lifecycle.exposure == .available &&
      bundle.object.localizationEpoch == localizationEpoch
  | _, _ => false

def beginGoal (s : ExecutionAuthority D F) (localizationEpoch goalEpoch : Nat)
    (retainActive : Bool) : ExecutionAuthority D F × Bool :=
  if localizationEpoch = 0 || goalEpoch = 0 then (s, false)
  else if goalEpoch < s.admissionGoalEpoch || localizationEpoch < s.admissionLocalizationEpoch then
    (s, false)
  else
    let retain := s.retainsActive localizationEpoch retainActive
    let s := { s with
      admissionLocalizationEpoch := localizationEpoch, admissionGoalEpoch := goalEpoch }
    let s := if !retain then { s.bumpLineageIfActive.clearActiveLocked with lifecycle := {} } else s
    (s.clearStagedLocked.bumpTimeline, true)

def reset (s : ExecutionAuthority D F) (localizationEpoch : Nat) : ExecutionAuthority D F :=
  let s := s.bumpLineageIfActive.clearActiveLocked.clearStagedLocked
  let s := { s with
    admissionLocalizationEpoch := localizationEpoch, admissionGoalEpoch := 0, lifecycle := {} }
  s.bumpTimeline

def clearGoal (s : ExecutionAuthority D F) (localizationEpoch : Nat) : ExecutionAuthority D F :=
  s.reset localizationEpoch

/-- An edit of the lifecycle followed by `noteLifecycleChangeLocked`. -/
def editLifecycle (s : ExecutionAuthority D F)
    (edit : ExecutionLifecycleState → ExecutionLifecycleState) : ExecutionAuthority D F :=
  noteLifecycleChangeLocked s.lifecycle { s with lifecycle := edit s.lifecycle }

/-- The observations that name the active bundle and are refused once failed. -/
def observeActive (s : ExecutionAuthority D F) (bundle : CandidateBundle D F)
    (edit : ExecutionLifecycleState → ExecutionLifecycleState) : ExecutionAuthority D F × Bool :=
  if s.lifecycle.exposure = .failed || !s.activeBundleIdentityMatchesLocked bundle then (s, false)
  else (s.editLifecycle edit, true)

def failClosed (s : ExecutionAuthority D F) : ExecutionAuthority D F :=
  s.editLifecycle fun _ => failClosedLifecycle

def suspendCommand (s : ExecutionAuthority D F) : ExecutionAuthority D F :=
  if s.lifecycle.exposure ≠ .failed then
    s.editLifecycle fun lifecycle => { lifecycle with exposure := .suspended }
  else s

def observeRetainedCommand (s : ExecutionAuthority D F) (bundle : CandidateBundle D F)
    (safetySuffixActive : Bool) : ExecutionAuthority D F × Bool :=
  s.observeActive bundle fun lifecycle =>
    { lifecycle with
      exposure := .available
      safety := if safetySuffixActive then .safetySuffix else .nominal
      phase := if safetyRole bundle.role then .trackingBackup else .trackingMain }

def observeSampledSafetyRole (s : ExecutionAuthority D F) (bundle : CandidateBundle D F)
    (sampledRole : CandidateRole) : ExecutionAuthority D F × Bool :=
  if !safetyRole sampledRole then (s, false)
  else s.observeActive bundle fun lifecycle =>
    { lifecycle with
      phase := .trackingBackup
      safety := .safetySuffix
      recovery := transitionExecutionRecovery lifecycle.recovery
        (if sampledRole = .emergency then .emergencyCommitted else .backupActivated) }

/-- Unlike its siblings this one needs an available command, not merely one that has not failed. -/
def preserveSafetySuffix (s : ExecutionAuthority D F) (bundle : CandidateBundle D F) :
    ExecutionAuthority D F × Bool :=
  if s.lifecycle.exposure ≠ .available || !s.activeBundleIdentityMatchesLocked bundle then
    (s, false)
  else (s.editLifecycle fun lifecycle => { lifecycle with safety := .safetySuffix }, true)

def requestRestartFromRest (s : ExecutionAuthority D F) (bundle : CandidateBundle D F) :
    ExecutionAuthority D F × Bool :=
  s.observeActive bundle fun lifecycle => { lifecycle with restart := .fromRest }

def clearRestartFromRest (s : ExecutionAuthority D F) : ExecutionAuthority D F :=
  if s.lifecycle.restart ≠ .none then
    s.editLifecycle fun lifecycle => { lifecycle with restart := .none }
  else s

def applyRecoveryEvent (s : ExecutionAuthority D F) (event : ExecutionRecoveryEvent)
    (bundle : CandidateBundle D F) : ExecutionAuthority D F × Bool :=
  s.observeActive bundle fun lifecycle =>
    { lifecycle with recovery := transitionExecutionRecovery lifecycle.recovery event }

def stoppedHold (s : ExecutionAuthority D F) (bundle : CandidateBundle D F) :
    ExecutionAuthority D F × Bool :=
  s.observeActive bundle fun lifecycle =>
    { lifecycle with phase := .stoppedHold, exposure := .available, safety := .nominal }

def snapshot (s : ExecutionAuthority D F) : ExecutionAuthoritySnapshot D F :=
  ⟨s.timelineVersion, s.worldIdentity, s.active.bundle, s.staged.bundle, s.staged.activationNs,
    s.active.goal, s.staged.goal, s.activeLineageVersion, s.admissionGoalEpoch,
    s.admissionLocalizationEpoch, s.lifecycle⟩

section Pointers
variable [DecidableEq D] [DecidableEq F]

def isCurrentSnapshot (s : ExecutionAuthority D F)
    (expected : ExecutionAuthoritySnapshot D F) : Bool :=
  s.timelineVersion == expected.version && s.active.bundle == expected.active &&
    s.active.goal == expected.activeGoal && s.activeLineageVersion == expected.activeLineage &&
    s.admissionGoalEpoch == expected.admissionGoalEpoch &&
    s.admissionLocalizationEpoch == expected.admissionLocalizationEpoch

def failClosedIfCurrentSnapshot (s : ExecutionAuthority D F)
    (expected : ExecutionAuthoritySnapshot D F) :
    ExecutionAuthority D F × ConditionalExecutionMutation :=
  if !s.isCurrentSnapshot expected then (s, .stale)
  else if s.lifecycle.exposure = .failed then (s, .alreadyFailed)
  else (s.editLifecycle fun _ => failClosedLifecycle, .applied)

def suspendIfCurrentSnapshot (s : ExecutionAuthority D F)
    (expected : ExecutionAuthoritySnapshot D F) : ExecutionAuthority D F × Bool :=
  if expected.active.isNone || expected.activeGoal.isNone ||
      s.timelineVersion ≠ expected.version || s.active.bundle ≠ expected.active ||
      s.active.goal ≠ expected.activeGoal || s.activeLineageVersion ≠ expected.activeLineage ||
      s.lifecycle.exposure = .failed then (s, false)
  else (s.editLifecycle fun lifecycle => { lifecycle with exposure := .suspended }, true)

/-- The lifecycle handed to the exposure callback, when it is invoked, and the result. -/
def publishIfCurrent (s : ExecutionAuthority D F) (expected : Option (BundlePtr D F))
    (expectedGoalEpoch : Nat) (expose : ExecutionLifecycleState → Callback) :
    Option ExecutionLifecycleState × Bool :=
  match expected, s.active.bundle with
  | some expected, some active =>
    if active ≠ expected || s.lifecycle.exposure ≠ .available ||
        active.object.goalEpoch ≠ expectedGoalEpoch ||
        !s.worldIs expected.object.worldIdentity then (none, false)
    else (some s.lifecycle, (expose s.lifecycle).succeeded)
  | _, _ => (none, false)

def invalidateIfCurrent (s : ExecutionAuthority D F)
    (expected : ExecutionAuthoritySnapshot D F) : ExecutionAuthority D F × Bool :=
  if s.timelineVersion ≠ expected.version || s.active.bundle ≠ expected.active then (s, false)
  else (s.clearActiveLocked.bumpLineage.clearStagedLocked.bumpTimeline, true)

end Pointers

def invalidate (s : ExecutionAuthority D F) : ExecutionAuthority D F :=
  let s := { s.bumpLineageIfActive with lifecycle := {} }
  s.clearActiveLocked.clearStagedLocked.enforceInvariantLocked.bumpTimeline

section Transactions
variable [Floating D]

/-- The checks which the three commit operations share, in their common order. -/
def admitCommit (s : ExecutionAuthority D F) (expected : CommitToken) (goal : Option GoalPtr)
    (candidate : Option (BundlePtr D F)) :
    Except CommitDecision (GoalPtr × BundlePtr D F) :=
  match goalMatchesCandidate goal candidate with
  | none => .error .invalidCandidate
  | some (goal, candidate) =>
    if !candidate.object.valid || expected.goalEpoch = 0 || expected.transactionId = 0 then
      .error .invalidCandidate
    else if s.admissionGoalEpoch = 0 then .error .noActiveGoal
    else if s.lifecycle.exposure = .failed then .error .cancelled
    else if s.admissionGoalEpoch ≠ expected.goalEpoch ||
        candidate.object.goalEpoch ≠ expected.goalEpoch then .error .goalAdvanced
    else if !s.worldIs expected.worldIdentity || !s.worldIs candidate.object.worldIdentity then
      .error .worldAdvanced
    else if expected.transactionId ≤ s.lastTransactionId then .error .cancelled
    else if s.active.bundle.any
        (fun active => candidate.object.bundleGeneration < active.object.bundleGeneration) then
      .error .predecessorAdvanced
    else .ok (goal, candidate)

/-- The swap of the active record. The lineage counter is advanced by the callers,
one of them only after its finalizer. -/
def swapActiveLocked (s : ExecutionAuthority D F) (expected : CommitToken) (goal : GoalPtr)
    (candidate : BundlePtr D F) : ExecutionAuthority D F :=
  let priorGeneration := s.activeGeneration
  let s := { s with active := ⟨some goal, some candidate⟩ }
  let s := s.committedLifecycleLocked candidate.object priorGeneration
  let s := s.clearStagedLocked
  { s with lastTransactionId := expected.transactionId }.bumpTimeline

def tryCommit (s : ExecutionAuthority D F) (expected : CommitToken) (goal : Option GoalPtr)
    (candidate : Option (BundlePtr D F)) : ExecutionAuthority D F × CommitDecision :=
  match s.admitCommit expected goal candidate with
  | .error decision => (s, decision)
  | .ok (goal, candidate) => ((s.swapActiveLocked expected goal candidate).bumpLineage, .committed)

def tryCommitIfCurrent [DecidableEq D] [DecidableEq F] (s : ExecutionAuthority D F)
    (expected : CommitToken) (predecessor : ExecutionAuthoritySnapshot D F)
    (goal : Option GoalPtr) (candidate : Option (BundlePtr D F)) (admission : Callback) :
    ExecutionAuthority D F × CommitDecision :=
  match s.admitCommit expected goal candidate with
  | .error decision => (s, decision)
  | .ok (goal, candidate) =>
    if s.timelineVersion ≠ predecessor.version || s.active.bundle ≠ predecessor.active ||
        s.staged.bundle ≠ predecessor.pending ||
        s.staged.activationNs ≠ predecessor.pendingActivationNs then (s, .predecessorAdvanced)
    else if !admission.succeeded then (s, .admissionRejected)
    else ((s.swapActiveLocked expected goal candidate).bumpLineage, .committed)

def tryCommitAndFinalize (s : ExecutionAuthority D F) (expected : CommitToken)
    (goal : Option GoalPtr) (candidate : Option (BundlePtr D F)) (finalize : Callback) :
    ExecutionAuthority D F × CommitDecision :=
  match s.admitCommit expected goal candidate with
  | .error decision => (s, decision)
  | .ok (goal, candidate) =>
    let swapped := s.swapActiveLocked expected goal candidate
    if !finalize.succeeded then
      ({ swapped with
          lifecycle := s.lifecycle
          active := s.active
          staged := s.staged
          lastTransactionId := s.lastTransactionId }.bumpTimeline, .finalizationFailed)
    else (swapped.bumpLineage, .committed)

def mainEndNs (bundle : CandidateBundle D F) (endNs : Int) : Option Int :=
  if bundle.backupAvailable then
    secondsSumToNanoseconds bundle.startWallTimeS bundle.backupStartTimeS
  else some endNs

def bundleEndNs (bundle : CandidateBundle D F) : Int :=
  if 0 < bundle.declaredEndNs then bundle.declaredEndNs else bundle.validUntilNs

def predecessorMatchesAnchor (predecessor : CandidateBundle D F) (anchor : ExecutionAnchor D) :
    Bool :=
  if !anchor.valid || !predecessor.valid ||
      predecessor.bundleGeneration ≠ anchor.activeBundleGeneration ||
      predecessor.localizationEpoch ≠ anchor.localizationEpoch ||
      predecessor.goalEpoch ≠ anchor.goalEpoch || predecessor.requestId ≠ anchor.requestId ||
      !sameWorldSnapshotIdentity predecessor.worldIdentity anchor.commandWorld then false
  else
    let endNs := bundleEndNs predecessor
    match secondsToNanoseconds predecessor.startWallTimeS, mainEndNs predecessor endNs with
    | some startNs, some mainEndNs =>
      if anchor.activationStampNs < predecessor.validFromNs ||
          predecessor.validUntilNs < anchor.activationStampNs ||
          anchor.activationStampNs < startNs || mainEndNs ≠ anchor.activeMainEndNs ||
          endNs ≠ anchor.activeBundleEndNs || endNs < anchor.activationStampNs then false
      else
        let elapsedNs := anchor.activationStampNs - startNs
        if elapsedNs < 0 then false
        else predecessor.scheduledRole (ofInt elapsedNs * lit 1e-9) == some anchor.activeRole
    | _, _ => false

/-- The checks which both staging operations share, in their common order. -/
def admitStage (s : ExecutionAuthority D F) (expected : CommitToken) (anchor : ExecutionAnchor D)
    (goal : Option GoalPtr) (candidate : Option (BundlePtr D F)) :
    Except StageDecision (GoalPtr × BundlePtr D F) :=
  match goalMatchesCandidate goal candidate with
  | none => .error .invalidCandidate
  | some (goal, candidate) =>
    if !candidate.object.valid || expected.goalEpoch = 0 || expected.transactionId = 0 then
      .error .invalidCandidate
    else if !anchor.valid || candidate.object.validFromNs ≠ anchor.activationStampNs ||
        candidate.object.activationStampNs ≠ anchor.activationStampNs ||
        candidate.object.localizationEpoch ≠ anchor.localizationEpoch ||
        !sameWorldSnapshotIdentity candidate.object.worldIdentity expected.worldIdentity then
      .error .invalidAnchor
    else if s.admissionGoalEpoch = 0 then .error .noActiveGoal
    else if s.lifecycle.exposure = .failed then .error .cancelled
    else if s.admissionGoalEpoch ≠ expected.goalEpoch ||
        candidate.object.goalEpoch ≠ expected.goalEpoch then .error .goalAdvanced
    else if !s.worldIs expected.worldIdentity then .error .worldAdvanced
    else if expected.transactionId ≤ s.lastTransactionId then .error .cancelled
    else if anchor.activeMainEndNs < anchor.activationStampNs ||
        candidate.object.validUntilNs < anchor.activationStampNs then .error .activationTooLate
    else if s.activeLineageVersion ≠ anchor.executionLineageVersion ||
        !s.active.bundle.any (fun active => predecessorMatchesAnchor active.object anchor) then
      .error .predecessorAdvanced
    else .ok (goal, candidate)

def installStagedLocked (s : ExecutionAuthority D F) (expected : CommitToken)
    (anchor : ExecutionAnchor D) (goal : GoalPtr) (candidate : BundlePtr D F) :
    ExecutionAuthority D F :=
  { s with
    staged := ⟨some goal, some candidate, anchor.activationStampNs⟩
    lastTransactionId := expected.transactionId }.bumpTimeline

def stagePending (s : ExecutionAuthority D F) (expected : CommitToken)
    (anchor : ExecutionAnchor D) (goal : Option GoalPtr) (candidate : Option (BundlePtr D F)) :
    ExecutionAuthority D F × StageDecision :=
  match s.admitStage expected anchor goal candidate with
  | .error decision => (s, decision)
  | .ok (goal, candidate) => (s.installStagedLocked expected anchor goal candidate, .staged)

def stagePendingAndFinalize (s : ExecutionAuthority D F) (expected : CommitToken)
    (anchor : ExecutionAnchor D) (goal : Option GoalPtr) (candidate : Option (BundlePtr D F))
    (finalize : Callback) : ExecutionAuthority D F × StageDecision :=
  match s.admitStage expected anchor goal candidate with
  | .error decision => (s, decision)
  | .ok (goal, candidate) =>
    let staged := s.installStagedLocked expected anchor goal candidate
    if !finalize.succeeded then
      ({ staged with staged := s.staged, lastTransactionId := s.lastTransactionId }.bumpTimeline,
        .finalizationFailed)
    else (staged, .staged)

/-- The staged successor may replace the active record at `nowNs`. -/
def successorReady (s : ExecutionAuthority D F) (successor : BundlePtr D F) (nowNs : Int) : Bool :=
  match s.staged.goal, s.active.goal, s.active.bundle with
  | some stagedGoal, some _, some active =>
    stagedGoal.object.requestId == successor.object.requestId &&
      s.worldIs successor.object.worldIdentity &&
      s.admissionGoalEpoch == successor.object.goalEpoch &&
      nowNs ≤ successor.object.validUntilNs && successor.object.valid && active.object.valid &&
      s.worldIs active.object.worldIdentity
  | _, _, _ => false

def activatePendingIfDueAndFinalize [DecidableEq D] [DecidableEq F] (s : ExecutionAuthority D F)
    (nowNs : Int) (expected : ExecutionAuthoritySnapshot D F) (finalize : Nat → Callback) :
    ExecutionAuthority D F × Bool :=
  if s.lifecycle.exposure = .failed then (s, false)
  else if s.staged.bundle.isSome && s.active.bundle.isNone then
    (s.clearStagedLocked.bumpTimeline, false)
  else
    match s.staged.bundle with
    | none => (s, false)
    | some successor =>
      if s.staged.activationNs ≤ 0 || nowNs < s.staged.activationNs then (s, false)
      else if s.timelineVersion ≠ expected.version ||
          s.staged.activationNs ≠ expected.pendingActivationNs then (s, false)
      else if expected.pending.any (fun pending => successor ≠ pending ||
          successor.object.bundleGeneration ≠ pending.object.bundleGeneration) then (s, false)
      else if !s.successorReady successor nowNs then (s.clearStagedLocked.bumpTimeline, false)
      else
        let swapped := { s with active := ⟨s.staged.goal, some successor⟩ }
        let swapped := swapped.clearStagedLocked.bumpTimeline
        if !(finalize successor.object.bundleGeneration).succeeded then
          let restored := { swapped with lifecycle := s.lifecycle, active := s.active }
          (restored.clearStagedLocked.enforceInvariantLocked.bumpTimeline, false)
        else
          ((swapped.committedLifecycleLocked successor.object s.activeGeneration).bumpLineage, true)

/-! ## World publication -/

/-- The recertified copy: a new world identity and a lease that may be renewed
up to the declared endpoint. -/
def recertify (source : CandidateBundle D F) (next : WorldSnapshotIdentity)
    (refreshedUntilNs : Int) : Option (CandidateBundle D F) :=
  let copy := { source with worldIdentity := next }
  let renewed : Option (CandidateBundle D F) :=
    if copy.validUntilNs < refreshedUntilNs then
      if copy.hasDeclaredEndpointMetadata then
        match secondsSumToNanoseconds copy.startWallTimeS copy.durationS with
        | none => none
        | some endpointNs =>
          if endpointNs ≤ 0 then none
          else some { copy with validUntilNs := min refreshedUntilNs endpointNs }
      else some { copy with validUntilNs := refreshedUntilNs }
    else some copy
  renewed.filter (·.valid)

/-- `prepare`: a throwing allocation and a rejected copy both leave a null pointer. -/
def prepare (address : Option Nat) (source : BundlePtr D F) (next : WorldSnapshotIdentity)
    (refreshedUntilNs : Int) : Option (BundlePtr D F) :=
  address.bind fun address => (recertify source.object next refreshedUntilNs).map (⟨address, ·⟩)

end Transactions

section Publication
variable [DecidableEq D] [DecidableEq F]

/-- The caller named the observed bundle, and the observed world certifies it. -/
def exactOwner (priorWorld : Option WorldSnapshotIdentity)
    (expected observed : Option (BundlePtr D F)) : Bool :=
  match priorWorld, expected, observed with
  | some world, some expected, some observed =>
    expected == observed && sameWorldSnapshotIdentity world observed.object.worldIdentity
  | _, _, _ => false

def refusesWorld (s : ExecutionAuthority D F) (identity : WorldSnapshotIdentity) : Bool :=
  s.worldIdentity.any (fun world => !advances world identity)

/-- What the publication decided between its critical sections. -/
structure Prepared (D F : Type) where
  exactActiveOwner : Bool
  prepareActive : Bool
  recertifiedActive : Option (BundlePtr D F)
  recertifiedPending : Option (BundlePtr D F)

def Prepared.activePreparationFailed (p : Prepared D F) : Bool :=
  p.prepareActive && p.recertifiedActive.isNone

def prepareRefresh [Floating D] (seen : ExecutionAuthority D F) (r : WorldRefresh D F) :
    Prepared D F :=
  let exactActiveOwner := exactOwner seen.worldIdentity r.expectedBundle seen.active.bundle
  let prepareActive := r.retainValidatedBundle && exactActiveOwner
  let recertifiedActive := if prepareActive then
      seen.active.bundle.bind (prepare r.activeCopy · r.identity r.refreshedValidUntilNs)
    else none
  let preparePending := prepareActive && r.retainValidatedPending &&
    exactOwner seen.worldIdentity r.expectedPending seen.staged.bundle
  let recertifiedPending := if preparePending && recertifiedActive.isSome then
      seen.staged.bundle.bind (prepare r.pendingCopy · r.identity 0)
    else none
  ⟨exactActiveOwner, prepareActive, recertifiedActive, recertifiedPending⟩

/-- Retire whatever is active. The lifecycle fails closed exactly when a command was live. -/
def retireActiveLocked (s : ExecutionAuthority D F) : ExecutionAuthority D F :=
  { s.bumpLineageIfActive with
    active := {}
    lifecycle := if s.active.bundle.isSome then failClosedLifecycle else s.lifecycle }

/-- The second critical section. The last component says whether the revocation finalizer ran. -/
def publishPrepared (s : ExecutionAuthority D F) (identity : WorldSnapshotIdentity)
    (p : Prepared D F) : ExecutionAuthority D F × WorldCommitDecision × Bool :=
  let revokeExactActive := p.exactActiveOwner && (!p.prepareActive || p.activePreparationFailed)
  if p.activePreparationFailed then
    -- the world transaction is deliberately not consumed
    (s.retireActiveLocked.clearStagedLocked.bumpTimeline, .candidateRejected, revokeExactActive)
  else
    let s := if p.prepareActive then
        { s with active := { s.active with bundle := p.recertifiedActive } }
      else s.retireActiveLocked
    let s := if p.prepareActive && p.recertifiedPending.isSome then
        { s with staged := { s.staged with bundle := p.recertifiedPending } }
      else s.clearStagedLocked
    let s := if s.active.bundle.isNone then s.clearStagedLocked else s
    ({ s with worldIdentity := some identity }.bumpTimeline, .committed, revokeExactActive)

def publishWorldIdentityIfCurrentAndFinalizeRevocation [Floating D]
    (seen s : ExecutionAuthority D F) (r : WorldRefresh D F) :
    ExecutionAuthority D F × WorldCommitDecision × Bool :=
  if r.identity.localizationEpoch = 0 || !r.identity.published then (s, .candidateRejected, false)
  -- first critical section, in the state `seen`
  else if seen.timelineVersion ≠ r.expectedTimelineVersion then (s, .superseded, false)
  else if seen.refusesWorld r.identity then (s, .worldAdvanced, false)
  -- second critical section, in the state `s`
  else if s.timelineVersion ≠ r.expectedTimelineVersion || s.active.bundle ≠ seen.active.bundle ||
      s.staged.bundle ≠ seen.staged.bundle || s.worldIdentity ≠ seen.worldIdentity then
    (s, .superseded, false)
  else if s.refusesWorld r.identity then (s, .worldAdvanced, false)
  else s.publishPrepared r.identity (prepareRefresh seen r)

end Publication

/-- `seen` is the state of the first critical section, `s` that of the last. -/
def reserveAnchor [Floating D] [Evaluator D F] [DecidableEq D] [DecidableEq F]
    (seen s : ExecutionAuthority D F) (requestStampNs activationStampNs : Int) :
    Option (ExecutionAnchor D) :=
  if requestStampNs ≤ 0 || activationStampNs < requestStampNs then none
  else
    match seen.active.bundle, seen.worldIdentity with
    | some predecessor, some world =>
      if !sameWorldSnapshotIdentity world predecessor.object.worldIdentity ||
          activationStampNs < predecessor.object.validFromNs ||
          predecessor.object.validUntilNs < activationStampNs then none
      else
        let endNs := bundleEndNs predecessor.object
        match predecessor.object.sample activationStampNs, mainEndNs predecessor.object endNs with
        | some point, some mainEndNs =>
          if mainEndNs < activationStampNs || endNs < activationStampNs then none
          else
            let anchor : ExecutionAnchor D :=
              { activeBundleGeneration := predecessor.object.bundleGeneration
                executionLineageVersion := seen.activeLineageVersion
                localizationEpoch := predecessor.object.localizationEpoch
                goalEpoch := predecessor.object.goalEpoch
                requestId := predecessor.object.requestId
                requestStampNs := requestStampNs
                activationStampNs := activationStampNs
                state := point
                activeRole := point.role
                activeMainEndNs := mainEndNs
                activeBundleEndNs := endNs
                commandWorld := predecessor.object.worldIdentity }
            if !anchor.valid then none
            else if s.timelineVersion ≠ seen.timelineVersion ||
                s.active.bundle ≠ some predecessor || s.worldIdentity ≠ some world then none
            else some anchor
        | _, _ => none
    | _, _ => none

end ExecutionAuthority

end UavNavigation
