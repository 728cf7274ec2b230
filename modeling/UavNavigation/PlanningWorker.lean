import Mathlib.Algebra.Group.Int.Defs
import UavNavigation.Runs

/-!
# The planning worker

`navigation_runtime/planning_worker.hpp` with the key of `planning_request.hpp`
and the rules of `planning_supervisor.hpp`. One planner, one active item, one
pending item. Client calls run on any thread; every operation below is one
critical section of `mutex_`, or one action of the worker thread between two of
them, so a list of operations is an interleaving of all threads.

Identifiers are natural numbers, the counters of the snapshot are 64-bit words
and times are nanoseconds of the steady clock. A job is a value of an arbitrary
type `J`; a null callable is `none`.
-/

namespace UavNavigation

set_option autoImplicit false

inductive PlanningStartMode where
  | committedFutureState
  | stoppedMeasuredState
  | measuredEmergencyBrake
deriving DecidableEq

def planningStartModeKnown (mode : PlanningStartMode) : Bool :=
  mode == .committedFutureState || mode == .stoppedMeasuredState || mode == .measuredEmergencyBrake

structure PlanningKey where
  localizationEpoch : Nat
  goalEpoch : Nat
  requestId : Nat
  routeRevision : Nat
  committedBundleGeneration : Nat
  pinnedWorldGeneration : Nat
  pinnedWorldRevision : Nat
  startMode : PlanningStartMode
  anchorStampNs : Int
  dynamicsHash : Nat
deriving DecidableEq

def PlanningKey.valid (key : PlanningKey) : Bool :=
  key.localizationEpoch != 0 && key.goalEpoch != 0 && key.requestId != 0 &&
    key.routeRevision != 0 && key.pinnedWorldGeneration != 0 &&
    key.pinnedWorldRevision != 0 && planningStartModeKnown key.startMode &&
    0 < key.anchorStampNs && key.dynamicsHash != 0

/-- The named priorities, and the values above them that a cast can produce. -/
inductive PlanningPriority where
  | qualityRefinement
  | normalRenewal
  | safetyRenewal
  | goalTransition
  | emergency
  | localizationReset
  | outOfRange (above : Nat)
deriving DecidableEq

def PlanningPriority.rank : PlanningPriority → Nat
  | .qualityRefinement => 0
  | .normalRenewal => 1
  | .safetyRenewal => 2
  | .goalTransition => 3
  | .emergency => 4
  | .localizationReset => 5
  | .outOfRange above => 6 + above

def planningPriorityKnown (priority : PlanningPriority) : Bool :=
  PlanningPriority.qualityRefinement.rank ≤ priority.rank &&
    priority.rank ≤ PlanningPriority.localizationReset.rank

def higherPriority (lhs rhs : PlanningPriority) : Bool := rhs.rank < lhs.rank

/-- The changes that supersede an active solve; anchor and map revision are left out. -/
def samePlanningCancellationIdentity (lhs rhs : PlanningKey) : Bool :=
  lhs.localizationEpoch == rhs.localizationEpoch && lhs.goalEpoch == rhs.goalEpoch &&
    lhs.requestId == rhs.requestId && lhs.routeRevision == rhs.routeRevision &&
    lhs.committedBundleGeneration == rhs.committedBundleGeneration &&
    lhs.pinnedWorldGeneration == rhs.pinnedWorldGeneration &&
    lhs.startMode == rhs.startMode && lhs.dynamicsHash == rhs.dynamicsHash

inductive PlanningSubmitDisposition where
  | accepted
  | replacedPending
  | exactDuplicate
  | rejectedLowerPriority
  | rejectedInvalid
  | rejectedStopped
deriving DecidableEq

def PlanningSubmitDisposition.code : PlanningSubmitDisposition → UInt64
  | .accepted => 0
  | .replacedPending => 1
  | .exactDuplicate => 2
  | .rejectedLowerPriority => 3
  | .rejectedInvalid => 4
  | .rejectedStopped => 5

structure PlanningWorkerSnapshot where
  submitted : UInt64 := 0
  started : UInt64 := 0
  completed : UInt64 := 0
  cancelled : UInt64 := 0
  exactDuplicates : UInt64 := 0
  replacedPending : UInt64 := 0
  rejectedLowerPriority : UInt64 := 0
  accepted : UInt64 := 0
  rejectedInvalid : UInt64 := 0
  rejectedStopped : UInt64 := 0
  lastEnqueueWaitUs : Int := 0
  lastWorkerRuntimeUs : Int := 0
  lastEnqueueTimeSteadyNs : Int := 0
  lastWorkerStartSteadyNs : Int := 0
  lastBackendEntrySteadyNs : Int := 0
  lastBackendExitSteadyNs : Int := 0
  lastTransactionLocalizationEpoch : Nat := 0
  lastTransactionGoalEpoch : Nat := 0
  lastTransactionRequestId : Nat := 0
  lastTransactionRouteRevision : Nat := 0
  lastTransactionCommittedBundleGeneration : Nat := 0
  lastTransactionPinnedWorldGeneration : Nat := 0
  lastTransactionPinnedWorldRevision : Nat := 0
  lastTransactionAnchorStampNs : Nat := 0
  lastTransactionDynamicsHash : Nat := 0
  lastSubmitDisposition : UInt64 := 0
  inFlight : Bool := false
  pending : Bool := false
  fatal : Bool := false
deriving DecidableEq

structure WorkItem (J : Type) where
  key : PlanningKey
  priority : PlanningPriority
  job : J
  enqueuedAt : Int
deriving DecidableEq

structure ActiveItem where
  key : PlanningKey
  priority : PlanningPriority
  stopRequested : Bool
deriving DecidableEq

/-- Where the worker thread stands. It holds the item it has taken in a local
variable from one end of the loop body to the other. -/
inductive WorkerThread (J : Type) where
  | notStarted
  | waiting
  | taken (work : WorkItem J) (startedAt : Int)
  | entered (work : WorkItem J) (startedAt : Int)
  | running (work : WorkItem J) (startedAt : Int)
  | returned (work : WorkItem J) (startedAt : Int)
  | retiring (work : WorkItem J) (startedAt : Int)
  | threw (work : WorkItem J)
  | handling
  | exited
deriving DecidableEq

def WorkerThread.work {J : Type} : WorkerThread J → Option (WorkItem J)
  | .taken work _ | .entered work _ | .running work _ | .returned work _
  | .retiring work _ | .threw work => some work
  | _ => none

def WorkerThread.over {J : Type} : WorkerThread J → Bool
  | .notStarted | .exited => true
  | _ => false

structure PlanningWorker (J : Type) where
  pending : Option (WorkItem J) := none
  active : Option ActiveItem := none
  counters : PlanningWorkerSnapshot := {}
  accepting : Bool := true
  started : Bool := false
  fatal : Bool := false
  shutdownStarted : Bool := false
  joined : Bool := false
  thread : WorkerThread J := .notStarted
  threadStopRequested : Bool := false
deriving DecidableEq

namespace PlanningWorker
variable {J : Type}

def snapshot (s : PlanningWorker J) : PlanningWorkerSnapshot :=
  { s.counters with inFlight := s.active.isSome, pending := s.pending.isSome, fatal := s.fatal }

/-- `start`; `none` is the `logic_error`. -/
def start (s : PlanningWorker J) : Option (PlanningWorker J) :=
  if s.started || s.shutdownStarted then none
  else some { s with started := true, thread := .waiting }

/-- `request_stop` on the active item and the backend interrupt, both under the
lifecycle mutex. The counter moves only for the first request. -/
def interruptActive (s : PlanningWorker J) : PlanningWorker J :=
  match s.active with
  | none => s
  | some active =>
    { s with
      active := some { active with stopRequested := true }
      counters := { s.counters with
        cancelled := if active.stopRequested then s.counters.cancelled
          else s.counters.cancelled + 1 } }

def carriesKey (s : PlanningWorker J) (key : PlanningKey) : Bool :=
  s.active.any (·.key == key) || s.pending.any (·.key == key)

def supersedesActive (s : PlanningWorker J) (key : PlanningKey)
    (priority : PlanningPriority) : Bool :=
  s.active.any fun active =>
    !samePlanningCancellationIdentity active.key key || higherPriority priority active.priority

def incumbentPriority (s : PlanningWorker J) : PlanningPriority :=
  match s.pending, s.active with
  | some pending, _ => pending.priority
  | none, some active => active.priority
  | none, none => .qualityRefinement

def decline (s : PlanningWorker J) (disposition : PlanningSubmitDisposition) :
    PlanningWorker J × PlanningSubmitDisposition × Bool :=
  let counters := { s.counters with lastSubmitDisposition := disposition.code }
  let counters := match disposition with
    | .exactDuplicate => { counters with exactDuplicates := counters.exactDuplicates + 1 }
    | .rejectedLowerPriority =>
      { counters with rejectedLowerPriority := counters.rejectedLowerPriority + 1 }
    | .rejectedInvalid => { counters with rejectedInvalid := counters.rejectedInvalid + 1 }
    | .rejectedStopped => { counters with rejectedStopped := counters.rejectedStopped + 1 }
    | .accepted | .replacedPending => counters
  ({ s with counters }, disposition, false)

/-- The slot is overwritten; the caller learns whether an item was lost. -/
def enqueue (s : PlanningWorker J) (work : WorkItem J) :
    PlanningWorker J × PlanningSubmitDisposition :=
  let disposition := if s.pending.isSome then .replacedPending else .accepted
  ({ s with
      pending := some work
      counters := { s.counters with
        replacedPending := if s.pending.isSome then s.counters.replacedPending + 1
          else s.counters.replacedPending
        submitted := s.counters.submitted + 1
        accepted := s.counters.accepted + 1
        lastSubmitDisposition := disposition.code
        lastEnqueueTimeSteadyNs := work.enqueuedAt
        lastTransactionLocalizationEpoch := work.key.localizationEpoch
        lastTransactionGoalEpoch := work.key.goalEpoch
        lastTransactionRequestId := work.key.requestId
        lastTransactionRouteRevision := work.key.routeRevision
        lastTransactionCommittedBundleGeneration := work.key.committedBundleGeneration
        lastTransactionPinnedWorldGeneration := work.key.pinnedWorldGeneration
        lastTransactionPinnedWorldRevision := work.key.pinnedWorldRevision
        lastTransactionAnchorStampNs := (work.key.anchorStampNs % 2 ^ 64).toNat
        lastTransactionDynamicsHash := work.key.dynamicsHash
        pending := true } },
    disposition)

/-- `submit`; the last component tells whether the backend was interrupted. -/
def submit (s : PlanningWorker J) (key : PlanningKey) (priority : PlanningPriority)
    (job : Option J) (now : Int) : PlanningWorker J × PlanningSubmitDisposition × Bool :=
  match job with
  | none => s.decline .rejectedInvalid
  | some job =>
    if !key.valid || !planningPriorityKnown priority then s.decline .rejectedInvalid
    else if !s.accepting || s.fatal || s.shutdownStarted then s.decline .rejectedStopped
    else if s.carriesKey key then s.decline .exactDuplicate
    else
      let supersedes := s.supersedesActive key priority
      let interrupted := if supersedes then s.interruptActive else s
      if !supersedes && (s.pending.isSome || s.active.isSome) &&
          higherPriority s.incumbentPriority priority then
        s.decline .rejectedLowerPriority
      else
        let queued := interrupted.enqueue ⟨key, priority, job, now⟩
        (queued.1, queued.2, supersedes)

def cancelActive (s : PlanningWorker J) : PlanningWorker J × Bool :=
  (s.interruptActive, s.active.isSome)

def carriesExecutionIdentity (localizationEpoch goalEpoch requestId
    committedBundleGeneration : Nat) (key : PlanningKey) : Bool :=
  key.localizationEpoch == localizationEpoch && key.goalEpoch == goalEpoch &&
    key.requestId == requestId && key.committedBundleGeneration == committedBundleGeneration

def cancelActiveIfExecutionIdentity (s : PlanningWorker J) (localizationEpoch goalEpoch
    requestId committedBundleGeneration : Nat) : PlanningWorker J × Bool :=
  if localizationEpoch == 0 || goalEpoch == 0 || requestId == 0 ||
      committedBundleGeneration == 0 then (s, false)
  else if s.active.any fun active => carriesExecutionIdentity localizationEpoch goalEpoch
      requestId committedBundleGeneration active.key then (s.interruptActive, true)
  else (s, false)

/-- First section of `shutdown`, entered by the caller that finds it not yet started. -/
def beginShutdown (s : PlanningWorker J) : PlanningWorker J :=
  interruptActive
    { s with
      shutdownStarted := true, accepting := false, pending := none
      counters := { s.counters with pending := false } }

def take (s : PlanningWorker J) (work : WorkItem J) (now : Int) : PlanningWorker J :=
  { s with
    pending := none
    active := some ⟨work.key, work.priority, false⟩
    thread := .taken work now
    counters := { s.counters with
      lastWorkerStartSteadyNs := now
      lastEnqueueWaitUs := (now - work.enqueuedAt).tdiv 1000
      pending := false, inFlight := true
      started := s.counters.started + 1 } }

/-- The `catch` section: the worker is dead and nothing waits for it. -/
def fail (s : PlanningWorker J) : PlanningWorker J :=
  { s with
    fatal := true, accepting := false, active := none, pending := none, thread := .handling
    counters := { s.counters with inFlight := false, pending := false } }

def retire (s : PlanningWorker J) (startedAt now : Int) : PlanningWorker J :=
  { s with
    active := none, thread := .waiting
    counters := { s.counters with
      lastWorkerRuntimeUs := (now - startedAt).tdiv 1000
      inFlight := false, completed := s.counters.completed + 1 } }

inductive Operation (J : Type) where
  | start
  | submit (key : PlanningKey) (priority : PlanningPriority) (job : Option J) (now : Int)
  | cancelActive
  | cancelActiveIfExecutionIdentity (localizationEpoch goalEpoch requestId
      committedBundleGeneration : Nat)
  | beginShutdown
  | requestThreadStop
  | finishShutdown
  | wake (now : Int)
  | enterBackend (now : Int)
  | invoke
  | jobReturned
  | jobThrew
  | leaveBackend (now : Int)
  | retire (now : Int)
  | fail
  | handlerReturned

/-- `blocked` is an operation whose turn has not come: the calling thread waits,
or the worker thread is somewhere else. -/
inductive Outcome (J : Type) where
  | blocked
  | done
  | rejectedStart
  | submitted (disposition : PlanningSubmitDisposition) (interrupted : Bool)
  | cancelled (answer interrupted : Bool)
  | began (work : WorkItem J)
  | invoked (work : WorkItem J)
deriving DecidableEq

def step (s : PlanningWorker J) : Operation J → PlanningWorker J × Outcome J
  | .start =>
    match s.start with
    | some started => (started, .done)
    | none => (s, .rejectedStart)
  | .submit key priority job now =>
    let result := s.submit key priority job now
    (result.1, .submitted result.2.1 result.2.2)
  | .cancelActive => (s.cancelActive.1, .cancelled true s.cancelActive.2)
  | .cancelActiveIfExecutionIdentity localizationEpoch goalEpoch requestId generation =>
    let result := s.cancelActiveIfExecutionIdentity localizationEpoch goalEpoch requestId generation
    (result.1, .cancelled result.2 result.2)
  | .beginShutdown =>
    if s.shutdownStarted then (s, .blocked)
    else (s.beginShutdown, .cancelled true s.active.isSome)
  | .requestThreadStop =>
    -- `worker_.request_stop()` of the caller that began the shutdown
    if s.shutdownStarted then ({ s with threadStopRequested := true }, .done) else (s, .blocked)
  | .finishShutdown =>
    -- `join` returns once the thread is over; a thread never started is not joinable
    if s.threadStopRequested && s.thread.over then ({ s with joined := true }, .done)
    else (s, .blocked)
  | .wake now =>
    match s.thread with
    | .waiting =>
      if s.threadStopRequested then ({ s with thread := .exited }, .done)
      else
        match s.pending with
        | some work => (s.take work now, .began work)
        | none => (s, .blocked)
    | _ => (s, .blocked)
  | .enterBackend now =>
    match s.thread with
    | .taken work startedAt =>
      ({ s with
          thread := .entered work startedAt
          counters := { s.counters with lastBackendEntrySteadyNs := now } }, .done)
    | _ => (s, .blocked)
  | .invoke =>
    match s.thread with
    | .entered work startedAt => ({ s with thread := .running work startedAt }, .invoked work)
    | _ => (s, .blocked)
  | .jobReturned =>
    match s.thread with
    | .running work startedAt => ({ s with thread := .returned work startedAt }, .done)
    | _ => (s, .blocked)
  | .jobThrew =>
    match s.thread with
    | .running work _ => ({ s with thread := .threw work }, .done)
    | _ => (s, .blocked)
  | .leaveBackend now =>
    match s.thread with
    | .returned work startedAt =>
      ({ s with
          thread := .retiring work startedAt
          counters := { s.counters with lastBackendExitSteadyNs := now } }, .done)
    | _ => (s, .blocked)
  | .retire now =>
    match s.thread with
    | .retiring _ startedAt => (s.retire startedAt now, .done)
    | _ => (s, .blocked)
  | .fail =>
    match s.thread with
    | .threw _ => (s.fail, .done)
    | _ => (s, .blocked)
  | .handlerReturned =>
    match s.thread with
    | .handling => ({ s with thread := .exited }, .done)
    | _ => (s, .blocked)

def initial : PlanningWorker J := {}

/-! ## What a step of the planning worker can do -/

def uninvoked : WorkerThread J → Option (WorkItem J)
  | .taken work _ | .entered work _ => some work
  | _ => none

structure SlotsKept (s t : PlanningWorker J) : Prop where
  pending : t.pending = s.pending
  work : t.thread.work = s.thread.work
  submitted : t.counters.submitted = s.counters.submitted
  started : t.counters.started = s.counters.started
  completed : t.counters.completed = s.counters.completed
  replacedPending : t.counters.replacedPending = s.counters.replacedPending
  accepting : t.accepting = s.accepting
  fatal : t.fatal = s.fatal
  shutdownStarted : t.shutdownStarted = s.shutdownStarted

def Operation.acceptedWork : Operation J → Outcome J → Option (WorkItem J)
  | .submit key priority (some job) now, .submitted .accepted _ => some ⟨key, priority, job, now⟩
  | .submit key priority (some job) now, .submitted .replacedPending _ =>
    some ⟨key, priority, job, now⟩
  | _, _ => none

def Outcome.beganWork : Outcome J → Option (WorkItem J)
  | .began work => some work
  | _ => none

def Outcome.invokedWork : Outcome J → Option (WorkItem J)
  | .invoked work => some work
  | _ => none

def Outcome.interrupts : Outcome J → Bool
  | .submitted _ interrupted => interrupted
  | .cancelled _ interrupted => interrupted
  | _ => false

def Operation.names (s : PlanningWorker J) (active : ActiveItem) : Operation J → Bool
  | .cancelActiveIfExecutionIdentity localizationEpoch goalEpoch requestId generation =>
    carriesExecutionIdentity localizationEpoch goalEpoch requestId generation active.key
  | .submit key priority _ _ => s.supersedesActive key priority
  | .cancelActive => true
  | .beginShutdown => true
  | _ => false

def stopActive (active : ActiveItem) : ActiveItem := { active with stopRequested := true }

inductive Effect (s : PlanningWorker J) (op : Operation J) (r : Outcome J)
    (t : PlanningWorker J) : Prop
  | quiet (kept : SlotsKept s t) (active : t.active = s.active)
      (thread : uninvoked t.thread = uninvoked s.thread)
      (accepted : op.acceptedWork r = none) (began : r.beganWork = none)
      (invoked : r.invokedWork = none) (interrupts : r.interrupts = false)
  | interrupted (kept : SlotsKept s t) (active : ActiveItem) (before : s.active = some active)
      (after : t.active = some (stopActive active)) (thread : t.thread = s.thread)
      (accepted : op.acceptedWork r = none) (names : op.names s active = true)
      (outcome : r = .cancelled true true)
  | invoked (kept : SlotsKept s t) (active : t.active = s.active) (work : WorkItem J)
      (before : uninvoked s.thread = some work) (after : uninvoked t.thread = none)
      (accepted : op.acceptedWork r = none) (outcome : r = .invoked work)
  | admitted (work : WorkItem J) (accepted : op.acceptedWork r = some work)
      (began : r.beganWork = none) (invoked : r.invokedWork = none)
      (open_ : s.accepting = true ∧ s.fatal = false ∧ s.shutdownStarted = false)
      (flags : t.accepting = s.accepting ∧ t.fatal = s.fatal ∧
        t.shutdownStarted = s.shutdownStarted)
      (pending : t.pending = some work) (thread : t.thread = s.thread)
      (active : t.active = if r.interrupts then s.active.map stopActive else s.active)
      (names : r.interrupts = true → ∃ active, s.active = some active ∧ op.names s active = true)
      (submitted : t.counters.submitted = s.counters.submitted + 1)
      (started : t.counters.started = s.counters.started)
      (completed : t.counters.completed = s.counters.completed)
      (replacedPending : t.counters.replacedPending =
        s.counters.replacedPending + if s.pending.isSome then 1 else 0)
  | closed (operation : op = .beginShutdown) (flags : t.accepting = false ∧ t.fatal = s.fatal ∧
        t.shutdownStarted = true) (pending : t.pending = none) (thread : t.thread = s.thread)
      (active : t.active = s.active.map stopActive)
      (outcome : r = .cancelled true s.active.isSome)
      (submitted : t.counters.submitted = s.counters.submitted)
      (started : t.counters.started = s.counters.started)
      (completed : t.counters.completed = s.counters.completed)
      (replacedPending : t.counters.replacedPending = s.counters.replacedPending)
  | took (work : WorkItem J) (operation : ∃ now, op = .wake now)
      (before : s.pending = some work) (idle : s.thread = .waiting)
      (outcome : r = .began work) (pending : t.pending = none)
      (active : t.active = some ⟨work.key, work.priority, false⟩)
      (thread : ∃ now, t.thread = .taken work now)
      (flags : t.accepting = s.accepting ∧ t.fatal = s.fatal ∧
        t.shutdownStarted = s.shutdownStarted)
      (submitted : t.counters.submitted = s.counters.submitted)
      (started : t.counters.started = s.counters.started + 1)
      (completed : t.counters.completed = s.counters.completed)
      (replacedPending : t.counters.replacedPending = s.counters.replacedPending)
  | retired (operation : ∃ now, op = .retire now) (outcome : r = .done)
      (work : WorkItem J) (startedAt : Int) (before : s.thread = .retiring work startedAt)
      (pending : t.pending = s.pending) (active : t.active = none) (thread : t.thread = .waiting)
      (flags : t.accepting = s.accepting ∧ t.fatal = s.fatal ∧
        t.shutdownStarted = s.shutdownStarted)
      (submitted : t.counters.submitted = s.counters.submitted)
      (started : t.counters.started = s.counters.started)
      (completed : t.counters.completed = s.counters.completed + 1)
      (replacedPending : t.counters.replacedPending = s.counters.replacedPending)
  | failed (operation : op = .fail) (outcome : r = .done) (work : WorkItem J)
      (before : s.thread = .threw work) (pending : t.pending = none) (active : t.active = none)
      (thread : t.thread = .handling)
      (flags : t.accepting = false ∧ t.fatal = true ∧ t.shutdownStarted = s.shutdownStarted)
      (submitted : t.counters.submitted = s.counters.submitted)
      (started : t.counters.started = s.counters.started)
      (completed : t.counters.completed = s.counters.completed)
      (replacedPending : t.counters.replacedPending = s.counters.replacedPending)

section
variable (s : PlanningWorker J)

theorem SlotsKept.refl : SlotsKept s s :=
  ⟨rfl, rfl, rfl, rfl, rfl, rfl, rfl, rfl, rfl⟩

theorem interruptActive_kept : SlotsKept s s.interruptActive := by
  unfold interruptActive
  split <;> exact ⟨rfl, rfl, rfl, rfl, rfl, rfl, rfl, rfl, rfl⟩

theorem interruptActive_active : s.interruptActive.active = s.active.map stopActive := by
  unfold interruptActive
  cases h : s.active <;> simp [stopActive, h]

theorem interruptActive_thread : s.interruptActive.thread = s.thread := by
  unfold interruptActive
  split <;> rfl

theorem effect_blocked (op : Operation J) : Effect s op .blocked s :=
  .quiet (.refl s) rfl rfl (by cases op <;> simp [Operation.acceptedWork]) rfl rfl rfl

theorem decline_effect {d : PlanningSubmitDisposition}
    (hd : d ≠ .accepted ∧ d ≠ .replacedPending) (op : Operation J) :
    Effect s op (.submitted (s.decline d).2.1 (s.decline d).2.2) (s.decline d).1 := by
  cases d <;> first | contradiction | skip
  all_goals
    refine .quiet ⟨rfl, rfl, rfl, rfl, rfl, rfl, rfl, rfl, rfl⟩ rfl rfl ?_ rfl rfl rfl
    cases op <;> simp [decline, Operation.acceptedWork]

end

def considers (s : PlanningWorker J) (key : PlanningKey) (priority : PlanningPriority) : Bool :=
  key.valid && planningPriorityKnown priority && s.accepting && !s.fatal && !s.shutdownStarted &&
    !s.carriesKey key

/-- The submission is turned away in favour of the item that is there. -/
def defers (s : PlanningWorker J) (key : PlanningKey) (priority : PlanningPriority) : Bool :=
  !s.supersedesActive key priority && (s.pending.isSome || s.active.isSome) &&
    higherPriority s.incumbentPriority priority

variable {priority : PlanningPriority} {key : PlanningKey}

section
variable (s : PlanningWorker J)

theorem submit_declined {job : Option J} (now : Int)
    (h : job = none ∨ s.considers key priority = false ∨ s.defers key priority = true) :
    ∃ d, (d ≠ .accepted ∧ d ≠ .replacedPending) ∧ s.submit key priority job now = s.decline d := by
  cases job with
  | none => exact ⟨.rejectedInvalid, by simp, rfl⟩
  | some job =>
    simp only [reduceCtorEq, false_or] at h
    simp only [submit]
    split
    · exact ⟨.rejectedInvalid, by simp, rfl⟩
    · split
      · exact ⟨.rejectedStopped, by simp, rfl⟩
      · split
        · exact ⟨.exactDuplicate, by simp, rfl⟩
        · rename_i hInvalid hStopped hDuplicate
          have hConsiders : s.considers key priority = true := by
            simp [considers] at hInvalid hStopped hDuplicate ⊢
            simp [hInvalid, hStopped, hDuplicate]
          have hDefers : s.defers key priority = true := by
            rcases h with h | h
            · rw [hConsiders] at h
              cases h
            · exact h
          refine ⟨.rejectedLowerPriority, by simp, ?_⟩
          simp only [defers] at hDefers
          rw [if_pos hDefers]

theorem submit_admitted {job : J} {now : Int}
    (hConsiders : s.considers key priority = true) (hDefers : s.defers key priority = false) :
    s.submit key priority (some job) now =
      let supersedes := s.supersedesActive key priority
      let queued := (if supersedes then s.interruptActive else s).enqueue ⟨key, priority, job, now⟩
      (queued.1, queued.2, supersedes) := by
  simp only [considers, Bool.and_eq_true, Bool.not_eq_true'] at hConsiders
  obtain ⟨⟨⟨⟨⟨hValid, hKnown⟩, hAccepting⟩, hFatal⟩, hShutdown⟩, hDuplicate⟩ := hConsiders
  simp only [defers] at hDefers
  simp [submit, hValid, hKnown, hAccepting, hFatal, hShutdown, hDuplicate, hDefers]

theorem enqueue_disposition (work : WorkItem J) :
    (s.enqueue work).2 = if s.pending.isSome then .replacedPending else .accepted := rfl

theorem acceptedWork_enqueue (key : PlanningKey)
    (priority : PlanningPriority) (job : J) (now : Int) (interrupted : Bool) :
    (Operation.submit key priority (some job) now).acceptedWork
      (.submitted (s.enqueue ⟨key, priority, job, now⟩).2 interrupted) =
        some ⟨key, priority, job, now⟩ := by
  rw [enqueue_disposition]
  split <;> rfl

theorem supersedesActive_isSome {s : PlanningWorker J}
    (h : s.supersedesActive key priority = true) : ∃ active, s.active = some active := by
  cases hActive : s.active with
  | none => simp [supersedesActive, hActive] at h
  | some active => exact ⟨active, rfl⟩

theorem submit_effect (key : PlanningKey) (priority : PlanningPriority)
    (job : Option J) (now : Int) :
    Effect s (.submit key priority job now)
      (.submitted (s.submit key priority job now).2.1 (s.submit key priority job now).2.2)
      (s.submit key priority job now).1 := by
  by_cases hDeclined : job = none ∨ s.considers key priority = false ∨ s.defers key priority = true
  · obtain ⟨d, hd, hSubmit⟩ := submit_declined s now hDeclined
    rw [hSubmit]
    exact decline_effect s hd _
  · simp only [not_or, Bool.not_eq_false, Bool.not_eq_true] at hDeclined
    obtain ⟨hJob, hConsiders, hDefers⟩ := hDeclined
    obtain ⟨job, rfl⟩ := Option.ne_none_iff_exists'.mp hJob
    rw [submit_admitted s hConsiders hDefers]
    simp only [considers, Bool.and_eq_true, Bool.not_eq_true'] at hConsiders
    have hKept := interruptActive_kept s
    cases hSupersedes : s.supersedesActive key priority with
    | false =>
      refine .admitted ⟨key, priority, job, now⟩ (acceptedWork_enqueue _ _ _ _ _ _) rfl rfl
        ⟨hConsiders.1.1.1.2, hConsiders.1.1.2, hConsiders.1.2⟩ ⟨rfl, rfl, rfl⟩ rfl rfl rfl
        (fun h => by cases h) rfl rfl rfl ?_
      simp only [enqueue, Bool.false_eq_true, if_false]
      split <;> simp
    | true =>
      refine .admitted ⟨key, priority, job, now⟩ (acceptedWork_enqueue _ _ _ _ _ _) rfl rfl
        ⟨hConsiders.1.1.1.2, hConsiders.1.1.2, hConsiders.1.2⟩
        ⟨hKept.accepting, hKept.fatal, hKept.shutdownStarted⟩ rfl (interruptActive_thread s)
        (interruptActive_active s) ?_ ?_ hKept.started hKept.completed ?_
      · intro _
        obtain ⟨active, hActive⟩ := supersedesActive_isSome hSupersedes
        exact ⟨active, hActive, hSupersedes⟩
      · simp [enqueue, hKept.submitted]
      · simp only [enqueue, hKept.pending, hKept.replacedPending, if_true]
        split <;> simp

end

/-! ## Every step -/

section
variable (s : PlanningWorker J)

theorem interrupt_effect {active : ActiveItem} (op : Operation J)
    (hActive : s.active = some active) (hNames : op.names s active = true) :
    Effect s op (.cancelled true true) s.interruptActive := by
  refine .interrupted (interruptActive_kept s) active hActive ?_ (interruptActive_thread s)
    (by cases op <;> simp [Operation.acceptedWork]) hNames rfl
  simp [interruptActive_active, hActive]

theorem cancelActive_effect :
    Effect s .cancelActive (.cancelled true s.cancelActive.2) s.cancelActive.1 := by
  cases hActive : s.active with
  | none =>
    have hSame : s.interruptActive = s := by simp [interruptActive, hActive]
    simp only [cancelActive, hSame, hActive]
    exact .quiet (.refl s) rfl rfl rfl rfl rfl rfl
  | some active =>
    simp only [cancelActive, hActive]
    exact interrupt_effect s _ hActive rfl

theorem cancelActiveIfExecutionIdentity_effect (l g q c : Nat) :
    Effect s (.cancelActiveIfExecutionIdentity l g q c)
      (.cancelled (s.cancelActiveIfExecutionIdentity l g q c).2
        (s.cancelActiveIfExecutionIdentity l g q c).2)
      (s.cancelActiveIfExecutionIdentity l g q c).1 := by
  fun_cases cancelActiveIfExecutionIdentity
  case case2 hNames =>
    cases hActive : s.active with
    | none => simp [hActive] at hNames
    | some active =>
      simp only [hActive, Option.any_some] at hNames
      exact interrupt_effect s _ hActive hNames
  all_goals exact .quiet (.refl s) rfl rfl rfl rfl rfl rfl

theorem beginShutdown_effect :
    Effect s .beginShutdown (.cancelled true s.active.isSome) s.beginShutdown := by
  have hKept := interruptActive_kept { s with
    shutdownStarted := true, accepting := false, pending := none
    counters := { s.counters with pending := false } }
  refine .closed rfl ⟨hKept.accepting, hKept.fatal, hKept.shutdownStarted⟩ hKept.pending
    (interruptActive_thread _) (interruptActive_active _) rfl hKept.submitted hKept.started
    hKept.completed hKept.replacedPending

end

/-- The thread is launched by `start` and by nothing else. -/
def Launched (s : PlanningWorker J) : Prop := s.started = false → s.thread = .notStarted

section
variable (s : PlanningWorker J)

theorem interruptActive_started : s.interruptActive.started = s.started := by
  unfold interruptActive
  split <;> rfl

theorem submit_started (key : PlanningKey) (priority : PlanningPriority)
    (job : Option J) (now : Int) :
    (s.submit key priority job now).1.started = s.started ∧
      (s.submit key priority job now).1.thread = s.thread := by
  by_cases hDeclined : job = none ∨ s.considers key priority = false ∨ s.defers key priority = true
  · obtain ⟨d, _, hSubmit⟩ := submit_declined s now hDeclined
    rw [hSubmit]
    exact ⟨rfl, rfl⟩
  · simp only [not_or, Bool.not_eq_false, Bool.not_eq_true] at hDeclined
    obtain ⟨hJob, hConsiders, hDefers⟩ := hDeclined
    obtain ⟨job, rfl⟩ := Option.ne_none_iff_exists'.mp hJob
    rw [submit_admitted s hConsiders hDefers]
    cases s.supersedesActive key priority with
    | false => exact ⟨rfl, rfl⟩
    | true => exact ⟨interruptActive_started s, interruptActive_thread s⟩

theorem step_unlaunched {op : Operation J} (hOp : op ≠ .start) : (s.step op).1.started = s.started ∧
      (s.thread = .notStarted → (s.step op).1.thread = .notStarted) := by
  cases op with
  | start => exact absurd rfl hOp
  | submit key priority job now =>
    have h := submit_started s key priority job now
    exact ⟨h.1, fun hThread => h.2.trans hThread⟩
  | cancelActive =>
    exact ⟨interruptActive_started s, fun hThread => (interruptActive_thread s).trans hThread⟩
  | cancelActiveIfExecutionIdentity l g q c =>
    simp only [step, cancelActiveIfExecutionIdentity]
    split
    · exact ⟨rfl, id⟩
    · split
      · exact ⟨interruptActive_started s, fun hThread => (interruptActive_thread s).trans hThread⟩
      · exact ⟨rfl, id⟩
  | beginShutdown =>
    simp only [step]
    split
    · exact ⟨rfl, id⟩
    · exact ⟨interruptActive_started _, fun hThread => (interruptActive_thread _).trans hThread⟩
  | requestThreadStop => simp only [step]; split <;> exact ⟨rfl, id⟩
  | finishShutdown => simp only [step]; split <;> exact ⟨rfl, id⟩
  | wake now =>
    simp only [step]
    split
    · split
      · exact ⟨rfl, fun h => by simp_all⟩
      · split <;> exact ⟨rfl, fun h => by simp_all⟩
    · exact ⟨rfl, id⟩
  | enterBackend now => simp only [step]; split <;> exact ⟨rfl, fun h => by simp_all⟩
  | invoke => simp only [step]; split <;> exact ⟨rfl, fun h => by simp_all⟩
  | jobReturned => simp only [step]; split <;> exact ⟨rfl, fun h => by simp_all⟩
  | jobThrew => simp only [step]; split <;> exact ⟨rfl, fun h => by simp_all⟩
  | leaveBackend now => simp only [step]; split <;> exact ⟨rfl, fun h => by simp_all⟩
  | retire now => simp only [step]; split <;> exact ⟨rfl, fun h => by simp_all⟩
  | fail => simp only [step]; split <;> exact ⟨rfl, fun h => by simp_all⟩
  | handlerReturned => simp only [step]; split <;> exact ⟨rfl, fun h => by simp_all⟩

theorem step_launched (op : Operation J) (hs : Launched s) : Launched (s.step op).1 := by
  by_cases hOp : op = .start
  · subst hOp
    simp only [step, start]
    split
    · rename_i t hStart
      split at hStart
      · cases hStart
      · cases hStart
        intro h
        cases h
    · exact hs
  · obtain ⟨hStarted, hThread⟩ := step_unlaunched s hOp
    intro h
    rw [hStarted] at h
    exact hThread (hs h)

theorem moved_effect (op : Operation J) {thread : WorkerThread J}
    (hWork : thread.work = s.thread.work) (hUninvoked : uninvoked thread = uninvoked s.thread) :
    Effect s op .done { s with thread } :=
  .quiet ⟨rfl, hWork, rfl, rfl, rfl, rfl, rfl, rfl, rfl⟩ rfl hUninvoked
    (by cases op <;> simp [Operation.acceptedWork]) rfl rfl rfl

theorem step_effect (op : Operation J) (hs : Launched s) :
    Effect s op (s.step op).2 (s.step op).1 := by
  cases op with
  | start =>
    simp only [step, start]
    split
    · rename_i t hStart
      split at hStart
      · cases hStart
      · rename_i hNew
        simp only [Bool.or_eq_true, not_or, Bool.not_eq_true] at hNew
        have hThread : s.thread = .notStarted := hs hNew.1
        cases hStart
        exact .quiet ⟨rfl, by simp [hThread, WorkerThread.work], rfl, rfl, rfl, rfl, rfl, rfl, rfl⟩
          rfl (by simp [hThread, uninvoked]) rfl rfl rfl rfl
    · exact .quiet (.refl s) rfl rfl rfl rfl rfl rfl
  | submit key priority job now => exact submit_effect s key priority job now
  | cancelActive => exact cancelActive_effect s
  | cancelActiveIfExecutionIdentity l g q c =>
    exact cancelActiveIfExecutionIdentity_effect s l g q c
  | beginShutdown =>
    simp only [step]
    split
    · exact effect_blocked s _
    · exact beginShutdown_effect s
  | requestThreadStop =>
    simp only [step]
    split
    · exact .quiet ⟨rfl, rfl, rfl, rfl, rfl, rfl, rfl, rfl, rfl⟩ rfl rfl rfl rfl rfl rfl
    · exact effect_blocked s _
  | finishShutdown =>
    simp only [step]
    split
    · exact .quiet ⟨rfl, rfl, rfl, rfl, rfl, rfl, rfl, rfl, rfl⟩ rfl rfl rfl rfl rfl rfl
    · exact effect_blocked s _
  | wake now =>
    cases hThread : s.thread <;> simp only [step, hThread] <;> try exact effect_blocked s _
    split
    · exact moved_effect s _ (by simp [hThread, WorkerThread.work]) (by simp [hThread, uninvoked])
    · cases hPending : s.pending with
      | none => exact effect_blocked s _
      | some work =>
        exact .took work ⟨now, rfl⟩ hPending hThread rfl rfl rfl ⟨now, rfl⟩ ⟨rfl, rfl, rfl⟩
          rfl rfl rfl rfl
  | enterBackend now =>
    cases hThread : s.thread <;> simp only [step, hThread] <;> try exact effect_blocked s _
    exact .quiet ⟨rfl, by simp [hThread, WorkerThread.work], rfl, rfl, rfl, rfl, rfl, rfl, rfl⟩
      rfl (by simp [hThread, uninvoked]) rfl rfl rfl rfl
  | invoke =>
    cases hThread : s.thread <;> simp only [step, hThread] <;> try exact effect_blocked s _
    rename_i work startedAt
    exact .invoked ⟨rfl, by simp [hThread, WorkerThread.work], rfl, rfl, rfl, rfl, rfl, rfl, rfl⟩
      rfl work (by simp [hThread, uninvoked]) rfl rfl rfl
  | jobReturned =>
    cases hThread : s.thread <;> simp only [step, hThread] <;> try exact effect_blocked s _
    exact moved_effect s _ (by simp [hThread, WorkerThread.work]) (by simp [hThread, uninvoked])
  | jobThrew =>
    cases hThread : s.thread <;> simp only [step, hThread] <;> try exact effect_blocked s _
    exact moved_effect s _ (by simp [hThread, WorkerThread.work]) (by simp [hThread, uninvoked])
  | leaveBackend now =>
    cases hThread : s.thread <;> simp only [step, hThread] <;> try exact effect_blocked s _
    exact .quiet ⟨rfl, by simp [hThread, WorkerThread.work], rfl, rfl, rfl, rfl, rfl, rfl, rfl⟩
      rfl (by simp [hThread, uninvoked]) rfl rfl rfl rfl
  | retire now =>
    cases hThread : s.thread <;> simp only [step, hThread] <;> try exact effect_blocked s _
    rename_i work startedAt
    exact .retired ⟨now, rfl⟩ rfl work startedAt hThread rfl rfl rfl ⟨rfl, rfl, rfl⟩ rfl rfl rfl rfl
  | fail =>
    cases hThread : s.thread <;> simp only [step, hThread] <;> try exact effect_blocked s _
    rename_i work
    exact .failed rfl rfl work hThread rfl rfl rfl ⟨rfl, rfl, rfl⟩ rfl rfl rfl rfl
  | handlerReturned =>
    cases hThread : s.thread <;> simp only [step, hThread] <;> try exact effect_blocked s _
    exact moved_effect s _ (by simp [hThread, WorkerThread.work]) (by simp [hThread, uninvoked])

end

end PlanningWorker

end UavNavigation
