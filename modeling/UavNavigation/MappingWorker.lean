import UavNavigation.Machine
import UavNavigation.Runs

/-!
# The mapping worker and its accounting

`navigation_mapping/observation_accounting.hpp` and `mapping_worker.hpp`. The
accounting object has its own lock, so each of its members is one atomic change
of the counters. The worker is a machine: an operation is one critical section of
the worker's lock, one accounting call made outside of it, or one action of the
worker thread between two sections. Observations are values of an arbitrary type
`O`. A callback's outcome is an argument of the section that calls it.
-/

namespace UavNavigation

set_option autoImplicit false

namespace ObservationAccounting

structure Snapshot where
  received : UInt64 := 0
  rejectedBeforeInbox : UInt64 := 0
  acceptedToInbox : UInt64 := 0
  replacedWaiting : UInt64 := 0
  discardedWaiting : UInt64 := 0
  discardedNonmonotonic : UInt64 := 0
  readySubmitted : UInt64 := 0
  waiting : UInt64 := 0
  replacedReady : UInt64 := 0
  discardedReady : UInt64 := 0
  discardedShutdownReady : UInt64 := 0
  ready : UInt64 := 0
  replacedPending : UInt64 := 0
  discardedPending : UInt64 := 0
  mappingStarted : UInt64 := 0
  mappingPublished : UInt64 := 0
  mappingFailed : UInt64 := 0
  pending : UInt64 := 0
  inFlight : UInt64 := 0
  violationCount : UInt64 := 0
deriving DecidableEq

namespace Snapshot

def inputInvariantHolds (a : Snapshot) : Bool :=
  a.received == a.rejectedBeforeInbox + a.acceptedToInbox

def inboxInvariantHolds (a : Snapshot) : Bool :=
  a.acceptedToInbox == a.replacedWaiting + a.discardedWaiting + a.readySubmitted + a.waiting

def readyInvariantHolds (a : Snapshot) : Bool :=
  a.readySubmitted == a.replacedReady + a.discardedReady + a.discardedShutdownReady +
    a.mappingStarted + a.ready

def mappingInvariantHolds (a : Snapshot) : Bool :=
  a.mappingStarted == a.mappingPublished + a.mappingFailed + a.inFlight

def allInvariantsHold (a : Snapshot) : Bool :=
  a.inputInvariantHolds && a.inboxInvariantHolds && a.readyInvariantHolds &&
    a.mappingInvariantHolds && a.violationCount == 0

def violation (a : Snapshot) : Snapshot :=
  { a with violationCount := a.violationCount + 1 }

end Snapshot

def recordRejectedBeforeInbox (a : Snapshot) : Snapshot :=
  { a with received := a.received + 1, rejectedBeforeInbox := a.rejectedBeforeInbox + 1 }

/-- The answer tells whether an observation that was still waiting is replaced. -/
def recordAcceptedToInbox (a : Snapshot) : Snapshot × Bool :=
  let a := { a with received := a.received + 1, acceptedToInbox := a.acceptedToInbox + 1 }
  if a.waiting != 0 then
    ({ a with
        replacedWaiting := a.replacedWaiting + 1
        replacedPending := a.replacedPending + 1 }, true)
  else ({ a with waiting := 1, pending := 1 }, false)

def discardedPending (a : Snapshot) : Snapshot :=
  if a.waiting == 0 then a.violation
  else
    { a with
      waiting := 0, pending := a.ready
      discardedWaiting := a.discardedWaiting + 1
      discardedPending := a.discardedPending + 1 }

def discardedNonmonotonicWaiting (a : Snapshot) : Snapshot :=
  if a.waiting == 0 then a.violation
  else
    { a with
      waiting := 0, pending := a.ready
      discardedWaiting := a.discardedWaiting + 1
      discardedNonmonotonic := a.discardedNonmonotonic + 1
      discardedPending := a.discardedPending + 1 }

def waitingSubmitted (a : Snapshot) (replacedReady : Bool) : Snapshot :=
  if a.waiting == 0 then a.violation
  else
    let a := { a with waiting := 0, readySubmitted := a.readySubmitted + 1 }
    if replacedReady then
      if a.ready == 0 then a.violation
      else
        { a with
          replacedReady := a.replacedReady + 1
          replacedPending := a.replacedPending + 1
          pending := a.waiting + a.ready }
    else if a.ready != 0 then a.violation
    else { a with ready := 1, pending := a.waiting + 1 }

def discardedShutdownReady (a : Snapshot) : Snapshot :=
  if a.ready == 0 then a.violation
  else
    { a with
      ready := 0, pending := a.waiting
      discardedShutdownReady := a.discardedShutdownReady + 1
      discardedPending := a.discardedPending + 1 }

def discardedReady (a : Snapshot) : Snapshot :=
  if a.ready == 0 then a.violation
  else
    { a with
      ready := 0, pending := a.waiting
      discardedReady := a.discardedReady + 1
      discardedPending := a.discardedPending + 1 }

def mappingStarted (a : Snapshot) : Snapshot :=
  if a.ready == 0 then a.violation
  else
    { a with
      ready := 0, pending := a.waiting
      mappingStarted := a.mappingStarted + 1, inFlight := a.inFlight + 1 }

def mappingPublished (a : Snapshot) : Snapshot :=
  if a.inFlight == 0 then a.violation
  else { a with inFlight := a.inFlight - 1, mappingPublished := a.mappingPublished + 1 }

def mappingFailed (a : Snapshot) : Snapshot :=
  if a.inFlight == 0 then a.violation
  else { a with inFlight := a.inFlight - 1, mappingFailed := a.mappingFailed + 1 }

end ObservationAccounting

/-! ## The worker -/

/-- Where the worker thread stands; it owns the observation it is processing. -/
inductive MappingThread (O : Type) where
  | notStarted
  | waiting
  | processing (observation : O)
  | published
  | failing
  | settling
  | handling
  | exited
deriving DecidableEq

def MappingThread.observation {O : Type} : MappingThread O → Option O
  | .processing observation => some observation
  | _ => none

def MappingThread.over {O : Type} : MappingThread O → Bool
  | .notStarted | .exited => true
  | _ => false

inductive Disposition where
  | replaced
  | discarded
  | discardedAtShutdown
  | published
  | failed
deriving DecidableEq

/-- `waiting` is the observation the producer has recorded as accepted and not yet
submitted; `resets` counts the callers inside `reset`. -/
structure MappingWorker (O : Type) where
  accounting : ObservationAccounting.Snapshot := {}
  waiting : Option O := none
  ready : Option O := none
  hasValidate : Bool := false
  hasPublishedHandler : Bool := false
  hasOrderKey : Bool := false
  accepting : Bool := true
  started : Bool := false
  fatal : Bool := false
  shutdownStarted : Bool := false
  joined : Bool := false
  resetting : Bool := false
  inFlight : Bool := false
  highestAdmittedKey : Int := 0
  thread : MappingThread O := .notStarted
  threadStopRequested : Bool := false
  resets : Nat := 0
deriving DecidableEq

namespace MappingWorker
variable {O : Type}

open ObservationAccounting

/-- What an operation settled; `blocked` is an operation whose turn has not come. -/
inductive Outcome (O : Type) where
  | blocked
  | threw
  | done
  | recorded (observation : O)
  | settled (disposition : Disposition) (observation : O)
deriving DecidableEq

def setStrictlyIncreasingOrderKey (s : MappingWorker O) (initialKey : Int) :
    MappingWorker O × Outcome O :=
  if s.started || s.ready.isSome then (s, .threw)
  else ({ s with hasOrderKey := true, highestAdmittedKey := initialKey }, .done)

def start (s : MappingWorker O) : MappingWorker O × Outcome O :=
  if s.started || s.shutdownStarted then (s, .threw)
  else ({ s with started := true, thread := .waiting }, .done)

/-- `fatal_ = true; accepting_ = false`. -/
def failClosed (s : MappingWorker O) : MappingWorker O :=
  { s with fatal := true, accepting := false }

def discardSubmission (s : MappingWorker O) (observation : O) : MappingWorker O × Outcome O :=
  ({ s with accounting := discardedPending s.accounting, waiting := none },
    .settled .discarded observation)

def install (s : MappingWorker O) (observation : O) : MappingWorker O × Outcome O :=
  ({ s with
      accounting := waitingSubmitted s.accounting s.ready.isSome
      waiting := none, ready := some observation },
    match s.ready with
    | some replaced => .settled .replaced replaced
    | none => .done)

/-- The order-key part of `submitFromWaiting`; `none` is a key callback that threw. -/
def orderAndInstall (s : MappingWorker O) (observation : O) (key : Option Int) :
    MappingWorker O × Outcome O :=
  if s.hasOrderKey then
    match key with
    | none => s.failClosed.discardSubmission observation
    | some key =>
      if key ≤ s.highestAdmittedKey then
        ({ s with accounting := discardedNonmonotonicWaiting s.accounting, waiting := none },
          .settled .discarded observation)
      else install { s with highestAdmittedKey := key } observation
  else s.install observation

def submitFromWaiting (s : MappingWorker O) (observation : O) (validate : Callback)
    (key : Option Int) : MappingWorker O × Outcome O :=
  if !s.accepting || s.fatal || s.resetting then s.discardSubmission observation
  else if s.hasValidate then
    match validate with
    | .threw => s.failClosed.discardSubmission observation
    | .returned false => s.discardSubmission observation
    | .returned true => s.orderAndInstall observation key
  else s.orderAndInstall observation key

/-- READY is emptied with the given accounting call; nothing happens when it is empty. -/
def dropReady (s : MappingWorker O) (account : Snapshot → Snapshot)
    (disposition : Disposition) : MappingWorker O × Outcome O :=
  match s.ready with
  | some observation =>
    ({ s with accounting := account s.accounting, ready := none }, .settled disposition observation)
  | none => (s, .done)

/-- `reset` up to its wait. -/
def beginReset (s : MappingWorker O) : MappingWorker O × Outcome O :=
  if s.shutdownStarted then (s, .done)
  else dropReady { s with resetting := true, resets := s.resets + 1 } discardedReady .discarded

/-- First section of `shutdown`. A worker that was never started drops READY itself. -/
def beginShutdown (s : MappingWorker O) : MappingWorker O × Outcome O :=
  if s.shutdownStarted then (s, .blocked)
  else if s.started then ({ s with shutdownStarted := true, accepting := false }, .done)
  else dropReady { s with shutdownStarted := true, accepting := false }
    discardedShutdownReady .discardedAtShutdown

/-- The locked part of one turn of `run`. -/
def wake (s : MappingWorker O) (validate : Callback) : MappingWorker O × Outcome O :=
  if s.threadStopRequested then
    dropReady { s with thread := .exited } discardedShutdownReady .discardedAtShutdown
  else
    match s.ready with
    | none => (s, .blocked)
    | some observation =>
      if s.hasValidate && validate == .threw then
        dropReady { s.failClosed with thread := .handling } discardedReady .discarded
      else if s.hasValidate && validate == .returned false then
        s.dropReady discardedReady .discarded
      else
        ({ s with
            accounting := mappingStarted s.accounting, ready := none, inFlight := true
            thread := .processing observation }, .done)

/-- The locked part of the two `catch` blocks of `run`. -/
def closeAfterFailure (s : MappingWorker O) : MappingWorker O × Outcome O :=
  dropReady { s.failClosed with thread := .handling, inFlight := false }
    discardedShutdownReady .discardedAtShutdown

inductive Operation (O : Type) where
  | setStrictlyIncreasingOrderKey (initialKey : Int)
  | start
  | recordRejectedBeforeInbox
  | recordAcceptedToInbox (observation : O)
  | submitFromWaiting (validate : Callback) (key : Option Int)
  | beginReset
  | finishReset
  | beginShutdown
  | requestThreadStop
  | finishShutdown
  | wake (validate : Callback)
  | processReturned
  | processThrew
  | publishedHandler (outcome : Callback)
  | closeAfterFailure
  | settle
  | fatalHandlerReturned

def step (s : MappingWorker O) : Operation O → MappingWorker O × Outcome O
  | .setStrictlyIncreasingOrderKey initialKey => s.setStrictlyIncreasingOrderKey initialKey
  | .start => s.start
  -- the one producer is either between submissions or owns a waiting observation
  | .recordRejectedBeforeInbox =>
    match s.waiting with
    | none => ({ s with accounting := recordRejectedBeforeInbox s.accounting }, .done)
    | some _ => (s, .blocked)
  | .recordAcceptedToInbox observation =>
    match s.waiting with
    | none =>
      ({ s with
          accounting := (recordAcceptedToInbox s.accounting).1, waiting := some observation },
        .recorded observation)
    | some _ => (s, .blocked)
  | .submitFromWaiting validate key =>
    match s.waiting with
    | some observation => s.submitFromWaiting observation validate key
    | none => (s, .blocked)
  | .beginReset => s.beginReset
  | .finishReset =>
    if s.resets != 0 && !s.inFlight then
      ({ s with highestAdmittedKey := 0, resetting := false, resets := s.resets - 1 }, .done)
    else (s, .blocked)
  | .beginShutdown => s.beginShutdown
  | .requestThreadStop =>
    if s.shutdownStarted then ({ s with threadStopRequested := true }, .done) else (s, .blocked)
  | .finishShutdown =>
    if s.threadStopRequested && s.thread.over then ({ s with joined := true }, .done)
    else (s, .blocked)
  | .wake validate =>
    match s.thread with
    | .waiting => s.wake validate
    | _ => (s, .blocked)
  | .processReturned =>
    match s.thread with
    | .processing observation =>
      ({ s with accounting := mappingPublished s.accounting, thread := .published },
        .settled .published observation)
    | _ => (s, .blocked)
  | .processThrew =>
    match s.thread with
    | .processing observation =>
      ({ s with accounting := mappingFailed s.accounting, thread := .failing },
        .settled .failed observation)
    | _ => (s, .blocked)
  | .publishedHandler outcome =>
    match s.thread with
    | .published =>
      if s.hasPublishedHandler && outcome == .threw then ({ s with thread := .failing }, .done)
      else ({ s with thread := .settling }, .done)
    | _ => (s, .blocked)
  | .closeAfterFailure =>
    match s.thread with
    | .failing => s.closeAfterFailure
    | _ => (s, .blocked)
  | .settle =>
    match s.thread with
    | .settling => ({ s with thread := .waiting, inFlight := false }, .done)
    | _ => (s, .blocked)
  | .fatalHandlerReturned =>
    match s.thread with
    | .handling => ({ s with thread := .exited }, .done)
    | _ => (s, .blocked)

def create (hasValidate hasPublishedHandler : Bool) : MappingWorker O :=
  { hasValidate, hasPublishedHandler }

end MappingWorker

/-! ## One step of the mapping accounting

`Balanced` says what the counters must be for given occupancies of the three places an
accepted observation can be in. -/

namespace ObservationAccounting

def one (occupied : Bool) : UInt64 := if occupied then 1 else 0

structure Balanced (a : Snapshot) (waiting ready inFlight : Bool) : Prop where
  waitingSlot : a.waiting = one waiting
  readySlot : a.ready = one ready
  inFlightSlot : a.inFlight = one inFlight
  violationCount : a.violationCount = 0
  input : a.received = a.rejectedBeforeInbox + a.acceptedToInbox
  inbox : a.acceptedToInbox = a.replacedWaiting + a.discardedWaiting + a.readySubmitted + a.waiting
  submitted : a.readySubmitted = a.replacedReady + a.discardedReady +
    a.discardedShutdownReady + a.mappingStarted + a.ready
  mapping : a.mappingStarted = a.mappingPublished + a.mappingFailed + a.inFlight
  pending : waiting = false → a.pending = a.ready

variable {a : Snapshot} {waiting ready inFlight : Bool}

theorem Balanced.allInvariantsHold (h : Balanced a waiting ready inFlight) :
    a.allInvariantsHold = true := by
  simp only [Snapshot.allInvariantsHold, Snapshot.inputInvariantHolds, Snapshot.inboxInvariantHolds,
    Snapshot.readyInvariantHolds, Snapshot.mappingInvariantHolds, Bool.and_eq_true, beq_iff_eq]
  exact ⟨⟨⟨⟨h.input, h.inbox⟩, h.submitted⟩, h.mapping⟩, h.violationCount⟩

theorem balanced_initial : Balanced {} false false false :=
  ⟨rfl, rfl, rfl, rfl, rfl, rfl, rfl, rfl, fun _ => rfl⟩

theorem Balanced.recordRejectedBeforeInbox (h : Balanced a waiting ready inFlight) :
    Balanced (recordRejectedBeforeInbox a) waiting ready inFlight := by
  obtain ⟨hw, hr, hf, hv, hInput, hInbox, hSubmitted, hMapping, hPending⟩ := h
  refine ⟨hw, hr, hf, hv, ?_, hInbox, hSubmitted, hMapping, hPending⟩
  simp only [ObservationAccounting.recordRejectedBeforeInbox]
  grind

theorem Balanced.recordAcceptedToInbox (h : Balanced a false ready inFlight) :
    Balanced (recordAcceptedToInbox a).1 true ready inFlight := by
  obtain ⟨hw, hr, hf, hv, hInput, hInbox, hSubmitted, hMapping, hPending⟩ := h
  have hEmpty : a.waiting = 0 := hw
  simp only [ObservationAccounting.recordAcceptedToInbox, hEmpty, bne_self_eq_false,
    Bool.false_eq_true, if_false]
  refine ⟨rfl, hr, hf, hv, ?_, ?_, hSubmitted, hMapping, by intro h; cases h⟩
  · grind
  · grind

theorem one_beq_zero (filled : Bool) : (one filled == 0) = !filled := by cases filled <;> rfl

section
variable (h : Balanced a true ready inFlight)
include h

theorem Balanced.discardedPending : Balanced (discardedPending a) false ready inFlight := by
  obtain ⟨hw, hr, hf, hv, hInput, hInbox, hSubmitted, hMapping, hPending⟩ := h
  simp only [ObservationAccounting.discardedPending, hw, one_beq_zero, Bool.not_true,
    Bool.false_eq_true, if_false]
  refine ⟨rfl, hr, hf, hv, hInput, ?_, hSubmitted, hMapping, fun _ => rfl⟩
  simp only [one, if_true] at hw ⊢
  grind

theorem Balanced.discardedNonmonotonicWaiting :
    Balanced (discardedNonmonotonicWaiting a) false ready inFlight := by
  obtain ⟨hw, hr, hf, hv, hInput, hInbox, hSubmitted, hMapping, hPending⟩ := h
  simp only [ObservationAccounting.discardedNonmonotonicWaiting, hw, one_beq_zero, Bool.not_true,
    Bool.false_eq_true, if_false]
  refine ⟨rfl, hr, hf, hv, hInput, ?_, hSubmitted, hMapping, fun _ => rfl⟩
  simp only [one, if_true] at hw ⊢
  grind

theorem Balanced.waitingSubmitted : Balanced (waitingSubmitted a ready) false true inFlight := by
  obtain ⟨hw, hr, hf, hv, hInput, hInbox, hSubmitted, hMapping, hPending⟩ := h
  cases ready with
  | true =>
    simp only [ObservationAccounting.waitingSubmitted, hw, hr, one_beq_zero, Bool.not_true,
      Bool.false_eq_true,
      if_false, if_true]
    refine ⟨rfl, rfl, hf, hv, hInput, ?_, ?_, hMapping, fun _ => rfl⟩
    · simp only [one, if_true] at hw ⊢
      grind
    · simp only [one, if_true] at hr ⊢
      grind
  | false =>
    simp only [ObservationAccounting.waitingSubmitted, hw, hr, one_beq_zero, Bool.not_true,
      Bool.false_eq_true,
      if_false, bne, one_beq_zero, Bool.not_false, Bool.not_true]
    refine ⟨rfl, rfl, hf, hv, hInput, ?_, ?_, hMapping, fun _ => rfl⟩
    · simp only [one, if_true] at hw ⊢
      grind
    · simp only [one, Bool.false_eq_true, if_false] at hr ⊢
      grind

end

theorem Balanced.discardedShutdownReady (h : Balanced a waiting true inFlight) :
    Balanced (discardedShutdownReady a) waiting false inFlight := by
  obtain ⟨hw, hr, hf, hv, hInput, hInbox, hSubmitted, hMapping, hPending⟩ := h
  simp only [ObservationAccounting.discardedShutdownReady, hr, one_beq_zero, Bool.not_true,
    Bool.false_eq_true,
    if_false]
  refine ⟨hw, rfl, hf, hv, hInput, hInbox, ?_, hMapping, ?_⟩
  · simp only [one, if_true] at hr ⊢
    grind
  · rintro rfl
    exact hw

theorem Balanced.discardedReady (h : Balanced a waiting true inFlight) :
    Balanced (discardedReady a) waiting false inFlight := by
  obtain ⟨hw, hr, hf, hv, hInput, hInbox, hSubmitted, hMapping, hPending⟩ := h
  simp only [ObservationAccounting.discardedReady, hr, one_beq_zero, Bool.not_true,
    Bool.false_eq_true, if_false]
  refine ⟨hw, rfl, hf, hv, hInput, hInbox, ?_, hMapping, ?_⟩
  · simp only [one, if_true] at hr ⊢
    grind
  · rintro rfl
    exact hw

theorem Balanced.mappingStarted (h : Balanced a waiting true false) :
    Balanced (mappingStarted a) waiting false true := by
  obtain ⟨hw, hr, hf, hv, hInput, hInbox, hSubmitted, hMapping, hPending⟩ := h
  simp only [ObservationAccounting.mappingStarted, hr, one_beq_zero, Bool.not_true,
    Bool.false_eq_true, if_false]
  refine ⟨hw, rfl, ?_, hv, hInput, hInbox, ?_, ?_, ?_⟩
  · rw [hf]
    rfl
  · simp only [one, if_true] at hr ⊢
    grind
  · grind
  · rintro rfl
    exact hw

theorem Balanced.mappingPublished (h : Balanced a waiting ready true) :
    Balanced (mappingPublished a) waiting ready false := by
  obtain ⟨hw, hr, hf, hv, hInput, hInbox, hSubmitted, hMapping, hPending⟩ := h
  simp only [ObservationAccounting.mappingPublished, hf, one_beq_zero, Bool.not_true,
    Bool.false_eq_true, if_false]
  refine ⟨hw, hr, rfl, hv, hInput, hInbox, hSubmitted, ?_, hPending⟩
  simp only [one, if_true] at hf ⊢
  grind

theorem Balanced.mappingFailed (h : Balanced a waiting ready true) :
    Balanced (mappingFailed a) waiting ready false := by
  obtain ⟨hw, hr, hf, hv, hInput, hInbox, hSubmitted, hMapping, hPending⟩ := h
  simp only [ObservationAccounting.mappingFailed, hf, one_beq_zero, Bool.not_true,
    Bool.false_eq_true, if_false]
  refine ⟨hw, hr, rfl, hv, hInput, hInbox, hSubmitted, ?_, hPending⟩
  simp only [one, if_true] at hf ⊢
  grind

def Snapshot.settledCount (a : Snapshot) : Disposition → UInt64
  | .replaced => a.replacedWaiting + a.replacedReady
  | .discarded => a.discardedWaiting + a.discardedReady
  | .discardedAtShutdown => a.discardedShutdownReady
  | .published => a.mappingPublished
  | .failed => a.mappingFailed

end ObservationAccounting

/-! ## One step of the worker -/

namespace MappingWorker
variable {O : Type}

open ObservationAccounting

def Outcome.recordedObservation : Outcome O → Option O
  | .recorded observation => some observation
  | _ => none

def Outcome.settlement : Outcome O → Option (Disposition × O)
  | .settled disposition observation => some (disposition, observation)
  | _ => none

def held (s : MappingWorker O) : List O :=
  s.waiting.toList ++ s.ready.toList ++ s.thread.observation.toList

def Booked (s : MappingWorker O) : Prop :=
  Balanced s.accounting s.waiting.isSome s.ready.isSome s.thread.observation.isSome

/-- A step keeps the books right, settles only what it held or has just recorded,
and counts each settlement under its disposition. -/
structure Conserves (s : MappingWorker O) (r : Outcome O) (t : MappingWorker O) : Prop where
  booked : Booked t
  held : (r.settlement.toList.map Prod.snd ++ t.held).Perm (r.recordedObservation.toList ++ s.held)
  counted : ∀ d, t.accounting.settledCount d =
    s.accounting.settledCount d + one (r.settlement.any (·.1 == d))

variable {s t : MappingWorker O} {r : Outcome O}

section
variable (hs : Booked s) (hr : r.settlement = none ∧ r.recordedObservation = none)
include hs hr

theorem Conserves.refl : Conserves s r s := by
  refine ⟨hs, ?_, ?_⟩
  · simp [hr]
  · simp [hr, one]

theorem Conserves.of_same
    (hAccounting : t.accounting = s.accounting) (hWaiting : t.waiting = s.waiting)
    (hReady : t.ready = s.ready) (hThread : t.thread.observation = s.thread.observation) :
    Conserves s r t := by
  refine ⟨?_, ?_, ?_⟩
  · unfold Booked
    rw [hAccounting, hWaiting, hReady, hThread]
    exact hs
  · simp [hr, MappingWorker.held, hWaiting, hReady, hThread]
  · simp [hr, hAccounting, one]

end

/-- What an accounting call that empties READY has to do. -/
structure DropsReady (account : Snapshot → Snapshot) (disposition : Disposition) : Prop where
  balanced : ∀ {a : Snapshot} {waiting inFlight : Bool}, Balanced a waiting true inFlight →
    Balanced (account a) waiting false inFlight
  counted : ∀ {a : Snapshot} {waiting inFlight : Bool}, Balanced a waiting true inFlight →
    ∀ d, (account a).settledCount d = a.settledCount d + one (disposition == d)

variable {observation : O} {account : Snapshot → Snapshot} {disposition : Disposition}

theorem dropsReady_shutdown : DropsReady discardedShutdownReady .discardedAtShutdown where
  balanced := Balanced.discardedShutdownReady
  counted := by
    intro a waiting inFlight h d
    simp only [discardedShutdownReady, h.readySlot, one_beq_zero, Bool.not_true,
      Bool.false_eq_true, if_false]
    cases d <;> simp [Snapshot.settledCount, one]

theorem dropsReady_discarded : DropsReady discardedReady .discarded where
  balanced := Balanced.discardedReady
  counted := by
    intro a waiting inFlight h d
    simp only [discardedReady, h.readySlot, one_beq_zero, Bool.not_true, Bool.false_eq_true, if_false]
    cases d <;> simp [Snapshot.settledCount, one]
    grind

theorem dropReady_conserves (hs : Booked s) (hAccount : DropsReady account disposition) :
    Conserves s (s.dropReady account disposition).2 (s.dropReady account disposition).1 := by
  cases hReady : s.ready with
  | none =>
    simp only [dropReady, hReady]
    exact .refl hs ⟨rfl, rfl⟩
  | some observation =>
    simp only [dropReady, hReady]
    have hBooked : Balanced s.accounting s.waiting.isSome true s.thread.observation.isSome := by
      have h := hs
      unfold Booked at h
      rwa [hReady] at h
    refine ⟨hAccount.balanced hBooked, ?_, ?_⟩
    · simp only [Outcome.settlement, Outcome.recordedObservation, MappingWorker.held, hReady]
      simp only [Option.toList_some, Option.toList_none, List.map_cons, List.map_nil,
        List.append_nil, List.nil_append, List.singleton_append, List.append_assoc]
      exact List.perm_middle.symm
    · intro d
      rw [hAccount.counted hBooked d]
      simp [Outcome.settlement]

theorem Booked.waiting_some (hs : Booked s) (h : s.waiting = some observation) :
    Balanced s.accounting true s.ready.isSome s.thread.observation.isSome := by
  unfold Booked at hs
  rwa [h] at hs

theorem discard_conserves (hWaiting : s.waiting = some observation)
    (hBalanced : Balanced (account s.accounting) false s.ready.isSome s.thread.observation.isSome)
    (hCounted : ∀ d, (account s.accounting).settledCount d =
      s.accounting.settledCount d + one (Disposition.discarded == d))
    (hAccounting : t.accounting = account s.accounting) (hNone : t.waiting = none)
    (hReady : t.ready = s.ready) (hThread : t.thread = s.thread) :
    Conserves s (.settled .discarded observation) t := by
  refine ⟨?_, ?_, ?_⟩
  · unfold Booked
    rw [hAccounting, hNone, hReady, hThread]
    exact hBalanced
  · simp [Outcome.settlement, Outcome.recordedObservation, MappingWorker.held, hWaiting, hNone,
      hReady, hThread]
  · intro d
    rw [hAccounting, hCounted d]
    simp [Outcome.settlement]

section
variable {a : Snapshot} {ready inFlight : Bool} (h : Balanced a true ready inFlight)
  (d : Disposition)
include h

theorem discardedPending_counted :
    (discardedPending a).settledCount d = a.settledCount d + one (Disposition.discarded == d) := by
  simp only [discardedPending, h.waitingSlot, one_beq_zero, Bool.not_true, Bool.false_eq_true, if_false]
  cases d <;> simp [Snapshot.settledCount, one]
  grind

theorem discardedNonmonotonicWaiting_counted : (discardedNonmonotonicWaiting a).settledCount d =
      a.settledCount d + one (Disposition.discarded == d) := by
  simp only [discardedNonmonotonicWaiting, h.waitingSlot, one_beq_zero, Bool.not_true,
    Bool.false_eq_true, if_false]
  cases d <;> simp [Snapshot.settledCount, one]
  grind

theorem waitingSubmitted_counted : (waitingSubmitted a ready).settledCount d =
      a.settledCount d + one (ready && Disposition.replaced == d) := by
  cases ready with
  | true =>
    simp only [waitingSubmitted, h.waitingSlot, h.readySlot, one_beq_zero, Bool.not_true,
      Bool.false_eq_true,
      if_false, if_true]
    cases d <;> simp [Snapshot.settledCount, one]
    grind
  | false =>
    simp only [waitingSubmitted, h.waitingSlot, h.readySlot, one_beq_zero, Bool.not_true,
      Bool.false_eq_true,
      if_false, bne, one_beq_zero, Bool.not_false, Bool.not_true]
    cases d <;> simp [Snapshot.settledCount, one]

end

section
variable (hs : Booked s) (hWaiting : s.waiting = some observation)
include hs hWaiting

section
variable (hAccounting : t.accounting = s.accounting) (hReady : t.ready = s.ready)
  (hThread : t.thread = s.thread)
include hAccounting hReady hThread

theorem discardSubmission_conserves :
    Conserves s (t.discardSubmission observation).2 (t.discardSubmission observation).1 :=
  discard_conserves hWaiting (hs.waiting_some hWaiting).discardedPending
    (discardedPending_counted (hs.waiting_some hWaiting)) (by simp [discardSubmission, hAccounting])
    rfl hReady hThread

theorem install_conserves : Conserves s (t.install observation).2 (t.install observation).1 := by
  have hBalanced := hs.waiting_some hWaiting
  refine ⟨?_, ?_, ?_⟩
  · simp only [Booked, install, hAccounting, hReady, hThread]
    exact hBalanced.waitingSubmitted
  · cases hOld : s.ready with
    | none =>
      simp [install, hReady, hOld, hThread, hWaiting, MappingWorker.held, Outcome.settlement,
        Outcome.recordedObservation]
    | some replaced =>
      simp only [install, hReady, hOld, hThread, hWaiting, MappingWorker.held, Outcome.settlement,
        Outcome.recordedObservation, Option.toList_some, Option.toList_none, List.map_cons,
        List.map_nil, List.nil_append, List.cons_append]
      exact List.Perm.swap _ _ _
  · intro d
    have hCount := waitingSubmitted_counted hBalanced d
    simp only [install, hAccounting, hReady]
    rw [hCount]
    cases s.ready <;> simp [Outcome.settlement]

end

theorem orderAndInstall_conserves (key : Option Int) :
    Conserves s (s.orderAndInstall observation key).2 (s.orderAndInstall observation key).1 := by
  unfold orderAndInstall
  split
  · cases key with
    | none => exact discardSubmission_conserves hs hWaiting rfl rfl rfl
    | some key =>
      simp only
      split
      · exact discard_conserves hWaiting (hs.waiting_some hWaiting).discardedNonmonotonicWaiting
          (discardedNonmonotonicWaiting_counted (hs.waiting_some hWaiting)) rfl rfl rfl rfl
      · exact install_conserves hs hWaiting rfl rfl rfl
  · exact install_conserves hs hWaiting rfl rfl rfl

theorem submitFromWaiting_conserves (validate : Callback) (key : Option Int) :
    Conserves s (s.submitFromWaiting observation validate key).2
      (s.submitFromWaiting observation validate key).1 := by
  unfold submitFromWaiting
  split
  · exact discardSubmission_conserves hs hWaiting rfl rfl rfl
  · split
    · cases validate with
      | threw => exact discardSubmission_conserves hs hWaiting rfl rfl rfl
      | returned value =>
        cases value with
        | false => exact discardSubmission_conserves hs hWaiting rfl rfl rfl
        | true => exact orderAndInstall_conserves hs hWaiting key
    · exact orderAndInstall_conserves hs hWaiting key

end

/-- Two states with the same accounting and the same observations in the same places. -/
structure SamePlaces (s t : MappingWorker O) : Prop where
  accounting : t.accounting = s.accounting
  waiting : t.waiting = s.waiting
  ready : t.ready = s.ready
  observation : t.thread.observation = s.thread.observation

theorem SamePlaces.booked (h : SamePlaces s t) (hs : Booked s) : Booked t := by
  unfold Booked
  rw [h.accounting, h.waiting, h.ready, h.observation]
  exact hs

theorem SamePlaces.conserves {u : MappingWorker O} (h : SamePlaces s t) (ht : Conserves t r u) :
    Conserves s r u := by
  have hHeld : t.held = s.held := by
    simp [MappingWorker.held, h.waiting, h.ready, h.observation]
  refine ⟨ht.booked, ?_, ?_⟩
  · rw [← hHeld]
    exact ht.held
  · rw [← h.accounting]
    exact ht.counted

theorem SamePlaces.dropReady (h : SamePlaces s t) (hs : Booked s)
    (hAccount : DropsReady account disposition) :
    Conserves s (t.dropReady account disposition).2 (t.dropReady account disposition).1 :=
  h.conserves (dropReady_conserves (h.booked hs) hAccount)

theorem wake_conserves (hs : Booked s) (hThread : s.thread = .waiting) (validate : Callback) :
    Conserves s (s.wake validate).2 (s.wake validate).1 := by
  have hIdle : s.thread.observation = none := by
    rw [hThread]
    rfl
  unfold wake
  split
  · refine SamePlaces.dropReady ?_ hs dropsReady_shutdown
    exact ⟨rfl, rfl, rfl, hIdle.symm⟩
  · cases hReady : s.ready with
    | none => exact .refl hs ⟨rfl, rfl⟩
    | some observation =>
      simp only
      split
      · refine SamePlaces.dropReady ?_ hs dropsReady_discarded
        exact ⟨rfl, rfl, rfl, hIdle.symm⟩
      · split
        · exact dropReady_conserves hs dropsReady_discarded
        · have hBalanced : Balanced s.accounting s.waiting.isSome true false := by
            have h := hs
            unfold Booked at h
            rwa [hReady, hIdle] at h
          refine ⟨hBalanced.mappingStarted, ?_, ?_⟩
          · simp [MappingWorker.held, Outcome.settlement, Outcome.recordedObservation,
              MappingThread.observation, hReady, hThread]
          · intro d
            simp only [mappingStarted, hBalanced.readySlot, one_beq_zero, Bool.not_true,
              Bool.false_eq_true, if_false]
            cases d <;> simp [Snapshot.settledCount, Outcome.settlement, one]

theorem finish_conserves (hThread : s.thread = .processing observation)
    (hBalanced : Balanced t.accounting s.waiting.isSome s.ready.isSome false)
    (hCounted : ∀ d, t.accounting.settledCount d = s.accounting.settledCount d + one (disposition == d))
    (hWaiting : t.waiting = s.waiting) (hReady : t.ready = s.ready)
    (hDone : t.thread.observation = none) : Conserves s (.settled disposition observation) t := by
  refine ⟨?_, ?_, ?_⟩
  · unfold Booked
    rw [hWaiting, hReady, hDone]
    exact hBalanced
  · have hHeld : s.thread.observation = some observation := by
      rw [hThread]
      rfl
    simp only [MappingWorker.held, Outcome.settlement, Outcome.recordedObservation, hHeld,
      hWaiting, hReady, hDone, Option.toList_some, Option.toList_none, List.map_cons,
      List.map_nil, List.append_nil, List.nil_append, List.singleton_append]
    exact (List.perm_append_singleton _ _).symm
  · intro d
    rw [hCounted d]
    simp [Outcome.settlement]

section
variable (hs : Booked s)
include hs

theorem setStrictlyIncreasingOrderKey_conserves (initialKey : Int) :
    Conserves s (s.setStrictlyIncreasingOrderKey initialKey).2
      (s.setStrictlyIncreasingOrderKey initialKey).1 := by
  unfold setStrictlyIncreasingOrderKey
  split
  · exact .refl hs ⟨rfl, rfl⟩
  · exact .of_same hs ⟨rfl, rfl⟩ rfl rfl rfl rfl

theorem start_conserves (hLaunched : s.started = false ↔ s.thread = .notStarted) :
    Conserves s s.start.2 s.start.1 := by
  unfold start
  split
  · exact .refl hs ⟨rfl, rfl⟩
  · rename_i hNew
    simp only [Bool.or_eq_true, not_or, Bool.not_eq_true] at hNew
    have hThread := hLaunched.mp hNew.1
    exact .of_same hs ⟨rfl, rfl⟩ rfl rfl rfl (by simp [hThread, MappingThread.observation])

theorem recordRejectedBeforeInbox_conserves (hWaiting : s.waiting = none) :
    Conserves s .done
      { s with accounting := ObservationAccounting.recordRejectedBeforeInbox s.accounting } := by
  have h := hs
  unfold Booked at h
  rw [hWaiting] at h
  refine ⟨?_, ?_, ?_⟩
  · unfold Booked
    rw [hWaiting]
    exact h.recordRejectedBeforeInbox
  · simp [MappingWorker.held, Outcome.settlement, Outcome.recordedObservation, hWaiting]
  · intro d
    cases d <;> simp [Snapshot.settledCount, Outcome.settlement, one,
      ObservationAccounting.recordRejectedBeforeInbox]

theorem recordAcceptedToInbox_conserves (hWaiting : s.waiting = none) :
    Conserves s (.recorded observation)
      { s with
        accounting := (ObservationAccounting.recordAcceptedToInbox s.accounting).1
        waiting := some observation } := by
  have h := hs
  unfold Booked at h
  rw [hWaiting] at h
  refine ⟨h.recordAcceptedToInbox, ?_, ?_⟩
  · simp [MappingWorker.held, Outcome.settlement, Outcome.recordedObservation, hWaiting]
  · intro d
    have hEmpty : s.accounting.waiting = 0 := h.waitingSlot
    cases d <;> simp [Snapshot.settledCount, Outcome.settlement, one,
      ObservationAccounting.recordAcceptedToInbox, hEmpty]

theorem beginReset_conserves : Conserves s s.beginReset.2 s.beginReset.1 := by
  unfold beginReset
  split
  · exact .refl hs ⟨rfl, rfl⟩
  · refine SamePlaces.dropReady ?_ hs dropsReady_discarded
    exact ⟨rfl, rfl, rfl, rfl⟩

theorem beginShutdown_conserves : Conserves s s.beginShutdown.2 s.beginShutdown.1 := by
  unfold beginShutdown
  split
  · exact .refl hs ⟨rfl, rfl⟩
  · split
    · exact .of_same hs ⟨rfl, rfl⟩ rfl rfl rfl rfl
    · refine SamePlaces.dropReady ?_ hs dropsReady_shutdown
      exact ⟨rfl, rfl, rfl, rfl⟩

theorem processReturned_conserves (hThread : s.thread = .processing observation) :
    Conserves s (.settled .published observation)
      { s with
        accounting := ObservationAccounting.mappingPublished s.accounting, thread := .published } := by
  have h := hs
  unfold Booked at h
  rw [hThread] at h
  refine finish_conserves hThread h.mappingPublished ?_ rfl rfl rfl
  intro d
  simp only [mappingPublished, h.inFlightSlot]
  cases d <;> simp [Snapshot.settledCount, one, MappingThread.observation]

theorem processThrew_conserves (hThread : s.thread = .processing observation) :
    Conserves s (.settled .failed observation)
      { s with
        accounting := ObservationAccounting.mappingFailed s.accounting, thread := .failing } := by
  have h := hs
  unfold Booked at h
  rw [hThread] at h
  refine finish_conserves hThread h.mappingFailed ?_ rfl rfl rfl
  intro d
  simp only [mappingFailed, h.inFlightSlot]
  cases d <;> simp [Snapshot.settledCount, one, MappingThread.observation]

end

theorem step_conserves (s : MappingWorker O) (op : Operation O) (hs : Booked s)
    (hLaunched : s.started = false ↔ s.thread = .notStarted) :
    Conserves s (s.step op).2 (s.step op).1 := by
  have hBlocked : Conserves s .blocked s := .refl hs ⟨rfl, rfl⟩
  cases op with
  | setStrictlyIncreasingOrderKey initialKey =>
    exact setStrictlyIncreasingOrderKey_conserves hs initialKey
  | start => exact start_conserves hs hLaunched
  | recordRejectedBeforeInbox =>
    simp only [step]
    split
    · rename_i hWaiting
      exact recordRejectedBeforeInbox_conserves hs hWaiting
    · exact hBlocked
  | recordAcceptedToInbox observation =>
    simp only [step]
    cases hWaiting : s.waiting with
    | some other => exact hBlocked
    | none => exact recordAcceptedToInbox_conserves hs hWaiting
  | submitFromWaiting validate key =>
    simp only [step]
    cases hWaiting : s.waiting with
    | none => exact hBlocked
    | some observation => exact submitFromWaiting_conserves hs hWaiting validate key
  | beginReset => exact beginReset_conserves hs
  | beginShutdown => exact beginShutdown_conserves hs
  | finishReset =>
    simp only [step]
    split
    · exact .of_same hs ⟨rfl, rfl⟩ rfl rfl rfl rfl
    · exact hBlocked
  | requestThreadStop =>
    simp only [step]
    split
    · exact .of_same hs ⟨rfl, rfl⟩ rfl rfl rfl rfl
    · exact hBlocked
  | finishShutdown =>
    simp only [step]
    split
    · exact .of_same hs ⟨rfl, rfl⟩ rfl rfl rfl rfl
    · exact hBlocked
  | wake validate =>
    cases hThread : s.thread <;> simp only [step, hThread] <;> try exact hBlocked
    exact wake_conserves hs hThread validate
  | processReturned =>
    cases hThread : s.thread <;> simp only [step, hThread] <;> try exact hBlocked
    exact processReturned_conserves hs hThread
  | processThrew =>
    cases hThread : s.thread <;> simp only [step, hThread] <;> try exact hBlocked
    exact processThrew_conserves hs hThread
  | publishedHandler outcome =>
    cases hThread : s.thread <;> simp only [step, hThread] <;> try exact hBlocked
    split
    · exact .of_same hs ⟨rfl, rfl⟩ rfl rfl rfl (by simp [hThread, MappingThread.observation])
    · exact .of_same hs ⟨rfl, rfl⟩ rfl rfl rfl (by simp [hThread, MappingThread.observation])
  | closeAfterFailure =>
    cases hThread : s.thread <;> simp only [step, hThread] <;> try exact hBlocked
    refine SamePlaces.dropReady ?_ hs dropsReady_shutdown
    exact ⟨rfl, rfl, rfl, by simp [hThread, MappingThread.observation]⟩
  | settle =>
    cases hThread : s.thread <;> simp only [step, hThread] <;> try exact hBlocked
    exact .of_same hs ⟨rfl, rfl⟩ rfl rfl rfl (by simp [hThread, MappingThread.observation])
  | fatalHandlerReturned =>
    cases hThread : s.thread <;> simp only [step, hThread] <;> try exact hBlocked
    exact .of_same hs ⟨rfl, rfl⟩ rfl rfl rfl (by simp [hThread, MappingThread.observation])

end MappingWorker

end UavNavigation
