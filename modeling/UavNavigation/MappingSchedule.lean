import UavNavigation.MappingShutdown

/-!
# The mapping worker under any number of producers

The same critical sections as in `MappingWorker`, in any order and from any number
of threads. A submission carries its number in the order in which the calls got the
lock. The thread leaves the lock between taking an observation and entering
`process_`, so entering is a step of its own.
-/

namespace UavNavigation

set_option autoImplicit false

open ObservationAccounting Runs MappingWorker

/-! ## Schedules -/

structure Submission (O : Type) where
  number : Nat
  observation : O
deriving DecidableEq

/-- `entered` is the place of the thread with respect to `process_`; `calls` counts
the calls of `process_` that have begun and not ended. -/
structure MappingSchedule (O : Type) where
  worker : MappingWorker (Submission O)
  orderKey : O → Int := fun _ => 0
  submissions : Nat := 0
  entered : Bool := false
  calls : Nat := 0

namespace MappingSchedule
variable {O : Type}

inductive Operation (O : Type) where
  | setStrictlyIncreasingOrderKey (orderKey : O → Int) (initialKey : Int)
  | start
  | recordRejectedBeforeInbox
  | recordAcceptedToInbox
  | submitFromWaiting (observation : O) (validate : Callback) (keyThrew : Bool)
  | beginReset
  | finishReset
  | beginShutdown
  | requestThreadStop
  | finishShutdown
  | wake (validate : Callback)
  | processBegins
  | processReturned
  | processThrew
  | publishedHandler (outcome : Callback)
  | closeAfterFailure
  | settle
  | fatalHandlerReturned

/-- What the thread has taken and not yet handed to `process_`. -/
def taken (s : MappingSchedule O) : Option (Submission O) :=
  if s.entered then none else s.worker.thread.observation

def keyOf (s : MappingSchedule O) (submission : Submission O) : Int :=
  s.orderKey submission.observation

def locked (s : MappingSchedule O) (op : MappingWorker.Operation (Submission O)) :
    MappingSchedule O × MappingWorker.Outcome (Submission O) :=
  ({ s with worker := (s.worker.step op).1 }, (s.worker.step op).2)

/-- `process_` ends, and the thread accounts for it. -/
def leave (s : MappingSchedule O) (op : MappingWorker.Operation (Submission O)) :
    MappingSchedule O × MappingWorker.Outcome (Submission O) :=
  if s.entered then
    ({ s with worker := (s.worker.step op).1, entered := false, calls := s.calls - 1 },
      (s.worker.step op).2)
  else (s, .blocked)

def step (s : MappingSchedule O) :
    Operation O → MappingSchedule O × MappingWorker.Outcome (Submission O)
  | .setStrictlyIncreasingOrderKey orderKey initialKey =>
    if s.worker.started || s.worker.ready.isSome then (s, .threw)
    else
      ({ s with worker := (s.worker.setStrictlyIncreasingOrderKey initialKey).1, orderKey }, .done)
  | .start => s.locked .start
  | .recordRejectedBeforeInbox => s.locked .recordRejectedBeforeInbox
  | .recordAcceptedToInbox =>
    ({ s with worker.accounting := (recordAcceptedToInbox s.worker.accounting).1 }, .done)
  | .submitFromWaiting observation validate keyThrew =>
    let submission : Submission O := ⟨s.submissions, observation⟩
    let key := if keyThrew then none else some (s.keyOf submission)
    ({ s with
        worker := (s.worker.submitFromWaiting submission validate key).1
        submissions := s.submissions + 1 },
      (s.worker.submitFromWaiting submission validate key).2)
  | .beginReset => s.locked .beginReset
  | .finishReset => s.locked .finishReset
  | .beginShutdown => s.locked .beginShutdown
  | .requestThreadStop => s.locked .requestThreadStop
  | .finishShutdown => s.locked .finishShutdown
  | .wake validate => s.locked (.wake validate)
  | .processBegins =>
    match s.taken with
    | some _ => ({ s with entered := true, calls := s.calls + 1 }, .done)
    | none => (s, .blocked)
  | .processReturned => s.leave .processReturned
  | .processThrew => s.leave .processThrew
  | .publishedHandler outcome => s.locked (.publishedHandler outcome)
  | .closeAfterFailure => s.locked .closeAfterFailure
  | .settle => s.locked .settle
  | .fatalHandlerReturned => s.locked .fatalHandlerReturned

def create (hasValidate hasPublishedHandler : Bool) : MappingSchedule O :=
  { worker := MappingWorker.create hasValidate hasPublishedHandler }

abbrev ScheduleEvent (O : Type) :=
  Event (MappingSchedule O) (Operation O) (MappingWorker.Outcome (Submission O))

/-- The submission that the operation hands to `process_`. -/
def begun (e : ScheduleEvent O) : Option (Submission O) :=
  match e.op with
  | .processBegins => e.before.taken
  | _ => none

def begunKey (e : ScheduleEvent O) : Option Int :=
  if e.before.worker.hasOrderKey then (begun e).map e.before.keyOf else none

def CompletesReset (e : ScheduleEvent O) : Prop :=
  e.op = .finishReset ∧ e.result = .done

def raisesFatal (s : MappingSchedule O) (validate : Callback) (keyThrew : Bool) : Bool :=
  s.worker.accepting && !s.worker.fatal && !s.worker.resetting &&
    ((s.worker.hasValidate && validate == .threw) ||
      ((!s.worker.hasValidate || validate == .returned true) && s.worker.hasOrderKey && keyThrew))

def ResetsEmpty (e : ScheduleEvent O) : Prop :=
  CompletesReset e → e.before.worker.ready = none

/-- A submission fails only when nothing is left for the thread to process. -/
def FailsEmpty (e : ScheduleEvent O) : Prop :=
  ∀ observation validate keyThrew, e.op = .submitFromWaiting observation validate keyThrew →
    e.before.raisesFatal validate keyThrew = true →
    e.before.taken = none ∧ (e.before.worker.ready = none ∨ e.before.worker.thread = .failing)

/-! ## The sections of one thread -/

end MappingSchedule

namespace MappingWorker
variable {O : Type}

/-- The operations that leave the order key alone, submit nothing and end no processing. -/
def Operation.lifecycle : Operation O → Bool
  | .setStrictlyIncreasingOrderKey _ | .recordAcceptedToInbox _ | .submitFromWaiting _ _
  | .finishReset | .processReturned | .processThrew => false
  | _ => true

/-- The order key stays, the worker is not started again, and it does not reopen. -/
structure KeepsOrder (s t : MappingWorker O) : Prop where
  hasOrderKey : t.hasOrderKey = s.hasOrderKey
  highest : t.highestAdmittedKey = s.highestAdmittedKey
  started : s.started = true → t.started = true
  accepting : s.accepting = false → t.accepting = false

theorem KeepsOrder.refl (s : MappingWorker O) : KeepsOrder s s := ⟨rfl, rfl, id, id⟩

/-- What a section of the lifecycle does to the places of an observation. -/
inductive Section (s t : MappingWorker O) : Prop where
  | keeps : KeepsOrder s t → t.thread = s.thread → t.inFlight = s.inFlight → t.fatal = s.fatal →
      t.ready = s.ready ∨ t.ready = none → Section s t
  | idles : KeepsOrder s t → s.thread.observation = none → t.thread.observation = none →
      t.ready = s.ready ∨ t.ready = none → (s.thread = .failing → t.ready = none) →
      (t.fatal = true → s.fatal = true ∨ t.ready = none ∧ t.accepting = false) → Section s t
  | takes (observation : O) : KeepsOrder s t → s.thread = .waiting →
      s.ready = some observation → t.ready = none → t.thread = .processing observation →
      t.inFlight = true → t.fatal = s.fatal → Section s t

theorem Section.refl (s : MappingWorker O) : Section s s :=
  .keeps (.refl s) rfl rfl rfl (.inl rfl)

theorem dropReady_section {s t : MappingWorker O} (hOrder : KeepsOrder s t)
    (hThread : t.thread = s.thread) (hInFlight : t.inFlight = s.inFlight)
    (hFatal : t.fatal = s.fatal) (account : Snapshot → Snapshot) (disposition : Disposition) :
    Section s (t.dropReady account disposition).1 := by
  unfold dropReady
  cases hReady : t.ready with
  | none => exact .keeps hOrder hThread hInFlight hFatal (.inr hReady)
  | some observation => exact .keeps ⟨hOrder.1, hOrder.2, hOrder.3, hOrder.4⟩ hThread hInFlight hFatal (.inr rfl)

theorem dropReady_idles {s t : MappingWorker O} (hOrder : KeepsOrder s t)
    (hBefore : s.thread.observation = none) (hAfter : t.thread.observation = none)
    (hFatal : t.fatal = true → s.fatal = true ∨ t.accepting = false)
    (account : Snapshot → Snapshot) (disposition : Disposition) :
    Section s (t.dropReady account disposition).1 := by
  have hEmpty : (t.dropReady account disposition).1.ready = none := dropReady_ready _ _ _
  have hSame : (t.dropReady account disposition).1.fatal = t.fatal := by
    unfold dropReady
    split <;> rfl
  refine .idles ?_ hBefore ?_ (.inr hEmpty) (fun _ => hEmpty) ?_
  · unfold dropReady
    split
    · exact ⟨hOrder.1, hOrder.2, hOrder.3, hOrder.4⟩
    · exact hOrder
  · rw [dropReady_thread]
    exact hAfter
  · rw [hSame, dropReady_accepting]
    intro h
    rcases hFatal h with h | h
    · exact .inl h
    · exact .inr ⟨hEmpty, h⟩

theorem wake_section (s : MappingWorker O) (hThread : s.thread = .waiting) (validate : Callback) :
    Section s (s.wake validate).1 := by
  have hIdle : s.thread.observation = none := by
    rw [hThread]
    rfl
  unfold wake
  split
  · refine dropReady_idles ?_ hIdle ?_ ?_ _ _
    · exact ⟨rfl, rfl, id, id⟩
    · rfl
    · exact .inl
  · cases hReady : s.ready with
    | none => exact .refl s
    | some observation =>
      simp only
      split
      · refine dropReady_idles ?_ hIdle ?_ ?_ _ _
        · exact ⟨rfl, rfl, id, fun _ => rfl⟩
        · rfl
        · exact fun _ => .inr rfl
      · split
        · exact dropReady_section (.refl s) rfl rfl rfl _ _
        · exact .takes observation ⟨rfl, rfl, id, id⟩ hThread hReady rfl rfl rfl rfl

theorem step_section (s : MappingWorker O) (hs : Closing s) (op : Operation O)
    (hOp : op.lifecycle = true) : Section s (s.step op).1 := by
  cases op with
  | setStrictlyIncreasingOrderKey => cases hOp
  | recordAcceptedToInbox => cases hOp
  | submitFromWaiting => cases hOp
  | finishReset => cases hOp
  | processReturned => cases hOp
  | processThrew => cases hOp
  | start =>
    simp only [step, start]
    split
    · exact .refl s
    · rename_i hNew
      simp only [Bool.or_eq_true, not_or, Bool.not_eq_true] at hNew
      have hThread := hs.launched.mp hNew.1
      exact .idles ⟨rfl, rfl, fun _ => rfl, id⟩ (by rw [hThread]; rfl) rfl (.inl rfl)
        (by rw [hThread]; intro h; cases h) .inl
  | recordRejectedBeforeInbox =>
    simp only [step]
    split
    · exact .keeps ⟨rfl, rfl, id, id⟩ rfl rfl rfl (.inl rfl)
    · exact .refl s
  | beginReset =>
    simp only [step, beginReset]
    split
    · exact .refl s
    · refine dropReady_section ?_ ?_ ?_ ?_ _ _
      · exact ⟨rfl, rfl, id, id⟩
      all_goals rfl
  | beginShutdown =>
    simp only [step, beginShutdown]
    split
    · exact .refl s
    · split
      · exact .keeps ⟨rfl, rfl, id, fun _ => rfl⟩ rfl rfl rfl (.inl rfl)
      · refine dropReady_section ?_ ?_ ?_ ?_ _ _
        · exact ⟨rfl, rfl, id, fun _ => rfl⟩
        all_goals rfl
  | requestThreadStop =>
    simp only [step]
    split
    · exact .keeps ⟨rfl, rfl, id, id⟩ rfl rfl rfl (.inl rfl)
    · exact .refl s
  | finishShutdown =>
    simp only [step]
    split
    · exact .keeps ⟨rfl, rfl, id, id⟩ rfl rfl rfl (.inl rfl)
    · exact .refl s
  | wake validate =>
    cases hThread : s.thread with
    | waiting =>
      simp only [step, hThread]
      exact wake_section s hThread validate
    | _ =>
      simp only [step, hThread]
      exact .refl s
  | publishedHandler outcome =>
    cases hThread : s.thread with
    | published =>
      simp only [step, hThread]
      have hIdle : s.thread.observation = none := by
        rw [hThread]
        rfl
      split <;> exact .idles ⟨rfl, rfl, id, id⟩ hIdle rfl (.inl rfl) (by simp [hThread]) .inl
    | _ =>
      simp only [step, hThread]
      exact .refl s
  | closeAfterFailure =>
    cases hThread : s.thread with
    | failing =>
      simp only [step, hThread]
      have hIdle : s.thread.observation = none := by
        rw [hThread]
        rfl
      refine dropReady_idles ?_ hIdle ?_ ?_ _ _
      · exact ⟨rfl, rfl, id, fun _ => rfl⟩
      · rfl
      · exact fun _ => .inr rfl
    | _ =>
      simp only [step, hThread]
      exact .refl s
  | settle =>
    cases hThread : s.thread with
    | settling =>
      simp only [step, hThread]
      exact .idles ⟨rfl, rfl, id, id⟩ (by rw [hThread]; rfl) rfl (.inl rfl) (by simp [hThread]) .inl
    | _ =>
      simp only [step, hThread]
      exact .refl s
  | fatalHandlerReturned =>
    cases hThread : s.thread with
    | handling =>
      simp only [step, hThread]
      exact .idles ⟨rfl, rfl, id, id⟩ (by rw [hThread]; rfl) rfl (.inl rfl) (by simp [hThread]) .inl
    | _ =>
      simp only [step, hThread]
      exact .refl s

/-- What a submission does: the key is raised only for an observation that is let in. -/
inductive Submitted (s t : MappingWorker O) (observation : O) (key : Option Int) : Prop where
  | refused : KeepsOrder s t → t.ready = s.ready → t.fatal = s.fatal → Submitted s t observation key
  | failed : KeepsOrder s t → t.ready = s.ready → t.fatal = true → t.accepting = false →
      s.accepting = true → s.fatal = false → Submitted s t observation key
  | admitted : t.hasOrderKey = s.hasOrderKey → t.started = s.started → t.fatal = s.fatal →
      s.accepting = true → s.fatal = false → t.ready = some observation →
      (s.hasOrderKey = true → ∃ k, key = some k ∧ s.highestAdmittedKey < k ∧
        t.highestAdmittedKey = k) →
      Submitted s t observation key

variable (s : MappingWorker O) (observation : O)

theorem orderAndInstall_submitted (key : Option Int)
    (hOpen : s.accepting = true) (hFatal : s.fatal = false) :
    Submitted s (s.orderAndInstall observation key).1 observation key := by
  unfold orderAndInstall
  split
  · cases key with
    | none => exact .failed ⟨rfl, rfl, id, fun _ => rfl⟩ rfl rfl rfl hOpen hFatal
    | some key =>
      simp only
      split
      · exact .refused ⟨rfl, rfl, id, id⟩ rfl rfl
      · rename_i hAbove
        exact .admitted rfl rfl rfl hOpen hFatal rfl fun _ => ⟨key, rfl, by omega, rfl⟩
  · rename_i hKey
    exact .admitted rfl rfl rfl hOpen hFatal rfl fun h => absurd h hKey

theorem submitFromWaiting_submitted (validate : Callback) (key : Option Int) :
    Submitted s (s.submitFromWaiting observation validate key).1 observation key := by
  unfold submitFromWaiting
  split
  · exact .refused ⟨rfl, rfl, id, id⟩ rfl rfl
  · rename_i hOpen
    simp only [Bool.or_eq_true, Bool.not_eq_true', not_or, Bool.not_eq_false,
      Bool.not_eq_true] at hOpen
    obtain ⟨⟨hAccepting, hFatal⟩, -⟩ := hOpen
    split
    · cases validate with
      | threw => exact .failed ⟨rfl, rfl, id, fun _ => rfl⟩ rfl rfl rfl hAccepting hFatal
      | returned value =>
        cases value with
        | false => exact .refused ⟨rfl, rfl, id, id⟩ rfl rfl
        | true => exact orderAndInstall_submitted s observation key hAccepting hFatal
    · exact orderAndInstall_submitted s observation key hAccepting hFatal

end MappingWorker

/-! ## The one thread -/

namespace MappingSchedule
variable {O : Type} {s : MappingSchedule O}

/-- At most one call is in progress, and it is the thread's. -/
structure Owned (s : MappingSchedule O) : Prop where
  closing : Closing s.worker
  calls : s.calls = if s.entered then 1 else 0
  entered : s.entered = true → s.worker.thread.observation.isSome
  inFlight : s.worker.thread.observation.isSome → s.worker.inFlight = true

variable {op : MappingWorker.Operation (Submission O)}

theorem create_owned (hasValidate hasPublishedHandler : Bool) :
    Owned (create hasValidate hasPublishedHandler : MappingSchedule O) := by
  refine ⟨MappingWorker.create_closing _ _, rfl, ?_, ?_⟩
  · intro h
    cases h
  · intro h
    cases h

theorem Owned.entered_false (hs : Owned s) (hIdle : s.worker.thread.observation = none) :
    s.entered = false := by
  cases hEntered : s.entered with
  | false => rfl
  | true =>
    have hHeld := hs.entered hEntered
    rw [hIdle] at hHeld
    cases hHeld

theorem Owned.taken_none (hs : Owned s) (hFree : s.worker.inFlight = false) :
    s.taken = none ∧ s.calls = 0 := by
  have hIdle : s.worker.thread.observation = none := by
    cases hObservation : s.worker.thread.observation with
    | none => rfl
    | some submission =>
      have hMarked := hs.inFlight (by rw [hObservation]; rfl)
      rw [hFree] at hMarked
      cases hMarked
  refine ⟨?_, ?_⟩
  · simp [taken, hIdle]
  · simp [hs.calls, hs.entered_false hIdle]

theorem Owned.of_same {t : MappingSchedule O} (hs : Owned s)
    (hClosing : Closing t.worker) (hThread : t.worker.thread = s.worker.thread)
    (hInFlight : t.worker.inFlight = s.worker.inFlight) (hEntered : t.entered = s.entered)
    (hCalls : t.calls = s.calls) : Owned t := by
  refine ⟨hClosing, ?_, ?_, ?_⟩
  · rw [hCalls, hEntered]
    exact hs.calls
  · rw [hEntered, hThread]
    exact hs.entered
  · rw [hThread, hInFlight]
    exact hs.inFlight

theorem Owned.locked (hs : Owned s) (hOp : op.lifecycle = true) : Owned (s.locked op).1 := by
  have hClosing := MappingWorker.step_closing _ op hs.closing
  cases MappingWorker.step_section s.worker hs.closing op hOp with
  | keeps _ hThread hInFlight _ _ => exact hs.of_same hClosing hThread hInFlight rfl rfl
  | idles _ hBefore hAfter _ _ _ =>
    refine ⟨hClosing, hs.calls, ?_, ?_⟩
    · intro h
      have hHeld := hs.entered h
      rw [hBefore] at hHeld
      cases hHeld
    · intro h
      change (s.worker.step op).1.thread.observation.isSome = true at h
      rw [hAfter] at h
      cases h
  | takes observation _ hWaiting _ _ hThread hInFlight _ =>
    refine ⟨hClosing, hs.calls, ?_, fun _ => hInFlight⟩
    intro h
    have hHeld := hs.entered h
    rw [hWaiting] at hHeld
    cases hHeld

/-- The end of `process_`. -/
theorem leave_eq (hs : Owned s) (hEntered : s.entered = true)
    (hOp : op = .processReturned ∨ op = .processThrew) :
    (s.leave op).1.worker.thread.observation = none ∧ (s.leave op).1.entered = false ∧
      (s.leave op).1.worker.ready = s.worker.ready ∧
      (s.leave op).1.worker.fatal = s.worker.fatal ∧
      (s.leave op).1.worker.accepting = s.worker.accepting ∧
      (s.leave op).1.worker.hasOrderKey = s.worker.hasOrderKey ∧
      (s.leave op).1.worker.highestAdmittedKey = s.worker.highestAdmittedKey ∧
      (s.leave op).1.worker.started = s.worker.started := by
  have hHeld := hs.entered hEntered
  cases hThread : s.worker.thread with
  | processing submission =>
    rcases hOp with rfl | rfl <;>
      simp [MappingSchedule.leave, hEntered, MappingWorker.step, hThread, MappingThread.observation]
  | _ => simp [hThread, MappingThread.observation] at hHeld

theorem Owned.leave (hs : Owned s) (hOp : op = .processReturned ∨ op = .processThrew) :
    Owned (s.leave op).1 := by
  cases hEntered : s.entered with
  | false =>
    simp only [MappingSchedule.leave, hEntered, Bool.false_eq_true, if_false]
    exact hs
  | true =>
    obtain ⟨hIdle, hOutside, -⟩ := leave_eq hs hEntered hOp
    have hCalls := hs.calls
    rw [hEntered, if_pos rfl] at hCalls
    refine ⟨?_, ?_, ?_, ?_⟩
    · simp only [MappingSchedule.leave, hEntered, if_true]
      exact MappingWorker.step_closing _ op hs.closing
    · rw [hOutside]
      simp [MappingSchedule.leave, hEntered, hCalls]
    · rw [hOutside]
      intro h
      cases h
    · rw [hIdle]
      intro h
      cases h

theorem submit_inFlight (s : MappingWorker O) (observation : O) (validate : Callback)
    (key : Option Int) : (s.submitFromWaiting observation validate key).1.inFlight = s.inFlight := by
  have hOrder : (s.orderAndInstall observation key).1.inFlight = s.inFlight := by
    unfold orderAndInstall
    split
    · cases key with
      | none => rfl
      | some key =>
        simp only
        split <;> rfl
    · rfl
  unfold submitFromWaiting
  split
  · rfl
  · split
    · cases validate with
      | threw => rfl
      | returned value =>
        cases value
        · rfl
        · exact hOrder
    · exact hOrder

theorem finishReset_cases (s : MappingWorker O) : (s.step .finishReset = (s, .blocked)) ∨
      (s.inFlight = false ∧ s.step .finishReset =
        ({ s with highestAdmittedKey := 0, resetting := false, resets := s.resets - 1 }, .done)) := by
  simp only [MappingWorker.step]
  split
  · rename_i hFree
    simp only [Bool.and_eq_true, Bool.not_eq_true'] at hFree
    exact .inr ⟨hFree.2, rfl⟩
  · exact .inl rfl

theorem setOrderKey_cases (s : MappingSchedule O) (orderKey : O → Int) (initialKey : Int) :
    ((s.step (.setStrictlyIncreasingOrderKey orderKey initialKey)).1 = s) ∨
      (s.worker.started = false ∧ s.worker.ready = none ∧
        (s.step (.setStrictlyIncreasingOrderKey orderKey initialKey)).1 =
          { s with
            worker.hasOrderKey := true, worker.highestAdmittedKey := initialKey, orderKey }) := by
  simp only [step]
  split
  · exact .inl rfl
  · rename_i hNew
    simp only [Bool.or_eq_true, not_or, Bool.not_eq_true, Option.isSome_eq_false_iff,
      Option.isNone_iff_eq_none] at hNew
    refine .inr ⟨hNew.1, hNew.2, ?_⟩
    simp [setStrictlyIncreasingOrderKey, hNew.1, hNew.2]

theorem step_owned (op : Operation O) (hs : Owned s) : Owned (s.step op).1 := by
  cases op with
  | setStrictlyIncreasingOrderKey orderKey initialKey =>
    rcases setOrderKey_cases s orderKey initialKey with h | ⟨_, _, h⟩
    · rw [h]
      exact hs
    · rw [h]
      exact hs.of_same (hs.closing.of_same rfl rfl rfl rfl rfl fun h => ⟨h, rfl⟩) rfl rfl rfl rfl
  | recordAcceptedToInbox =>
    exact hs.of_same (hs.closing.of_same rfl rfl rfl rfl rfl fun h => ⟨h, rfl⟩) rfl rfl rfl rfl
  | submitFromWaiting observation validate keyThrew =>
    have hFrame := submitFromWaiting_frame s.worker ⟨s.submissions, observation⟩
      validate (if keyThrew then none else some (s.keyOf ⟨s.submissions, observation⟩))
    exact hs.of_same (hs.closing.of_same hFrame.thread hFrame.started hFrame.shutdownStarted
      hFrame.threadStopRequested hFrame.joined hFrame.closed) hFrame.thread (submit_inFlight _ _ _ _)
      rfl rfl
  | finishReset =>
    have hClosing := MappingWorker.step_closing _ .finishReset hs.closing
    rcases finishReset_cases s.worker with h | ⟨_, h⟩
    · simp only [step, MappingSchedule.locked, h]
      exact hs
    · simp only [step, MappingSchedule.locked]
      rw [h] at hClosing ⊢
      exact hs.of_same hClosing rfl rfl rfl rfl
  | processBegins =>
    simp only [step]
    cases hTaken : s.taken with
    | none => exact hs
    | some submission =>
      unfold taken at hTaken
      split at hTaken
      · cases hTaken
      · rename_i hOutside
        have hCalls := hs.calls
        rw [if_neg hOutside] at hCalls
        refine ⟨hs.closing, ?_, ?_, hs.inFlight⟩
        · simp [hCalls]
        · intro _
          change s.worker.thread.observation.isSome = true
          rw [hTaken]
          rfl
  | processReturned => exact hs.leave (.inl rfl)
  | processThrew => exact hs.leave (.inr rfl)
  | _ => exact hs.locked rfl

end MappingSchedule

end UavNavigation
