import UavNavigation.MappingWorker

/-!
# Mapping accounting over every interleaving

The observations settled so far, with those still held, are the accepted ones.
When the thread is joined only the producer can hold one.
-/

namespace UavNavigation.MappingWorker

set_option autoImplicit false

open ObservationAccounting Runs

variable {O : Type}

/-! ## Closing down -/

section DropReady
variable (s : MappingWorker O) (account : Snapshot → Snapshot) (disposition : Disposition)

@[simp] theorem dropReady_ready : (s.dropReady account disposition).1.ready = none := by
  unfold dropReady
  cases hReady : s.ready <;> simp [hReady]

@[simp] theorem dropReady_thread : (s.dropReady account disposition).1.thread = s.thread := by
  unfold dropReady
  split <;> rfl

@[simp] theorem dropReady_accepting :
    (s.dropReady account disposition).1.accepting = s.accepting := by
  unfold dropReady
  split <;> rfl

@[simp] theorem dropReady_started : (s.dropReady account disposition).1.started = s.started := by
  unfold dropReady
  split <;> rfl

@[simp] theorem dropReady_shutdownStarted :
    (s.dropReady account disposition).1.shutdownStarted = s.shutdownStarted := by
  unfold dropReady
  split <;> rfl

@[simp] theorem dropReady_threadStopRequested :
    (s.dropReady account disposition).1.threadStopRequested = s.threadStopRequested := by
  unfold dropReady
  split <;> rfl

@[simp] theorem dropReady_joined : (s.dropReady account disposition).1.joined = s.joined := by
  unfold dropReady
  split <;> rfl

end DropReady

/-- A submission touches the thread and the shutdown flags never, and READY only
while the worker accepts. -/
structure SubmissionFrame (s t : MappingWorker O) : Prop where
  thread : t.thread = s.thread
  started : t.started = s.started
  shutdownStarted : t.shutdownStarted = s.shutdownStarted
  threadStopRequested : t.threadStopRequested = s.threadStopRequested
  joined : t.joined = s.joined
  closed : s.accepting = false → t.accepting = false ∧ t.ready = s.ready

theorem orderAndInstall_frame (s : MappingWorker O) (observation : O) (key : Option Int)
    (hOpen : s.accepting = true) : SubmissionFrame s (s.orderAndInstall observation key).1 := by
  have hClosed : ∀ {p : Prop}, s.accepting = false → p := by
    intro p h
    rw [hOpen] at h
    cases h
  unfold orderAndInstall
  split
  · cases key with
    | none => exact ⟨rfl, rfl, rfl, rfl, rfl, hClosed⟩
    | some key =>
      simp only
      split <;> exact ⟨rfl, rfl, rfl, rfl, rfl, hClosed⟩
  · exact ⟨rfl, rfl, rfl, rfl, rfl, hClosed⟩

theorem submitFromWaiting_frame (s : MappingWorker O) (observation : O) (validate : Callback)
    (key : Option Int) : SubmissionFrame s (s.submitFromWaiting observation validate key).1 := by
  unfold submitFromWaiting
  split
  · exact ⟨rfl, rfl, rfl, rfl, rfl, fun h => ⟨h, rfl⟩⟩
  · rename_i hOpen
    have hAccepting : s.accepting = true := by
      by_contra h
      simp [h] at hOpen
    split
    · cases validate with
      | threw => exact ⟨rfl, rfl, rfl, rfl, rfl, fun _ => ⟨rfl, rfl⟩⟩
      | returned value =>
        cases value with
        | false => exact ⟨rfl, rfl, rfl, rfl, rfl, fun h => ⟨h, rfl⟩⟩
        | true => exact orderAndInstall_frame s observation key hAccepting
    · exact orderAndInstall_frame s observation key hAccepting

/-- A thread that is over, and a worker that was shut down before it started, leave
nothing in READY and let nothing in. -/
structure Closing (s : MappingWorker O) : Prop where
  launched : s.started = false ↔ s.thread = .notStarted
  stopped : s.shutdownStarted = true → s.accepting = false
  ended : s.thread = .exited ∨ s.thread = .handling → s.accepting = false ∧ s.ready = none
  unstarted : s.shutdownStarted = true → s.thread = .notStarted → s.ready = none
  stop : s.threadStopRequested = true → s.shutdownStarted = true
  joined : s.joined = true → s.shutdownStarted = true ∧ s.thread.over = true

theorem create_closing (hasValidate hasPublishedHandler : Bool) :
    Closing (create hasValidate hasPublishedHandler : MappingWorker O) := by
  refine ⟨⟨fun _ => rfl, fun _ => rfl⟩, ?_, ?_, ?_, ?_, ?_⟩ <;> simp [create]

theorem Closing.of_same {s t : MappingWorker O} (hs : Closing s) (hThread : t.thread = s.thread)
    (hStarted : t.started = s.started) (hShutdown : t.shutdownStarted = s.shutdownStarted)
    (hStop : t.threadStopRequested = s.threadStopRequested) (hJoined : t.joined = s.joined)
    (hAccepting : s.accepting = false → t.accepting = false ∧ t.ready = s.ready) : Closing t := by
  refine ⟨?_, ?_, ?_, ?_, ?_, ?_⟩
  · rw [hStarted, hThread]
    exact hs.launched
  · rw [hShutdown]
    intro h
    exact (hAccepting (hs.stopped h)).1
  · rw [hThread]
    intro h
    obtain ⟨hClosed, hEmpty⟩ := hs.ended h
    obtain ⟨hStill, hReady⟩ := hAccepting hClosed
    exact ⟨hStill, hReady.trans hEmpty⟩
  · rw [hShutdown, hThread]
    intro h hThread'
    exact (hAccepting (hs.stopped h)).2.trans (hs.unstarted h hThread')
  · rw [hStop, hShutdown]
    exact hs.stop
  · rw [hJoined, hShutdown, hThread]
    exact hs.joined

theorem Closing.of_thread {s t : MappingWorker O} (hs : Closing s)
    (hBefore : s.thread ≠ .notStarted ∧ s.thread.over = false) (hAfter : t.thread ≠ .notStarted)
    (hOver : t.thread = .exited ∨ t.thread = .handling → t.accepting = false ∧ t.ready = none)
    (hStarted : t.started = s.started) (hShutdown : t.shutdownStarted = s.shutdownStarted)
    (hStop : t.threadStopRequested = s.threadStopRequested) (hJoined : t.joined = s.joined)
    (hAccepting : s.accepting = false → t.accepting = false) : Closing t := by
  refine ⟨?_, ?_, hOver, ?_, ?_, ?_⟩
  · rw [hStarted, hs.launched]
    exact ⟨fun h => absurd h hBefore.1, fun h => absurd h hAfter⟩
  · rw [hShutdown]
    intro h
    exact hAccepting (hs.stopped h)
  · intro _ h
    exact absurd h hAfter
  · rw [hStop, hShutdown]
    exact hs.stop
  · rw [hJoined]
    intro h
    have hOver' := (hs.joined h).2
    rw [hBefore.2] at hOver'
    cases hOver'

theorem wake_closing {s : MappingWorker O} (hs : Closing s) (hThread : s.thread = .waiting)
    (validate : Callback) : Closing (s.wake validate).1 := by
  have hLive : s.thread ≠ .notStarted ∧ s.thread.over = false := by
    rw [hThread]
    exact ⟨by simp, rfl⟩
  unfold wake
  split
  · rename_i hStop
    have hClosed := hs.stopped (hs.stop hStop)
    exact hs.of_thread hLive (by simp) (by simp [hClosed]) (by simp) (by simp) (by simp) (by simp)
      (by simp)
  · cases hReady : s.ready with
    | none => exact hs
    | some observation =>
      simp only
      split
      · exact hs.of_thread hLive (by simp) (by simp [failClosed]) (by simp [failClosed])
          (by simp [failClosed]) (by simp [failClosed]) (by simp [failClosed]) (by simp [failClosed])
      · split
        · exact hs.of_thread hLive (by simp [hThread]) (by simp [hThread]) (by simp) (by simp)
            (by simp) (by simp) (by simp)
        · exact hs.of_thread hLive (by simp) (by simp) rfl rfl rfl rfl id

section
variable {s : MappingWorker O} (hs : Closing s)
include hs

theorem Closing.not_joined (hRunning : s.shutdownStarted = false) : s.joined = false := by
  by_contra h
  have hShutdown := (hs.joined (by simpa using h)).1
  rw [hRunning] at hShutdown
  cases hShutdown

theorem start_closing : Closing s.start.1 := by
  unfold start
  split
  · exact hs
  · rename_i hNew
    simp only [Bool.or_eq_true, not_or, Bool.not_eq_true] at hNew
    have hStop : s.threadStopRequested = false := by
      by_contra h
      have hShutdown := hs.stop (by simpa using h)
      rw [hNew.2] at hShutdown
      cases hShutdown
    refine ⟨?_, ?_, ?_, ?_, ?_, ?_⟩
    · simp
    · simp [hNew.2]
    · simp
    · simp
    · simp [hStop]
    · simp [hs.not_joined hNew.2]

theorem beginReset_closing : Closing s.beginReset.1 := by
  unfold beginReset
  split
  · exact hs
  · refine ⟨?_, ?_, ?_, ?_, ?_, ?_⟩
    · simpa using hs.launched
    · simpa using hs.stopped
    · intro h
      have hClosed := hs.ended (by simpa using h)
      simp [hClosed.1]
    · simp
    · simpa using hs.stop
    · simpa using hs.joined

/-- A started worker keeps READY for its thread; one never started empties it here. -/
theorem beginShutdown_closing : Closing s.beginShutdown.1 := by
  unfold beginShutdown
  split
  · exact hs
  · rename_i hRunning
    have hJoined := hs.not_joined (by simpa using hRunning)
    split
    · rename_i hStarted
      have hLaunched : s.thread ≠ .notStarted := by
        intro h
        rw [hs.launched.mpr h] at hStarted
        cases hStarted
      refine ⟨hs.launched, fun _ => rfl, ?_, ?_, fun _ => rfl, ?_⟩
      · intro h
        exact ⟨rfl, (hs.ended h).2⟩
      · intro _ h
        exact absurd h hLaunched
      · simp [hJoined]
    · refine ⟨?_, ?_, ?_, ?_, ?_, ?_⟩
      · simpa using hs.launched
      · simp
      · simp
      · simp
      · simp
      · simp [hJoined]

theorem closeAfterFailure_closing (hThread : s.thread = .failing) :
    Closing s.closeAfterFailure.1 := by
  refine hs.of_thread (by simp [hThread, MappingThread.over]) ?_ ?_ ?_ ?_ ?_ ?_ ?_ <;>
    simp [closeAfterFailure, failClosed]

end

theorem step_closing (s : MappingWorker O) (op : Operation O) (hs : Closing s) :
    Closing (s.step op).1 := by
  cases op with
  | setStrictlyIncreasingOrderKey initialKey =>
    simp only [step, setStrictlyIncreasingOrderKey]
    split
    · exact hs
    · exact hs.of_same rfl rfl rfl rfl rfl fun h => ⟨h, rfl⟩
  | start => exact start_closing hs
  | recordRejectedBeforeInbox =>
    simp only [step]
    split
    · exact hs.of_same rfl rfl rfl rfl rfl fun h => ⟨h, rfl⟩
    · exact hs
  | recordAcceptedToInbox observation =>
    simp only [step]
    split
    · exact hs.of_same rfl rfl rfl rfl rfl fun h => ⟨h, rfl⟩
    · exact hs
  | submitFromWaiting validate key =>
    simp only [step]
    split
    · rename_i observation _
      have h := submitFromWaiting_frame s observation validate key
      exact hs.of_same h.thread h.started h.shutdownStarted h.threadStopRequested h.joined h.closed
    · exact hs
  | beginReset => exact beginReset_closing hs
  | beginShutdown => exact beginShutdown_closing hs
  | finishReset =>
    simp only [step]
    split
    · exact hs.of_same rfl rfl rfl rfl rfl fun h => ⟨h, rfl⟩
    · exact hs
  | requestThreadStop =>
    simp only [step]
    split
    · rename_i hShutdown
      exact ⟨hs.launched, hs.stopped, hs.ended, hs.unstarted, fun _ => hShutdown, hs.joined⟩
    · exact hs
  | finishShutdown =>
    simp only [step]
    split
    · rename_i hOver
      simp only [Bool.and_eq_true] at hOver
      exact ⟨hs.launched, hs.stopped, hs.ended, hs.unstarted, hs.stop,
        fun _ => ⟨hs.stop hOver.1, hOver.2⟩⟩
    · exact hs
  | wake validate =>
    cases hThread : s.thread <;> simp only [step, hThread] <;> try exact hs
    exact wake_closing hs hThread validate
  | processReturned =>
    cases hThread : s.thread <;> simp only [step, hThread] <;> try exact hs
    exact hs.of_thread (by simp [hThread, MappingThread.over]) (by simp) (by simp) rfl rfl rfl rfl id
  | processThrew =>
    cases hThread : s.thread <;> simp only [step, hThread] <;> try exact hs
    exact hs.of_thread (by simp [hThread, MappingThread.over]) (by simp) (by simp) rfl rfl rfl rfl id
  | publishedHandler outcome =>
    cases hThread : s.thread <;> simp only [step, hThread] <;> try exact hs
    split
    · exact hs.of_thread (by simp [hThread, MappingThread.over]) (by simp) (by simp) rfl rfl rfl rfl id
    · exact hs.of_thread (by simp [hThread, MappingThread.over]) (by simp) (by simp) rfl rfl rfl rfl id
  | closeAfterFailure =>
    cases hThread : s.thread <;> simp only [step, hThread] <;> try exact hs
    exact closeAfterFailure_closing hs hThread
  | settle =>
    cases hThread : s.thread <;> simp only [step, hThread] <;> try exact hs
    exact hs.of_thread (by simp [hThread, MappingThread.over]) (by simp) (by simp) rfl rfl rfl rfl id
  | fatalHandlerReturned =>
    cases hThread : s.thread <;> simp only [step, hThread] <;> try exact hs
    have hOver := hs.ended (.inr hThread)
    exact hs.of_thread (by simp [hThread, MappingThread.over]) (by simp) (fun _ => hOver) rfl rfl
      rfl rfl id

/-! ## Every interleaving -/

def acceptedBy (e : Event (MappingWorker O) (Operation O) (Outcome O)) : Option O :=
  e.result.recordedObservation

def settledBy (e : Event (MappingWorker O) (Operation O) (Outcome O)) : Option (Disposition × O) :=
  e.result.settlement

/-- The observations accepted so far are those settled and those still held, and every
settlement is counted. -/
structure Followed (es : List (Event (MappingWorker O) (Operation O) (Outcome O)))
    (s : MappingWorker O) : Prop where
  booked : Booked s
  closing : Closing s
  conserved : ((es.filterMap settledBy).map Prod.snd ++ s.held).Perm (es.filterMap acceptedBy)
  counted : ∀ d, s.accounting.settledCount d = ((es.filterMap settledBy).countP (·.1 == d)).toUInt64

theorem step_followed {es : List (Event (MappingWorker O) (Operation O) (Outcome O))}
    {s : MappingWorker O} (hs : Followed es s) (op : Operation O) :
    Followed (es ++ [eventAt step s op]) (s.step op).1 := by
  have hStep := step_conserves s op hs.booked hs.closing.launched
  have hSettled : (es ++ [eventAt step s op]).filterMap settledBy =
      es.filterMap settledBy ++ (s.step op).2.settlement.toList := by
    cases h : (s.step op).2.settlement <;> simp [settledBy, h]
  have hAccepted : (es ++ [eventAt step s op]).filterMap acceptedBy =
      es.filterMap acceptedBy ++ (s.step op).2.recordedObservation.toList := by
    cases h : (s.step op).2.recordedObservation <;> simp [acceptedBy, h]
  refine ⟨hStep.booked, step_closing s op hs.closing, ?_, ?_⟩
  · rw [hSettled, hAccepted, List.map_append, List.append_assoc]
    have hMoved : ((es.filterMap settledBy).map Prod.snd ++
        ((s.step op).2.settlement.toList.map Prod.snd ++ (s.step op).1.held)).Perm
        ((es.filterMap settledBy).map Prod.snd ++
          ((s.step op).2.recordedObservation.toList ++ s.held)) := hStep.held.append_left _
    have hSwap : ((s.step op).2.recordedObservation.toList ++ s.held).Perm
        (s.held ++ (s.step op).2.recordedObservation.toList) := List.perm_append_comm
    apply hMoved.trans
    apply (hSwap.append_left _).trans
    rw [← List.append_assoc]
    exact hs.conserved.append_right _
  · intro d
    rw [hStep.counted d, hs.counted d, hSettled]
    cases h : (s.step op).2.settlement with
    | none => simp [one]
    | some settlement =>
      by_cases hd : settlement.1 = d <;> simp [one, hd]

theorem run_followed (hasValidate hasPublishedHandler : Bool) (ops : List (Operation O)) :
    Followed (events step (create hasValidate hasPublishedHandler) ops)
      (run step (create hasValidate hasPublishedHandler) ops) := by
  apply run_history step
    (P := fun ops s => Followed (events step (create hasValidate hasPublishedHandler) ops) s)
  · refine ⟨balanced_initial, create_closing _ _, List.Perm.refl _, ?_⟩
    intro d
    cases d <;> rfl
  · intro ops op hs
    rw [events_concat]
    exact step_followed hs op

theorem one_cases (occupied : Bool) : one occupied = 0 ∨ one occupied = 1 := by
  cases occupied
  · exact .inl rfl
  · exact .inr rfl

theorem joined_empty {s : MappingWorker O} (hs : Closing s) (hJoined : s.joined = true) :
    s.ready = none ∧ s.thread.observation = none := by
  obtain ⟨hShutdown, hOver⟩ := hs.joined hJoined
  constructor
  · cases hThread : s.thread with
    | notStarted => exact hs.unstarted hShutdown hThread
    | exited => exact (hs.ended (.inl hThread)).2
    | _ => simp [hThread, MappingThread.over] at hOver
  · cases hThread : s.thread with
    | processing observation => simp [hThread, MappingThread.over] at hOver
    | _ => rfl

theorem joined_submission {s : MappingWorker O} (hs : Closing s) (hJoined : s.joined = true)
    {observation : O} (hWaiting : s.waiting = some observation) (validate : Callback)
    (key : Option Int) :
    (s.step (.submitFromWaiting validate key)).2 = .settled .discarded observation ∧
      (s.step (.submitFromWaiting validate key)).1.waiting = none := by
  have hClosed : s.accepting = false := hs.stopped (hs.joined hJoined).1
  simp [step, hWaiting, submitFromWaiting, hClosed, discardSubmission]

theorem mapping_accounting_exact (hasValidate hasPublishedHandler : Bool)
    (ops : List (Operation O)) :
    let s := run step (create hasValidate hasPublishedHandler) ops
    let es := events step (create hasValidate hasPublishedHandler) ops
    s.accounting.allInvariantsHold = true ∧ s.accounting.violationCount = 0 ∧
    (s.accounting.waiting = 0 ∨ s.accounting.waiting = 1) ∧
    (s.accounting.ready = 0 ∨ s.accounting.ready = 1) ∧
    (s.accounting.inFlight = 0 ∨ s.accounting.inFlight = 1) ∧
    (s.waiting = none → s.accounting.pending = s.accounting.waiting + s.accounting.ready) ∧
    (s.joined = true →
      -- every accepted observation has one disposition, but for one its producer still owns
      ((es.filterMap settledBy).map Prod.snd ++ s.waiting.toList).Perm (es.filterMap acceptedBy) ∧
      (∀ d, s.accounting.settledCount d = ((es.filterMap settledBy).countP (·.1 == d)).toUInt64) ∧
      s.accounting.acceptedToInbox = s.accounting.replacedWaiting + s.accounting.discardedWaiting +
        s.accounting.replacedReady + s.accounting.discardedReady +
        s.accounting.discardedShutdownReady + s.accounting.mappingPublished +
        s.accounting.mappingFailed + s.accounting.waiting ∧
      -- and that one is settled by its own submission
      ∀ observation validate key, s.waiting = some observation →
        (s.step (.submitFromWaiting validate key)).2 = .settled .discarded observation ∧
          (s.step (.submitFromWaiting validate key)).1.waiting = none) := by
  intro s es
  have hs : Followed es s := run_followed hasValidate hasPublishedHandler ops
  have hBooked : Balanced s.accounting s.waiting.isSome s.ready.isSome
    s.thread.observation.isSome := hs.booked
  refine ⟨hBooked.allInvariantsHold, hBooked.violationCount, ?_, ?_, ?_, ?_, ?_⟩
  · rw [hBooked.waitingSlot]
    exact one_cases _
  · rw [hBooked.readySlot]
    exact one_cases _
  · rw [hBooked.inFlightSlot]
    exact one_cases _
  · intro hNone
    rw [hBooked.pending (by simp [hNone]), hBooked.waitingSlot, hNone]
    simp [one]
  · intro hJoined
    obtain ⟨hReady, hIdle⟩ := joined_empty hs.closing hJoined
    refine ⟨?_, hs.counted, ?_, ?_⟩
    · have hHeld : s.held = s.waiting.toList := by simp [held, hReady, hIdle]
      rw [← hHeld]
      exact hs.conserved
    · have hNoReady : s.accounting.ready = 0 := by
        rw [hBooked.readySlot, hReady]
        rfl
      have hNoFlight : s.accounting.inFlight = 0 := by
        rw [hBooked.inFlightSlot, hIdle]
        rfl
      have hInbox := hBooked.inbox
      have hSubmitted := hBooked.submitted
      have hMapping := hBooked.mapping
      rw [hNoReady] at hSubmitted
      rw [hNoFlight] at hMapping
      rw [hInbox, hSubmitted, hMapping]
      grind
    · intro observation validate key hWaiting
      exact joined_submission hs.closing hJoined hWaiting validate key

/-- The producer has recorded an observation; the worker is shut down and joined
before the producer gets to submit it. -/
def interruptedSubmission : List (Operation Nat) :=
  [.start, .recordAcceptedToInbox 7, .beginShutdown, .requestThreadStop,
    .wake (.returned true), .finishShutdown]

theorem accepted_unsettled_after_shutdown :
    (run step (create true true) interruptedSubmission).joined = true ∧
      (events step (create true true) interruptedSubmission).filterMap acceptedBy = [7] ∧
      (events step (create true true) interruptedSubmission).filterMap settledBy = [] := by
  decide

end UavNavigation.MappingWorker
