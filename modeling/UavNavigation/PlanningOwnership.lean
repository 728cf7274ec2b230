import UavNavigation.PlanningWorker

/-!
# Ownership of planning work

The conservation law of accepted work over every interleaving of clients, worker
thread and shutdown, and the reach of a cancellation.
-/

namespace UavNavigation.PlanningWorker

set_option autoImplicit false

open Runs

variable {J : Type}

/-- The active slot describes the item the thread holds, and a closed worker has
nothing waiting. -/
structure Owned (s : PlanningWorker J) : Prop where
  launched : Launched s
  held : s.active.map (fun a => (a.key, a.priority)) =
    s.thread.work.map (fun w => (w.key, w.priority))
  closed : s.fatal = true ∨ s.shutdownStarted = true → s.accepting = false ∧ s.pending = none
  dead : s.fatal = true → s.thread.work = none

variable {s : PlanningWorker J}

theorem initial_owned : Owned (initial : PlanningWorker J) where
  launched := fun _ => rfl
  held := rfl
  closed := by
    rintro (h | h)
    · cases h
    · cases h
  dead := by
    intro h
    cases h

theorem held_stopActive (active : Option ActiveItem) :
    (active.map stopActive).map (fun a => (a.key, a.priority)) =
      active.map (fun a => (a.key, a.priority)) := by
  cases active <;> rfl

theorem Owned.of_kept {t : PlanningWorker J} (hs : Owned s) (hLaunched : Launched t)
    (kept : SlotsKept s t)
    (hActive : t.active.map (fun a => (a.key, a.priority)) = s.active.map (fun a => (a.key, a.priority))) :
    Owned t where
  launched := hLaunched
  held := by rw [hActive, kept.work, hs.held]
  closed := by
    rw [kept.fatal, kept.shutdownStarted, kept.accepting, kept.pending]
    exact hs.closed
  dead := by
    rw [kept.fatal, kept.work]
    exact hs.dead

theorem step_owned (s : PlanningWorker J) (op : Operation J) (hs : Owned s) :
    Owned (s.step op).1 := by
  have hLaunched := step_launched s op hs.launched
  have hEffect := step_effect s op hs.launched
  obtain ⟨-, hHeld, hClosed, hDead⟩ := id hs
  cases hEffect with
  | quiet kept active => exact hs.of_kept hLaunched kept (by rw [active])
  | interrupted kept active before after =>
    apply hs.of_kept hLaunched kept
    rw [after, before]
    rfl
  | invoked kept active => exact hs.of_kept hLaunched kept (by rw [active])
  | admitted work _ _ _ open_ flags _ thread active =>
    obtain ⟨_, hFatal, hShutdown⟩ := open_
    obtain ⟨_, hFatal', hShutdown'⟩ := flags
    refine ⟨hLaunched, ?_, ?_, ?_⟩
    · rw [active, thread, ← hHeld]
      split
      · exact held_stopActive s.active
      · rfl
    · rw [hFatal', hShutdown', hFatal, hShutdown]
      simp
    · rw [hFatal', hFatal]
      simp
  | closed _ flags pending thread active =>
    refine ⟨hLaunched, ?_, ?_, ?_⟩
    · rw [active, thread, ← hHeld, held_stopActive]
    · intro _
      exact ⟨flags.1, pending⟩
    · rw [flags.2.1, thread]
      exact hDead
  | took work _ before _ _ _ active thread flags =>
    obtain ⟨now, thread⟩ := thread
    have hOpen : ¬ (s.fatal = true ∨ s.shutdownStarted = true) := by
      intro h
      have hNone := (hClosed h).2
      rw [before] at hNone
      cases hNone
    refine ⟨hLaunched, ?_, ?_, ?_⟩
    · rw [active, thread]
      rfl
    · rw [flags.2.1, flags.2.2]
      intro h
      exact absurd h hOpen
    · rw [flags.2.1]
      intro h
      exact absurd (Or.inl h) hOpen
  | retired _ _ work startedAt before pending active thread flags =>
    refine ⟨hLaunched, ?_, ?_, ?_⟩
    · rw [active, thread]
      rfl
    · rw [flags.2.1, flags.2.2, flags.1, pending]
      exact hClosed
    · rw [thread]
      intro _
      rfl
  | failed _ _ work before pending active thread flags =>
    refine ⟨hLaunched, ?_, ?_, ?_⟩
    · rw [active, thread]
      rfl
    · intro _
      exact ⟨flags.1, pending⟩
    · rw [thread]
      intro _
      rfl

theorem run_owned (ops : List (Operation J)) : Owned (run step (initial : PlanningWorker J) ops) :=
  run_invariant step_owned initial_owned ops

/-! ## Conservation of accepted work -/

def acceptedBy (e : Event (PlanningWorker J) (Operation J) (Outcome J)) : Option (WorkItem J) :=
  e.op.acceptedWork e.result

def begunBy (e : Event (PlanningWorker J) (Operation J) (Outcome J)) : Option (WorkItem J) :=
  e.result.beganWork

def invokedBy (e : Event (PlanningWorker J) (Operation J) (Outcome J)) : Option (WorkItem J) :=
  e.result.invokedWork

/-- A pending item was dropped by a shutdown or by a job that threw. -/
def discards (e : Event (PlanningWorker J) (Operation J) (Outcome J)) : Bool :=
  match e.op with
  | .beginShutdown | .fail => e.before.pending.isSome && e.after.pending.isNone
  | _ => false

/-- The books of the worker over the events so far. The jobs called, the item
taken but not called yet and the item that waits are accepted items, in order. -/
structure Accounted (es : List (Event (PlanningWorker J) (Operation J) (Outcome J)))
    (s : PlanningWorker J) : Prop where
  order : (es.filterMap invokedBy ++ (uninvoked s.thread).toList ++ s.pending.toList).Sublist
    (es.filterMap acceptedBy)
  submitted : s.counters.submitted = (es.filterMap acceptedBy).length.toUInt64
  started : s.counters.started = (es.filterMap begunBy).length.toUInt64
  waiting : s.counters.submitted = s.counters.started + s.counters.replacedPending +
    (if s.pending.isSome then 1 else 0) + if es.any discards then 1 else 0
  running : s.counters.started = s.counters.completed +
    (if s.active.isSome then 1 else 0) + if s.fatal then 1 else 0
  discarded : es.any discards = true → s.fatal = true ∨ s.shutdownStarted = true

theorem initial_accounted : Accounted [] (initial : PlanningWorker J) where
  order := List.Sublist.slnil
  submitted := rfl
  started := rfl
  waiting := rfl
  running := rfl
  discarded := by
    intro h
    cases h

theorem filterMap_concat {α β : Type} (f : α → Option β) (xs : List α) (x : α) :
    (xs ++ [x]).filterMap f = xs.filterMap f ++ (f x).toList := by
  cases h : f x <;> simp [h]

theorem Accounted.of_kept {es : List (Event (PlanningWorker J) (Operation J) (Outcome J))}
    {e : Event (PlanningWorker J) (Operation J) (Outcome J)}
    (hs : Accounted es e.before) (kept : SlotsKept e.before e.after)
    (hActive : e.after.active.isSome = e.before.active.isSome) (hAccepted : acceptedBy e = none)
    (hBegun : begunBy e = none)
    (hOrder : (invokedBy e).toList ++ (uninvoked e.after.thread).toList =
      (uninvoked e.before.thread).toList) :
    Accounted (es ++ [e]) e.after := by
  have hDiscards : discards e = false := by
    fun_cases discards
    case case3 => rfl
    all_goals simp [kept.pending]
  have hAny : (es ++ [e]).any discards = es.any discards := by simp [hDiscards]
  constructor
  · rw [filterMap_concat, filterMap_concat, hAccepted, kept.pending,
      List.append_assoc (es.filterMap invokedBy), hOrder, Option.toList_none, List.append_nil]
    exact hs.order
  · rw [filterMap_concat, hAccepted, kept.submitted, hs.submitted, Option.toList_none,
      List.append_nil]
  · rw [filterMap_concat, hBegun, kept.started, hs.started, Option.toList_none, List.append_nil]
  · rw [kept.submitted, kept.started, kept.replacedPending, kept.pending, hAny, hs.waiting]
  · rw [kept.started, kept.completed, hActive, kept.fatal, hs.running]
  · rw [hAny, kept.fatal, kept.shutdownStarted]
    exact hs.discarded

section Books
variable {es : List (Event (PlanningWorker J) (Operation J) (Outcome J))}
  {e : Event (PlanningWorker J) (Operation J) (Outcome J)} {work : WorkItem J}

variable (hs : Accounted es e.before)
include hs

theorem Accounted.admit_order (hAccepted : acceptedBy e = some work)
    (hInvoked : invokedBy e = none) (hPending : e.after.pending = some work)
    (hThread : e.after.thread = e.before.thread) :
    ((es ++ [e]).filterMap invokedBy ++ (uninvoked e.after.thread).toList ++
      e.after.pending.toList).Sublist ((es ++ [e]).filterMap acceptedBy) := by
  rw [filterMap_concat, filterMap_concat, hAccepted, hInvoked, hPending, hThread]
  simp only [Option.toList_none, List.append_nil, Option.toList_some]
  -- the displaced item, if there was one, leaves the left side
  have hOrder := (List.sublist_append_left _ _).trans hs.order
  exact hOrder.append (List.Sublist.refl _)

theorem Accounted.drop_order (hAccepted : acceptedBy e = none)
    (hInvoked : invokedBy e = none) (hPending : e.after.pending = none)
    (hThread : (uninvoked e.after.thread).toList.Sublist (uninvoked e.before.thread).toList) :
    ((es ++ [e]).filterMap invokedBy ++ (uninvoked e.after.thread).toList ++
      e.after.pending.toList).Sublist ((es ++ [e]).filterMap acceptedBy) := by
  rw [filterMap_concat, filterMap_concat, hAccepted, hInvoked, hPending]
  simp only [Option.toList_none, List.append_nil]
  have hLess := (List.Sublist.refl (es.filterMap invokedBy)).append hThread
  exact hLess.trans ((List.sublist_append_left _ _).trans hs.order)

theorem Accounted.drop_waiting (hOwned : Owned e.before)
    (hDiscards : discards e = e.before.pending.isSome) :
    (if e.before.pending.isSome then (1 : UInt64) else 0) + (if es.any discards then 1 else 0) =
      if (es ++ [e]).any discards then 1 else 0 := by
  have hAny : (es ++ [e]).any discards = (es.any discards || e.before.pending.isSome) := by
    simp [hDiscards]
  rw [hAny]
  cases hEarlier : es.any discards with
  | false => cases e.before.pending.isSome <;> simp
  | true =>
    have hEmpty := (hOwned.closed (hs.discarded hEarlier)).2
    simp [hEmpty]

theorem Accounted.concat
    (hOrder : ((es ++ [e]).filterMap invokedBy ++ (uninvoked e.after.thread).toList ++
      e.after.pending.toList).Sublist ((es ++ [e]).filterMap acceptedBy))
    (hSubmitted : e.after.counters.submitted =
      e.before.counters.submitted + (acceptedBy e).toList.length.toUInt64)
    (hStarted : e.after.counters.started =
      e.before.counters.started + (begunBy e).toList.length.toUInt64)
    (hWaiting : e.after.counters.submitted = e.after.counters.started + e.after.counters.replacedPending +
      (if e.after.pending.isSome then 1 else 0) + if (es ++ [e]).any discards then 1 else 0)
    (hRunning : e.after.counters.started = e.after.counters.completed +
      (if e.after.active.isSome then 1 else 0) + if e.after.fatal then 1 else 0)
    (hDiscarded : (es ++ [e]).any discards = true →
      e.after.fatal = true ∨ e.after.shutdownStarted = true) :
    Accounted (es ++ [e]) e.after where
  order := hOrder
  submitted := by
    rw [filterMap_concat, hSubmitted, hs.submitted]
    simp
  started := by
    rw [filterMap_concat, hStarted, hs.started]
    simp
  waiting := hWaiting
  running := hRunning
  discarded := hDiscarded

theorem Accounted.admit (hOpen : e.before.fatal = false ∧ e.before.shutdownStarted = false)
    (hAccepted : acceptedBy e = some work) (hBegun : begunBy e = none) (hInvoked : invokedBy e = none)
    (hPending : e.after.pending = some work) (hThread : e.after.thread = e.before.thread)
    (hActive : e.after.active.isSome = e.before.active.isSome) (hFatal : e.after.fatal = e.before.fatal)
    (hSubmitted : e.after.counters.submitted = e.before.counters.submitted + 1)
    (hStarted : e.after.counters.started = e.before.counters.started)
    (hCompleted : e.after.counters.completed = e.before.counters.completed)
    (hReplaced : e.after.counters.replacedPending =
      e.before.counters.replacedPending + if e.before.pending.isSome then 1 else 0) :
    Accounted (es ++ [e]) e.after := by
  have hQuiet : es.any discards = false := by
    by_contra h
    rw [Bool.not_eq_false] at h
    rcases hs.discarded h with h | h
    · rw [hOpen.1] at h
      cases h
    · rw [hOpen.2] at h
      cases h
  have hDiscards : discards e = false := by
    fun_cases discards
    case case3 => rfl
    all_goals simp [hPending]
  have hAny : (es ++ [e]).any discards = false := by simp [hQuiet, hDiscards]
  refine hs.concat (hs.admit_order hAccepted hInvoked hPending hThread) ?_ ?_ ?_ ?_ ?_
  · rw [hSubmitted, hAccepted]
    rfl
  · simp [hStarted, hBegun]
  · rw [hSubmitted, hStarted, hReplaced, hPending, hAny, hs.waiting, hQuiet]
    grind
  · rw [hStarted, hCompleted, hActive, hFatal, hs.running]
  · rw [hAny]
    intro h
    cases h

theorem Accounted.take (hAccepted : acceptedBy e = none) (hBegun : begunBy e = some work)
    (hInvoked : invokedBy e = none) (hDiscards : discards e = false)
    (hBefore : e.before.pending = some work) (hIdle : uninvoked e.before.thread = none)
    (hFree : e.before.active = none) (hPending : e.after.pending = none)
    (hThread : uninvoked e.after.thread = some work) (hActive : e.after.active.isSome = true)
    (hFatal : e.after.fatal = e.before.fatal)
    (hShutdown : e.after.shutdownStarted = e.before.shutdownStarted)
    (hSubmitted : e.after.counters.submitted = e.before.counters.submitted)
    (hStarted : e.after.counters.started = e.before.counters.started + 1)
    (hCompleted : e.after.counters.completed = e.before.counters.completed)
    (hReplaced : e.after.counters.replacedPending = e.before.counters.replacedPending) :
    Accounted (es ++ [e]) e.after := by
  have hAny : (es ++ [e]).any discards = es.any discards := by simp [hDiscards]
  refine hs.concat ?_ ?_ ?_ ?_ ?_ ?_
  · have hOrder := hs.order
    rw [hIdle, hBefore] at hOrder
    rw [filterMap_concat, filterMap_concat, hInvoked, hPending, hThread, hAccepted]
    simpa using hOrder
  · simp [hSubmitted, hAccepted]
  · rw [hStarted, hBegun]
    rfl
  · rw [hSubmitted, hStarted, hReplaced, hPending, hAny, hs.waiting, hBefore]
    grind
  · rw [hStarted, hCompleted, hActive, hFatal, hs.running, hFree]
    grind
  · rw [hAny, hFatal, hShutdown]
    exact hs.discarded

theorem Accounted.retire (hAccepted : acceptedBy e = none) (hBegun : begunBy e = none)
    (hInvoked : invokedBy e = none) (hDiscards : discards e = false)
    (hCalled : uninvoked e.before.thread = none) (hBusy : e.before.active.isSome = true)
    (hPending : e.after.pending = e.before.pending) (hThread : uninvoked e.after.thread = none)
    (hActive : e.after.active = none) (hFatal : e.after.fatal = e.before.fatal)
    (hShutdown : e.after.shutdownStarted = e.before.shutdownStarted)
    (hSubmitted : e.after.counters.submitted = e.before.counters.submitted)
    (hStarted : e.after.counters.started = e.before.counters.started)
    (hCompleted : e.after.counters.completed = e.before.counters.completed + 1)
    (hReplaced : e.after.counters.replacedPending = e.before.counters.replacedPending) :
    Accounted (es ++ [e]) e.after := by
  have hAny : (es ++ [e]).any discards = es.any discards := by simp [hDiscards]
  refine hs.concat ?_ ?_ ?_ ?_ ?_ ?_
  · have hOrder := hs.order
    rw [hCalled] at hOrder
    rw [filterMap_concat, filterMap_concat, hInvoked, hPending, hThread, hAccepted]
    simpa using hOrder
  · simp [hSubmitted, hAccepted]
  · simp [hStarted, hBegun]
  · rw [hSubmitted, hStarted, hReplaced, hPending, hAny, hs.waiting]
  · rw [hStarted, hCompleted, hActive, hFatal, hs.running, hBusy]
    grind
  · rw [hAny, hFatal, hShutdown]
    exact hs.discarded

/-- A shutdown and a job that threw drop what waits. -/
theorem Accounted.close (hOwned : Owned e.before) (hAccepted : acceptedBy e = none)
    (hBegun : begunBy e = none) (hInvoked : invokedBy e = none)
    (hDiscards : discards e = e.before.pending.isSome) (hPending : e.after.pending = none)
    (hThread : (uninvoked e.after.thread).toList.Sublist (uninvoked e.before.thread).toList)
    (hClosed : e.after.fatal = true ∨ e.after.shutdownStarted = true)
    (hSubmitted : e.after.counters.submitted = e.before.counters.submitted)
    (hStarted : e.after.counters.started = e.before.counters.started)
    (hCompleted : e.after.counters.completed = e.before.counters.completed)
    (hReplaced : e.after.counters.replacedPending = e.before.counters.replacedPending)
    (hRunning : ((if e.before.active.isSome then 1 else 0) + if e.before.fatal then 1 else 0 : UInt64) =
      (if e.after.active.isSome then 1 else 0) + if e.after.fatal then 1 else 0) :
    Accounted (es ++ [e]) e.after := by
  have hDrop := hs.drop_waiting hOwned hDiscards
  refine hs.concat (hs.drop_order hAccepted hInvoked hPending hThread) ?_ ?_ ?_ ?_ fun _ => hClosed
  · simp [hSubmitted, hAccepted]
  · simp [hStarted, hBegun]
  · rw [hSubmitted, hStarted, hReplaced, hPending, ← hDrop, hs.waiting]
    simp only [Option.isSome_none, Bool.false_eq_true, if_false]
    grind
  · rw [hStarted, hCompleted, hs.running]
    grind

end Books

theorem step_accounted (es : List (Event (PlanningWorker J) (Operation J) (Outcome J)))
    (s : PlanningWorker J) (op : Operation J) (hOwned : Owned s) (hs : Accounted es s) :
    Accounted (es ++ [eventAt step s op]) (s.step op).1 := by
  have hActiveHeld : s.active.isSome = s.thread.work.isSome := by
    have h := congrArg Option.isSome hOwned.held
    simpa using h
  cases step_effect s op hOwned.launched with
  | quiet kept active thread accepted began invoked _ =>
    apply Accounted.of_kept (e := eventAt step s op) hs kept (by simp [active]) accepted began
    simp [invokedBy, invoked, thread]
  | interrupted kept active before after thread accepted _ outcome =>
    apply Accounted.of_kept (e := eventAt step s op) hs kept (by simp [before, after]) accepted
    · simp [begunBy, outcome, Outcome.beganWork]
    · simp [invokedBy, outcome, Outcome.invokedWork, thread]
  | invoked kept active work before after accepted outcome =>
    apply Accounted.of_kept (e := eventAt step s op) hs kept (by simp [active]) accepted
    · simp [begunBy, outcome, Outcome.beganWork]
    · simp [invokedBy, outcome, Outcome.invokedWork, before, after]
  | admitted work accepted began invoked open_ flags pending thread active _ submitted started
      completed replacedPending =>
    have hActive : (s.step op).1.active.isSome = s.active.isSome := by
      rw [active]
      split <;> simp
    exact Accounted.admit (e := eventAt step s op) hs open_.2 accepted began invoked pending thread
      hActive flags.2.1 submitted started completed replacedPending
  | closed operation flags pending thread active outcome submitted started completed
      replacedPending =>
    subst operation
    refine Accounted.close (e := eventAt step s .beginShutdown) hs hOwned rfl ?_ ?_ ?_ pending ?_
      (.inr flags.2.2) submitted started completed replacedPending ?_
    · simp [begunBy, outcome, Outcome.beganWork]
    · simp [invokedBy, outcome, Outcome.invokedWork]
    · simp [discards, pending]
    · rw [eventAt_after, thread]
      exact List.Sublist.refl _
    · rw [eventAt_before, eventAt_after, active, Option.isSome_map, flags.2.1]
  | took work operation before idle outcome pending active thread flags submitted started completed
      replacedPending =>
    obtain ⟨now, rfl⟩ := operation
    obtain ⟨startedAt, thread⟩ := thread
    have hFree : s.active = none := by
      rw [← Option.not_isSome_iff_eq_none, hActiveHeld, idle]
      exact Bool.false_ne_true
    refine Accounted.take (e := eventAt step s (.wake now)) hs rfl ?_ ?_ rfl before ?_ hFree pending
      ?_ ?_ flags.2.1 flags.2.2 submitted started completed replacedPending
    · simp [begunBy, outcome, Outcome.beganWork]
    · simp [invokedBy, outcome, Outcome.invokedWork]
    · simp [idle, uninvoked]
    · simp [thread, uninvoked]
    · simp [active]
  | retired operation outcome work startedAt before pending active thread flags submitted started
      completed replacedPending =>
    obtain ⟨now, rfl⟩ := operation
    refine Accounted.retire (e := eventAt step s (.retire now)) hs rfl ?_ ?_ rfl ?_ ?_ pending ?_
      active flags.2.1 flags.2.2 submitted started completed replacedPending
    · simp [begunBy, outcome, Outcome.beganWork]
    · simp [invokedBy, outcome, Outcome.invokedWork]
    · simp [before, uninvoked]
    · rw [eventAt_before, hActiveHeld, before]
      rfl
    · simp [thread, uninvoked]
  | failed operation outcome work before pending active thread flags submitted started completed
      replacedPending =>
    subst operation
    have hBusy : s.active.isSome = true := by
      rw [hActiveHeld, before]
      rfl
    have hAlive : s.fatal = false := by
      by_contra h
      have hNone := hOwned.dead (by simpa using h)
      rw [before] at hNone
      cases hNone
    refine Accounted.close (e := eventAt step s .fail) hs hOwned rfl ?_ ?_ ?_ pending ?_
      (.inl flags.2.1) submitted started completed replacedPending ?_
    · simp [begunBy, outcome, Outcome.beganWork]
    · simp [invokedBy, outcome, Outcome.invokedWork]
    · simp [discards, pending]
    · rw [eventAt_after, thread]
      exact List.nil_sublist _
    · simp [hBusy, hAlive, active, flags.2.1]

theorem run_accounted (ops : List (Operation J)) :
    Accounted (events step (initial : PlanningWorker J) ops) (run step initial ops) := by
  apply run_history step (P := fun ops s => Accounted (events step initial ops) s) initial_accounted
  intro ops op hs
  rw [events_concat]
  exact step_accounted _ _ op (run_owned ops) hs

theorem step_closed (s : PlanningWorker J) (op : Operation J) (hs : Owned s)
    (hClosed : s.fatal = true ∨ s.shutdownStarted = true) :
    ((s.step op).1.fatal = true ∨ (s.step op).1.shutdownStarted = true) ∧
      acceptedBy (eventAt step s op) = none ∧ begunBy (eventAt step s op) = none := by
  cases step_effect s op hs.launched with
  | quiet kept _ _ accepted began =>
    rw [kept.fatal, kept.shutdownStarted]
    exact ⟨hClosed, accepted, began⟩
  | interrupted kept _ _ _ _ accepted _ outcome =>
    rw [kept.fatal, kept.shutdownStarted]
    exact ⟨hClosed, accepted, by simp [begunBy, outcome, Outcome.beganWork]⟩
  | invoked kept _ _ _ _ accepted outcome =>
    rw [kept.fatal, kept.shutdownStarted]
    exact ⟨hClosed, accepted, by simp [begunBy, outcome, Outcome.beganWork]⟩
  | admitted _ _ _ _ open_ =>
    rw [open_.2.1, open_.2.2] at hClosed
    simp at hClosed
  | closed operation flags _ _ _ outcome =>
    subst operation
    exact ⟨.inr flags.2.2, rfl, by simp [begunBy, outcome, Outcome.beganWork]⟩
  | took work _ before =>
    have hEmpty := (hs.closed hClosed).2
    rw [before] at hEmpty
    cases hEmpty
  | retired operation outcome _ _ _ _ _ _ flags =>
    obtain ⟨now, rfl⟩ := operation
    rw [flags.2.1, flags.2.2]
    exact ⟨hClosed, rfl, by simp [begunBy, outcome, Outcome.beganWork]⟩
  | failed operation outcome _ _ _ _ _ flags =>
    subst operation
    exact ⟨.inl flags.2.1, rfl, by simp [begunBy, outcome, Outcome.beganWork]⟩

theorem closed_takes_nothing (hs : Owned s) (hClosed : s.fatal = true ∨ s.shutdownStarted = true)
    (ops : List (Operation J)) :
    ∀ e ∈ events step s ops, acceptedBy e = none ∧ begunBy e = none := by
  intro e he
  obtain ⟨⟨hOwned, hBefore⟩, hEvent⟩ := events_invariant
    (P := fun t => Owned t ∧ (t.fatal = true ∨ t.shutdownStarted = true))
    (fun t op ht => ⟨step_owned t op ht.1, (step_closed t op ht.1 ht.2).1⟩) ⟨hs, hClosed⟩ he
  rw [hEvent]
  exact (step_closed e.before e.op hOwned hBefore).2

/-- The interrupt goes to the item that is active, which is the item the worker
thread holds, and the operation names that item. -/
def DeliveredToActive (e : Event (PlanningWorker J) (Operation J) (Outcome J)) : Prop :=
  ∃ active work, e.before.active = some active ∧ e.before.thread.work = some work ∧
    work.key = active.key ∧ e.op.names e.before active = true ∧
    e.after.active = some (stopActive active)

theorem active_work (hs : Owned s) {active : ActiveItem} (hActive : s.active = some active) :
    ∃ work, s.thread.work = some work ∧ work.key = active.key := by
  have hHeld := hs.held
  rw [hActive] at hHeld
  cases hWork : s.thread.work with
  | none => simp [hWork] at hHeld
  | some work =>
    simp only [hWork, Option.map_some, Option.some.injEq, Prod.mk.injEq] at hHeld
    exact ⟨work, rfl, hHeld.1.symm⟩

theorem step_interrupts (s : PlanningWorker J) (op : Operation J) (hs : Owned s)
    (h : (s.step op).2.interrupts = true) : DeliveredToActive (eventAt step s op) := by
  have hDeliver : ∀ active, s.active = some active → op.names s active = true →
      (s.step op).1.active = some (stopActive active) → DeliveredToActive (eventAt step s op) := by
    intro active hActive hNames hAfter
    obtain ⟨work, hWork, hKey⟩ := active_work hs hActive
    exact ⟨active, work, hActive, hWork, hKey, hNames, hAfter⟩
  cases step_effect s op hs.launched with
  | quiet _ _ _ _ _ _ interrupts =>
    rw [interrupts] at h
    cases h
  | interrupted _ active before after _ _ names => exact hDeliver active before names after
  | invoked _ _ _ _ _ _ outcome =>
    rw [outcome] at h
    cases h
  | admitted _ _ _ _ _ _ _ _ after names =>
    obtain ⟨active, hActive, hNames⟩ := names h
    rw [if_pos h, hActive] at after
    exact hDeliver active hActive hNames after
  | closed operation _ _ _ after outcome =>
    subst operation
    rw [outcome] at h
    obtain ⟨active, hActive⟩ := Option.isSome_iff_exists.mp h
    rw [hActive] at after
    exact hDeliver active hActive rfl after
  | took _ _ _ _ outcome =>
    rw [outcome] at h
    cases h
  | retired _ outcome =>
    rw [outcome] at h
    cases h
  | failed _ outcome =>
    rw [outcome] at h
    cases h

theorem step_uninterrupted (s : PlanningWorker J) (op : Operation J) (hs : Owned s)
    (h : (s.step op).2.interrupts = false) {active : ActiveItem}
    (hAfter : (s.step op).1.active = some active) (hStop : active.stopRequested = true) :
    s.active = some active := by
  cases step_effect s op hs.launched with
  | quiet _ same =>
    rw [same] at hAfter
    exact hAfter
  | interrupted _ _ _ _ _ _ _ outcome =>
    rw [outcome] at h
    cases h
  | invoked _ same =>
    rw [same] at hAfter
    exact hAfter
  | admitted _ _ _ _ _ _ _ _ after =>
    rw [h] at after
    rw [after] at hAfter
    exact hAfter
  | closed _ _ _ _ after outcome =>
    rw [outcome] at h
    have hNone : s.active = none := by simpa [Outcome.interrupts] using h
    rw [after, hNone] at hAfter
    cases hAfter
  | took _ _ _ _ _ _ after =>
    rw [after] at hAfter
    cases hAfter
    cases hStop
  | retired _ _ _ _ _ _ after =>
    rw [after] at hAfter
    cases hAfter
  | failed _ _ _ _ _ after =>
    rw [after] at hAfter
    cases hAfter

theorem planning_work_conserved (ops : List (Operation J)) :
    let s := run step (initial : PlanningWorker J) ops
    let es := events step (initial : PlanningWorker J) ops
    -- every job called is an accepted job, each at most once and in order
    (es.filterMap invokedBy).Sublist (es.filterMap acceptedBy) ∧
    s.snapshot.submitted = (es.filterMap acceptedBy).length.toUInt64 ∧
    s.snapshot.started = (es.filterMap begunBy).length.toUInt64 ∧
    -- one active slot, which describes the one item the thread holds
    s.active.map (fun a => (a.key, a.priority)) = s.thread.work.map (fun w => (w.key, w.priority)) ∧
    s.snapshot.submitted = s.snapshot.started + s.snapshot.replacedPending +
      (if s.snapshot.pending then 1 else 0) + (if es.any discards then 1 else 0) ∧
    s.snapshot.started = s.snapshot.completed +
      (if s.snapshot.inFlight then 1 else 0) + (if s.snapshot.fatal then 1 else 0) ∧
    (s.fatal = true ∨ s.shutdownStarted = true → ∀ later,
      ∀ e ∈ events step s later, acceptedBy e = none ∧ begunBy e = none) ∧
    ∀ e ∈ es, (e.result.interrupts = true → DeliveredToActive e) ∧
      (e.result.interrupts = false → ∀ active, e.after.active = some active →
        active.stopRequested = true → e.before.active = some active) := by
  intro s es
  have hOwned : Owned s := run_owned ops
  have hBooks : Accounted es s := run_accounted ops
  refine ⟨?_, hBooks.submitted, hBooks.started, hOwned.held, hBooks.waiting, hBooks.running, ?_, ?_⟩
  · have hLeft := List.sublist_append_left (es.filterMap invokedBy)
      ((uninvoked s.thread).toList ++ s.pending.toList)
    rw [← List.append_assoc] at hLeft
    exact hLeft.trans hBooks.order
  · intro hClosed later
    exact closed_takes_nothing hOwned hClosed later
  · intro e he
    obtain ⟨hBefore, hEvent⟩ := events_invariant step_owned initial_owned he
    rw [hEvent]
    refine ⟨step_interrupts e.before e.op hBefore, ?_⟩
    intro h active
    exact step_uninterrupted e.before e.op hBefore h

/-! ## Urgent pending requests -/

/-- A submission that replaces a pending item of its own cancellation identity is
at least as urgent. -/
def KeepsUrgentPending (e : Event (PlanningWorker J) (Operation J) (Outcome J)) : Prop :=
  ∀ key priority job now interrupted pending, e.op = .submit key priority job now →
    e.result = .submitted .replacedPending interrupted → e.before.pending = some pending →
    pending.priority.rank ≤ priority.rank ∨ samePlanningCancellationIdentity pending.key key = false

/-- The submission supersedes the active item while a more urgent item of the
submission's own cancellation identity waits. -/
def overtakesPending (s : PlanningWorker J) : Operation J → Bool
  | .submit key priority job _ =>
    job.isSome && s.considers key priority && s.supersedesActive key priority &&
      s.pending.any fun pending =>
        samePlanningCancellationIdentity pending.key key && higherPriority pending.priority priority
  | _ => false

variable {priority : PlanningPriority}

theorem submit_replaces_iff (s : PlanningWorker J) (key : PlanningKey)
    (priority : PlanningPriority) (job : Option J) (now : Int) :
    (s.submit key priority job now).2.1 = .replacedPending ↔
      (job.isSome = true ∧ s.considers key priority = true ∧ s.defers key priority = false) ∧
        s.pending.isSome = true := by
  by_cases hDeclined : job = none ∨ s.considers key priority = false ∨ s.defers key priority = true
  · obtain ⟨d, hd, hSubmit⟩ := submit_declined s now hDeclined
    rw [hSubmit]
    constructor
    · intro h
      exact absurd h hd.2
    · rintro ⟨⟨hJob, hConsiders, hDefers⟩, _⟩
      rcases hDeclined with h | h | h
      · simp [h] at hJob
      · rw [hConsiders] at h
        cases h
      · rw [hDefers] at h
        cases h
  · simp only [not_or, Bool.not_eq_false, Bool.not_eq_true] at hDeclined
    obtain ⟨hJob, hConsiders, hDefers⟩ := hDeclined
    obtain ⟨job, rfl⟩ := Option.ne_none_iff_exists'.mp hJob
    have hPending : (if s.supersedesActive key priority then s.interruptActive else s).pending =
        s.pending := by
      split
      · exact (interruptActive_kept s).pending
      · rfl
    rw [submit_admitted s hConsiders hDefers]
    simp only [enqueue_disposition, hPending, Option.isSome_some, hConsiders, hDefers]
    cases s.pending.isSome <;> simp

theorem defers_of_urgent {s : PlanningWorker J} {key : PlanningKey} {pending : WorkItem J}
    (hPending : s.pending = some pending) (hKept : s.supersedesActive key priority = false)
    (hUrgent : priority.rank < pending.priority.rank) : s.defers key priority = true := by
  simp [defers, hKept, hPending, incumbentPriority, higherPriority, hUrgent]

theorem not_defers_of_supersedes {s : PlanningWorker J} {key : PlanningKey}
    (h : s.supersedesActive key priority = true) : s.defers key priority = false := by
  simp [defers, h]

theorem keepsUrgentPending_iff (s : PlanningWorker J) (op : Operation J) :
    KeepsUrgentPending (eventAt step s op) ↔ s.overtakesPending op = false := by
  by_cases hOp : ∃ key priority job now, op = .submit key priority job now
  · obtain ⟨key, priority, job, now, rfl⟩ := hOp
    constructor
    · intro hKeeps
      by_contra hOvertakes
      rw [Bool.not_eq_false] at hOvertakes
      simp only [overtakesPending, Bool.and_eq_true, Option.any_eq_true] at hOvertakes
      obtain ⟨⟨⟨hJob, hConsiders⟩, hSupersedes⟩, pending, hPending, hSame, hHigher⟩ := hOvertakes
      have hReplaces := (submit_replaces_iff s key priority job now).mpr
        ⟨⟨hJob, hConsiders, not_defers_of_supersedes hSupersedes⟩, by simp [hPending]⟩
      have hResult : (s.step (.submit key priority job now)).2 =
          .submitted .replacedPending (s.submit key priority job now).2.2 := by
        simp [step, hReplaces]
      rcases hKeeps key priority job now _ pending rfl hResult hPending with h | h
      · simp only [higherPriority, decide_eq_true_eq] at hHigher
        omega
      · rw [hSame] at h
        cases h
    · intro hOvertakes key' priority' job' now' interrupted pending hOp hResult hPending
      obtain ⟨rfl, rfl, rfl, rfl⟩ := hOp
      simp only [eventAt_result, step, Outcome.submitted.injEq] at hResult
      rw [eventAt_before] at hPending
      obtain ⟨⟨hJob, hConsiders, hDefers⟩, _⟩ :=
        (submit_replaces_iff s key priority job now).mp hResult.1
      by_cases hUrgent : priority.rank < pending.priority.rank
      · right
        have hSupersedes : s.supersedesActive key priority = true := by
          by_contra h
          rw [Bool.not_eq_true] at h
          rw [defers_of_urgent hPending h hUrgent] at hDefers
          cases hDefers
        simpa [overtakesPending, hJob, hConsiders, hSupersedes, hPending, higherPriority,
          hUrgent] using hOvertakes
      · left
        omega
  · constructor
    · intro _
      cases op <;> first | rfl | (exfalso; exact hOp ⟨_, _, _, _, rfl⟩)
    · intro _ key priority job now interrupted pending hSubmit
      exact absurd ⟨key, priority, job, now, hSubmit⟩ hOp

theorem urgent_pending_kept_iff (ops : List (Operation J)) :
    (∀ e ∈ events step (initial : PlanningWorker J) ops, KeepsUrgentPending e) ↔
      ∀ e ∈ events step (initial : PlanningWorker J) ops, e.before.overtakesPending e.op = false := by
  have hEach : ∀ e ∈ events step (initial : PlanningWorker J) ops,
      KeepsUrgentPending e ↔ e.before.overtakesPending e.op = false := by
    intro e he
    obtain ⟨_, hEvent⟩ := events_invariant step_owned initial_owned he
    rw [hEvent]
    exact keepsUrgentPending_iff e.before e.op
  constructor
  · intro h e he
    exact (hEach e he).mp (h e he)
  · intro h e he
    exact (hEach e he).mpr (h e he)

/-- A goal transition: the solve of goal 1 is active, an emergency request of goal 2
supersedes it and waits, and a routine renewal of goal 2 on a newer map arrives
before the cancelled solve has retired. -/
def transitionKey (goalEpoch mapRevision : Nat) : PlanningKey :=
  ⟨1, goalEpoch, 1, 1, 0, 1, mapRevision, .stoppedMeasuredState, 10, 7⟩

def transitionRun : List (Operation Nat) :=
  [.start, .submit (transitionKey 1 1) .normalRenewal (some 1) 0, .wake 1,
    .submit (transitionKey 2 1) .emergency (some 2) 2,
    .submit (transitionKey 2 2) .normalRenewal (some 3) 3]

theorem renewal_displaces_emergency :
    ∃ e ∈ events step initial transitionRun, ¬ KeepsUrgentPending e := by
  refine ⟨eventAt step (run step initial (transitionRun.take 4))
    (.submit (transitionKey 2 2) .normalRenewal (some 3) 3), ?_, ?_⟩
  · simp [transitionRun]
  · rw [keepsUrgentPending_iff]
    decide

end UavNavigation.PlanningWorker
