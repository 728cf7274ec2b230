import UavNavigation.MappingSchedule

/-!
# One ordered owner that stops when it fails

Where an observation in READY or with the thread can come from, which keys it can
have, and what is left to process when a callback has failed. A reset separates the
observations by their numbers; between resets the keys rise.
-/

namespace UavNavigation.MappingSchedule

set_option autoImplicit false

open ObservationAccounting Runs MappingSchedule

variable {O : Type} {s : MappingSchedule O}

/-! ## Where an observation comes from -/

variable {op : MappingWorker.Operation (Submission O)} {submission : Submission O}

theorem locked_ready (hs : Owned s) (h : (s.locked op).1.worker.ready = some submission)
    (hOp : op.lifecycle = true) : s.worker.ready = some submission := by
  have hKept : (s.locked op).1.worker.ready = s.worker.ready ∨
      (s.locked op).1.worker.ready = none := by
    cases MappingWorker.step_section s.worker hs.closing op hOp with
    | keeps _ _ _ _ hReady => exact hReady
    | idles _ _ _ hReady _ _ => exact hReady
    | takes _ _ _ _ hReady _ _ _ => exact .inr hReady
  rcases hKept with hReady | hReady
  · exact hReady.symm.trans h
  · cases hReady.symm.trans h

theorem locked_taken (hs : Owned s) (h : (s.locked op).1.taken = some submission)
    (hOp : op.lifecycle = true) : s.taken = some submission ∨
      (s.worker.ready = some submission ∧ (s.locked op).1.worker.ready = none) := by
  have hTaken : (s.locked op).1.taken =
      if s.entered then none else (s.worker.step op).1.thread.observation := rfl
  rw [hTaken] at h
  cases MappingWorker.step_section s.worker hs.closing op hOp with
  | keeps _ hThread _ _ _ =>
    rw [hThread] at h
    exact .inl h
  | idles _ _ hAfter _ _ _ =>
    rw [hAfter] at h
    simp at h
  | takes taken _ hWaiting hReady hEmpty hThread _ _ =>
    have hIdle : s.worker.thread.observation = none := by
      rw [hWaiting]
      rfl
    rw [hs.entered_false hIdle, hThread] at h
    cases h
    exact .inr ⟨hReady, hEmpty⟩

theorem leave_places (hs : Owned s) (hOp : op = .processReturned ∨ op = .processThrew) :
    (s.leave op).1.worker.ready = s.worker.ready ∧ (s.leave op).1.taken = none ∨
      (s.leave op).1 = s := by
  cases hEntered : s.entered with
  | false => simp [leave, hEntered]
  | true =>
    obtain ⟨hIdle, hOutside, hReady, -⟩ := leave_eq hs hEntered hOp
    left
    refine ⟨hReady, ?_⟩
    simp [taken, hIdle]

theorem step_ready (op : Operation O) (hs : Owned s)
    (h : (s.step op).1.worker.ready = some submission) :
    s.worker.ready = some submission ∨ submission.number = s.submissions ∧
      ∃ observation validate keyThrew, op = .submitFromWaiting observation validate keyThrew := by
  cases op with
  | setStrictlyIncreasingOrderKey orderKey initialKey =>
    rcases setOrderKey_cases s orderKey initialKey with hEq | ⟨_, _, hEq⟩
    · rw [hEq] at h
      exact .inl h
    · rw [hEq] at h
      exact .inl h
  | recordAcceptedToInbox => exact .inl h
  | submitFromWaiting observation validate keyThrew =>
    cases MappingWorker.submitFromWaiting_submitted s.worker ⟨s.submissions, observation⟩ validate
      (if keyThrew then none else some (s.keyOf ⟨s.submissions, observation⟩)) with
    | refused _ hReady _ => exact .inl (hReady.symm.trans h)
    | failed _ hReady _ _ _ _ => exact .inl (hReady.symm.trans h)
    | admitted _ _ _ _ _ hReady _ =>
      cases hReady.symm.trans h
      exact .inr ⟨rfl, observation, validate, keyThrew, rfl⟩
  | finishReset =>
    rcases finishReset_cases s.worker with hEq | ⟨_, hEq⟩
    · simp only [step, locked, hEq] at h
      exact .inl h
    · simp only [step, locked, hEq] at h
      exact .inl h
  | processBegins =>
    simp only [step] at h
    split at h <;> exact .inl h
  | processReturned =>
    rcases leave_places hs (.inl rfl) with ⟨hReady, _⟩ | hEq
    · exact .inl (hReady.symm.trans h)
    · exact .inl (by rwa [step, hEq] at h)
  | processThrew =>
    rcases leave_places hs (.inr rfl) with ⟨hReady, _⟩ | hEq
    · exact .inl (hReady.symm.trans h)
    · exact .inl (by rwa [step, hEq] at h)
  | _ => exact .inl (locked_ready hs h rfl)

theorem step_taken (op : Operation O) (hs : Owned s) (h : (s.step op).1.taken = some submission) :
    s.taken = some submission ∨
      (s.worker.ready = some submission ∧ (s.step op).1.worker.ready = none) := by
  cases op with
  | setStrictlyIncreasingOrderKey orderKey initialKey =>
    rcases setOrderKey_cases s orderKey initialKey with hEq | ⟨_, _, hEq⟩
    · rw [hEq] at h
      exact .inl h
    · rw [hEq] at h
      exact .inl h
  | recordAcceptedToInbox => exact .inl h
  | submitFromWaiting observation validate keyThrew =>
    have hFrame := MappingWorker.submitFromWaiting_frame s.worker ⟨s.submissions, observation⟩
      validate (if keyThrew then none else some (s.keyOf ⟨s.submissions, observation⟩))
    simp only [taken, step, hFrame.thread] at h
    exact .inl h
  | finishReset =>
    rcases finishReset_cases s.worker with hEq | ⟨_, hEq⟩
    · simp only [step, locked, taken, hEq] at h
      exact .inl h
    · simp only [step, locked, taken, hEq] at h
      exact .inl h
  | processBegins =>
    simp only [step] at h
    split at h
    · simp [taken] at h
    · exact .inl h
  | processReturned =>
    rcases leave_places hs (.inl rfl) with ⟨_, hTaken⟩ | hEq
    · cases hTaken.symm.trans h
    · exact .inl (by rwa [step, hEq] at h)
  | processThrew =>
    rcases leave_places hs (.inr rfl) with ⟨_, hTaken⟩ | hEq
    · cases hTaken.symm.trans h
    · exact .inl (by rwa [step, hEq] at h)
  | _ => exact locked_taken hs h rfl

theorem leave_submissions (s : MappingSchedule O) (op : MappingWorker.Operation (Submission O)) :
    (s.leave op).1.submissions = s.submissions := by
  unfold leave
  split <;> rfl

theorem step_submissions (s : MappingSchedule O) (op : Operation O) :
    s.submissions ≤ (s.step op).1.submissions := by
  cases op with
  | setStrictlyIncreasingOrderKey orderKey initialKey =>
    simp only [step]
    split <;> exact Nat.le_refl _
  | submitFromWaiting => exact Nat.le_succ _
  | processBegins =>
    simp only [step]
    split <;> exact Nat.le_refl _
  | processReturned => exact Nat.le_of_eq (leave_submissions s _).symm
  | processThrew => exact Nat.le_of_eq (leave_submissions s _).symm
  | _ => exact Nat.le_refl _

/-- What is READY was submitted at or after number `n`. -/
structure ReadySince (n : Nat) (s : MappingSchedule O) : Prop where
  submissions : n ≤ s.submissions
  ready : ∀ submission, s.worker.ready = some submission → n ≤ submission.number

structure Since (n : Nat) (s : MappingSchedule O) : Prop extends ReadySince n s where
  taken : ∀ submission, s.taken = some submission → n ≤ submission.number

variable {n : Nat}

theorem step_readySince (op : Operation O) (hs : Owned s) (h : ReadySince n s) :
    ReadySince n (s.step op).1 := by
  refine ⟨Nat.le_trans h.submissions (step_submissions s op), ?_⟩
  intro submission hReady
  rcases step_ready op hs hReady with hReady | ⟨hNumber, _⟩
  · exact h.ready submission hReady
  · rw [hNumber]
    exact h.submissions

theorem step_since (op : Operation O) (hs : Owned s) (h : Since n s) : Since n (s.step op).1 := by
  refine ⟨step_readySince op hs h.toReadySince, ?_⟩
  intro submission hTaken
  rcases step_taken op hs hTaken with hTaken | ⟨hReady, _⟩
  · exact h.taken submission hTaken
  · exact h.ready submission hReady

theorem beginReset_readySince (hRunning : s.worker.shutdownStarted = false) :
    ReadySince s.submissions (s.step .beginReset).1 := by
  refine ⟨Nat.le_refl _, ?_⟩
  intro submission hReady
  simp [step, locked, MappingWorker.step, MappingWorker.beginReset, hRunning] at hReady

theorem finishReset_since (hs : Owned s) (h : ReadySince n s)
    (hDone : (s.step .finishReset).2 = .done) :
    Since n (s.step .finishReset).1 ∧ (s.step .finishReset).1.calls = 0 := by
  have hAfter := step_owned .finishReset hs
  have hFree : (s.step .finishReset).1.worker.inFlight = false := by
    rcases finishReset_cases s.worker with hEq | ⟨hFree, hEq⟩
    · simp [step, locked, hEq] at hDone
    · simp [step, locked, hEq, hFree]
  obtain ⟨hTaken, hCalls⟩ := hAfter.taken_none hFree
  refine ⟨⟨step_readySince .finishReset hs h, ?_⟩, hCalls⟩
  intro submission hSome
  cases hTaken.symm.trans hSome

/-! ## Keys -/

/-- What an operation can do to the keys: nothing, let in a higher one, start again
from zero, or set them up before the thread runs. -/
inductive KeyStep (s t : MappingSchedule O) (op : Operation O) : Prop where
  | same : t.orderKey = s.orderKey → t.worker.hasOrderKey = s.worker.hasOrderKey →
      t.worker.highestAdmittedKey = s.worker.highestAdmittedKey →
      (s.worker.started = true → t.worker.started = true) →
      (∀ submission, t.worker.ready = some submission → s.worker.ready = some submission) →
      KeyStep s t op
  | admitted (submission : Submission O) : t.orderKey = s.orderKey →
      t.worker.hasOrderKey = s.worker.hasOrderKey → t.worker.started = s.worker.started →
      t.worker.ready = some submission → t.taken = s.taken →
      (s.worker.hasOrderKey = true → s.worker.highestAdmittedKey < s.keyOf submission ∧
        t.worker.highestAdmittedKey = s.keyOf submission) → KeyStep s t op
  | restarted : op = .finishReset → (s.step op).2 = .done → t.worker.ready = s.worker.ready →
      t.taken = none → KeyStep s t op
  | configured : s.worker.started = false → t.worker.ready = none → t.taken = none → KeyStep s t op

theorem locked_keys (hs : Owned s) (hOp : op.lifecycle = true) (scheduled : Operation O) :
    KeyStep s (s.locked op).1 scheduled := by
  have hOrder : MappingWorker.KeepsOrder s.worker (s.locked op).1.worker := by
    cases MappingWorker.step_section s.worker hs.closing op hOp with
    | keeps hOrder => exact hOrder
    | idles hOrder => exact hOrder
    | takes _ hOrder => exact hOrder
  refine .same rfl hOrder.hasOrderKey hOrder.highest hOrder.started ?_
  intro submission h
  exact locked_ready hs h hOp

theorem leave_keys (hs : Owned s) (hOp : op = .processReturned ∨ op = .processThrew)
    (scheduled : Operation O) : KeyStep s (s.leave op).1 scheduled := by
  cases hEntered : s.entered with
  | false =>
    simp only [leave, hEntered, Bool.false_eq_true, if_false]
    exact .same rfl rfl rfl id fun _ h => h
  | true =>
    obtain ⟨_, _, hReady, _, _, hOrderKey, hHighest, hStarted⟩ := leave_eq hs hEntered hOp
    refine .same ?_ hOrderKey hHighest ?_ ?_
    · unfold leave
      split <;> rfl
    · rw [hStarted]
      exact id
    · intro submission h
      exact hReady.symm.trans h

theorem step_keys (op : Operation O) (hs : Owned s) : KeyStep s (s.step op).1 op := by
  cases op with
  | setStrictlyIncreasingOrderKey orderKey initialKey =>
    rcases setOrderKey_cases s orderKey initialKey with hEq | ⟨hStarted, hReady, hEq⟩
    · rw [hEq]
      exact .same rfl rfl rfl id fun _ h => h
    · rw [hEq]
      have hThread := hs.closing.launched.mp hStarted
      refine .configured hStarted hReady ?_
      simp [taken, hThread, MappingThread.observation]
  | recordAcceptedToInbox => exact .same rfl rfl rfl id fun _ h => h
  | submitFromWaiting observation validate keyThrew =>
    have hFrame := MappingWorker.submitFromWaiting_frame s.worker ⟨s.submissions, observation⟩
      validate (if keyThrew then none else some (s.keyOf ⟨s.submissions, observation⟩))
    cases MappingWorker.submitFromWaiting_submitted s.worker ⟨s.submissions, observation⟩ validate
      (if keyThrew then none else some (s.keyOf ⟨s.submissions, observation⟩)) with
    | refused hOrder hReady _ =>
      exact .same rfl hOrder.hasOrderKey hOrder.highest hOrder.started
        fun _ h => hReady.symm.trans h
    | failed hOrder hReady _ _ _ _ =>
      exact .same rfl hOrder.hasOrderKey hOrder.highest hOrder.started
        fun _ h => hReady.symm.trans h
    | admitted hOrderKey hStarted _ _ _ hReady hKey =>
      refine .admitted ⟨s.submissions, observation⟩ rfl hOrderKey hStarted hReady ?_ ?_
      · simp only [taken, step, hFrame.thread]
      · intro hConfigured
        obtain ⟨key, hSome, hAbove, hHighest⟩ := hKey hConfigured
        cases keyThrew with
        | true => cases hSome
        | false =>
          cases hSome
          exact ⟨hAbove, hHighest⟩
  | finishReset =>
    have hAfter := step_owned .finishReset hs
    rcases finishReset_cases s.worker with hEq | ⟨hFree, hEq⟩
    · simp only [step, locked, hEq]
      exact .same rfl rfl rfl id fun _ h => h
    · refine .restarted rfl ?_ ?_ (hAfter.taken_none ?_).1
      · simp [step, locked, hEq]
      · simp [step, locked, hEq]
      · simp [step, locked, hEq, hFree]
  | processBegins =>
    simp only [step]
    split <;> exact .same rfl rfl rfl id fun _ h => h
  | processReturned => exact leave_keys hs (.inl rfl) _
  | processThrew => exact leave_keys hs (.inr rfl) _
  | _ => exact locked_keys hs rfl _

/-- The keys held rise from the thread to READY, up to the highest one admitted. -/
structure Ordered (s : MappingSchedule O) : Prop where
  ready : s.worker.hasOrderKey = true → ∀ submission, s.worker.ready = some submission →
    s.keyOf submission ≤ s.worker.highestAdmittedKey
  taken : s.worker.hasOrderKey = true → ∀ submission, s.taken = some submission →
    s.keyOf submission ≤ s.worker.highestAdmittedKey ∧
      ∀ next, s.worker.ready = some next → s.keyOf submission < s.keyOf next

/-- Everything that the running thread can still process has a key above `key`. -/
structure Above (key : Int) (s : MappingSchedule O) : Prop where
  started : s.worker.started = true
  hasOrderKey : s.worker.hasOrderKey = true
  highest : key ≤ s.worker.highestAdmittedKey
  ready : ∀ submission, s.worker.ready = some submission → key < s.keyOf submission
  taken : ∀ submission, s.taken = some submission → key < s.keyOf submission

variable {key : Int}

theorem create_ordered (hasValidate hasPublishedHandler : Bool) :
    Ordered (create hasValidate hasPublishedHandler : MappingSchedule O) := by
  refine ⟨?_, ?_⟩
  · intro h
    cases h
  · intro h
    cases h

theorem keyOf_congr {t : MappingSchedule O} (h : t.orderKey = s.orderKey)
    (submission : Submission O) : t.keyOf submission = s.keyOf submission := by
  unfold keyOf
  rw [h]

section
variable (op : Operation O)

theorem step_ordered (hs : Owned s) (h : Ordered s)
    (hEmpty : ResetsEmpty (eventAt step s op)) : Ordered (s.step op).1 := by
  cases step_keys op hs with
  | same hKey hConfigured hHighest _ hReady =>
    refine ⟨?_, ?_⟩
    · intro hHas submission hSome
      rw [keyOf_congr hKey, hHighest]
      exact h.ready (hConfigured.symm.trans hHas) submission (hReady submission hSome)
    · intro hHas submission hSome
      rw [keyOf_congr hKey, hHighest]
      have hHas' := hConfigured.symm.trans hHas
      rcases step_taken op hs hSome with hTaken | ⟨hWasReady, hNone⟩
      · refine ⟨(h.taken hHas' submission hTaken).1, ?_⟩
        intro next hNext
        rw [keyOf_congr hKey]
        exact (h.taken hHas' submission hTaken).2 next (hReady next hNext)
      · refine ⟨h.ready hHas' submission hWasReady, ?_⟩
        intro next hNext
        cases hNone.symm.trans hNext
  | admitted admitted hKey hConfigured _ hReady hTaken hAbove =>
    refine ⟨?_, ?_⟩
    · intro hHas submission hSome
      obtain ⟨_, hHighest⟩ := hAbove (hConfigured.symm.trans hHas)
      cases hReady.symm.trans hSome
      apply Int.le_of_eq
      rw [keyOf_congr hKey, hHighest]
    · intro hHas submission hSome
      have hHas' := hConfigured.symm.trans hHas
      obtain ⟨hRaised, hHighest⟩ := hAbove hHas'
      have hBelow := (h.taken hHas' submission (hTaken.symm.trans hSome)).1
      rw [keyOf_congr hKey, hHighest]
      refine ⟨by omega, ?_⟩
      intro next hNext
      cases hReady.symm.trans hNext
      rw [keyOf_congr hKey]
      omega
  | restarted hOp hDone hReady hTaken =>
    have hNone : s.worker.ready = none := hEmpty ⟨hOp, hDone⟩
    refine ⟨?_, ?_⟩
    · intro _ submission hSome
      cases (hReady.trans hNone).symm.trans hSome
    · intro _ submission hSome
      cases hTaken.symm.trans hSome
  | configured _ hReady hTaken =>
    refine ⟨?_, ?_⟩
    · intro _ submission hSome
      cases hReady.symm.trans hSome
    · intro _ submission hSome
      cases hTaken.symm.trans hSome

theorem step_above (hs : Owned s)
    (hOpen : ¬ CompletesReset (eventAt step s op)) (h : Above key s) : Above key (s.step op).1 := by
  cases step_keys op hs with
  | same hKey hConfigured hHighest hStarted hReady =>
    refine ⟨hStarted h.started, hConfigured.trans h.hasOrderKey, ?_, ?_, ?_⟩
    · rw [hHighest]
      exact h.highest
    · intro submission hSome
      rw [keyOf_congr hKey]
      exact h.ready submission (hReady submission hSome)
    · intro submission hSome
      rw [keyOf_congr hKey]
      rcases step_taken op hs hSome with hTaken | ⟨hWasReady, _⟩
      · exact h.taken submission hTaken
      · exact h.ready submission hWasReady
  | admitted admitted hKey hConfigured hStarted hReady hTaken hAbove =>
    obtain ⟨hRaised, hHighest⟩ := hAbove h.hasOrderKey
    have hBelow := h.highest
    refine ⟨hStarted.trans h.started, hConfigured.trans h.hasOrderKey, ?_, ?_, ?_⟩
    · rw [hHighest]
      omega
    · intro submission hSome
      cases hReady.symm.trans hSome
      rw [keyOf_congr hKey]
      omega
    · intro submission hSome
      rw [keyOf_congr hKey]
      exact h.taken submission (hTaken.symm.trans hSome)
  | restarted hOp hDone _ _ => exact absurd ⟨hOp, hDone⟩ hOpen
  | configured hStarted _ _ =>
    have := h.started
    rw [hStarted] at this
    cases this

theorem begun_eq_some {op : Operation O} (h : begun (eventAt step s op) = some submission) :
    op = .processBegins ∧ s.taken = some submission := by
  cases op with
  | processBegins => exact ⟨rfl, h⟩
  | _ => cases h

theorem begunKey_eq_some {op : Operation O} (h : begunKey (eventAt step s op) = some key) :
    s.worker.hasOrderKey = true ∧
      ∃ submission, begun (eventAt step s op) = some submission ∧ key = s.keyOf submission := by
  unfold begunKey at h
  split at h
  · rename_i hConfigured
    obtain ⟨submission, hBegun, rfl⟩ := Option.map_eq_some_iff.mp h
    exact ⟨hConfigured, submission, hBegun, rfl⟩
  · cases h

/-- What is handed to `process_` lies below everything that can still follow. -/
theorem begun_above (hs : Owned s) (h : Ordered s)
    (hKey : begunKey (eventAt step s op) = some key) : Above key (s.step op).1 := by
  obtain ⟨hConfigured, submission, hBegun, rfl⟩ := begunKey_eq_some hKey
  obtain ⟨rfl, hTaken⟩ := begun_eq_some hBegun
  have hStarted : s.worker.started = true := by
    by_contra hNot
    have hThread := hs.closing.launched.mp (by simpa using hNot)
    simp [taken, hThread, MappingThread.observation] at hTaken
  obtain ⟨hBelow, hReady⟩ := h.taken hConfigured submission hTaken
  simp only [step, hTaken]
  refine ⟨hStarted, hConfigured, hBelow, hReady, ?_⟩
  intro next hNext
  simp [taken] at hNext

theorem above_begun {next : Int} (h : Above key s)
    (hNext : begunKey (eventAt step s op) = some next) : key < next := by
  obtain ⟨_, submission, hBegun, rfl⟩ := begunKey_eq_some hNext
  exact h.taken submission (begun_eq_some hBegun).2

end

/-! ## Failures -/

def Quiet (s : MappingSchedule O) : Prop :=
  s.worker.fatal = true → s.worker.accepting = false ∧ s.taken = none ∧
    (s.worker.ready = none ∨ s.worker.thread = .failing)

theorem create_quiet (hasValidate hasPublishedHandler : Bool) :
    Quiet (create hasValidate hasPublishedHandler : MappingSchedule O) := by
  intro h
  cases h

theorem orderAndInstall_fatal {worker : MappingWorker O} {observation : O} {key : Option Int}
    (hBefore : worker.fatal = false)
    (hAfter : (worker.orderAndInstall observation key).1.fatal = true) :
    worker.hasOrderKey = true ∧ key = none := by
  have hInstall : ∀ {t : MappingWorker O}, t.fatal = false →
      (t.install observation).1.fatal ≠ true := by
    intro t hSame h
    cases hSame.symm.trans h
  unfold MappingWorker.orderAndInstall at hAfter
  split at hAfter
  · rename_i hConfigured
    refine ⟨hConfigured, ?_⟩
    cases key with
    | none => rfl
    | some key =>
      simp only at hAfter
      split at hAfter
      · cases hBefore.symm.trans hAfter
      · exact absurd hAfter (hInstall hBefore)
  · exact absurd hAfter (hInstall hBefore)

theorem raisesFatal_of_fatal {observation : O} {validate : Callback} {keyThrew : Bool}
    (hBefore : s.worker.fatal = false)
    (hAfter : (s.step (.submitFromWaiting observation validate keyThrew)).1.worker.fatal = true) :
    s.raisesFatal validate keyThrew = true := by
  have hThrew : ∀ {p : Bool} {k : Int}, (if p then none else some k) = none → p = true := by
    intro p k h
    cases p with
    | false => cases h
    | true => rfl
  simp only [step, MappingWorker.submitFromWaiting] at hAfter
  split at hAfter
  · cases hBefore.symm.trans hAfter
  · rename_i hOpen
    simp only [Bool.or_eq_true, Bool.not_eq_true', not_or, Bool.not_eq_false,
      Bool.not_eq_true] at hOpen
    obtain ⟨⟨hAccepting, _⟩, hResetting⟩ := hOpen
    simp only [raisesFatal, hAccepting, hBefore, hResetting, Bool.not_false, Bool.true_and]
    split at hAfter
    · rename_i hValidate
      cases validate with
      | threw => simp [hValidate]
      | returned value =>
        cases value with
        | false => cases hBefore.symm.trans hAfter
        | true =>
          obtain ⟨hConfigured, hNone⟩ := orderAndInstall_fatal hBefore hAfter
          simp [hConfigured, hThrew hNone]
    · rename_i hValidate
      obtain ⟨hConfigured, hNone⟩ := orderAndInstall_fatal hBefore hAfter
      simp [hValidate, hConfigured, hThrew hNone]

theorem Quiet.of_same {t : MappingSchedule O} (h : Quiet s)
    (hFatal : t.worker.fatal = s.worker.fatal)
    (hAccepting : s.worker.accepting = false → t.worker.accepting = false)
    (hTaken : t.taken = s.taken) (hThread : t.worker.thread = s.worker.thread)
    (hReady : s.worker.ready = none → t.worker.ready = none) : Quiet t := by
  intro hNow
  obtain ⟨hClosed, hNothing, hEmpty⟩ := h (hFatal.symm.trans hNow)
  refine ⟨hAccepting hClosed, hTaken.trans hNothing, ?_⟩
  rw [hThread]
  exact hEmpty.imp hReady id

theorem locked_quiet (hs : Owned s) (h : Quiet s) (hOp : op.lifecycle = true) :
    Quiet (s.locked op).1 := by
  have hNone : s.worker.ready = none → (s.locked op).1.worker.ready = none := by
    intro hEmpty
    cases hReady : (s.locked op).1.worker.ready with
    | none => rfl
    | some submission => cases hEmpty.symm.trans (locked_ready hs hReady hOp)
  cases MappingWorker.step_section s.worker hs.closing op hOp with
  | keeps hOrder hThread _ hFatal _ =>
    refine h.of_same hFatal hOrder.accepting ?_ hThread hNone
    simp only [taken, locked, hThread]
  | idles hOrder _ hAfter _ hFailing hFatal =>
    intro hNow
    have hTaken : (s.locked op).1.taken = none := by
      simp [taken, locked, hAfter]
    rcases hFatal hNow with hWas | ⟨hEmpty, hClosed⟩
    · obtain ⟨hClosed, _, hEmpty⟩ := h hWas
      exact ⟨hOrder.accepting hClosed, hTaken, .inl (hEmpty.elim hNone hFailing)⟩
    · exact ⟨hClosed, hTaken, .inl hEmpty⟩
  | takes submission _ hWaiting hReady _ _ _ hFatal =>
    intro hNow
    obtain ⟨_, _, hEmpty⟩ := h (hFatal.symm.trans hNow)
    rcases hEmpty with hEmpty | hFailing
    · cases hEmpty.symm.trans hReady
    · cases hWaiting.symm.trans hFailing

theorem leave_quiet (hs : Owned s) (h : Quiet s)
    (hOp : op = .processReturned ∨ op = .processThrew) : Quiet (s.leave op).1 := by
  cases hEntered : s.entered with
  | false =>
    simp only [leave, hEntered, Bool.false_eq_true, if_false]
    exact h
  | true =>
    obtain ⟨hIdle, _, hReady, hFatal, hAccepting, -⟩ := leave_eq hs hEntered hOp
    intro hNow
    obtain ⟨hClosed, _, hEmpty⟩ := h (hFatal.symm.trans hNow)
    refine ⟨hAccepting.trans hClosed, ?_, .inl (hReady.trans ?_)⟩
    · simp [taken, hIdle]
    · rcases hEmpty with hEmpty | hFailing
      · exact hEmpty
      · have hHeld := hs.entered hEntered
        rw [hFailing] at hHeld
        cases hHeld

theorem step_quiet (op : Operation O) (hs : Owned s) (h : Quiet s)
    (hFails : FailsEmpty (eventAt step s op)) : Quiet (s.step op).1 := by
  cases op with
  | setStrictlyIncreasingOrderKey orderKey initialKey =>
    rcases setOrderKey_cases s orderKey initialKey with hEq | ⟨_, _, hEq⟩
    · rw [hEq]
      exact h
    · rw [hEq]
      exact h.of_same rfl id rfl rfl id
  | recordAcceptedToInbox => exact h.of_same rfl id rfl rfl id
  | submitFromWaiting observation validate keyThrew =>
    have hFrame := MappingWorker.submitFromWaiting_frame s.worker ⟨s.submissions, observation⟩
      validate (if keyThrew then none else some (s.keyOf ⟨s.submissions, observation⟩))
    have hTaken : (s.step (.submitFromWaiting observation validate keyThrew)).1.taken =
        s.taken := by
      simp only [taken, step, hFrame.thread]
    cases MappingWorker.submitFromWaiting_submitted s.worker ⟨s.submissions, observation⟩ validate
      (if keyThrew then none else some (s.keyOf ⟨s.submissions, observation⟩)) with
    | refused hOrder hReady hFatal =>
      exact h.of_same hFatal hOrder.accepting hTaken hFrame.thread hReady.trans
    | failed hOrder hReady hFatal hClosed _ hBefore =>
      intro _
      obtain ⟨hNothing, hEmpty⟩ := hFails observation validate keyThrew rfl
        (raisesFatal_of_fatal hBefore hFatal)
      exact ⟨hClosed, hTaken.trans hNothing, hEmpty.imp hReady.trans hFrame.thread.trans⟩
    | admitted _ _ hFatal _ hBefore _ _ =>
      intro hNow
      cases (hFatal.trans hBefore).symm.trans hNow
  | finishReset =>
    rcases finishReset_cases s.worker with hEq | ⟨_, hEq⟩
    · simp only [step, locked, hEq]
      exact h
    · simp only [step, locked, hEq]
      exact h.of_same rfl id rfl rfl id
  | processBegins =>
    cases hTaken : s.taken with
    | none =>
      simp only [step, hTaken]
      exact h
    | some submission =>
      intro hNow
      simp only [step, hTaken] at hNow
      cases hTaken.symm.trans (h hNow).2.1
  | processReturned => exact leave_quiet hs h (.inl rfl)
  | processThrew => exact leave_quiet hs h (.inr rfl)
  | _ => exact locked_quiet hs h rfl

/-! ## Every schedule -/

variable {ops : List (Operation O)}

theorem run_owned (hasValidate hasPublishedHandler : Bool) (ops : List (Operation O)) :
    Owned (run step (create hasValidate hasPublishedHandler) ops) :=
  run_invariant (fun _ op hs => step_owned op hs) (create_owned _ _) ops

theorem begun_since (hs : Owned s) (h : Since n s) (ops : List (Operation O)) :
    ∀ submission ∈ (events step s ops).filterMap begun, n ≤ submission.number := by
  intro submission hBegun
  obtain ⟨e, he, hSome⟩ := List.mem_filterMap.mp hBegun
  obtain ⟨hInv, hEvent⟩ := events_invariant (P := fun s : MappingSchedule O => Owned s ∧ Since n s)
    (fun s op h => ⟨step_owned op h.1, step_since op h.1 h.2⟩) ⟨hs, h⟩ he
  rw [hEvent] at hSome
  exact hInv.2.taken submission (begun_eq_some hSome).2

theorem run_readySince (hs : Owned s) (h : ReadySince n s) (ops : List (Operation O)) :
    ReadySince n (run step s ops) :=
  (run_invariant (P := fun s : MappingSchedule O => Owned s ∧ ReadySince n s)
    (fun _ op h => ⟨step_owned op h.1, step_readySince op h.1 h.2⟩) ⟨hs, h⟩ ops).2

theorem run_ordered (hs : Owned s) (h : Ordered s)
    (hEmpty : ∀ e ∈ events step s ops, ResetsEmpty e) :
    Owned (run step s ops) ∧ Ordered (run step s ops) :=
  run_guarded (P := fun s : MappingSchedule O => Owned s ∧ Ordered s)
    (fun _ op h hGuard => ⟨step_owned op h.1, step_ordered op h.1 h.2 hGuard⟩) ⟨hs, h⟩ hEmpty

theorem begunKeys_rise (hs : Owned s) (h : Ordered s)
    (hEmpty : ∀ e ∈ events step s ops, ResetsEmpty e)
    (hOpen : ∀ e ∈ events step s ops, ¬ CompletesReset e) :
    ((events step s ops).filterMap begunKey).Pairwise (· < ·) := by
  apply emitted_pairwise (B := Above) (P := fun s : MappingSchedule O => Owned s ∧ Ordered s)
    (Q := fun e => ResetsEmpty e ∧ ¬ CompletesReset e)
  · intro s op h hGuard
    exact ⟨step_owned op h.1, step_ordered op h.1 h.2 hGuard.1⟩
  · intro s op key h _ hKey
    exact begun_above op h.1 h.2 hKey
  · intro s op key h hGuard hAbove
    exact step_above op h.1 hGuard.2 hAbove
  · intro s op key next _ hAbove hNext
    exact above_begun op hAbove hNext
  · exact ⟨hs, h⟩
  · intro e he
    exact ⟨hEmpty e he, hOpen e he⟩

theorem begun_none_of_fatal (hasValidate hasPublishedHandler : Bool)
    (hFails : ∀ e ∈ events step (create hasValidate hasPublishedHandler) ops, FailsEmpty e)
    {e : ScheduleEvent O} (he : e ∈ events step (create hasValidate hasPublishedHandler) ops)
    (hFatal : e.before.worker.fatal = true) : begun e = none := by
  obtain ⟨⟨_, hQuiet⟩, _, hEvent⟩ := events_guarded
    (P := fun s : MappingSchedule O => Owned s ∧ Quiet s)
    (fun s op h hGuard => ⟨step_owned op h.1, step_quiet op h.1 h.2 hGuard⟩)
    ⟨create_owned _ _, create_quiet _ _⟩ hFails he
  cases hBegun : begun e with
  | none => rfl
  | some submission =>
    rw [hEvent] at hBegun
    cases (hQuiet hFatal).2.1.symm.trans (begun_eq_some hBegun).2

theorem mapping_worker_order (hasValidate hasPublishedHandler : Bool) (ops : List (Operation O)) :
    let start := create hasValidate hasPublishedHandler
    let es := events step start ops
    -- one call at a time
    (run step start ops).calls ≤ 1 ∧
    -- once a reset has completed, nothing submitted before it began is processed
    (∀ before during after, ops = before ++ .beginReset :: during ++ .finishReset :: after →
      let asked := run step start before
      let waited := run step start (before ++ .beginReset :: during)
      asked.worker.shutdownStarted = false → (waited.step .finishReset).2 = .done →
      (waited.step .finishReset).1.calls = 0 ∧
        ∀ submission ∈ (events step (waited.step .finishReset).1 after).filterMap begun,
          asked.submissions ≤ submission.number) ∧
    -- between completed resets the keys rise
    ((∀ e ∈ es, ResetsEmpty e) → ∀ before during after, ops = before ++ during ++ after →
      (∀ e ∈ events step (run step start before) during, ¬ CompletesReset e) →
      ((events step (run step start before) during).filterMap begunKey).Pairwise (· < ·)) ∧
    -- a fatal worker begins no call
    ((∀ e ∈ es, FailsEmpty e) → ∀ e ∈ es, e.before.worker.fatal = true → begun e = none) := by
  refine ⟨?_, ?_, ?_, ?_⟩
  · have hCalls := (run_owned hasValidate hasPublishedHandler ops).calls
    rw [hCalls]
    split <;> omega
  · intro before during after _ asked waited hRunning hDone
    have hAsked : Owned asked := run_owned hasValidate hasPublishedHandler before
    have hWaited : waited = run step (asked.step .beginReset).1 during := run_append _ _ _
    have hSince : ReadySince asked.submissions waited := by
      rw [hWaited]
      exact run_readySince (step_owned _ hAsked) (beginReset_readySince hRunning) during
    have hOwned : Owned waited := run_owned hasValidate hasPublishedHandler _
    obtain ⟨hAfter, hCalls⟩ := finishReset_since hOwned hSince hDone
    exact ⟨hCalls, begun_since (step_owned _ hOwned) hAfter after⟩
  · rintro hEmpty before during after rfl hOpen
    rw [events_append, events_append] at hEmpty
    simp only [List.mem_append] at hEmpty
    obtain ⟨hOwned, hOrdered⟩ := run_ordered (create_owned hasValidate hasPublishedHandler)
      (create_ordered hasValidate hasPublishedHandler) fun e he => hEmpty e (.inl (.inl he))
    exact begunKeys_rise hOwned hOrdered (fun e he => hEmpty e (.inl (.inr he))) hOpen
  · intro hFails e he hFatal
    exact begun_none_of_fatal hasValidate hasPublishedHandler hFails he hFatal

/-- An observation that is READY when the next submission fails is processed all the same. -/
theorem ready_processed_after_failure :
    let ops : List (Operation Int) := [.start, .submitFromWaiting 1 (.returned true) false,
      .submitFromWaiting 2 .threw false, .wake (.returned true), .processBegins]
    ∃ e ∈ events step (create true false) ops,
      e.before.worker.fatal = true ∧ begun e = some ⟨0, 1⟩ := by
  refine ⟨_, List.mem_of_getElem? (i := 4) rfl, ?_⟩
  decide

theorem keys_fall_after_overlapping_resets :
    let before : List (Operation Int) := [.setStrictlyIncreasingOrderKey id 0, .start,
      .submitFromWaiting 10 (.returned true) false, .wake (.returned true), .processBegins,
      .beginReset, .beginReset, .processReturned, .publishedHandler (.returned true), .settle,
      .finishReset, .submitFromWaiting 7 (.returned true) false, .finishReset]
    let during : List (Operation Int) := [.wake (.returned true), .processBegins,
      .processReturned, .publishedHandler (.returned true), .settle,
      .submitFromWaiting 3 (.returned true) false, .wake (.returned true), .processBegins]
    (events step (run step (create false false) before) during).filterMap begunKey = [7, 3] := by
  decide

end UavNavigation.MappingSchedule
