import UavNavigation.ModeContract

/-!
# Terminal ownership of the PX4 navigation mode

A mode that is terminal stays so until the next activation: no flag is cleared, no
command comes in, the setpoints rest and no status says that the mode is active.
-/

namespace UavNavigation.NavigationMode

set_option autoImplicit false

open FloatOps Runs Sections

section Sections
variable {D : Type}

/-- No terminal flag is cleared, and no command comes in. -/
structure Closing {D : Type} (m n : Mode D) : Prop where
  failureReported : m.failureReported = true → n.failureReported = true
  handoverRequested : m.handoverRequested = true → n.handoverRequested = true
  missionCompletionReceipt : ∀ receipt, m.missionCompletionReceipt = some receipt →
    n.missionCompletionReceipt = some receipt
  navigationCommand : n.navigationCommand = m.navigationCommand ∨ n.navigationCommand = none

theorem Closing.refl (m : Mode D) : Closing m m := ⟨id, id, fun _ => id, .inl rfl⟩

theorem Closing.of_sameOwnership {m n : Mode D} (h : SameOwnership m n)
    (hCommand : n.navigationCommand = m.navigationCommand ∨ n.navigationCommand = none) :
    Closing m n where
  failureReported hm := h.failureReported.trans hm
  handoverRequested hm := h.handoverRequested.trans hm
  missionCompletionReceipt _ hm := h.missionCompletionReceipt.trans hm
  navigationCommand := hCommand

theorem Closing.terminal {m n : Mode D} (h : Closing m n) (hm : m.terminal = true) :
    n.terminal = true := by
  unfold Mode.terminal at hm ⊢
  simp only [Bool.or_eq_true, Option.isSome_iff_exists] at hm ⊢
  rcases hm with (hm | ⟨receipt, hm⟩) | hm
  · exact .inl (.inl (h.failureReported hm))
  · exact .inl (.inr ⟨receipt, h.missionCompletionReceipt receipt hm⟩)
  · exact .inr (h.handoverRequested hm)

theorem stop_closing [Floating D] (m : Mode D) : Closing m m.stop := by
  unfold Mode.stop
  split
  · exact .refl m
  · exact ⟨fun _ => rfl, fun _ => rfl, fun _ h => h, .inr rfl⟩

theorem beginRecovery_closing (cfg : Config D) (command : NavigationCommand D) (nowNs : Int) (m : Mode D) :
    Closing m (beginRecovery cfg command nowNs m) := by
  fun_cases beginRecovery
  case case3 => exact ⟨id, id, fun _ => id, .inl rfl⟩
  all_goals exact .refl m

end Sections

section Callbacks
variable {D : Type} [Floating D] [MathLibrary D] {cfg : Config D}

theorem effect_closing {l : Section D} (hActivate : l ≠ .activate) {m : Mode D} {moment : Moment}
    (hAdmission : ∀ message, l = .admission message →
      (assessAdmission cfg m moment message).accepted = false) :
    Closing m (Section.effect cfg l m moment) := by
  cases l with
  | activate => exact absurd rfl hActivate
  | deactivate => exact ⟨fun _ => rfl, id, fun _ => id, .inr rfl⟩
  | boundary =>
    unfold Section.effect
    dsimp only
    split <;> exact ⟨id, id, fun _ => id, .inl rfl⟩
  | receipt message =>
    unfold Section.effect
    dsimp only
    split
    · rename_i hAccepted
      -- a receipt is accepted only where there is none yet
      simp only [receiptAccepted, Bool.and_eq_true] at hAccepted
      have hNone : m.missionCompletionReceipt.isNone = true := by
        have hNavigating := hAccepted.1.1.1.1.1
        simp only [Mode.navigating, Bool.and_eq_true] at hNavigating
        exact hNavigating.2
      refine ⟨id, fun _ => rfl, fun receipt h => ?_, .inl rfl⟩
      rw [h] at hNone
      cases hNone
    · exact .refl m
  | admission message =>
    unfold Section.effect
    dsimp only
    rw [if_neg (by rw [hAdmission message rfl]; simp)]
    exact ⟨id, id, fun _ => id, .inl rfl⟩
  | acceptedRecovery command => exact beginRecovery_closing cfg command _ m
  | heldRecovery command nowNs => exact beginRecovery_closing cfg command nowNs m
  | failNavigation => exact stop_closing m
  | safetyStop => exact stop_closing m
  | velocityOnlyHold reason => exact ⟨id, fun _ => rfl, fun _ => id, .inr rfl⟩
  | airborneStart nowNs =>
    unfold Section.effect
    dsimp only
    split <;> exact ⟨id, id, fun _ => id, .inl rfl⟩
  | _ => exact ⟨id, id, fun _ => id, .inl rfl⟩

theorem input_closing (m : Mode D) (e : StateInput D) : Closing m (m.input cfg e) :=
  .of_sameOwnership (sameOwnership_input cfg m e) (input_command cfg m e)

structure StaysClosed (e : ModeStep D) : Prop where
  closing : Closing e.before.shared e.after.shared
  uncommitted : ∀ message, e.result.label ≠ some (.admission message)
  setpoint : ∀ setpoint, Output.setpoint setpoint ∈ e.result.outputs →
    setpoint.velocity = some .zero
  status : ∀ message, Output.status message ∈ e.result.outputs → message.state ≠ .active

def ActivatesFreshly (e : ModeStep D) : Prop :=
  e.result.label = some .activate → e.before.shared.modeActivationId < 2 ^ 64 - 1

instance [DecidableEq D] (e : ModeStep D) : Decidable (ActivatesFreshly e) :=
  inferInstanceAs (Decidable (_ → _))

omit [MathLibrary D] in
theorem assumed_of_activatesFreshly {e : ModeStep D} (h : ActivatesFreshly e) :
    Assumed (ownership cfg False) e := by
  intro label hLabel
  cases label with
  | activate => exact .inr (h hLabel)
  | _ => trivial

theorem step_staysClosed {s : ModeThreads D} {op : ModeOperation D}
    (hTerminal : s.shared.terminal = true)
    (hKept : Kept (ownership cfg False) (eventAt (system cfg).step s op))
    (hActivate : (eventAt (system cfg).step s op).result.label ≠ some .activate) :
    StaysClosed (eventAt (system cfg).step s op) := by
  have hUncommitted : ∀ message,
      (eventAt (system cfg).step s op).result.label ≠ some (.admission message) := by
    intro message hLabel
    have hOpen : s.shared.terminal = false := (hKept.enter _ hLabel).1
    rw [hTerminal] at hOpen
    cases hOpen
  have hClosing : Closing s.shared (eventAt (system cfg).step s op).after.shared := by
    rcases step_effect (system cfg) s op with ⟨-, hShared⟩ | ⟨l, moment, -, hLabel, hShared⟩ |
      ⟨input, -, -, -, hShared⟩
    · rw [hShared]
      exact .refl s.shared
    · rw [hShared]
      refine effect_closing ?_ ?_
      · rintro rfl
        exact hActivate hLabel
      · rintro message rfl
        exact absurd hLabel (hUncommitted message)
    · rw [hShared]
      exact input_closing s.shared input
  have hAfter := hClosing.terminal hTerminal
  refine ⟨hClosing, hUncommitted, ?_, ?_⟩
  · intro setpoint hMem
    exact hKept.out _ hMem hAfter
  · intro message hMem hState
    rcases hKept.out _ hMem hState with hFalse | hOpen
    · exact hFalse
    · rw [hAfter] at hOpen
      cases hOpen

/-- Where no activation finds its counter exhausted, a terminal mode stays closed until
the next one. -/
theorem terminal_ownership_absorbing {xs ys : List (ModeOperation D)}
    (hFresh : ∀ e ∈ events (system cfg).step initialThreads (xs ++ ys), ActivatesFreshly e)
    (hTerminal : (run (system cfg).step initialThreads xs).shared.terminal = true)
    (hActivate : ∀ e ∈ events (system cfg).step (run (system cfg).step initialThreads xs) ys,
      e.result.label ≠ some .activate) :
    ∀ e ∈ events (system cfg).step (run (system cfg).step initialThreads xs) ys, StaysClosed e := by
  have hKept : ∀ e ∈ events (system cfg).step (run (system cfg).step initialThreads xs) ys,
      Kept (ownership cfg False) e := by
    intro e he
    apply ownership_kept fun f hf => assumed_of_activatesFreshly (hFresh f hf)
    rw [events_append]
    exact List.mem_append_right _ he
  intro e he
  obtain ⟨hBefore, hThis, hEvent⟩ := events_guarded
    (P := fun s : ModeThreads D => s.shared.terminal = true)
    (Q := fun e => Kept (ownership cfg False) e ∧ e.result.label ≠ some .activate)
    (fun s op hs hq => (step_staysClosed hs hq.1 hq.2).closing.terminal hs) hTerminal
    (fun f hf => ⟨hKept f hf, hActivate f hf⟩) he
  rw [hEvent] at hThis ⊢
  exact step_staysClosed hBefore hThis.1 hThis.2

variable (cfg) in
theorem run_activation (m : Mode D) (moment : Moment) (hId : m.modeActivationId < 2 ^ 64 - 1) :
    ∃ n : Mode D, run (system cfg).step ⟨m, .done⟩ (activation moment) = ⟨n, .done⟩ ∧
      n.modeActivationId = m.modeActivationId + 1 := by
  refine ⟨{ m.activate moment with lastStatusState := .active }, ?_, if_pos hId⟩
  have hNavigating : { m.activate moment with lastStatusState := .active }.navigating = true := by
    change (true && !!decide (m.modeActivationId < 2 ^ 64 - 1) && !false && true) = true
    rw [decide_eq_true hId]
    rfl
  -- the boundary finds no recovery that could have expired
  have hExpired : plannerRecoveryWaitExpired
      { m.activate moment with lastStatusState := .active }.plannerRecovery moment.rosNs = false :=
    rfl
  simp only [activation, List.replicate, run_cons, run_nil, System.step, system, callback, onActivate,
    publishStatus, updateBoundary, Program.settle, Section.effect, hNavigating, hExpired,
    Bool.not_true, Bool.and_false, if_false, Bool.false_eq_true]

variable (cfg) in
theorem run_activations (moment : Moment) (n : Nat) (m : Mode D)
    (hId : m.modeActivationId + n ≤ 2 ^ 64 - 1) :
    ∃ o : Mode D, run (system cfg).step ⟨m, .done⟩
        (List.replicate n (activation moment)).flatten = ⟨o, .done⟩ ∧
      o.modeActivationId = m.modeActivationId + n := by
  induction n generalizing m with
  | zero => exact ⟨m, rfl, rfl⟩
  | succ n ih =>
    obtain ⟨o, hRun, hNext⟩ := run_activation cfg m moment (by omega)
    obtain ⟨p, hRest, hCount⟩ := ih o (by omega)
    refine ⟨p, ?_, by omega⟩
    rw [List.replicate_succ, List.flatten_cons, run_append, hRun]
    exact hRest

variable (cfg) in
theorem exhausted_activation_active (m : Mode D) (moment : Moment)
    (hId : m.modeActivationId = 2 ^ 64 - 1) :
    let s := run (system cfg).step ⟨m, .done⟩ [.call .activate moment, .advance moment]
    s.shared.terminal = true ∧
      ((system cfg).step s (.advance moment)).2.label = some (.status .active) ∧
      ∃ message, Output.status message ∈ ((system cfg).step s (.advance moment)).2.outputs ∧
        message.state = .active := by
  have hTerminal : (m.activate moment).terminal = true := by
    change (!decide (m.modeActivationId < 2 ^ 64 - 1) || false || false) = true
    rw [hId]
    rfl
  exact ⟨hTerminal, rfl, statusMessage (m.activate moment) moment .active .none,
    List.mem_cons_self, rfl⟩

end Callbacks

section Run

attribute [local instance] mathLibraryAtZero

/-- A deactivated mode keeps its setpoints at rest. -/
theorem terminal_ownership_absorbing_deactivated :
    let xs := activation noon ++ [.call .deactivate noon, .advance noon, .advance noon]
    let ys := [.call .boundary noon, .advance noon, .call .setpoint noon, .advance noon,
      .advance noon, .advance noon]
    let s := run (system velocityOnlyConfig).step initialThreads xs
    (∃ e ∈ events (system velocityOnlyConfig).step s ys, e.result.outputs ≠ []) ∧
      ∀ e ∈ events (system velocityOnlyConfig).step s ys, StaysClosed e :=
  ⟨by decide +kernel, terminal_ownership_absorbing (by decide +kernel) (by decide +kernel)
    (by decide +kernel)⟩

/-- Every number of the counter is used up, and the mode is activated once more. -/
def exhaustingRun : List (ModeOperation (ExactReal ℚ)) :=
  (List.replicate (2 ^ 64 - 1) (activation noon)).flatten ++ [.call .activate noon, .advance noon]

/-- The next section of the activation that has set the failure says that the mode is
active. -/
theorem exhausted_activation_not_closed :
    (run (system velocityOnlyConfig).step initialThreads exhaustingRun).shared.terminal = true ∧
    ∃ e ∈ events (system velocityOnlyConfig).step
        (run (system velocityOnlyConfig).step initialThreads exhaustingRun) [.advance noon],
      e.result.label = some (.status .active) ∧ ¬ StaysClosed e := by
  obtain ⟨m, hRun, hId⟩ := run_activations velocityOnlyConfig noon (2 ^ 64 - 1)
    (.initial : Mode (ExactReal ℚ)) (Nat.le_of_eq (Nat.zero_add _))
  have hExhausted : m.modeActivationId = 2 ^ 64 - 1 := hId.trans (Nat.zero_add _)
  obtain ⟨hTerminal, hLabel, message, hMem, hState⟩ :=
    exhausted_activation_active velocityOnlyConfig m noon hExhausted
  have hStart : run (system velocityOnlyConfig).step initialThreads exhaustingRun =
      run (system velocityOnlyConfig).step ⟨m, .done⟩ [.call .activate noon, .advance noon] := by
    rw [initialThreads, exhaustingRun, run_append, hRun]
  rw [hStart]
  exact ⟨hTerminal, _, List.mem_singleton_self _, hLabel, fun h => h.status message hMem hState⟩

end Run

end UavNavigation.NavigationMode
