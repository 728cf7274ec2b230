import UavNavigation.CommandMemory

/-!
# The bounded hold at the end of a trajectory

An update may answer an outdated command with a hold at its endpoint while the recovery
window is open. The window is opened for one command, is counted from the clock reading of
the section that opens it, and does not move until it is closed.
-/

namespace UavNavigation.NavigationMode

set_option autoImplicit false

open FloatOps Runs Sections

/-! ## The recovery window -/

section Window
variable {D : Type}

def RecoveryEpisode.of (command : NavigationCommand D) (deadlineNs : Int) : RecoveryEpisode :=
  ⟨true, deadlineNs, command.missionId, command.waypointIndex, command.requestId,
    command.bundleGeneration⟩

/-- The section opens the window for a command; the window is counted from `t`. -/
inductive Opens (e : ModeStep D) (c : NavigationCommand D) (t : Int) : Prop where
  | accepted (moment : Moment) (op : e.op = .advance moment)
      (label : e.result.label = some (.acceptedRecovery c)) (time : t = moment.rosNs)
  | held (label : e.result.label = some (.heldRecovery c t))

/-- In the callback that opens the window the command has been the held one, and no other one
is held when the window is opened. An update counts from the clock with which it began. -/
structure HeldAtOpening (before : List (ModeStep D)) (e : ModeStep D) (c : NavigationCommand D)
    (t : Int) : Prop where
  callback : ∃ call now since f, Within before call now since ∧ f ∈ since ∧
    (f.before.shared.navigationCommand = some c ∨ f.after.shared.navigationCommand = some c) ∧
    (call = .setpoint → t = now.rosNs)
  command : e.before.shared.navigationCommand = some c ∨ e.before.shared.navigationCommand = none

/-- The window has been opened for a command and has not moved since. -/
structure OpenedFor (cfg : Config D) (es : List (ModeStep D)) (r : RecoveryEpisode)
    (c : NavigationCommand D) (t : Int) : Prop where
  opened : ∃ before e after, es = before ++ e :: after ∧ Opens e c t ∧ HeldAtOpening before e c t ∧
    ∀ f ∈ e :: after, f.after.shared.plannerRecovery = r
  episode : r = .of c (t + cfg.plannerRecoveryWaitTimeoutNs)

variable [Floating D] [MathLibrary D] (cfg : Config D)

theorem checkedTimestampAdd_eq {baseNs deltaNs sumNs : Int}
    (h : checkedTimestampAdd baseNs deltaNs = some sumNs) : sumNs = baseNs + deltaNs := by
  unfold checkedTimestampAdd at h
  split at h
  · cases h
  · exact (Option.some.inj h).symm

omit [Floating D] [MathLibrary D] in
theorem beginRecovery_window (command : NavigationCommand D) (nowNs : Int) (m : Mode D) :
    (beginRecovery cfg command nowNs m).plannerRecovery = m.plannerRecovery ∨
      (beginRecovery cfg command nowNs m).plannerRecovery =
        .of command (nowNs + cfg.plannerRecoveryWaitTimeoutNs) := by
  fun_cases beginRecovery
  case case3 deadlineNs hDeadline =>
    rw [checkedTimestampAdd_eq hDeadline]
    exact .inr rfl
  all_goals exact .inl rfl

inductive WindowChange (e : ModeStep D) : Prop where
  | kept (window : e.after.shared.plannerRecovery = e.before.shared.plannerRecovery)
  | closed (window : e.after.shared.plannerRecovery.pending = false)
  | opened (c : NavigationCommand D) (t : Int) (opens : Opens e c t)
      (window : e.after.shared.plannerRecovery = .of c (t + cfg.plannerRecoveryWaitTimeoutNs))

theorem effect_window (l : Section D) (m : Mode D) (moment : Moment) :
    (Section.effect cfg l m moment).plannerRecovery = m.plannerRecovery ∨
      (Section.effect cfg l m moment).plannerRecovery.pending = false ∨
      ∃ c t, ((l = .acceptedRecovery c ∧ t = moment.rosNs) ∨ l = .heldRecovery c t) ∧
        (Section.effect cfg l m moment).plannerRecovery =
          .of c (t + cfg.plannerRecoveryWaitTimeoutNs) := by
  have hStop : m.stop.plannerRecovery = m.plannerRecovery := by
    unfold Mode.stop
    split <;> rfl
  cases l with
  | activate => exact .inr (.inl rfl)
  | deactivate => exact .inr (.inl rfl)
  | clearRecovery => exact .inr (.inl rfl)
  | failNavigation => exact .inl hStop
  | safetyStop => exact .inl hStop
  | acceptedRecovery command =>
    rcases beginRecovery_window cfg command moment.rosNs m with hKept | hOpened
    · exact .inl hKept
    · exact .inr (.inr ⟨command, moment.rosNs, .inl ⟨rfl, rfl⟩, hOpened⟩)
  | heldRecovery command nowNs =>
    rcases beginRecovery_window cfg command nowNs m with hKept | hOpened
    · exact .inl hKept
    · exact .inr (.inr ⟨command, nowNs, .inr rfl, hOpened⟩)
  | boundary =>
    unfold Section.effect
    dsimp only
    split
    · exact .inr (.inl rfl)
    · exact .inl rfl
  | receipt message =>
    unfold Section.effect
    dsimp only
    split
    · exact .inr (.inl rfl)
    · exact .inl rfl
  | admission message =>
    unfold Section.effect
    dsimp only
    split <;> exact .inl rfl
  | airborneStart nowNs =>
    unfold Section.effect
    dsimp only
    split <;> exact .inl rfl
  | _ => exact .inl rfl

theorem step_window (s : ModeThreads D) (op : ModeOperation D) :
    WindowChange cfg (eventAt (system cfg).step s op) := by
  rcases step_effect (system cfg) s op with ⟨-, hShared⟩ | ⟨l, moment, hOp, hLabel, hShared⟩ |
    ⟨input, -, -, -, hShared⟩
  · exact .kept (congrArg Mode.plannerRecovery hShared)
  · have hEffect := effect_window cfg l s.shared moment
    rw [← show _ = Section.effect cfg l s.shared moment from hShared] at hEffect
    rcases hEffect with hKept | hClosed | ⟨c, t, hOpens, hWindow⟩
    · exact .kept hKept
    · exact .closed hClosed
    · refine .opened c t ?_ hWindow
      rcases hOpens with ⟨rfl, rfl⟩ | rfl
      · exact .accepted moment hOp hLabel rfl
      · exact .held hLabel
  · refine .kept ?_
    rw [hShared]
    exact (input_persists cfg s.shared input).window

variable {cfg} {ops : List (ModeOperation D)}

theorem passed_after {since : List (ModeStep D)} {call : Callback D} {now moment : Moment}
    {l : Section D} {f : ModeStep D}
    (hWithin : Within (events (system cfg).step initialThreads ops) call now since)
    (hPassed : Ran (remembered cfg) since l f moment) :
    f.after.shared = Section.effect cfg l f.before.shared moment := by
  obtain ⟨before, e, hSplit, -⟩ := hWithin.call
  have hMem : f ∈ events (system cfg).step initialThreads ops := by
    rw [hSplit]
    exact List.mem_append_right before (List.mem_cons_of_mem e hPassed.mem)
  obtain ⟨xs, op, ys, -, hEvent⟩ := exists_split_of_mem_events hMem
  have hOp := hPassed.op
  have hSection := hPassed.ran
  rw [hEvent] at hOp hSection ⊢
  rcases step_effect (system cfg) (run (system cfg).step initialThreads xs) op with ⟨hNone, -⟩ |
    ⟨l', moment', hOp', hLabel, hShared⟩ | ⟨input, hInput, -⟩
  · rw [hNone] at hSection
    cases hSection
  · rw [hSection] at hLabel
    rw [hOp] at hOp'
    cases hLabel
    cases hOp'
    exact hShared
  · rw [hInput] at hOp
    cases hOp

theorem recalled {op : ModeOperation D} {label : Section D}
    (hLabel : ((system cfg).step (run (system cfg).step initialThreads ops) op).2.label = some label)
    (hRecalls : label.recalls) : ∃ call now since l f copied,
      Within (events (system cfg).step initialThreads ops) call now since ∧
      Ran (remembered cfg) since l f copied ∧
      ∃ moment rest, op = .advance moment ∧
        ((system cfg).step (run (system cfg).step initialThreads ops) op).1.program =
          Program.settle rest ∧
        ((system cfg).step (run (system cfg).step initialThreads ops) op).2.outputs =
          Program.outputs rest ∧
        remembers cfg call now l f.before.shared copied label
          (run (system cfg).step initialThreads ops).shared rest :=
  run_remembers Persists.refl (fun _ _ _ => Persists.trans) (input_persists cfg) callback_phases hLabel
    hRecalls

theorem heldAtOpening {op : ModeOperation D} {c : NavigationCommand D} {t : Int}
    (h : Opens (eventAt (system cfg).step (run (system cfg).step initialThreads ops) op) c t) :
    HeldAtOpening (events (system cfg).step initialThreads ops)
      (eventAt (system cfg).step (run (system cfg).step initialThreads ops) op) c t := by
  cases h with
  | accepted moment hOp hLabel hTime =>
    obtain ⟨call, now, since, l, f, copied, hWithin, hPassed, last, rest, -, -, -, hLaw⟩ :=
      recalled hLabel trivial
    have hSeen := hPassed.seen
    have hAfter := passed_after hWithin hPassed
    cases l with
    | snapshot =>
      cases call with
      | setpoint => exact hLaw.elim
      | _ => exact hLaw.elim
    | admission message =>
      cases call with
      | navigationCommand received =>
        obtain ⟨rfl, hCommand⟩ := hLaw
        refine ⟨⟨_, now, since, f, hWithin, hPassed.mem, .inr ?_, fun hCall => nomatch hCall⟩, hCommand⟩
        rw [hAfter]
        exact admission_navigationCommand hSeen
      | _ => exact hLaw.elim
    | _ => exact hSeen.elim
  | held hLabel =>
    obtain ⟨call, now, since, l, f, copied, hWithin, hPassed, last, rest, -, -, -, hLaw⟩ :=
      recalled hLabel trivial
    have hSeen := hPassed.seen
    cases l with
    | snapshot =>
      cases call with
      | setpoint =>
        obtain ⟨hCommand, hTime, hPersists⟩ := hLaw
        exact ⟨⟨_, now, since, f, hWithin, hPassed.mem, .inl hCommand, fun _ => hTime⟩,
          hPersists.held hCommand⟩
      | _ => exact hLaw.elim
    | admission message =>
      cases call with
      | navigationCommand received => exact hLaw.elim
      | _ => exact hLaw.elim
    | _ => exact hSeen.elim

variable (cfg) in
theorem run_window (ops : List (ModeOperation D))
    (h : (run (system cfg).step initialThreads ops).shared.plannerRecovery.pending = true) :
    ∃ c t, OpenedFor cfg (events (system cfg).step initialThreads ops)
      (run (system cfg).step initialThreads ops).shared.plannerRecovery c t := by
  induction ops using List.reverseRecOn with
  | nil => cases h
  | append_singleton ops op ih =>
    rw [run_concat] at h ⊢
    rw [events_concat]
    have hChange := step_window cfg (run (system cfg).step initialThreads ops) op
    cases hChange with
    | kept hKept =>
      change ((system cfg).step _ op).1.shared.plannerRecovery = _ at hKept
      rw [hKept] at h ⊢
      obtain ⟨c, t, ⟨before, e, after, hSplit, hOpens, hHeld, hStill⟩, hEpisode⟩ := ih h
      refine ⟨c, t, ⟨before, e, after ++ [eventAt (system cfg).step (run (system cfg).step initialThreads ops) op],
        by rw [hSplit]; simp, hOpens, hHeld, ?_⟩, hEpisode⟩
      intro f hf
      rw [← List.cons_append] at hf
      rcases List.mem_append.mp hf with hOld | hNew
      · exact hStill f hOld
      · rw [List.mem_singleton.mp hNew]
        exact hKept
    | closed hClosed =>
      change ((system cfg).step _ op).1.shared.plannerRecovery.pending = false at hClosed
      rw [hClosed] at h
      cases h
    | opened c t hOpens hWindow =>
      refine ⟨c, t, ⟨_, _, [], rfl, hOpens, heldAtOpening hOpens, ?_⟩, hWindow⟩
      intro f hf
      rw [List.mem_singleton.mp hf]
      rfl

end Window

/-! ## Outdated commands -/

section OutdatedCommands
variable {D : Type} [Floating D] [MathLibrary D] (cfg : Config D)

/-- A completed command inside the window that has been opened for its mission, waypoint,
request and bundle. -/
structure InsideWindow (es : List (ModeStep D)) (r : RecoveryEpisode) (command : NavigationCommand D)
    (nowNs : Int) : Prop where
  completed : command.status = .completed
  window : ∃ c t, OpenedFor cfg es r c t ∧ nowNs < t + cfg.plannerRecoveryWaitTimeoutNs ∧
    command.missionId = c.missionId ∧ command.waypointIndex = c.waypointIndex ∧
    command.requestId = c.requestId ∧ command.bundleGeneration = c.bundleGeneration

/-- How an update goes on behind a step for an outdated command. -/
inductive Outcome (es : List (ModeStep D)) (x : Locals D) (command : NavigationCommand D)
    (e : ModeStep D) : Prop where
  | stopped (reason : String) (program : e.after.program = safetyStopNavigation cfg reason)
      (outputs : e.result.outputs = [])
  | handedOver (window : InsideWindow cfg es e.before.shared.plannerRecovery command x.nowNs)
      (velocityOnly : cfg.trackingExperiment.velocityOnlyEnabled = true)
      (program : e.after.program =
        requestVelocityOnlyHold cfg "terminal command requires native PX4 Hold")
      (outputs : e.result.outputs = [])
  | held (window : InsideWindow cfg es e.before.shared.plannerRecovery command x.nowNs)
      (velocityOnly : cfg.trackingExperiment.velocityOnlyEnabled = false)
      (setpoint : TrajectorySetpoint D) (endpoint : HoldsEndpoint x command setpoint)
      (outputs : ∀ other, .setpoint other ∈ e.result.outputs ↔ other = setpoint)

/-- The update decides about the command that it has copied. If that command is outdated, the
update stops, or is inside the window, and emits no further setpoint. A receive time that has
been dropped with the command still counts, unless it is before the header. -/
def OutdatedLaw (ops : List (ModeOperation D)) (op : ModeOperation D) : Prop :=
  ∃ now since copy moment command,
    Within (events (system cfg).step initialThreads ops) .setpoint now since ∧
    Ran (remembered cfg) since .snapshot copy moment ∧
    copy.before.shared.navigationCommand = some command ∧
    Persists copy.before.shared (run (system cfg).step initialThreads ops).shared ∧
    ∀ receiveNs, receiveNs = (run (system cfg).step initialThreads ops).shared.lastCommandReceiveNs ∨
        (receiveNs = copy.before.shared.lastCommandReceiveNs ∧
          command.stamp.nanoseconds ≤ receiveNs) →
      Outdated cfg command receiveNs now.rosNs →
      Outcome cfg (events (system cfg).step initialThreads ops)
          (copy.before.shared.copyLocals cfg now.rosNs moment) command
          (eventAt (system cfg).step (run (system cfg).step initialThreads ops) op) ∧
        ((system cfg).step (run (system cfg).step initialThreads ops) op).1.program.Always
          (fun _ => True) notSetpoint

variable {cfg} {command : NavigationCommand D}

omit [Floating D] [MathLibrary D] in
theorem Outdated.of_dropped {m n : Mode D} (hmn : Persists m n) {command : NavigationCommand D}
    {receiveNs nowNs : Int} (hReceive : receiveNs = n.lastCommandReceiveNs ∨
      (receiveNs = m.lastCommandReceiveNs ∧ command.stamp.nanoseconds ≤ receiveNs))
    (h : Outdated cfg command receiveNs nowNs) :
    Outdated cfg command n.lastCommandReceiveNs nowNs := by
  rcases hReceive with rfl | ⟨rfl, hHeader⟩
  · exact h
  rcases hmn.command with ⟨-, hSame⟩ | -
  · rwa [hSame]
  · rcases h with hOld | hPassed | ⟨-, -, hAge⟩
    · exact .inl hOld
    · exact .inr (.inl hPassed)
    · exact .inl (lt_of_lt_of_le hAge (sub_le_sub_left hHeader nowNs))

theorem insideWindow_of_openFor (ops : List (ModeOperation D)) {nowNs : Int}
    (h : (run (system cfg).step initialThreads ops).shared.plannerRecovery.openFor command nowNs = true) :
    InsideWindow cfg (events (system cfg).step initialThreads ops)
        (run (system cfg).step initialThreads ops).shared.plannerRecovery command nowNs := by
  obtain ⟨hCompleted, hPending, hBefore, hMission, hWaypoint, hRequest, hBundle⟩ :=
    completed_of_openFor h
  obtain ⟨c, t, hOpened⟩ := run_window cfg ops hPending
  rw [hOpened.episode] at hBefore hMission hWaypoint hRequest hBundle
  exact ⟨hCompleted, c, t, hOpened, hBefore, hMission, hWaypoint, hRequest, hBundle⟩

theorem Answer.silent {x : Locals D} {r : RecoveryEpisode} {rest : ModeProgram D}
    (h : Answer cfg x command r rest) : rest.settle.Always (fun _ => True) notSetpoint := by
  cases h with
  | stopped reason hProgram =>
    rw [hProgram]
    exact ((safetyStopNavigation_closes reason).exits.mono (fun _ _ => trivial) fun _ => id).settle
  | handedOver hWindow hVelocityOnly hProgram =>
    rw [hProgram]
    exact ((requestVelocityOnlyHold_closes _).exits.mono (fun _ _ => trivial) fun _ => id).settle
  | held hWindow hVelocityOnly setpoint more hProgram hEndpoint hSilent =>
    rw [hProgram]
    exact hSilent.settle

theorem Answer.outcome {ops : List (ModeOperation D)} {op : ModeOperation D} {x : Locals D}
    {rest : ModeProgram D}
    (h : Answer cfg x command (run (system cfg).step initialThreads ops).shared.plannerRecovery rest)
    (hProgram : ((system cfg).step (run (system cfg).step initialThreads ops) op).1.program = rest.settle)
    (hOutputs : ((system cfg).step (run (system cfg).step initialThreads ops) op).2.outputs = rest.outputs) :
    Outcome cfg (events (system cfg).step initialThreads ops) x command
      (eventAt (system cfg).step (run (system cfg).step initialThreads ops) op) := by
  cases h with
  | stopped reason hRest =>
    rw [hRest] at hProgram hOutputs
    exact .stopped reason hProgram hOutputs
  | handedOver hWindow hVelocityOnly hRest =>
    rw [hRest] at hProgram hOutputs
    exact .handedOver (insideWindow_of_openFor ops hWindow) hVelocityOnly hProgram hOutputs
  | held hWindow hVelocityOnly setpoint more hRest hEndpoint hSilent =>
    rw [hRest] at hOutputs
    refine .held (insideWindow_of_openFor ops hWindow) hVelocityOnly setpoint hEndpoint ?_
    intro other
    change _ ∈ ((system cfg).step (run (system cfg).step initialThreads ops) op).2.outputs ↔ _
    rw [hOutputs]
    change Output.setpoint other ∈ .setpoint setpoint :: more.outputs ↔ _
    rw [List.mem_cons]
    constructor
    · rintro (hEq | hMore)
      · exact Output.setpoint.inj hEq
      · exact (hSilent.outputs _ hMore).elim
    · rintro rfl
      exact .inl rfl

/-- Behind the section that reads the receive time, an outdated command is stopped, unless it
is a completed one inside its window. -/
theorem outdated_command_answered (ops : List (ModeOperation D)) (op : ModeOperation D)
    (h : ((system cfg).step (run (system cfg).step initialThreads ops) op).2.label =
      some .receiveTime) : OutdatedLaw cfg ops op := by
  obtain ⟨call, now, since, l, copy, moment, hWithin, hPassed, last, rest, -, hProgram, hOutputs,
    hLaw⟩ := recalled h trivial
  cases call with
  | setpoint =>
    cases l with
    | snapshot =>
      obtain ⟨hPersists, command, hCommand, hAnswer⟩ := hLaw
      refine ⟨now, since, copy, moment, command, hWithin, hPassed, hCommand, hPersists, ?_⟩
      intro receiveNs hReceive hOutdated
      have hAnswered := hAnswer (.of_dropped hPersists hReceive hOutdated)
      refine ⟨hAnswered.outcome hProgram hOutputs, ?_⟩
      rw [hProgram]
      exact hAnswered.silent
    | _ => exact hLaw.elim
  | navigationCommand message =>
    cases l with
    | admission received => exact hLaw.elim
    | _ => exact hLaw.elim
  | _ => exact hLaw.elim

end OutdatedCommands

section Handover
attribute [local instance] mathLibraryAtZero

/-- The end of a trajectory, nine tenths of a metre from the vehicle. -/
def endpointCommand : NavigationCommand (ExactReal ℚ) :=
  { eastboundCommand 1 1 with
    status := .completed
    position := ⟨lit (18 / 25), lit (27 / 50), lit 1⟩ }

def afternoon : Moment := ⟨1150000000, 1150000000, 1150000000, true⟩

def endpointHeld : List (ModeOperation (ExactReal ℚ)) :=
  sensing ++ activation noon ++
    .call (.navigationCommand (some endpointCommand)) noon :: List.replicate 4 (.advance noon)

theorem outdated_command_answered_in_run : OutdatedLaw velocityOnlyConfig
      (endpointHeld ++ .call .setpoint afternoon :: List.replicate 6 (.advance afternoon))
      (.advance afternoon) :=
  outdated_command_answered _ _ (by decide +kernel)

/-- The next update hands the vehicle over to PX4: it neither stops nor holds the endpoint. -/
theorem outdated_command_handed_over :
    let s := run (system velocityOnlyConfig).step initialThreads endpointHeld
    let es := events (system velocityOnlyConfig).step s
      (.call .setpoint afternoon :: List.replicate 10 (.advance afternoon))
    s.shared.navigationCommand = some endpointCommand ∧
      Outdated velocityOnlyConfig endpointCommand s.shared.lastCommandReceiveNs afternoon.rosNs ∧
      (∀ e ∈ es, e.result.label ≠ some .safetyStop ∧ ∀ o ∈ e.result.outputs, notSetpoint o) ∧
      ∃ e ∈ es, .holdHandover ∈ e.result.outputs := by
  refine ⟨by decide +kernel, .inl (by decide), ?_, by decide +kernel⟩
  decide +kernel

end Handover

end UavNavigation.NavigationMode
