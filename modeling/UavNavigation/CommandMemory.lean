import UavNavigation.CriticalSections
import UavNavigation.ModeContract

/-!
# The command that a callback works for

`updateSetpoint` decides about the command that it has copied at its beginning, and at the
clock that it has read then; `onNavigationCommand` opens the recovery window for the command
that it has committed. In between only state inputs come in: they leave the recovery window
alone, and keep the command or drop it together with its receive time.
-/

namespace UavNavigation.NavigationMode

set_option autoImplicit false

open FloatOps Runs Sections

/-- The recovery window stays, and the command stays or is dropped with its receive time. -/
structure Persists {D : Type} (m n : Mode D) : Prop where
  window : n.plannerRecovery = m.plannerRecovery
  command : (n.navigationCommand = m.navigationCommand ∧
      n.lastCommandReceiveNs = m.lastCommandReceiveNs) ∨
    (n.navigationCommand = none ∧ n.lastCommandReceiveNs = 0)

section Inputs
variable {D : Type} {m n o : Mode D}

theorem Persists.refl (m : Mode D) : Persists m m := ⟨rfl, .inl ⟨rfl, rfl⟩⟩

theorem Persists.trans (hmn : Persists m n) (hno : Persists n o) : Persists m o := by
  refine ⟨hno.window.trans hmn.window, ?_⟩
  rcases hno.command with ⟨hCommand, hReceive⟩ | hDropped
  · rcases hmn.command with ⟨hBefore, hBeforeReceive⟩ | ⟨hNone, hZero⟩
    · exact .inl ⟨hCommand.trans hBefore, hReceive.trans hBeforeReceive⟩
    · exact .inr ⟨hCommand.trans hNone, hReceive.trans hZero⟩
  · exact .inr hDropped

theorem Persists.held (h : Persists m n) {c : NavigationCommand D} (hc : m.navigationCommand = some c) :
    n.navigationCommand = some c ∨ n.navigationCommand = none := by
  rcases h.command with ⟨hSame, -⟩ | ⟨hNone, -⟩
  · exact .inl (hSame.trans hc)
  · exact .inr hNone

theorem observePositionReset_persists (m : Mode D) (counters : Adapter.ResetCounters) :
    Persists m (m.observePositionReset counters) := by
  unfold Mode.observePositionReset
  split <;> exact ⟨rfl, .inl ⟨rfl, rfl⟩⟩

theorem onEstimatorHealth_persists (m : Mode D) (message : Option EstimatorHealth) (moment : Moment) :
    Persists m (m.onEstimatorHealth message moment) := by
  unfold Mode.onEstimatorHealth
  dsimp only
  split
  · exact .refl m
  split
  · exact .refl m
  split
  · exact ⟨rfl, .inl ⟨rfl, rfl⟩⟩
  split
  · exact ⟨rfl, .inl ⟨rfl, rfl⟩⟩
  split
  · exact ⟨rfl, .inr ⟨rfl, rfl⟩⟩
  · exact ⟨rfl, .inl ⟨rfl, rfl⟩⟩

variable [Floating D]

theorem observePosition_persists (m : Mode D) (message : VehicleLocalPosition D) (steadyNs : Int) :
    Persists m (m.observePosition message steadyNs) := by
  unfold Mode.observePosition
  split
  · exact ⟨rfl, .inl ⟨rfl, rfl⟩⟩
  split <;> exact ⟨rfl, .inl ⟨rfl, rfl⟩⟩

theorem tryAlign_persists (m : Mode D) (armed : Bool) : Persists m (m.tryAlignPx4LocalFrame armed) := by
  unfold Mode.tryAlignPx4LocalFrame
  repeat' split
  all_goals exact ⟨rfl, .inl ⟨rfl, rfl⟩⟩

theorem onPx4LocalPosition_persists (m : Mode D) (message : Option (VehicleLocalPosition D))
    (moment : Moment) : Persists m (m.onPx4LocalPosition message moment) := by
  unfold Mode.onPx4LocalPosition
  split
  · exact .refl m
  split
  · exact .refl m
  · rename_i message _
    have hReset := observePositionReset_persists m message.resetCounters
    have hVelocity : Persists m { m.observePositionReset message.resetCounters with
        px4LocalVelocityNed := some message.velocity } := ⟨hReset.window, hReset.command⟩
    have hPosition := hVelocity.trans (observePosition_persists _ message moment.steadyNs)
    refine Persists.trans ?_ (tryAlign_persists _ moment.armed)
    exact ⟨hPosition.window, hPosition.command⟩

variable [MathLibrary D] (cfg : Config D)

omit [MathLibrary D] in
theorem onOdometry_persists (m : Mode D) (message : Option (PropagatedOdometry D)) (moment : Moment) :
    Persists m (m.onOdometry cfg message moment) := by
  unfold Mode.onOdometry
  split
  · exact .refl m
  split
  · exact .refl m
  · refine Persists.trans ?_ (tryAlign_persists _ moment.armed)
    exact ⟨rfl, .inl ⟨rfl, rfl⟩⟩

theorem input_persists (m : Mode D) (e : StateInput D) : Persists m (m.input cfg e) := by
  cases e with
  | odometry message moment => exact onOdometry_persists cfg m message moment
  | localPosition message moment => exact onPx4LocalPosition_persists m message moment
  | health message moment => exact onEstimatorHealth_persists m message moment

end Inputs

section Outdated
variable {D : Type}

/-- The header or the receipt is too old, or the validity window has passed. A command that has
no receive time any more is judged by its header alone. -/
def Outdated (cfg : Config D) (command : NavigationCommand D) (receiveNs nowNs : Int) : Prop :=
  cfg.staleAfterNs < nowNs - command.stamp.nanoseconds ∨ command.validUntil.nanoseconds < nowNs ∨
    (0 < receiveNs ∧ receiveNs ≤ nowNs ∧ cfg.staleAfterNs < nowNs - receiveNs)

def RecoveryEpisode.openFor (r : RecoveryEpisode) (command : NavigationCommand D) (nowNs : Int) : Bool :=
  terminalRecoveryCommandMayBeHeld (command.status == .completed) r nowNs &&
    plannerRecoveryEpisodeMatches r command

theorem not_commandValidAt {command : NavigationCommand D} {nowNs : Int}
    (h : command.validUntil.nanoseconds < nowNs) : commandValidAt command nowNs = false := by
  unfold commandValidAt assessCommandTemporalLease
  dsimp only
  split
  · rfl
  split
  · rfl
  split <;> rfl

theorem refusal_of_outdated {cfg : Config D} {command : NavigationCommand D} {receiveNs nowNs : Int}
    (h : Outdated cfg command receiveNs nowNs) :
    ∃ reason, commandRefusal cfg nowNs receiveNs false command = some reason := by
  unfold commandRefusal
  dsimp only
  split
  · exact ⟨_, rfl⟩
  rename_i hReceive
  split
  · exact ⟨_, rfl⟩
  rename_i hHeader
  split
  · exact ⟨_, rfl⟩
  rename_i hValid
  simp only [Bool.not_false, Bool.and_true, Bool.or_eq_true, Bool.and_eq_true, decide_eq_true_eq,
    not_or, not_and] at hReceive hHeader
  rcases h with hOld | hPassed | ⟨hPositive, hReceived, hAge⟩
  · exact absurd hOld hHeader.2
  · rw [not_commandValidAt hPassed] at hValid
    exact absurd rfl hValid
  · exact absurd hAge (hReceive ⟨hPositive, hReceived⟩)

theorem completed_of_openFor {r : RecoveryEpisode} {command : NavigationCommand D} {nowNs : Int}
    (h : r.openFor command nowNs = true) : command.status = .completed ∧ r.pending = true ∧
      nowNs < r.deadlineNs ∧ command.missionId = r.missionId ∧
      command.waypointIndex = r.waypointIndex ∧ command.requestId = r.requestId ∧
      command.bundleGeneration = r.bundleGeneration := by
  simp only [RecoveryEpisode.openFor, terminalRecoveryCommandMayBeHeld, plannerRecoveryEpisodeMatches,
    Bool.and_eq_true, beq_iff_eq, decide_eq_true_eq] at h
  obtain ⟨⟨⟨⟨⟨hCompleted, hPending⟩, -⟩, -⟩, hBefore⟩, ⟨⟨⟨-, hMission⟩, hWaypoint⟩, hRequest⟩,
    hBundle⟩ := h
  exact ⟨hCompleted, hPending, hBefore, hMission, hWaypoint, hRequest, hBundle⟩

end Outdated

section Laws
variable {D : Type} [Floating D] [MathLibrary D]

def notSetpoint : Output D → Prop
  | .setpoint _ => False
  | _ => True

instance decidableNotSetpoint : DecidablePred (notSetpoint : Output D → Prop) := fun o =>
  match o with
  | .setpoint _ => .isFalse id
  | .status _ | .rejection _ _ | .admission _ | .holdHandover | .completed _ | .error _ =>
    .isTrue trivial

/-- The position is held at the endpoint of the command, with a velocity of zero. -/
structure HoldsEndpoint (x : Locals D) (command : NavigationCommand D)
    (setpoint : TrajectorySetpoint D) : Prop where
  position : ∃ p, x.lioPositionToPx4Ned command.position = some p ∧ setpoint.position = some p
  velocity : setpoint.velocity = some .zero

/-- The answer to an outdated command; `rest` is what is left of the update. -/
inductive Answer (cfg : Config D) (x : Locals D) (command : NavigationCommand D) (r : RecoveryEpisode)
    (rest : ModeProgram D) : Prop where
  | stopped (reason : String) (program : rest = safetyStopNavigation cfg reason)
  | handedOver (window : r.openFor command x.nowNs = true)
      (velocityOnly : cfg.trackingExperiment.velocityOnlyEnabled = true)
      (program : rest = requestVelocityOnlyHold cfg "terminal command requires native PX4 Hold")
  | held (window : r.openFor command x.nowNs = true)
      (velocityOnly : cfg.trackingExperiment.velocityOnlyEnabled = false)
      (setpoint : TrajectorySetpoint D) (more : ModeProgram D)
      (program : rest = .emit (.setpoint setpoint) more) (endpoint : HoldsEndpoint x command setpoint)
      (silent : more.Always (fun _ => True) notSetpoint)

def Section.recalls : Section D → Prop
  | .receiveTime | .heldRecovery _ _ | .acceptedRecovery _ => True
  | _ => False

/-- What an update does behind its copy of `m`. -/
def updateLaw (cfg : Config D) (nowNs : Int) (m : Mode D) (copied : Moment) :
    Section D → Mode D → ModeProgram D → Prop
  | .receiveTime, n, rest => Persists m n ∧ ∃ c, m.navigationCommand = some c ∧
      (Outdated cfg c n.lastCommandReceiveNs nowNs →
        Answer cfg (m.copyLocals cfg nowNs copied) c n.plannerRecovery rest)
  | .heldRecovery c t, n, _ => m.navigationCommand = some c ∧ t = nowNs ∧ Persists m n
  | .acceptedRecovery _, _, _ => False
  | _, _, _ => True

def admissionLaw (message : NavigationCommand D) : Section D → Mode D → ModeProgram D → Prop
  | .acceptedRecovery c, n, _ => c = message ∧
      (n.navigationCommand = some message ∨ n.navigationCommand = none)
  | .receiveTime, _, _ => False
  | .heldRecovery _ _, _, _ => False
  | _, _, _ => True

def remembered (cfg : Config D) : Section D → Mode D → Moment → Prop
  | .snapshot, _, _ => True
  | .admission message, m, moment => (assessAdmission cfg m moment message).accepted = true
  | _, _, _ => False

def remembers (cfg : Config D) : Callback D → Moment → Section D → Mode D → Moment → Section D →
    Mode D → ModeProgram D → Prop
  | .setpoint, now, .snapshot, m, copied => updateLaw cfg now.rosNs m copied
  | .navigationCommand _, _, .admission message, _, _ => admissionLaw message
  | _, _, _, _, _ => fun _ _ _ => False

variable {cfg : Config D} {nowNs : Int} {m : Mode D} {copied : Moment}

theorem updateLaw_of_not_recalls (label : Section D) (n : Mode D) (rest : ModeProgram D)
    (h : ¬ label.recalls) : updateLaw cfg nowNs m copied label n rest := by
  cases label with
  | receiveTime => exact absurd trivial h
  | heldRecovery c t => exact absurd trivial h
  | acceptedRecovery c => exact absurd trivial h
  | _ => trivial

omit [Floating D] [MathLibrary D] in
theorem admissionLaw_of_not_recalls {message : NavigationCommand D} (label : Section D) (n : Mode D)
    (rest : ModeProgram D) (h : ¬ label.recalls) : admissionLaw message label n rest := by
  cases label with
  | receiveTime => exact absurd trivial h
  | heldRecovery c t => exact absurd trivial h
  | acceptedRecovery c => exact absurd trivial h
  | _ => trivial

end Laws

section Programs
variable {D : Type} [Floating D] {cfg : Config D}

abbrev Exits (p : ModeProgram D) : Prop := p.Always (fun label => ¬ label.recalls) notSetpoint

abbrev RecallsNothing (p : ModeProgram D) : Prop :=
  p.Always (fun label => ¬ label.recalls) fun _ => True

section
omit [Floating D]

theorem Exits.recallsNothing {p : ModeProgram D} (h : Exits p) : RecallsNothing p :=
  h.mono (fun _ => id) fun _ _ => trivial

theorem Closes.exits {p : ModeProgram D} (h : Closes p) : Exits p := by
  refine h.mono (fun label hLabel => ?_) fun o hOutput => ?_
  · cases label <;> first | exact hLabel.elim | exact id
  · cases o <;> first | exact hOutput.elim | trivial

end

theorem refuseVelocityOnly_recallsNothing : RecallsNothing (refuseVelocityOnly cfg) :=
  ⟨id, fun _ _ => (requestVelocityOnlyHold_closes _).exits.recallsNothing⟩

variable [MathLibrary D]

variable (x : Locals D) (command : NavigationCommand D)

theorem updateVelocityOnly_recallsNothing
    (nowSteadyNs : Int) : RecallsNothing (updateVelocityOnly cfg x command nowSteadyNs) := by
  fun_cases updateVelocityOnly
  · exact refuseVelocityOnly_recallsNothing
  · exact ⟨id, fun _ _ => refuseVelocityOnly_recallsNothing⟩
  · exact ⟨id, fun _ _ => ⟨trivial, trivial⟩⟩

theorem updateTracking_recallsNothing : RecallsNothing (updateTracking cfg x command) := by
  unfold updateTracking
  split
  · exact (safetyStopNavigation_closes _).exits.recallsNothing
  · exact ⟨trivial, trivial⟩

theorem updateAcquisition_recallsNothing : RecallsNothing (updateAcquisition cfg x) := by
  refine ⟨id, fun m moment => ?_⟩
  dsimp only
  split
  · exact ⟨trivial, trivial⟩
  · exact (safetyStopNavigation_closes _).exits.recallsNothing

end Programs

/-! ## The update behind its copy -/

section Update
variable {D : Type} [Floating D] [MathLibrary D] {cfg : Config D} {nowNs : Int} {m : Mode D}
  {copied : Moment} {x : Locals D}

/-- The locals still hold what was copied of `m`. -/
structure Locals.CopyOf (x : Locals D) (cfg : Config D) (m : Mode D) (nowNs : Int)
    (copied : Moment) : Prop where
  nowNs : x.nowNs = nowNs
  command : x.navigationCommand = m.navigationCommand
  translation : x.lioToPx4LocalTranslationNed = m.freshTranslation cfg copied.steadyNs

variable {command : NavigationCommand D} {s : Mode D}

theorem withHeading_copyOf (n : Mode D) :
    ((m.copyLocals cfg nowNs copied).withHeading cfg n).CopyOf cfg m nowNs copied := by
  unfold Locals.withHeading
  split <;> exact ⟨rfl, rfl, rfl⟩

theorem withOdometryYaw_position (odometry : Option (Odometry D))
    (setpoint : TrajectorySetpoint D) :
    (withOdometryYaw odometry setpoint).position = setpoint.position := by
  unfold withOdometryYaw
  split
  · rfl
  · split <;> rfl

theorem positionHold_holdsEndpoint (hx : x.CopyOf cfg m nowNs copied)
    {setpoint : TrajectorySetpoint D} (h : x.positionHold command.position = some setpoint) :
    HoldsEndpoint (m.copyLocals cfg nowNs copied) command setpoint := by
  obtain ⟨p, hPosition, rfl⟩ := Option.map_eq_some_iff.mp h
  refine ⟨⟨p, ?_, withOdometryYaw_position _ _⟩, withOdometryYaw_velocity _ _⟩
  unfold Locals.lioPositionToPx4Ned at hPosition ⊢
  rwa [hx.translation] at hPosition

theorem updateCompleted_answers (hx : x.CopyOf cfg m nowNs copied) {r : RecoveryEpisode}
    (hWindow : r.openFor command nowNs = true) (hasReceipt : Bool) :
    Answer cfg (m.copyLocals cfg nowNs copied) command r (updateCompleted cfg x command hasReceipt) := by
  unfold updateCompleted
  split
  · rename_i hVelocityOnly
    exact .handedOver hWindow hVelocityOnly rfl
  rename_i hPosition
  rw [Bool.not_eq_true] at hPosition
  split
  · exact .stopped _ rfl
  · rename_i setpoint hSetpoint
    refine .held hWindow hPosition setpoint _ rfl (positionHold_holdsEndpoint hx hSetpoint) ?_
    split
    · refine ⟨trivial, fun n later => ?_⟩
      dsimp only
      split
      · exact (safetyStopNavigation_closes _).exits.mono (fun _ _ => trivial) fun _ => id
      · trivial
    · trivial

section
variable (hx : x.CopyOf cfg m nowNs copied) (hs : Persists m s)
include hx hs

theorem updateCompleted_continues
    (hCommand : m.navigationCommand = some command) (hasReceipt : Bool) :
    (updateCompleted cfg x command hasReceipt).Continues (system cfg) Persists
      (updateLaw cfg nowNs m copied) s := by
  unfold updateCompleted
  split
  · exact (requestVelocityOnlyHold_closes _).exits.continues updateLaw_of_not_recalls s
  split
  · exact (safetyStopNavigation_closes _).exits.continues updateLaw_of_not_recalls s
  · split
    · intro n later hn
      refine ⟨⟨hCommand, hx.nowNs, hs.trans hn⟩, ?_⟩
      dsimp only
      split
      · exact (safetyStopNavigation_closes _).exits.continues updateLaw_of_not_recalls _
      · trivial
    · trivial

theorem updateCommand_continues (hCommand : m.navigationCommand = some command) :
    (updateCommand cfg x command).Continues (system cfg) Persists (updateLaw cfg nowNs m copied) s := by
  intro n moment hn
  refine ⟨trivial, ?_⟩
  intro o later ho
  have hKept : Persists m o := hs.trans (hn.trans ho)
  have hOpen : (terminalRecoveryCommandMayBeHeld (command.status == .completed) n.plannerRecovery
      x.nowNs && plannerRecoveryEpisodeMatches n.plannerRecovery command) =
        o.plannerRecovery.openFor command nowNs := by
    rw [ho.window, ← hx.nowNs]
    rfl
  dsimp only
  rw [hOpen, hx.nowNs]
  refine ⟨⟨hKept, command, hCommand, fun hOutdated => ?_⟩, ?_⟩
  · cases hWindow : o.plannerRecovery.openFor command nowNs with
    | false =>
      obtain ⟨reason, hRefusal⟩ := refusal_of_outdated hOutdated
      rw [hRefusal]
      exact .stopped reason rfl
    | true =>
      cases commandRefusal cfg nowNs o.lastCommandReceiveNs true command with
      | some reason => exact .stopped reason rfl
      | none =>
        rw [if_pos (beq_iff_eq.mpr (completed_of_openFor hWindow).1)]
        exact updateCompleted_answers hx hWindow _
  · change Program.Continues _ _ _ _ o
    split
    · exact (safetyStopNavigation_closes _).exits.continues updateLaw_of_not_recalls _
    split
    · exact updateCompleted_continues hx hKept hCommand _
    split
    · exact (updateVelocityOnly_recallsNothing _ _ _).continues updateLaw_of_not_recalls _
    · exact (updateTracking_recallsNothing _ _).continues updateLaw_of_not_recalls _

theorem updateHealthy_continues
    (sinceActivationS : D) : (updateHealthy cfg x sinceActivationS).Continues (system cfg) Persists
      (updateLaw cfg nowNs m copied) s := by
  intro n moment hn
  refine ⟨trivial, ?_⟩
  dsimp only
  have hKept : Persists m n := hs.trans hn
  split
  · trivial
  · exact (failNavigation_closes _).exits.continues updateLaw_of_not_recalls _
  · split
    · rename_i command hCommand
      exact updateCommand_continues hx hKept (hx.command.symm.trans hCommand)
    · exact (updateAcquisition_recallsNothing _).continues updateLaw_of_not_recalls _

theorem updateAirborne_continues
    (armed : Bool) (sinceActivationS : D) : (updateAirborne cfg x armed sinceActivationS).Continues
      (system cfg) Persists (updateLaw cfg nowNs m copied) s := by
  unfold updateAirborne
  split
  · trivial
  split
  · trivial
  · intro n moment hn
    refine ⟨trivial, ?_⟩
    have hStart : Persists n (Section.effect cfg (.airborneStart x.nowNs) n moment) := by
      unfold Section.effect
      dsimp only
      split <;> exact ⟨rfl, .inl ⟨rfl, rfl⟩⟩
    dsimp only
    split
    · exact (failNavigation_closes _).exits.continues updateLaw_of_not_recalls _
    · exact updateHealthy_continues hx (hs.trans (hn.trans hStart)) _

theorem updateTerminal_continues :
    (updateTerminal cfg x).Continues (system cfg) Persists (updateLaw cfg nowNs m copied) s := by
  intro n moment hn
  refine ⟨trivial, ?_⟩
  dsimp only
  split
  · split
    · exact (safetyStopNavigation_closes _).exits.continues updateLaw_of_not_recalls _
    · trivial
  · exact updateAirborne_continues hx (hs.trans hn) _ _

end

end Update

section Callbacks
variable {D : Type} [Floating D] [MathLibrary D] {cfg : Config D} {message : NavigationCommand D}

theorem updateSetpoint_phases (now : Moment) :
    (updateSetpoint cfg now).Phases (system cfg) Persists (remembered cfg) Section.recalls
      (remembers cfg .setpoint now) := by
  refine ⟨id, fun m copied => .inl ⟨trivial, ?_⟩⟩
  intro n moment hn
  exact ⟨trivial, updateTerminal_continues (withHeading_copyOf n) hn⟩

theorem settleRecovery_continues {s : Mode D}
    (hs : s.navigationCommand = some message ∨ s.navigationCommand = none)
    (recoveryNeeded inside : Bool) : (settleRecovery cfg message recoveryNeeded inside).Continues
      (system cfg) Persists (admissionLaw message) s := by
  fun_cases settleRecovery
  · intro n moment hn
    refine ⟨⟨rfl, ?_⟩, ?_⟩
    · rcases hs with hHeld | hNone
      · exact hn.held hHeld
      · rcases hn.command with ⟨hSame, -⟩ | ⟨hDropped, -⟩
        · exact .inr (hSame.trans hNone)
        · exact .inr hDropped
    · dsimp only
      split
      · exact (safetyStopNavigation_closes _).exits.continues admissionLaw_of_not_recalls _
      · trivial
  · exact fun _ _ _ => ⟨trivial, trivial⟩
  · trivial

theorem admission_navigationCommand {n : Mode D} {later : Moment}
    (h : (assessAdmission cfg n later message).accepted = true) :
    (Section.effect cfg (.admission message) n later).navigationCommand = some message := by
  unfold Section.effect
  dsimp only
  rw [if_pos h]
  rfl

theorem onNavigationCommand_phases (message : Option (NavigationCommand D)) (now : Moment) :
    (onNavigationCommand cfg message now).Phases (system cfg) Persists (remembered cfg)
      Section.recalls (remembers cfg (.navigationCommand message) now) := by
  unfold onNavigationCommand
  dsimp only
  split
  · rename_i command _
    refine ⟨id, fun m moment => .inr ?_⟩
    dsimp only
    split
    · trivial
    · refine ⟨id, fun n later => ?_⟩
      unfold concludeAdmission
      dsimp only
      split
      · exact .inr trivial
      · exact .inr ((failNavigation_closes _).exits.phases fun _ => id)
      · exact .inr ((safetyStopNavigation_closes _).exits.phases fun _ => id)
      · rename_i hAccept
        have hAccepted : (assessAdmission cfg n later command).accepted = true := by
          unfold CommandAdmissionAssessment.accepted
          rw [hAccept]
          rfl
        refine .inl ⟨hAccepted, ?_⟩
        intro o last ho
        exact ⟨trivial, settleRecovery_continues (ho.held (admission_navigationCommand hAccepted)) _ _⟩
      · exact .inr trivial
  · exact ⟨id, fun _ _ => .inr trivial⟩

theorem callback_phases (c : Callback D) (now : Moment) :
    (callback cfg c now).Phases (system cfg) Persists (remembered cfg) Section.recalls
      (remembers cfg c now) := by
  cases c with
  | activate => exact onActivate_closes.exits.phases fun _ => id
  | deactivate => exact onDeactivate_closes.exits.phases fun _ => id
  | navigationCommand message => exact onNavigationCommand_phases message now
  | missionProgress message => exact (onMissionProgress_closes message).exits.phases fun _ => id
  | boundary => exact updateBoundary_closes.exits.phases fun _ => id
  | setpoint => exact updateSetpoint_phases now

end Callbacks

end UavNavigation.NavigationMode
