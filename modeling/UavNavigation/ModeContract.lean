import UavNavigation.SetpointUpdate

/-!
# A contract for the callbacks of the PX4 navigation mode

What the state inputs leave alone, where a command may be admitted, and what is
published while the mode is terminal.
-/

namespace UavNavigation.NavigationMode

set_option autoImplicit false

open FloatOps Runs Sections

/-- The members of the terminal test and of the activation. -/
structure SameOwnership {D : Type} (m n : Mode D) : Prop where
  failureReported : n.failureReported = m.failureReported
  missionCompletionReceipt : n.missionCompletionReceipt = m.missionCompletionReceipt
  handoverRequested : n.handoverRequested = m.handoverRequested
  modeActivationId : n.modeActivationId = m.modeActivationId

section Contract
variable {D : Type}

theorem SameOwnership.refl (m : Mode D) : SameOwnership m m := ⟨rfl, rfl, rfl, rfl⟩

theorem SameOwnership.trans {m n o : Mode D} (hmn : SameOwnership m n) (hno : SameOwnership n o) :
    SameOwnership m o where
  failureReported := hno.failureReported.trans hmn.failureReported
  missionCompletionReceipt := hno.missionCompletionReceipt.trans hmn.missionCompletionReceipt
  handoverRequested := hno.handoverRequested.trans hmn.handoverRequested
  modeActivationId := hno.modeActivationId.trans hmn.modeActivationId

theorem SameOwnership.terminal {m n : Mode D} (h : SameOwnership m n) : n.terminal = m.terminal := by
  unfold Mode.terminal
  rw [h.failureReported, h.missionCompletionReceipt, h.handoverRequested]

theorem terminal_of_navigating {m : Mode D} (h : m.navigating = true) : m.terminal = false := by
  unfold Mode.navigating at h
  unfold Mode.terminal
  cases hFailure : m.failureReported <;> cases hHandover : m.handoverRequested <;>
    cases hReceipt : m.missionCompletionReceipt <;> simp_all

variable [Floating D]

theorem contract_of_assessMessage {cfg : Config D} {command : NavigationCommand D} {nowNs : Int}
    (h : (assessMessage cfg (some command) nowNs).accepted = true) :
    assessCommandContract command cfg.planningFrame = .valid := by
  unfold assessMessage at h
  dsimp only at h
  split at h
  · cases h
  · rename_i hContract
    simpa using hContract

/-- A mode whose activations are counted out may say that it is active; `exempt` leaves
such a mode out. -/
def ownership (cfg : Config D) (exempt : Prop) : Contract (Mode D) (Section D) (Output D) where
  rely := SameOwnership
  assume
    | .activate, m => exempt ∨ m.modeActivationId < 2 ^ 64 - 1
    | _, _ => True
  enter
    | .admission message, m =>
      m.terminal = false ∧ assessCommandContract message cfg.planningFrame = .valid
    | .status .active, m => exempt ∨ m.terminal = false
    | _, _ => True
  out m
    | .setpoint setpoint => m.terminal = true → setpoint.velocity = some .zero
    | .status message => message.state = .active → exempt ∨ m.terminal = false
    | _ => True

end Contract

/-! ## State inputs -/

/-- What an odometry or a local position leaves alone. -/
structure Untouched {D : Type} (m n : Mode D) : Prop extends SameOwnership m n where
  navigationCommand : n.navigationCommand = m.navigationCommand
  lastCommandReceiveNs : n.lastCommandReceiveNs = m.lastCommandReceiveNs
  lioLocalizationEpoch : n.lioLocalizationEpoch = m.lioLocalizationEpoch
  velocityOnlyPrevious : n.velocityOnlyPrevious = m.velocityOnlyPrevious
  velocityOnlyResetCountersSeen : n.velocityOnlyResetCountersSeen = m.velocityOnlyResetCountersSeen

section Inputs
variable {D : Type} {m n : Mode D}

theorem Untouched.refl (m : Mode D) : Untouched m m := ⟨.refl m, rfl, rfl, rfl, rfl, rfl⟩

theorem untouched_observePositionReset (m : Mode D) (counters : Adapter.ResetCounters) :
    Untouched m (m.observePositionReset counters) := by
  unfold Mode.observePositionReset
  split <;> exact ⟨⟨rfl, rfl, rfl, rfl⟩, rfl, rfl, rfl, rfl, rfl⟩

theorem sameOwnership_onEstimatorHealth (m : Mode D) (message : Option EstimatorHealth)
    (moment : Moment) : SameOwnership m (m.onEstimatorHealth message moment) := by
  unfold Mode.onEstimatorHealth
  dsimp only
  split
  · exact .refl m
  split
  · exact .refl m
  split
  · exact ⟨rfl, rfl, rfl, rfl⟩
  split
  · exact ⟨rfl, rfl, rfl, rfl⟩
  split <;> exact ⟨rfl, rfl, rfl, rfl⟩

/-- The message is taken and names another epoch than the one in use. -/
def Mode.announcesEpoch (m : Mode D) (message : Option EstimatorHealth) : Bool :=
  message.any fun health =>
    health.localizationEpoch != 0 && m.healthIsNewer health && m.changesEpoch health

/-- What a message that announces no epoch leaves alone. -/
structure HealthQuiet (m n : Mode D) : Prop where
  navigationCommand : n.navigationCommand = m.navigationCommand
  lastCommandReceiveNs : n.lastCommandReceiveNs = m.lastCommandReceiveNs
  velocityOnlyPrevious : n.velocityOnlyPrevious = m.velocityOnlyPrevious
  velocityOnlyResetCountersSeen : n.velocityOnlyResetCountersSeen = m.velocityOnlyResetCountersSeen
  lioLocalizationEpoch : m.lioLocalizationEpoch = 0 ∨
    n.lioLocalizationEpoch = m.lioLocalizationEpoch

variable {message : Option EstimatorHealth}

theorem health_quiet {m : Mode D} (moment : Moment) (h : m.announcesEpoch message = false) :
    HealthQuiet m (m.onEstimatorHealth message moment) := by
  unfold Mode.onEstimatorHealth
  dsimp only
  split
  · exact ⟨rfl, rfl, rfl, rfl, .inr rfl⟩
  rename_i health
  split
  · exact ⟨rfl, rfl, rfl, rfl, .inr rfl⟩
  rename_i hEpoch
  split
  · exact ⟨rfl, rfl, rfl, rfl, .inr rfl⟩
  split
  · exact ⟨rfl, rfl, rfl, rfl, .inr rfl⟩
  rename_i hNewer
  change ¬ (!m.healthIsNewer health) = true at hNewer
  have hSame : m.changesEpoch health = false := by
    rw [Bool.not_eq_true, Bool.not_eq_false'] at hNewer
    rw [beq_iff_eq] at hEpoch
    rw [Mode.announcesEpoch, Option.any_some, hNewer, bne_iff_ne.mpr hEpoch] at h
    exact h
  have hUnchanged : m.lioLocalizationEpoch = 0 ∨
      health.localizationEpoch = m.lioLocalizationEpoch := by
    simp only [Mode.changesEpoch, Bool.and_eq_false_iff, bne_eq_false_iff_eq] at hSame
    exact hSame.imp id Eq.symm
  split
  · rename_i hChanges
    change m.changesEpoch health = true at hChanges
    rw [hSame] at hChanges
    cases hChanges
  · exact ⟨rfl, rfl, rfl, rfl, hUnchanged⟩

/-- What a message that announces an epoch leaves behind. -/
structure HealthAnnounced (n : Mode D) : Prop where
  navigationCommand : n.navigationCommand = none
  velocityOnlyPrevious : n.velocityOnlyPrevious = none
  velocityOnlyResetCountersSeen : n.velocityOnlyResetCountersSeen = false

theorem health_announced {m : Mode D} (moment : Moment) (h : m.announcesEpoch message = true) :
    HealthAnnounced (m.onEstimatorHealth message moment) := by
  cases message with
  | none => cases h
  | some health =>
    simp only [Mode.announcesEpoch, Option.any_some, Bool.and_eq_true, bne_iff_ne] at h
    obtain ⟨⟨hEpoch, hNewer⟩, hChanges⟩ := h
    have hStamp : ¬ health.stamp.nanoseconds ≤ 0 := by
      simp only [Mode.healthIsNewer, Bool.and_eq_true, decide_eq_true_eq] at hNewer
      omega
    unfold Mode.onEstimatorHealth
    dsimp only
    rw [if_neg (by simpa using hEpoch), if_neg hStamp]
    split
    · rename_i hOld
      change (!m.healthIsNewer health) = true at hOld
      rw [hNewer] at hOld
      cases hOld
    split
    · exact ⟨rfl, rfl, rfl⟩
    · rename_i hSame
      exact absurd hChanges hSame

theorem health_command (m : Mode D) (message : Option EstimatorHealth) (moment : Moment) :
    (m.onEstimatorHealth message moment).navigationCommand = m.navigationCommand ∨
      (m.onEstimatorHealth message moment).navigationCommand = none := by
  cases h : m.announcesEpoch message with
  | false => exact .inl (health_quiet moment h).navigationCommand
  | true => exact .inr (health_announced moment h).navigationCommand

variable [Floating D]

theorem Untouched.observePosition (h : Untouched m n) (message : VehicleLocalPosition D)
    (steadyNs : Int) : Untouched m (n.observePosition message steadyNs) := by
  fun_cases Mode.observePosition
  case case3 => exact h
  all_goals exact { h with }

theorem Untouched.tryAlign (h : Untouched m n) (armed : Bool) :
    Untouched m (n.tryAlignPx4LocalFrame armed) := by
  fun_cases Mode.tryAlignPx4LocalFrame
  case case6 => exact { h with }
  all_goals exact h

theorem untouched_onPx4LocalPosition (m : Mode D) (message : Option (VehicleLocalPosition D))
    (moment : Moment) : Untouched m (m.onPx4LocalPosition message moment) := by
  unfold Mode.onPx4LocalPosition
  split
  · exact .refl m
  split
  · exact .refl m
  · rename_i message _
    have hReset := untouched_observePositionReset m message.resetCounters
    have hVelocity : Untouched m { m.observePositionReset message.resetCounters with
        px4LocalVelocityNed := some message.velocity } := { hReset with }
    have hPosition := hVelocity.observePosition message moment.steadyNs
    refine Untouched.tryAlign ?_ moment.armed
    exact { hPosition with }

theorem untouched_onOdometry [MathLibrary D] (cfg : Config D) (m : Mode D)
    (message : Option (PropagatedOdometry D)) (moment : Moment) :
    Untouched m (m.onOdometry cfg message moment) := by
  unfold Mode.onOdometry
  split
  · exact .refl m
  split
  · exact .refl m
  · refine Untouched.tryAlign ?_ moment.armed
    exact { Untouched.refl m with }

theorem sameOwnership_input [MathLibrary D] (cfg : Config D) (m : Mode D) (e : StateInput D) :
    SameOwnership m (m.input cfg e) := by
  cases e with
  | odometry message moment => exact (untouched_onOdometry cfg m message moment).toSameOwnership
  | localPosition message moment =>
    exact (untouched_onPx4LocalPosition m message moment).toSameOwnership
  | health message moment => exact sameOwnership_onEstimatorHealth m message moment

theorem input_command [MathLibrary D] (cfg : Config D) (m : Mode D) (e : StateInput D) :
    (m.input cfg e).navigationCommand = m.navigationCommand ∨
      (m.input cfg e).navigationCommand = none := by
  cases e with
  | odometry message moment => exact .inl (untouched_onOdometry cfg m message moment).navigationCommand
  | localPosition message moment =>
    exact .inl (untouched_onPx4LocalPosition m message moment).navigationCommand
  | health message moment => exact health_command m message moment

end Inputs

section Callbacks
variable {D : Type} [Floating D] [MathLibrary D]

variable {cfg : Config D} {exempt : Prop}

section
variable (reason : String) (m : Mode D)

theorem handOver_meets : (handOver cfg).Meets (system cfg) (ownership cfg exempt) m := by
  unfold handOver
  split <;> exact ⟨trivial, trivial⟩

theorem publishStatus_meets {state : StatusState} {reason : StatusReason} {rest : ModeProgram D}
    {m : Mode D} (hActive : state = .active → exempt ∨ m.terminal = false)
    (hRest : ∀ n, rest.Meets (system cfg) (ownership cfg exempt) n) :
    (publishStatus state reason rest).Meets (system cfg) (ownership cfg exempt) m := by
  intro n moment hRely hAssume
  have hOut (h : state = .active) : exempt ∨ n.terminal = false := by
    rw [hRely.terminal]
    exact hActive h
  refine ⟨?_, ?_, hRest _⟩
  · cases state with
    | active => exact hOut rfl
    | _ => trivial
  · have hState : (statusMessage n moment state reason).state = state := by
      unfold statusMessage
      split <;> rfl
    intro h
    rw [hState] at h
    exact hOut h

theorem safetyStopNavigation_meets :
    (safetyStopNavigation cfg reason).Meets (system cfg) (ownership cfg exempt) m := by
  intro n moment _ _
  refine ⟨trivial, ?_⟩
  dsimp only
  split
  · trivial
  · exact publishStatus_meets (fun h => nomatch h) fun o => ⟨trivial, handOver_meets o⟩

theorem failNavigation_meets :
    (failNavigation cfg reason).Meets (system cfg) (ownership cfg exempt) m := by
  intro n moment _ _
  refine ⟨trivial, ?_⟩
  dsimp only
  split
  · trivial
  · exact publishStatus_meets (fun h => nomatch h) fun o => ⟨trivial, handOver_meets o⟩

theorem requestVelocityOnlyHold_meets :
    (requestVelocityOnlyHold cfg reason).Meets (system cfg) (ownership cfg exempt) m := by
  intro n moment _ _
  exact ⟨trivial, publishStatus_meets (fun h => nomatch h) handOver_meets⟩

theorem updateBoundary_meets :
    (updateBoundary cfg).Meets (system cfg) (ownership cfg exempt) m := by
  intro n moment _ _
  refine ⟨trivial, ?_⟩
  dsimp only
  split
  · trivial
  rename_i hNavigating
  rw [Bool.not_eq_true, Bool.not_eq_false'] at hNavigating
  split
  · exact safetyStopNavigation_meets _ _
  · rename_i hExpired
    refine publishStatus_meets (fun _ => .inr ?_) fun _ => trivial
    change (if n.navigating && plannerRecoveryWaitExpired n.plannerRecovery moment.rosNs then
      _ else n).terminal = false
    rw [if_neg (by simp [hExpired])]
    exact terminal_of_navigating hNavigating

theorem onActivate_meets : (onActivate cfg).Meets (system cfg) (ownership cfg exempt) m := by
  intro n moment _ hAssume
  refine ⟨trivial, publishStatus_meets (fun _ => ?_) updateBoundary_meets⟩
  refine hAssume.imp id fun hId => ?_
  change (!decide (n.modeActivationId < 2 ^ 64 - 1) || false || false) = false
  rw [decide_eq_true hId]
  rfl

theorem onDeactivate_meets : (onDeactivate).Meets (system cfg) (ownership cfg exempt) m := by
  intro n moment _ _
  refine ⟨trivial, ?_⟩
  dsimp only
  split
  · exact publishStatus_meets (fun h => nomatch h) fun _ => trivial
  · trivial

theorem onMissionProgress_meets (message : Option (MissionProgress D)) (m : Mode D) :
    (onMissionProgress cfg message).Meets (system cfg) (ownership cfg exempt) m := by
  unfold onMissionProgress
  split
  · trivial
  split
  · trivial
  intro n moment _ _
  refine ⟨trivial, ?_⟩
  dsimp only
  split
  · exact publishStatus_meets (fun h => nomatch h) fun _ => ⟨trivial, trivial⟩
  · trivial

theorem settleRecovery_meets (command : NavigationCommand D) (recoveryNeeded inside : Bool)
    (m : Mode D) :
    (settleRecovery cfg command recoveryNeeded inside).Meets (system cfg) (ownership cfg exempt)
      m := by
  unfold settleRecovery
  split
  · intro n moment _ _
    refine ⟨trivial, ?_⟩
    dsimp only
    split
    · exact safetyStopNavigation_meets _ _
    · trivial
  split
  · intro n moment _ _
    exact ⟨trivial, trivial⟩
  · trivial

theorem concludeAdmission_meets (message : NavigationCommand D)
    (assessment : CommandAdmissionAssessment) (n : Mode D) :
    (concludeAdmission cfg m message assessment).Meets (system cfg) (ownership cfg exempt) n := by
  unfold concludeAdmission
  split
  · exact ⟨trivial, trivial⟩
  · exact ⟨trivial, failNavigation_meets _ _⟩
  · exact ⟨trivial, safetyStopNavigation_meets _ _⟩
  · intro o moment _ _
    exact ⟨trivial, trivial, settleRecovery_meets _ _ _ _⟩
  · trivial

end

theorem admitCommand_meets {message : NavigationCommand D}
    (hContract : assessCommandContract message cfg.planningFrame = .valid) (m : Mode D) :
    (admitCommand cfg message).Meets (system cfg) (ownership cfg exempt) m := by
  intro n moment _ _
  refine ⟨trivial, ?_⟩
  dsimp only
  split
  · exact ⟨trivial, trivial⟩
  · rename_i hOpen
    intro o moment hRely _
    refine ⟨⟨?_, hContract⟩, concludeAdmission_meets _ _ _ _⟩
    rw [hRely.terminal]
    exact Bool.not_eq_true _ ▸ hOpen

theorem onNavigationCommand_meets (message : Option (NavigationCommand D)) (moment : Moment)
    (m : Mode D) :
    (onNavigationCommand cfg message moment).Meets (system cfg) (ownership cfg exempt) m := by
  unfold onNavigationCommand
  dsimp only
  split
  · rename_i command hAccepted
    exact admitCommand_meets (contract_of_assessMessage hAccepted) m
  · intro n _ _ _
    exact ⟨trivial, trivial, trivial⟩

/-! ## Setpoints -/

theorem withOdometryYaw_velocity (odometry : Option (Odometry D)) (setpoint : TrajectorySetpoint D) :
    (withOdometryYaw odometry setpoint).velocity = setpoint.velocity := by
  unfold withOdometryYaw
  repeat' split
  all_goals rfl

theorem stationary_velocity (x : Locals D) (position : Option (Vec3 D)) :
    (x.stationary cfg position).velocity = some .zero := by
  unfold Locals.stationary
  dsimp only
  split
  · split <;> rfl
  · rw [withOdometryYaw_velocity]

theorem refuseVelocityOnly_meets (m : Mode D) :
    (refuseVelocityOnly cfg).Meets (system cfg) (ownership cfg exempt) m := by
  intro n moment _ _
  exact ⟨trivial, requestVelocityOnlyHold_meets _ _⟩

section
variable (x : Locals D) (command : NavigationCommand D)

theorem updateVelocityOnly_meets (nowSteadyNs : Int) {m : Mode D} (hm : m.terminal = false) :
    (updateVelocityOnly cfg x command nowSteadyNs).Meets (system cfg) (ownership cfg exempt) m := by
  fun_cases updateVelocityOnly
  · exact refuseVelocityOnly_meets m
  · intro n moment _ _
    exact ⟨trivial, refuseVelocityOnly_meets _⟩
  · intro n moment hRely _
    refine ⟨trivial, fun hTerminal => ?_, trivial⟩
    have hOpen : n.terminal = false := hRely.terminal.trans hm
    have hSame : n.terminal = true := hTerminal
    rw [hOpen] at hSame
    cases hSame

theorem updateCompleted_meets (hasReceipt : Bool) {m : Mode D} (hm : m.terminal = false) :
    (updateCompleted cfg x command hasReceipt).Meets (system cfg) (ownership cfg exempt) m := by
  unfold updateCompleted
  split
  · exact requestVelocityOnlyHold_meets _ _
  split
  · exact safetyStopNavigation_meets _ _
  refine ⟨fun h => absurd h (by rw [hm]; simp), ?_⟩
  split
  · intro n moment _ _
    refine ⟨trivial, ?_⟩
    dsimp only
    split
    · exact safetyStopNavigation_meets _ _
    · trivial
  · trivial

theorem updateTracking_meets {m : Mode D} (hm : m.terminal = false) :
    (updateTracking cfg x command).Meets (system cfg) (ownership cfg exempt) m := by
  unfold updateTracking
  split
  · exact safetyStopNavigation_meets _ _
  · exact ⟨fun h => absurd h (by rw [hm]; simp), trivial⟩

theorem updateCommand_meets {m : Mode D} (hm : m.terminal = false) :
    (updateCommand cfg x command).Meets (system cfg) (ownership cfg exempt) m := by
  intro n moment hRely _
  refine ⟨trivial, ?_⟩
  intro o moment hNext _
  have hOpen : o.terminal = false := hNext.terminal.trans (hRely.terminal.trans hm)
  refine ⟨trivial, ?_⟩
  dsimp only
  split
  · exact safetyStopNavigation_meets _ _
  split
  · exact updateCompleted_meets x command _ hOpen
  split
  · exact updateVelocityOnly_meets x command _ hOpen
  · exact updateTracking_meets x command hOpen

end

section
variable (x : Locals D) (m : Mode D)

theorem updateAcquisition_meets :
    (updateAcquisition cfg x).Meets (system cfg) (ownership cfg exempt) m := by
  intro n moment _ _
  refine ⟨trivial, ?_⟩
  dsimp only
  split
  · exact ⟨fun _ => stationary_velocity x _, trivial⟩
  · exact safetyStopNavigation_meets _ _

theorem updateHealthy_meets (sinceActivationS : D) {m : Mode D} (hm : m.terminal = false) :
    (updateHealthy cfg x sinceActivationS).Meets (system cfg) (ownership cfg exempt) m := by
  intro n moment hRely _
  have hOpen : n.terminal = false := hRely.terminal.trans hm
  refine ⟨trivial, ?_⟩
  dsimp only
  split
  · exact ⟨fun _ => stationary_velocity x _, trivial⟩
  · exact failNavigation_meets _ _
  split
  · exact updateCommand_meets x _ hOpen
  · exact updateAcquisition_meets x _

theorem updateAirborne_meets (armed : Bool) (sinceActivationS : D) {m : Mode D}
    (hm : m.terminal = false) :
    (updateAirborne cfg x armed sinceActivationS).Meets (system cfg) (ownership cfg exempt) m := by
  unfold updateAirborne
  split
  · exact ⟨fun _ => stationary_velocity x _, trivial⟩
  split
  · exact ⟨fun _ => stationary_velocity x _, trivial⟩
  intro n moment hRely _
  refine ⟨trivial, ?_⟩
  dsimp only
  split
  · exact failNavigation_meets _ _
  · refine updateHealthy_meets x sinceActivationS ?_
    change (if n.airborneStartNs == 0 then { n with airborneStartNs := x.nowNs } else n).terminal =
      false
    split <;> exact hRely.terminal.trans hm

theorem updateTerminal_meets :
    (updateTerminal cfg x).Meets (system cfg) (ownership cfg exempt) m := by
  intro n moment _ _
  refine ⟨trivial, ?_⟩
  dsimp only
  split
  · refine ⟨fun _ => stationary_velocity x _, ?_⟩
    split
    · exact safetyStopNavigation_meets _ _
    · trivial
  · rename_i hOpen
    rw [Bool.not_eq_true] at hOpen
    exact updateAirborne_meets x _ _ hOpen

end

theorem updateSetpoint_meets (moment : Moment) (m : Mode D) :
    (updateSetpoint cfg moment).Meets (system cfg) (ownership cfg exempt) m := by
  intro n copied _ _
  refine ⟨trivial, ?_⟩
  intro o _ _ _
  exact ⟨trivial, updateTerminal_meets _ _⟩

theorem callback_meets (c : Callback D) (moment : Moment) (m : Mode D) :
    ((system cfg).callback c moment).Meets (system cfg) (ownership cfg exempt) m := by
  cases c with
  | activate => exact onActivate_meets m
  | deactivate => exact onDeactivate_meets m
  | navigationCommand message => exact onNavigationCommand_meets message moment m
  | missionProgress message => exact onMissionProgress_meets message m
  | boundary => exact updateBoundary_meets m
  | setpoint => exact updateSetpoint_meets moment m

theorem ownership_kept {ops : List (ModeOperation D)}
    (hAssumed : ∀ e ∈ events (system cfg).step initialThreads ops, Assumed (ownership cfg exempt) e) :
    ∀ e ∈ events (system cfg).step initialThreads ops, Kept (ownership cfg exempt) e :=
  events_kept SameOwnership.refl SameOwnership.trans (sameOwnership_input cfg) callback_meets hAssumed

end Callbacks

end UavNavigation.NavigationMode
