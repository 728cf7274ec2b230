import UavNavigation.ModeContract

/-!
# The roles at the velocity boundary

`publishVelocityOnlySetpoint` lets a certified emergency brake pass the gate on the role
and refuses every command that is not ready behind it. What it publishes is set against
what its roles promise.
-/

namespace UavNavigation.NavigationMode

set_option autoImplicit false

open FloatOps Runs Sections

section Boundary
variable {D : Type} [Floating D] [MathLibrary D] {cfg : Config D}

def plannerReady (command : NavigationCommand D) : Bool :=
  (command.role == .main || command.role == .backup) && command.status == .ready

def timestampsValid (command : NavigationCommand D) (s : VelocityOnlySnapshot D)
    (nowNs nowSteadyNs : Int) : Bool :=
  0 < s.odometry.stamp.nanoseconds && 0 < command.stamp.nanoseconds &&
    0 < command.validUntil.nanoseconds && 0 < nowNs && s.odometry.stamp.nanoseconds ≤ nowNs &&
    command.stamp.nanoseconds ≤ nowNs && 0 < nowSteadyNs && 0 < px4SampleNs s.px4 &&
    px4SampleNs s.px4 ≤ nowNs

def resetCountersCurrent (s : VelocityOnlySnapshot D) : Bool :=
  s.px4.resetCounters == s.lastResetCounters || !s.resetCountersSeen

def limitedVelocity (cfg : Config D) (command : NavigationCommand D) (s : VelocityOnlySnapshot D)
    (nowNs : Int) (adapted : Adapter.AdaptedReference D) : VelocityOnly.Result D :=
  VelocityOnly.limit adapted.velocityCommandLioEnu nowNs (continuityIdentity command)
    (continuityPolicy cfg) s.previous

def LimitSucceeds (cfg : Config D) (command : NavigationCommand D) (s : VelocityOnlySnapshot D)
    (nowNs : Int) (adapted : Adapter.AdaptedReference D) : Prop :=
  (limitedVelocity cfg command s nowNs adapted).success = true ∧
    (castToFloat (adapted.rotationLioEnuToPx4Ned.apply
      (limitedVelocity cfg command s nowNs adapted).velocityEnu)).isSome = true ∧
    floatRepresentable adapted.yawNed = true ∧ floatRepresentable adapted.yawRateNedRadS = true

instance decidableLimitSucceeds (command : NavigationCommand D) (s : VelocityOnlySnapshot D)
    (nowNs : Int) (adapted : Adapter.AdaptedReference D) :
    Decidable (LimitSucceeds cfg command s nowNs adapted) :=
  inferInstanceAs (Decidable (_ ∧ _ ∧ _ ∧ _))

/-- Every check of the function that does not look at the role or at the status. -/
def ChecksSucceed (cfg : Config D) (command : NavigationCommand D) (s : VelocityOnlySnapshot D)
    (nowNs nowSteadyNs : Int) : Prop :=
  timestampsValid command s nowNs nowSteadyNs = true ∧ resetCountersCurrent s = true ∧
    ∃ adapted, Adapter.adapt (referenceOf command) (lioStateOf s) s.px4
        (timingOf cfg command s nowNs nowSteadyNs) (adapterPolicy cfg s) = .ok adapted ∧
      LimitSucceeds cfg command s nowNs adapted

def Publishes (cfg : Config D) (command : NavigationCommand D) (s : VelocityOnlySnapshot D)
    (nowNs nowSteadyNs : Int) : Prop :=
  ∃ r, velocityOnlySetpoint cfg command s nowNs nowSteadyNs = .ok r

/-- What the two roles of the planner and the certified emergency promise. -/
def AcceptedAsPromised (cfg : Config D) (command : NavigationCommand D)
    (s : VelocityOnlySnapshot D) (nowNs nowSteadyNs : Int) : Prop :=
  Publishes cfg command s nowNs nowSteadyNs ↔
    (plannerReady command = true ∨ certifiedEmergency command = true) ∧
      ChecksSucceed cfg command s nowNs nowSteadyNs

variable {command : NavigationCommand D} {s : VelocityOnlySnapshot D} {nowNs nowSteadyNs : Int}

omit [MathLibrary D] in
theorem velocityOnlyRefusal_eq_none_iff : velocityOnlyRefusal command s nowNs nowSteadyNs = none ↔
      plannerReady command = true ∧ timestampsValid command s nowNs nowSteadyNs = true ∧
        isNormalizableOdometryQuaternion s.odometry.orientation = true ∧
        resetCountersCurrent s = true := by
  constructor
  · intro h
    unfold velocityOnlyRefusal at h
    dsimp only at h
    split at h
    · cases h
    rename_i hRole
    split at h
    · cases h
    rename_i hStatus
    split at h
    · cases h
    rename_i hStamps
    split at h
    · cases h
    rename_i hOrientation
    split at h
    · cases h
    rename_i hSample
    split at h
    · cases h
    rename_i hCounters
    have hReady : command.status = .ready := by simpa using hStatus
    -- a certified emergency is braking, so the gate on the role leaves the planner alone
    have hNotCertified : certifiedEmergency command = false := by
      simp [certifiedEmergency, hReady]
    refine ⟨?_, ?_, by simpa using hOrientation, ?_⟩
    · simp only [hNotCertified, Bool.not_false, Bool.and_true, Bool.and_eq_true, bne_iff_ne,
        not_and_or, not_not] at hRole
      simpa [plannerReady, hReady] using hRole
    · simp only [Bool.or_eq_true, decide_eq_true_eq, not_or, not_le, not_lt] at hStamps hSample
      simp [timestampsValid, hStamps, hSample]
    · simpa [resetCountersCurrent, or_iff_not_imp_left] using hCounters
  · rintro ⟨hReady, hStamps, hOrientation, hCounters⟩
    simp only [plannerReady, Bool.and_eq_true, Bool.or_eq_true, beq_iff_eq] at hReady
    simp only [timestampsValid, Bool.and_eq_true, decide_eq_true_eq] at hStamps
    obtain ⟨⟨⟨⟨⟨⟨⟨⟨hSource, hReference⟩, hUntil⟩, hNow⟩, hPast⟩, hBegun⟩, hSteady⟩, hSample⟩,
      hSampled⟩ := hStamps
    have hRole : (command.role != .main && command.role != .backup) = false := by
      rcases hReady.1 with h | h <;> simp [h]
    simp only [resetCountersCurrent, Bool.or_eq_true, beq_iff_eq, Bool.not_eq_true'] at hCounters
    have hSettled : (s.px4.resetCounters != s.lastResetCounters && s.resetCountersSeen) = false := by
      rcases hCounters with h | h <;> simp [h]
    simp [velocityOnlyRefusal, hRole, hReady.2, hOrientation, hSettled, not_le.mpr, not_lt.mpr,
      hSource, hReference, hUntil, hNow, hPast, hBegun, hSteady, hSample, hSampled]

theorem limitAdapted_ok_iff (adapted : Adapter.AdaptedReference D) :
    (∃ r, limitAdapted cfg command s nowNs adapted = .ok r) ↔
      LimitSucceeds cfg command s nowNs adapted := by
  unfold limitAdapted LimitSucceeds limitedVelocity
  generalize VelocityOnly.limit adapted.velocityCommandLioEnu nowNs (continuityIdentity command)
    (continuityPolicy cfg) s.previous = limited
  cases hSuccess : limited.success with
  | false => simp [hSuccess]
  | true =>
    simp only [hSuccess, Bool.not_true, Bool.false_eq_true, if_false, true_and]
    cases hCast : castToFloat (adapted.rotationLioEnuToPx4Ned.apply limited.velocityEnu) with
    | none => simp
    | some velocityNed =>
      cases hYaw : floatRepresentable adapted.yawNed <;>
        cases hRate : floatRepresentable adapted.yawRateNedRadS <;> simp

theorem publishes_iff : Publishes cfg command s nowNs nowSteadyNs ↔ plannerReady command = true ∧
        isNormalizableOdometryQuaternion s.odometry.orientation = true ∧
        ChecksSucceed cfg command s nowNs nowSteadyNs := by
  unfold Publishes velocityOnlySetpoint ChecksSucceed
  cases hRefusal : velocityOnlyRefusal command s nowNs nowSteadyNs with
  | some reason =>
    have hNot := mt velocityOnlyRefusal_eq_none_iff.mpr (by rw [hRefusal]; simp)
    constructor
    · rintro ⟨r, h⟩
      cases h
    · rintro ⟨hReady, hOrientation, hStamps, hCounters, -⟩
      exact absurd ⟨hReady, hStamps, hOrientation, hCounters⟩ hNot
  | none =>
    obtain ⟨hReady, hStamps, hOrientation, hCounters⟩ := velocityOnlyRefusal_eq_none_iff.mp hRefusal
    simp only [hReady, hStamps, hOrientation, hCounters, true_and]
    cases hAdapt : Adapter.adapt (referenceOf command) (lioStateOf s) s.px4
        (timingOf cfg command s nowNs nowSteadyNs) (adapterPolicy cfg s) with
    | error reason => simp
    | ok adapted =>
      rw [limitAdapted_ok_iff]
      simp

def Mode.oriented (m : Mode D) : Prop :=
  ∀ odometry ∈ m.odometry, isNormalizableOdometryQuaternion odometry.orientation = true

section
omit [MathLibrary D]

theorem Mode.oriented.of_eq {m n : Mode D} (hm : m.oriented) (h : n.odometry = m.odometry) :
    n.oriented := by
  intro odometry hOdometry
  rw [h] at hOdometry
  exact hm odometry hOdometry

theorem tryAlign_odometry (m : Mode D) (armed : Bool) :
    (m.tryAlignPx4LocalFrame armed).odometry = m.odometry := by
  unfold Mode.tryAlignPx4LocalFrame
  repeat' split
  all_goals rfl

theorem onOdometry_oriented {m : Mode D} (hm : m.oriented)
    (message : Option (PropagatedOdometry D)) (moment : Moment) :
    (m.onOdometry cfg message moment).oriented := by
  unfold Mode.onOdometry
  split
  · exact hm
  split
  · exact hm
  rename_i message hAccepted
  intro odometry hOdometry
  rw [tryAlign_odometry] at hOdometry
  cases hOdometry
  simp only [Bool.or_eq_true, Bool.not_eq_true', not_or, Bool.not_eq_false] at hAccepted
  have hWellFormed := hAccepted.1
  simp only [odometryWellFormed, Bool.and_eq_true] at hWellFormed
  exact hWellFormed.2

theorem onPx4LocalPosition_odometry (m : Mode D) (message : Option (VehicleLocalPosition D))
    (moment : Moment) : (m.onPx4LocalPosition message moment).odometry = m.odometry := by
  unfold Mode.onPx4LocalPosition
  split
  · rfl
  split
  · rfl
  rw [tryAlign_odometry]
  unfold Mode.observePosition Mode.observePositionReset
  repeat' split
  all_goals rfl

theorem onEstimatorHealth_oriented {m : Mode D} (hm : m.oriented)
    (message : Option EstimatorHealth) (moment : Moment) :
    (m.onEstimatorHealth message moment).oriented := by
  unfold Mode.onEstimatorHealth
  split
  · exact hm
  split
  · exact hm
  dsimp only
  split
  · exact hm.of_eq rfl
  split
  · exact hm.of_eq rfl
  split
  · intro odometry hOdometry
    cases hOdometry
  · exact hm.of_eq rfl

end

theorem input_oriented {m : Mode D} (hm : m.oriented) (e : StateInput D) :
    (m.input cfg e).oriented := by
  cases e with
  | odometry message moment => exact onOdometry_oriented hm message moment
  | localPosition message moment =>
    exact hm.of_eq (onPx4LocalPosition_odometry m message moment)
  | health message moment => exact onEstimatorHealth_oriented hm message moment

theorem effect_odometry (l : Section D) (m : Mode D) (moment : Moment) :
    (l.effect cfg m moment).odometry = m.odometry := by
  cases l with
  | boundary | receipt message | admission message | airborneStart nowNs =>
    simp only [Section.effect]
    split <;> rfl
  | acceptedRecovery command | heldRecovery command nowNs =>
    simp only [Section.effect, beginRecovery]
    repeat' split
    all_goals rfl
  | failNavigation | safetyStop =>
    simp only [Section.effect, Mode.stop]
    split <;> rfl
  | _ => rfl

variable (cfg) in
theorem step_oriented (s : ModeThreads D) (op : ModeOperation D) (hs : s.shared.oriented) :
    ((system cfg).step s op).1.shared.oriented := by
  rcases step_effect (system cfg) s op with
    ⟨-, hShared⟩ | ⟨l, moment, -, -, hShared⟩ | ⟨input, -, -, -, hShared⟩
  · change ((system cfg).step s op).1.shared = s.shared at hShared
    rw [hShared]
    exact hs
  · change ((system cfg).step s op).1.shared = l.effect cfg s.shared moment at hShared
    rw [hShared]
    exact hs.of_eq (effect_odometry l s.shared moment)
  · change ((system cfg).step s op).1.shared = s.shared.input cfg input at hShared
    rw [hShared]
    exact input_oriented hs input

variable (cfg) in
theorem run_oriented (ops : List (ModeOperation D)) :
    (run (system cfg).step initialThreads ops).shared.oriented := by
  apply run_invariant (P := fun s : ModeThreads D => s.shared.oriented) (step_oriented cfg)
  intro odometry hOdometry
  cases hOdometry

variable (cfg) in
/-- The promise fails for the certified emergency whose checks succeed, and for no other
command where the snapshot is one of a run. -/
theorem accepted_as_promised_iff (command : NavigationCommand D) (nowNs nowSteadyNs : Int) :
    (∀ s : VelocityOnlySnapshot D, AcceptedAsPromised cfg command s nowNs nowSteadyNs ↔
      ¬ (ChecksSucceed cfg command s nowNs nowSteadyNs ∧
        (certifiedEmergency command = true ∨ plannerReady command = true ∧
          isNormalizableOdometryQuaternion s.odometry.orientation = false))) ∧
    (∀ (ops : List (ModeOperation D)) (odometry : Odometry D),
      (run (system cfg).step initialThreads ops).shared.odometry = some odometry →
      let s := (run (system cfg).step initialThreads ops).shared.velocityOnlySnapshot odometry
      AcceptedAsPromised cfg command s nowNs nowSteadyNs ↔
        ¬ (certifiedEmergency command = true ∧ ChecksSucceed cfg command s nowNs nowSteadyNs)) ∧
    (certifiedEmergency command = true →
      ∀ s : VelocityOnlySnapshot D, ¬ Publishes cfg command s nowNs nowSteadyNs) := by
  have hNotReady (h : certifiedEmergency command = true) : plannerReady command = false := by
    simp only [certifiedEmergency, Bool.and_eq_true, beq_iff_eq] at h
    simp [plannerReady, h.1.1.1]
  have hAny (s : VelocityOnlySnapshot D) : AcceptedAsPromised cfg command s nowNs nowSteadyNs ↔
      ¬ (ChecksSucceed cfg command s nowNs nowSteadyNs ∧
        (certifiedEmergency command = true ∨ plannerReady command = true ∧
          isNormalizableOdometryQuaternion s.odometry.orientation = false)) := by
    unfold AcceptedAsPromised
    rw [publishes_iff]
    cases hCertified : certifiedEmergency command with
    | false =>
      cases plannerReady command <;>
        cases isNormalizableOdometryQuaternion s.odometry.orientation <;> simp
    | true => simp [hNotReady hCertified]
  refine ⟨hAny, ?_, ?_⟩
  · intro ops odometry hOdometry s
    have hOriented : isNormalizableOdometryQuaternion s.odometry.orientation = true :=
      run_oriented cfg ops odometry hOdometry
    rw [hAny s, hOriented]
    simp [and_comm]
  · intro hCertified s
    rw [publishes_iff, hNotReady hCertified]
    simp

end Boundary

section Braking
attribute [local instance] mathLibraryAtZero

def certifiedBrake : NavigationCommand (ExactReal ℚ) :=
  { eastboundCommand 1 1 with
    role := .emergency
    status := .braking
    velocity := .zero
    emergencyAuthorizationReason := .clearanceExceeded
    emergencyCandidateCommitResult := 1 }

def brakeHeld : List (ModeOperation (ExactReal ℚ)) :=
  sensing ++ activation noon ++
    .call (.navigationCommand (some certifiedBrake)) noon :: List.replicate 4 (.advance noon)

def brakeSnapshot : VelocityOnlySnapshot (ExactReal ℚ) :=
  (run (system velocityOnlyConfig).step initialThreads brakeHeld).shared.velocityOnlySnapshot
    (hoveringOdometry 1).odometry

theorem accepted_as_promised_in_run :
    AcceptedAsPromised velocityOnlyConfig (eastboundCommand 1 1) brakeSnapshot noon.rosNs
        noon.steadyNs ∧
      ¬ Publishes velocityOnlyConfig certifiedBrake brakeSnapshot noon.rosNs noon.steadyNs :=
  ⟨((accepted_as_promised_iff velocityOnlyConfig (eastboundCommand 1 1) noon.rosNs
      noon.steadyNs).2.1 brakeHeld (hoveringOdometry 1).odometry (by decide +kernel)).mpr
        (fun h => absurd h.1 (by decide)),
    (accepted_as_promised_iff velocityOnlyConfig certifiedBrake noon.rosNs noon.steadyNs).2.2
      (by decide) brakeSnapshot⟩

theorem brakeChecks_succeed : ChecksSucceed velocityOnlyConfig certifiedBrake brakeSnapshot
    noon.rosNs noon.steadyNs := by
  have hAdapted : ∃ adapted ∈ (Adapter.adapt (referenceOf certifiedBrake) (lioStateOf brakeSnapshot)
      brakeSnapshot.px4 (timingOf velocityOnlyConfig certifiedBrake brakeSnapshot noon.rosNs
        noon.steadyNs) (adapterPolicy velocityOnlyConfig brakeSnapshot)).toOption,
      LimitSucceeds velocityOnlyConfig certifiedBrake brakeSnapshot noon.rosNs adapted := by
    decide +kernel
  obtain ⟨adapted, hAdapt, hLimit⟩ := hAdapted
  refine ⟨by decide +kernel, by decide +kernel, adapted, ?_, hLimit⟩
  revert hAdapt
  cases Adapter.adapt (referenceOf certifiedBrake) (lioStateOf brakeSnapshot) brakeSnapshot.px4
      (timingOf velocityOnlyConfig certifiedBrake brakeSnapshot noon.rosNs noon.steadyNs)
      (adapterPolicy velocityOnlyConfig brakeSnapshot) with
  | error reason =>
    intro h
    cases h
  | ok a =>
    intro h
    cases h
    rfl

/-- Every check of the brake succeeds, and the next update hands it over to PX4. -/
theorem certified_brake_refused :
    let s := run (system velocityOnlyConfig).step initialThreads brakeHeld
    let t := run (system velocityOnlyConfig).step s (updating ++ List.replicate 3 (.advance noon))
    assessCommandContract certifiedBrake velocityOnlyConfig.planningFrame = .valid ∧
      s.shared.navigationCommand = some certifiedBrake ∧
      certifiedEmergency certifiedBrake = true ∧
      (continuityIdentity certifiedBrake).role = .emergency ∧
      ChecksSucceed velocityOnlyConfig certifiedBrake brakeSnapshot noon.rosNs noon.steadyNs ∧
      ¬ AcceptedAsPromised velocityOnlyConfig certifiedBrake brakeSnapshot noon.rosNs
        noon.steadyNs ∧
      t.shared.velocityOnlyLastReason = "status_requires_native_px4_hold" ∧
      t.shared.handoverRequested = true := by
  refine ⟨by decide, by decide +kernel, by decide, rfl, brakeChecks_succeed, ?_, by decide +kernel,
    by decide +kernel⟩
  intro hPromised
  have hPublished := hPromised.mpr ⟨.inr (by decide), brakeChecks_succeed⟩
  exact absurd (publishes_iff.mp hPublished).1 (by decide)

end Braking

end UavNavigation.NavigationMode
