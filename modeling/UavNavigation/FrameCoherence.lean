import UavNavigation.ExactReals
import UavNavigation.TrackingAdapter

/-!
# The coherence of the adapted frame

In exact arithmetic the rotation of the adapter is orthogonal, turns headings of
the localization into headings of PX4, and carries every vector of an adapted
reference.
-/

namespace UavNavigation.NavigationMode

set_option autoImplicit false

open FloatOps ExactReal Vec3

noncomputable def nearestEven (x : ℝ) : ℤ :=
  if x - ⌊x⌋ < 1 / 2 then ⌊x⌋
  else if 1 / 2 < x - ⌊x⌋ then ⌊x⌋ + 1
  else if Even ⌊x⌋ then ⌊x⌋ else ⌊x⌋ + 1

/-- `std::remainder` of real numbers. -/
noncomputable def realRemainder (x y : ℝ) : ℝ := x - y * nearestEven (x / y)

noncomputable instance realLibrary : MathLibrary (ExactReal ℝ) where
  hypot
    | .finite x, .finite y => .finite (Real.sqrt (x * x + y * y))
    | _, _ => .nonFinite
  atan2
    | .finite y, .finite x => .finite (Complex.arg ⟨x, y⟩)
    | _, _ => .nonFinite
  remainder
    | .finite x, .finite y => if y = 0 then .nonFinite else .finite (realRemainder x y)
    | _, _ => .nonFinite
  pi := .finite Real.pi
  floatMax := .finite ((2 ^ 24 - 1) * 2 ^ 104)
  toFloat x := x
  yawEnuToNed
    | .finite yaw => .finite (realRemainder (Real.pi / 2 - yaw) (2 * Real.pi))
    | .nonFinite => .nonFinite
  yawRateEnuToNed rate := -rate

namespace Adapter

theorem wrapPi_finite (angle : ℝ) :
    ∃ turns : ℤ, wrapPi (.finite angle : ExactReal ℝ) = .finite (angle + turns * (2 * Real.pi)) := by
  refine ⟨-nearestEven (angle / (2 * Real.pi)), ?_⟩
  change (if 2 * Real.pi = 0 then nonFinite
    else .finite (realRemainder angle (2 * Real.pi))) = _
  rw [if_neg (by positivity), realRemainder]
  push_cast
  congr 1
  ring

noncomputable def turned (delta : ℝ) : Matrix3 ℝ :=
  ⟨⟨Real.sin delta, Real.cos delta, 0⟩, ⟨Real.cos delta, -Real.sin delta, 0⟩, ⟨0, 0, -1⟩⟩

variable {v : Vec3 (ExactReal ℝ)}

section
variable (delta : ℝ)

theorem basis_mul_yawRotation :
    (cEnuNed : Matrix3 (ExactReal ℝ)).mul (yawRotation (.finite delta)) = (turned delta).lift := by
  have hCos : Trigonometry.cos (.finite delta : ExactReal ℝ) = .finite (Real.cos delta) := rfl
  have hSin : Trigonometry.sin (.finite delta : ExactReal ℝ) = .finite (Real.sin delta) := rfl
  simp only [yawRotation, hCos, hSin, cEnuNed, Matrix3.mul, Matrix3.transpose, Matrix3.apply,
    Vec3.dot, turned, Matrix3.lift, Vec3.lift, lit_finite, mul_finite, add_finite, neg_finite]
  simp

theorem turned_orthogonal : (turned delta).lift.mul (turned delta).lift.transpose =
        (Matrix3.identity : Matrix3 (ExactReal ℝ)) ∧
      (turned delta).lift.transpose.mul (turned delta).lift =
        (Matrix3.identity : Matrix3 (ExactReal ℝ)) := by
  have hUnit := Real.sin_sq_add_cos_sq delta
  have hIdentity : (Matrix3.identity : Matrix3 (ExactReal ℝ)) =
      Matrix3.lift ⟨⟨1, 0, 0⟩, ⟨0, 1, 0⟩, ⟨0, 0, 1⟩⟩ := by
    simp only [Matrix3.identity, Matrix3.lift, Vec3.lift, lit_finite, Rat.cast_zero, Rat.cast_one]
  have hLeft : (turned delta).product (turned delta).transposed =
      ⟨⟨1, 0, 0⟩, ⟨0, 1, 0⟩, ⟨0, 0, 1⟩⟩ := by
    simp only [turned, Matrix3.transposed, Matrix3.product, Matrix3.times, Matrix3.mk.injEq,
      Vec3.mk.injEq]
    refine ⟨⟨?_, ?_, ?_⟩, ⟨?_, ?_, ?_⟩, ?_, ?_, ?_⟩ <;> first | linear_combination hUnit | ring1
  have hRight : (turned delta).transposed.product (turned delta) =
      ⟨⟨1, 0, 0⟩, ⟨0, 1, 0⟩, ⟨0, 0, 1⟩⟩ := by
    simp only [turned, Matrix3.transposed, Matrix3.product, Matrix3.times, Matrix3.mk.injEq,
      Vec3.mk.injEq]
    refine ⟨⟨?_, ?_, ?_⟩, ⟨?_, ?_, ?_⟩, ?_, ?_, ?_⟩ <;> first | linear_combination hUnit | ring1
  rw [transpose_lift, mul_lift, mul_lift, hLeft, hRight, hIdentity]
  exact ⟨rfl, rfl⟩

theorem turned_length (v : Vec3 ℝ) : ((turned delta).times v).length = v.length := by
  have hUnit := Real.sin_sq_add_cos_sq delta
  have hSquare : ((turned delta).times v).normSquared = v.normSquared := by
    simp only [turned, Matrix3.times, Vec3.normSquared]
    linear_combination (v.x ^ 2 + v.y ^ 2) * hUnit
  rw [Vec3.length, hSquare, Vec3.length]

theorem turned_norm (hv : v.allFinite = true) : ((turned delta).lift.apply v).norm = v.norm := by
  obtain ⟨a, rfl⟩ := allFinite_iff.mp hv
  rw [apply_lift, norm_real, norm_real, turned_length]

theorem turned_vertical (hv : v.allFinite = true) : ((turned delta).lift.apply v).z = -v.z := by
  obtain ⟨a, rfl⟩ := allFinite_iff.mp hv
  rw [apply_lift]
  simp [turned, Matrix3.times, Vec3.lift]

end

noncomputable def headingVector (yaw : ExactReal ℝ) : Vec3 (ExactReal ℝ) :=
  ⟨Trigonometry.cos yaw, Trigonometry.sin yaw, lit 0⟩

theorem turned_heading {delta yawEnu yawNed : ℝ} (turns : ℤ)
    (h : yawEnu + delta = Real.pi / 2 - yawNed + turns * (2 * Real.pi)) :
    (turned delta).lift.apply (headingVector (.finite yawEnu)) =
      headingVector (.finite yawNed) := by
  have hSin : Real.sin delta * Real.cos yawEnu + Real.cos delta * Real.sin yawEnu =
      Real.cos yawNed := by
    rw [← Real.sin_add, add_comm delta, h, Real.sin_add_int_mul_two_pi, Real.sin_pi_div_two_sub]
  have hCos : Real.cos delta * Real.cos yawEnu - Real.sin delta * Real.sin yawEnu =
      Real.sin yawNed := by
    rw [← Real.cos_add, add_comm delta, h, Real.cos_add_int_mul_two_pi, Real.cos_pi_div_two_sub]
  have hLift (yaw : ℝ) : headingVector (.finite yaw) =
      Vec3.lift ⟨Real.cos yaw, Real.sin yaw, 0⟩ := by
    change (⟨.finite (Real.cos yaw), .finite (Real.sin yaw), lit 0⟩ : Vec3 (ExactReal ℝ)) = _
    rw [lit_finite, Rat.cast_zero]
    rfl
  rw [hLift, hLift, apply_lift]
  congr 1
  simp only [turned, Matrix3.times, Vec3.mk.injEq]
  refine ⟨?_, ?_, ?_⟩
  · linear_combination hSin
  · linear_combination hCos
  · ring

/-! ## The result of the adapter -/

structure Result (D : Type) where
  output : Option (AdaptedReference D) := none
  failure : FailureReason := .none

def Result.of {D : Type} : Except FailureReason (AdaptedReference D) → Result D
  | .ok adapted => { output := some adapted }
  | .error failure => { failure }

/-- What the frames of an adapted reference have in common. -/
structure Coherent (reference : Reference (ExactReal ℝ)) (lio : LioState (ExactReal ℝ))
    (raw : RawPx4State (ExactReal ℝ)) (p : Policy (ExactReal ℝ))
    (adapted : AdaptedReference (ExactReal ℝ)) : Prop where
  orthogonal : adapted.rotationLioEnuToPx4Ned.mul adapted.rotationLioEnuToPx4Ned.transpose =
      Matrix3.identity ∧
    adapted.rotationLioEnuToPx4Ned.transpose.mul adapted.rotationLioEnuToPx4Ned = Matrix3.identity
  heading : adapted.rotationLioEnuToPx4Ned.apply (headingVector reference.yawEnu) =
    headingVector adapted.yawNed
  velocity : adapted.velocityNed =
    adapted.rotationLioEnuToPx4Ned.apply adapted.velocityCommandLioEnu
  speed : adapted.velocityNed.norm = adapted.velocityCommandLioEnu.norm
  vertical_speed : adapted.velocityNed.z = -adapted.velocityCommandLioEnu.z
  position : p.boundary = .positionVelocityAcceleration → adapted.positionNed = raw.positionNed +
    adapted.rotationLioEnuToPx4Ned.apply (reference.positionEnu - lio.positionEnu)
  offset : p.boundary = .positionVelocityAcceleration →
    (adapted.positionNed - raw.positionNed).norm = (reference.positionEnu - lio.positionEnu).norm ∧
    (adapted.positionNed - raw.positionNed).z = -(reference.positionEnu - lio.positionEnu).z
  acceleration : p.boundary = .positionVelocityAcceleration →
    adapted.accelerationNed = adapted.rotationLioEnuToPx4Ned.apply reference.accelerationEnu ∧
    adapted.accelerationNed.norm = reference.accelerationEnu.norm ∧
    adapted.accelerationNed.z = -reference.accelerationEnu.z
  command : p.boundary = .positionVelocityAcceleration →
    adapted.velocityCommandLioEnu = reference.velocityEnu
  cap : p.boundary = .velocityOnly → ∃ maximum, p.maximumVelocityMps = some maximum ∧
    adapted.velocityNed.norm ≤ maximum ∧
    adapted.velocityCommandLioEnu = (cappedVelocity (reference.velocityEnu +
      Vec3.scale p.lioPositionFeedbackGainSInv (reference.positionEnu - lio.positionEnu))
      (some maximum)).1
  still : reference.positionEnu = lio.positionEnu → reference.yawEnu = lio.yawEnu →
    (p.boundary = .positionVelocityAcceleration → adapted.positionNed = raw.positionNed) ∧
    ∃ (yaw : ℝ) (turns : ℤ), raw.yawNed = .finite yaw ∧
      adapted.yawNed = .finite (yaw + turns * (2 * Real.pi))

variable {reference : Reference (ExactReal ℝ)} {lio : LioState (ExactReal ℝ)}
  {raw : RawPx4State (ExactReal ℝ)} {p : Policy (ExactReal ℝ)}
  {adapted : AdaptedReference (ExactReal ℝ)}

theorem delta_exact (yawNed yawLio : ℝ) : ∃ (delta : ℝ) (turns : ℤ),
    wrapPi (wrapPi (MathLibrary.pi / lit 2 - .finite yawNed : ExactReal ℝ) - .finite yawLio) =
      .finite delta ∧
    delta = Real.pi / 2 - yawNed - yawLio + turns * (2 * Real.pi) := by
  have hHalf : (MathLibrary.pi / lit 2 : ExactReal ℝ) = .finite (Real.pi / 2) := by
    change (.finite Real.pi / lit 2 : ExactReal ℝ) = _
    rw [lit_finite, div_finite _ (by norm_num)]
    norm_num
  rw [hHalf, sub_finite]
  obtain ⟨inner, hInner⟩ := wrapPi_finite (Real.pi / 2 - yawNed)
  rw [hInner, sub_finite]
  obtain ⟨outer, hOuter⟩ :=
    wrapPi_finite (Real.pi / 2 - yawNed + inner * (2 * Real.pi) - yawLio)
  refine ⟨_, inner + outer, hOuter, ?_⟩
  push_cast
  ring

theorem yawNed_exact (yawNed yawEnu yawLio : ℝ) : ∃ turns : ℤ,
    wrapPi (.finite yawNed - wrapPi (.finite yawEnu - .finite yawLio) : ExactReal ℝ) =
      .finite (yawNed - (yawEnu - yawLio) + turns * (2 * Real.pi)) := by
  rw [sub_finite]
  obtain ⟨inner, hInner⟩ := wrapPi_finite (yawEnu - yawLio)
  rw [hInner, sub_finite]
  obtain ⟨outer, hOuter⟩ := wrapPi_finite (yawNed - (yawEnu - yawLio + inner * (2 * Real.pi)))
  refine ⟨outer - inner, ?_⟩
  rw [hOuter]
  congr 1
  push_cast
  ring

theorem cappedVelocity_exact (a : Vec3 ℝ) {cap : ℝ} (hCap : 0 < cap) :
    (cappedVelocity a.lift (some (.finite cap))).1.allFinite = true ∧
      (cappedVelocity a.lift (some (.finite cap))).1.norm ≤ .finite cap := by
  unfold cappedVelocity
  dsimp only
  rw [norm_real]
  split
  · rename_i hOver
    have hSpeed : 0 < a.length := hCap.trans hOver
    rw [div_finite _ hSpeed.ne', scale_lift]
    refine ⟨rfl, ?_⟩
    rw [norm_real, length_scale, abs_of_pos (div_pos hCap hSpeed),
      div_mul_cancel₀ _ hSpeed.ne', le_finite]
  · rename_i hUnder
    rw [lt_finite, not_lt] at hUnder
    refine ⟨rfl, ?_⟩
    rw [norm_real, le_finite]
    exact hUnder

theorem passed {c : Prop} [Decidable c] {failure rest : FailureReason}
    (hFailure : failure ≠ .none) (h : (if c then failure else rest) = .none) :
    ¬ c ∧ rest = .none := by
  by_cases hc : c
  · rw [if_pos hc] at h
    exact absurd h hFailure
  · rw [if_neg hc] at h
    exact ⟨hc, h⟩

theorem checkInputs_none {t : TimingWitness (ExactReal ℝ)}
    (h : checkInputs reference lio raw t p = .none) :
    validPolicy p = true ∧ validReference reference = true ∧
      validLioState lio reference p = true ∧ validPx4State raw p = true := by
  obtain ⟨-, h⟩ := passed FailureReason.noConfusion h
  obtain ⟨hPolicy, h⟩ := passed FailureReason.noConfusion h
  obtain ⟨hReference, h⟩ := passed FailureReason.noConfusion h
  obtain ⟨hLio, h⟩ := passed FailureReason.noConfusion h
  obtain ⟨hRaw, -⟩ := passed FailureReason.noConfusion h
  rw [Bool.not_eq_true', Bool.not_eq_false] at hPolicy hReference hLio hRaw
  exact ⟨hPolicy, hReference, hLio, hRaw⟩

structure FiniteInputs (reference : Reference (ExactReal ℝ)) (lio : LioState (ExactReal ℝ))
    (raw : RawPx4State (ExactReal ℝ)) (p : Policy (ExactReal ℝ)) : Prop where
  velocity : reference.velocityEnu.allFinite = true
  acceleration : reference.accelerationEnu.allFinite = true
  positionLio : lio.positionEnu.allFinite = true
  error : (reference.positionEnu - lio.positionEnu).allFinite = true
  yawEnu : ∃ yaw, reference.yawEnu = .finite yaw
  yawLio : ∃ yaw, lio.yawEnu = .finite yaw
  yawNed : ∃ yaw, raw.yawNed = .finite yaw
  position : p.boundary = .positionVelocityAcceleration → raw.positionNed.allFinite = true
  cap : p.boundary = .velocityOnly → ∃ gain cap : ℝ, p.lioPositionFeedbackGainSInv = .finite gain ∧
    p.maximumVelocityMps = some (.finite cap) ∧ 0 < cap

theorem sub_allFinite {u : Vec3 (ExactReal ℝ)} (hu : u.allFinite = true) (hv : v.allFinite = true) :
    (u - v).allFinite = true := by
  obtain ⟨a, rfl⟩ := allFinite_iff.mp hu
  obtain ⟨b, rfl⟩ := allFinite_iff.mp hv
  rfl

theorem validPositive_exact {x : ExactReal ℝ} (h : validPositive x = true) :
    ∃ k : ℝ, x = .finite k ∧ 0 < k := by
  simp only [validPositive, Bool.and_eq_true, decide_eq_true_eq] at h
  obtain ⟨k, rfl⟩ := isFinite_iff.mp h.1
  rw [lit_finite, lt_finite, Rat.cast_zero] at h
  exact ⟨k, rfl, h.2⟩

theorem finiteInputs_of_valid (hPolicy : validPolicy p = true)
    (hReference : validReference reference = true) (hLio : validLioState lio reference p = true)
    (hRaw : validPx4State raw p = true) : FiniteInputs reference lio raw p := by
  simp only [validReference, Bool.and_eq_true] at hReference
  simp only [validLioState, Bool.and_eq_true] at hLio
  simp only [validPx4State, Bool.and_eq_true] at hRaw
  have hLioPosition : lio.positionEnu.allFinite = true := by tauto
  have hLioYaw : isFinite lio.yawEnu = true := by tauto
  have hRawYaw : isFinite raw.yawNed = true := by tauto
  refine ⟨by tauto, by tauto, hLioPosition, sub_allFinite (by tauto) hLioPosition,
    isFinite_iff.mp (by tauto), isFinite_iff.mp hLioYaw,
    isFinite_iff.mp hRawYaw, ?_, ?_⟩
  · intro hBoundary
    have hPosition := hRaw.1.1.1.1.1.1.1.1.1.1.1
    rw [hBoundary] at hPosition
    simp only [bne_self_eq_false, Bool.false_or, Bool.and_eq_true] at hPosition
    exact hPosition.1.1
  · intro hBoundary
    simp only [validPolicy, validBoundary, hBoundary, Bool.and_eq_true] at hPolicy
    obtain ⟨hGain, hCap⟩ : validPositive p.lioPositionFeedbackGainSInv = true ∧
        p.maximumVelocityMps.any validPositive = true := by tauto
    obtain ⟨gain, hGain, -⟩ := validPositive_exact hGain
    obtain ⟨maximum, hMaximum, hPositive⟩ := (Option.any_eq_true _ _).mp hCap
    obtain ⟨cap, rfl, hAbove⟩ := validPositive_exact hPositive
    exact ⟨gain, cap, hGain, hMaximum, hAbove⟩

theorem command_exact (h : FiniteInputs reference lio raw p) :
    let withFeedback := reference.velocityEnu +
      Vec3.scale p.lioPositionFeedbackGainSInv (reference.positionEnu - lio.positionEnu)
    let command := if p.boundary == .velocityOnly then cappedVelocity withFeedback p.maximumVelocityMps
      else (reference.velocityEnu, false)
    command.1.allFinite = true ∧
      (p.boundary = .positionVelocityAcceleration → command.1 = reference.velocityEnu) ∧
      (p.boundary = .velocityOnly → ∃ maximum, p.maximumVelocityMps = some maximum ∧
        command.1.norm ≤ maximum ∧ command.1 = (cappedVelocity withFeedback (some maximum)).1) := by
  dsimp only
  cases hBoundary : p.boundary with
  | positionVelocityAcceleration =>
    exact ⟨h.velocity, fun _ => rfl, fun hOther => nomatch hOther⟩
  | velocityOnly =>
    obtain ⟨gain, cap, hGain, hCap, hPositive⟩ := h.cap hBoundary
    obtain ⟨v, hv⟩ := allFinite_iff.mp h.velocity
    obtain ⟨e, he⟩ := allFinite_iff.mp h.error
    rw [hv, he, hGain, hCap, scale_lift, lift_add]
    obtain ⟨hFinite, hBelow⟩ := cappedVelocity_exact _ hPositive
    exact ⟨hFinite, fun hOther => (nomatch hOther), fun _ => ⟨_, rfl, hBelow, rfl⟩⟩

theorem transformReference_coherent (h : FiniteInputs reference lio raw p)
    (hAdapted : transformReference reference lio raw p = some adapted) :
    Coherent reference lio raw p adapted := by
  obtain ⟨yawEnu, hYawEnu⟩ := h.yawEnu
  obtain ⟨yawLio, hYawLio⟩ := h.yawLio
  obtain ⟨yawNed, hYawNed⟩ := h.yawNed
  obtain ⟨delta, turns, hDelta, hDifference⟩ := delta_exact yawNed yawLio
  obtain ⟨outputTurns, hOutput⟩ := yawNed_exact yawNed yawEnu yawLio
  obtain ⟨hCommand, hPlain, hCapped⟩ := command_exact h
  unfold transformReference at hAdapted
  simp only [hYawEnu, hYawLio, hYawNed, hDelta, hOutput, basis_mul_yawRotation] at hAdapted
  generalize (if p.boundary == .velocityOnly then cappedVelocity (reference.velocityEnu +
      Vec3.scale p.lioPositionFeedbackGainSInv (reference.positionEnu - lio.positionEnu))
      p.maximumVelocityMps else (reference.velocityEnu, false)) = command
    at hAdapted hCommand hPlain hCapped
  have hPassed := (Option.ite_none_left_eq_some.mp hAdapted).2
  obtain rfl := Option.some.inj (Option.ite_none_left_eq_some.mp hPassed).2
  have hBoundary : p.boundary = .positionVelocityAcceleration →
      (p.boundary == .velocityOnly) = false := by
    intro h
    rw [h]
    rfl
  have hOffset (hPosition : raw.positionNed.allFinite = true) :
      raw.positionNed + (turned delta).lift.apply (reference.positionEnu - lio.positionEnu) -
        raw.positionNed = (turned delta).lift.apply (reference.positionEnu - lio.positionEnu) := by
    obtain ⟨a, ha⟩ := allFinite_iff.mp hPosition
    obtain ⟨e, he⟩ := allFinite_iff.mp h.error
    rw [ha, he, apply_lift, lift_add, lift_sub]
    simp
  refine
    { orthogonal := turned_orthogonal delta
      heading := ?_
      velocity := rfl
      speed := turned_norm delta hCommand
      vertical_speed := turned_vertical delta hCommand
      position := ?_
      offset := ?_
      acceleration := ?_
      command := hPlain
      cap := ?_
      still := ?_ }
  · dsimp only
    rw [hYawEnu]
    apply turned_heading (turns + outputTurns)
    rw [hDifference]
    push_cast
    ring
  · intro hPosition
    simp [hBoundary hPosition]
  · intro hPosition
    simp only [hBoundary hPosition, Bool.false_eq_true, if_false]
    rw [hOffset (h.position hPosition)]
    exact ⟨turned_norm delta h.error, turned_vertical delta h.error⟩
  · intro hPosition
    simp only [hBoundary hPosition, Bool.false_eq_true, if_false]
    exact ⟨trivial, turned_norm delta h.acceleration, turned_vertical delta h.acceleration⟩
  · intro hVelocity
    obtain ⟨maximum, hMaximum, hBelow, hEq⟩ := hCapped hVelocity
    refine ⟨maximum, hMaximum, ?_, hEq⟩
    rw [turned_norm delta hCommand]
    exact hBelow
  · intro hSame hYaw
    refine ⟨?_, yawNed, outputTurns, hYawNed, ?_⟩
    · intro hPosition
      simp only [hBoundary hPosition, Bool.false_eq_true, if_false]
      obtain ⟨a, ha⟩ := allFinite_iff.mp (h.position hPosition)
      obtain ⟨b, hb⟩ := allFinite_iff.mp h.positionLio
      rw [hSame, ha, hb, lift_sub, apply_lift, lift_add]
      simp [Matrix3.times]
    · have hEqual : yawEnu = yawLio := by
        rw [hYawEnu, hYawLio] at hYaw
        exact finite.inj hYaw
      rw [hEqual, sub_self, sub_zero]

/-- Every output of the adapter is coherent, and no failure comes with an output. -/
theorem adapt_coherent (reference : Reference (ExactReal ℝ)) (lio : LioState (ExactReal ℝ))
    (raw : RawPx4State (ExactReal ℝ)) (t : TimingWitness (ExactReal ℝ)) (p : Policy (ExactReal ℝ)) :
    ((Result.of (adapt reference lio raw t p)).failure ≠ .none →
      (Result.of (adapt reference lio raw t p)).output = none) ∧
    ∀ adapted ∈ (Result.of (adapt reference lio raw t p)).output,
      (Result.of (adapt reference lio raw t p)).failure = .none ∧
      Coherent reference lio raw p adapted := by
  unfold adapt
  split
  · rename_i hInputs
    obtain ⟨hPolicy, hReference, hLio, hRaw⟩ := checkInputs_none hInputs
    have hFinite := finiteInputs_of_valid hPolicy hReference hLio hRaw
    rcases hAdapted : transformReference reference lio raw p with _ | adapted
    · exact ⟨fun _ => rfl, fun adapted h => nomatch h⟩
    · refine ⟨fun h => absurd rfl h, ?_⟩
      intro other hOther
      obtain rfl : adapted = other := Option.some.inj hOther
      exact ⟨rfl, transformReference_coherent hFinite hAdapted⟩
  · exact ⟨fun _ => rfl, fun adapted h => nomatch h⟩

theorem turned_allFinite (delta : ℝ) (hv : v.allFinite = true) :
    ((turned delta).lift.apply v).allFinite = true := by
  obtain ⟨a, rfl⟩ := allFinite_iff.mp hv
  rfl

theorem add_allFinite {u : Vec3 (ExactReal ℝ)} (hu : u.allFinite = true) (hv : v.allFinite = true) :
    (u + v).allFinite = true := by
  obtain ⟨a, rfl⟩ := allFinite_iff.mp hu
  obtain ⟨b, rfl⟩ := allFinite_iff.mp hv
  rfl

theorem transformReference_isSome (h : FiniteInputs reference lio raw p)
    (hRate : ∃ rate, reference.yawRateEnuRadS = .finite rate) :
    ∃ adapted, transformReference reference lio raw p = some adapted := by
  obtain ⟨yawEnu, hYawEnu⟩ := h.yawEnu
  obtain ⟨yawLio, hYawLio⟩ := h.yawLio
  obtain ⟨yawNed, hYawNed⟩ := h.yawNed
  obtain ⟨rate, hRate⟩ := hRate
  obtain ⟨delta, turns, hDelta, -⟩ := delta_exact yawNed yawLio
  obtain ⟨outputTurns, hOutput⟩ := yawNed_exact yawNed yawEnu yawLio
  have hCommand := (command_exact h).1
  apply Option.isSome_iff_exists.mp
  unfold transformReference
  simp only [hYawEnu, hYawLio, hYawNed, hDelta, hOutput, basis_mul_yawRotation, hRate] at hCommand ⊢
  cases hBoundary : p.boundary with
  | positionVelocityAcceleration =>
    have hPosition := add_allFinite (h.position hBoundary) (turned_allFinite delta h.error)
    have hAcceleration := turned_allFinite delta h.acceleration
    have hVelocity := turned_allFinite delta h.velocity
    simp only [beq_iff_eq, reduceCtorEq, if_false, hPosition, hAcceleration, hVelocity]
    rfl
  | velocityOnly =>
    obtain ⟨gain, cap, hGain, hCap, hPositive⟩ := h.cap hBoundary
    obtain ⟨v, hv⟩ := allFinite_iff.mp h.velocity
    obtain ⟨e, he⟩ := allFinite_iff.mp h.error
    rw [hBoundary] at hCommand
    have hVelocity := turned_allFinite delta hCommand
    have hNorm : isFinite (reference.velocityEnu + Vec3.scale p.lioPositionFeedbackGainSInv
        (reference.positionEnu - lio.positionEnu)).norm = true := by
      rw [hv, he, hGain, scale_lift, lift_add, norm_real]
      rfl
    simp only [beq_self_eq_true, if_true] at hVelocity
    simp only [beq_self_eq_true, if_true, hNorm, hVelocity]
    rfl

noncomputable def alignedReference : Reference (ExactReal ℝ) where
  identity := ⟨1, "mission", 0, 1, 1, 1, 1, .main, 1, 2⟩
  positionEnu := Vec3.lift ⟨1, 0, 0⟩
  velocityEnu := Vec3.lift ⟨1, 0, 0⟩
  accelerationEnu := Vec3.lift ⟨0, 0, 0⟩
  yawEnu := .finite 0
  yawRateEnuRadS := .finite 0

noncomputable def alignedLio : LioState (ExactReal ℝ) where
  positionEnu := Vec3.lift ⟨0, 0, 0⟩
  velocityEnu := Vec3.lift ⟨1, 0, 0⟩
  yawEnu := .finite 0
  positionValid := true
  velocityValid := true
  orientationValid := true
  navigationValid := true
  covarianceValid := true
  observabilityValid := true
  correctionFresh := true
  propagationValid := true
  relativeHeadingValid := true
  tiltValid := true
  extrinsicValid := true
  localizationEpoch := 1
  sequence := 1
  sourceStampNs := 1
  receiveSteadyNs := 1

noncomputable def alignedPx4 : RawPx4State (ExactReal ℝ) where
  positionNed := Vec3.lift ⟨0, 0, 0⟩
  velocityNed := Vec3.lift ⟨0, 1, 0⟩
  yawNed := .finite 0
  xyValid := true
  zValid := true
  vxyValid := true
  vzValid := true
  headingValid := true
  headingGoodForControl := true
  deadReckoning := false
  headingVarianceRad2 := .finite 0
  timestampUs := 1
  timestampSampleUs := 1
  receiveSteadyNs := 1
  resetCounters := {}

noncomputable def alignedTiming : TimingWitness (ExactReal ℝ) :=
  ⟨1, 1, 1, 1, 1, 1, 1, true, .finite 0, 1, .finite 0, .finite 0, .finite 0, .finite 0, .finite 0,
    .finite 0, .finite 0, .finite 0, .finite 0, .finite 0⟩

noncomputable def shadowPolicy : Policy (ExactReal ℝ) where
  mode := .shadow
  boundary := .positionVelocityAcceleration
  experimentId := "experiment"
  velocityLambda := .finite 0
  lioPositionFeedbackGainSInv := .finite 0
  maximumVelocityMps := none
  maximumTimingBoundS := none
  maximumReferenceAgeS := none
  expectedPx4ResetCounters := none
  expectedLioLocalizationEpoch := none
  rejectDeadReckoning := true

theorem aligned_checkInputs :
    checkInputs alignedReference alignedLio alignedPx4 alignedTiming shadowPolicy = .none := by
  have hPolicy : validPolicy shadowPolicy = true := by
    simp [validPolicy, shadowPolicy, validBoundary, lit_finite]
  have hReference : validReference alignedReference = true := by
    simp [validReference, alignedReference, validIdentity]
  have hLio : validLioState alignedLio alignedReference shadowPolicy = true := by
    simp [validLioState, alignedLio, alignedReference, shadowPolicy]
  have hRaw : validPx4State alignedPx4 shadowPolicy = true := by
    simp [validPx4State, alignedPx4, shadowPolicy, lit_finite]
  have hTiming : validTiming alignedTiming = true := by
    simp [validTiming, alignedTiming, validNonNegative, lit_finite]
  have hTuple : validTimingSnapshotTuple alignedTiming alignedReference alignedLio alignedPx4 =
      true := by
    simp [validTimingSnapshotTuple, alignedTiming, alignedReference, alignedLio, alignedPx4]
  have hAge : referenceAgeMatchesSampleAndEvaluation alignedTiming alignedReference = true := by
    have hZero : (ofInt (1 - 1) * lit (1 / 10 ^ 9) : ExactReal ℝ) = .finite 0 := by
      change (finite (((1 - 1 : ℤ) : ℝ) * ((1 / 10 ^ 9 : ℚ) : ℝ))) = _
      simp
    simp only [referenceAgeMatchesSampleAndEvaluation, alignedTiming, alignedReference, hZero]
    simp [lit_finite]
  have hBound : ¬ alignedTiming.totalBoundS + lit (1 / 10 ^ 12) <
      conservativeTimingBoundV1 alignedTiming := by
    simp [conservativeTimingBoundV1, overlappingAge, alignedTiming, lit_finite]
  unfold checkInputs
  simp only [hPolicy, hReference, hLio, hRaw, hTiming, hTuple, hAge, hBound]
  rfl

theorem adapt_coherent_aligned : ∃ adapted ∈ (Result.of
        (adapt alignedReference alignedLio alignedPx4 alignedTiming shadowPolicy)).output,
      Coherent alignedReference alignedLio alignedPx4 shadowPolicy adapted := by
  obtain ⟨hPolicy, hReference, hLio, hRaw⟩ := checkInputs_none aligned_checkInputs
  obtain ⟨adapted, hAdapted⟩ := transformReference_isSome
    (finiteInputs_of_valid hPolicy hReference hLio hRaw) ⟨0, rfl⟩
  have hOutput : adapted ∈ (Result.of
      (adapt alignedReference alignedLio alignedPx4 alignedTiming shadowPolicy)).output := by
    unfold adapt
    rw [aligned_checkInputs, hAdapted]
    rfl
  exact ⟨adapted, hOutput, ((adapt_coherent alignedReference alignedLio alignedPx4 alignedTiming
    shadowPolicy).2 adapted hOutput).2⟩

end Adapter

end UavNavigation.NavigationMode
