import UavNavigation.ExactReals
import UavNavigation.OdometryBridge

/-!
# The two frame conversions are inverse

Both constant matrices are half turns, so applied twice they cancel, and an
attitude carried through them comes back up to the sign of its quaternion. The
covariances of a message decide whether the external conversion accepts it; they
take no part in its motion.
-/

open scoped Quaternion

namespace UavNavigation

set_option autoImplicit false

open FloatOps UnitQuaternion ExactReal FrameConverter

/-- The half turn that exchanges north with east and up with down. -/
noncomputable def nedTurn : UnitQuaternion where
  val := ⟨0, Real.sqrt (1 / 2), Real.sqrt (1 / 2), 0⟩
  property := by
    apply mem_unitary_of_sum_sq
    have hSquare := Real.sq_sqrt (by norm_num : (0 : ℝ) ≤ 1 / 2)
    simp only [hSquare]
    norm_num

def frdTurn : UnitQuaternion where
  val := ⟨0, 1, 0, 0⟩
  property := by
    apply mem_unitary_of_sum_sq
    norm_num

theorem nedTurn_mul_self : nedTurn * nedTurn = -1 := by
  have hSquare := Real.mul_self_sqrt (by norm_num : (0 : ℝ) ≤ 1 / 2)
  apply Subtype.ext
  change nedTurn.1 * nedTurn.1 = -(1 : ℍ[ℝ])
  ext
  · rw [Quaternion.re_mul]
    simp only [nedTurn, Quaternion.re_neg, Quaternion.re_one]
    linarith
  · rw [Quaternion.imI_mul]
    simp [nedTurn]
  · rw [Quaternion.imJ_mul]
    simp [nedTurn]
  · rw [Quaternion.imK_mul]
    simp [nedTurn]

theorem frdTurn_mul_self : frdTurn * frdTurn = -1 := by
  apply Subtype.ext
  change frdTurn.1 * frdTurn.1 = -(1 : ℍ[ℝ])
  ext
  · rw [Quaternion.re_mul]
    simp [frdTurn]
  · rw [Quaternion.imI_mul]
    simp [frdTurn]
  · rw [Quaternion.imJ_mul]
    simp [frdTurn]
  · rw [Quaternion.imK_mul]
    simp [frdTurn]

theorem cEnuNed_eq : (cEnuNed : Matrix3 (ExactReal ℝ)) = (rotationMatrix nedTurn.1).lift := by
  have hSquare := Real.mul_self_sqrt (by norm_num : (0 : ℝ) ≤ 1 / 2)
  simp only [cEnuNed, rotationMatrix, nedTurn, Matrix3.lift, Vec3.lift, lit_finite, hSquare]
  congr 3 <;> push_cast <;> norm_num

theorem cFluFrd_eq : (cFluFrd : Matrix3 (ExactReal ℝ)) = (rotationMatrix frdTurn.1).lift := by
  simp only [cFluFrd, rotationMatrix, frdTurn, Matrix3.lift, Vec3.lift, lit_finite]
  congr 3 <;> push_cast <;> norm_num

theorem cFluFrd_inverse : (cFluFrd : Matrix3 (ExactReal ℝ)).inverse = cFluFrd := by
  simp only [cFluFrd, Matrix3.inverse, lit_finite, mul_finite, sub_finite, add_finite]
  rw [div_finite _ (by push_cast; norm_num)]
  congr 3 <;> push_cast <;> norm_num

theorem smul_smul_of_half {t : UnitQuaternion} (h : t * t = -1) (v : Vec3 ℝ) : t • t • v = v := by
  rw [← mul_smul, h, smul_def]
  change (rotationMatrix (-(1 : UnitQuaternion).1)).times v = v
  rw [rotationMatrix_neg, rotationMatrix_one]
  ext <;> simp [Matrix3.times]

theorem turned_twice (q : UnitQuaternion) : nedTurn * (nedTurn * q * frdTurn) * frdTurn = q := by
  calc nedTurn * (nedTurn * q * frdTurn) * frdTurn
      = (nedTurn * nedTurn) * q * (frdTurn * frdTurn) := by group
    _ = q := by rw [nedTurn_mul_self, frdTurn_mul_self]; simp

theorem rotation_lift_mul (p q : UnitQuaternion) :
    (rotationMatrix p.1).lift.mul (rotationMatrix q.1).lift = (rotationMatrix (p * q).1).lift := by
  rw [mul_lift, rotationMatrix_mul]

theorem rotation_lift_apply (q : UnitQuaternion) (v : Vec3 ℝ) :
    (rotationMatrix q.1).lift.apply v.lift = (q • v).lift := rfl

theorem rotation_lift_transpose (q : UnitQuaternion) :
    (rotationMatrix q.1).lift.transpose = (rotationMatrix q⁻¹.1).lift := by
  rw [transpose_lift, rotationMatrix_inv]

theorem exists_lift_of_apply {a : Matrix3 ℝ} {v : Vec3 (ExactReal ℝ)}
    (h : (a.lift.apply v).allFinite = true) : ∃ u : Vec3 ℝ, v = u.lift := by
  rw [← Vec3.allFinite_iff]
  obtain ⟨x, y, z⟩ := v
  simp only [Vec3.allFinite, Bool.and_eq_true] at h
  have hRow := h.1.1
  cases x with
  | nonFinite => exact absurd hRow Bool.false_ne_true
  | finite x =>
    cases y with
    | nonFinite => exact absurd hRow Bool.false_ne_true
    | finite y =>
      cases z with
      | nonFinite => exact absurd hRow Bool.false_ne_true
      | finite z => rfl

theorem finite_of_norm {q : Quaternion (ExactReal ℝ)} (h : isFinite q.norm = true) :
    ∃ p : Quaternion ℝ, q = p.lift := by
  obtain ⟨x, y, z, w⟩ := q
  cases x with
  | nonFinite => exact absurd h Bool.false_ne_true
  | finite x =>
    cases y with
    | nonFinite => exact absurd h Bool.false_ne_true
    | finite y =>
      cases z with
      | nonFinite => exact absurd h Bool.false_ne_true
      | finite z =>
        cases w with
        | nonFinite => exact absurd h Bool.false_ne_true
        | finite w => exact ⟨⟨x, y, z, w⟩, rfl⟩

theorem normalized_of_norm {q : Quaternion (ExactReal ℝ)} (hFinite : q.allFinite = true)
    (hNorm : ¬ q.norm < lit (1 / 10 ^ 9)) : ∃ r : UnitQuaternion, q.normalized = coordinates r.1 := by
  obtain ⟨p, rfl⟩ := exists_lift_of_allFinite hFinite
  have hValue : p.lift.norm = .finite (Real.sqrt (p.x * p.x + p.y * p.y + p.z * p.z + p.w * p.w)) :=
    sqrt_finite (add_nonneg (add_nonneg (add_nonneg (mul_self_nonneg _)
      (mul_self_nonneg _)) (mul_self_nonneg _)) (mul_self_nonneg _))
  rw [hValue, lit_finite, lt_finite] at hNorm
  have hPositive : 0 < p.x * p.x + p.y * p.y + p.z * p.z + p.w * p.w := by
    by_contra hZero
    rw [Real.sqrt_eq_zero_of_nonpos (not_lt.mp hZero)] at hNorm
    exact hNorm (by push_cast; norm_num)
  exact ⟨unit p hPositive, normalized_unit p hPositive⟩

namespace UnitQuaternion.SameUpToSign
variable {r : Quaternion (ExactReal ℝ)} {q : UnitQuaternion}

variable (h : SameUpToSign r q)
include h

theorem flip : SameUpToSign r.flip q := by
  have hFlip (p : UnitQuaternion) : (coordinates p.1).flip = coordinates (-p).1 := by
    have hCoe : (-p).1 = -p.1 := rfl
    simp only [coordinates, Quaternion.lift, Quaternion.flip, lit_finite, mul_finite, hCoe]
    congr 2 <;> simp
  rcases h with rfl | rfl
  · exact .inr (hFlip q)
  · exact .inl (by rw [hFlip, neg_neg])

theorem continuous (previous : Option (Quaternion (ExactReal ℝ))) :
    SameUpToSign (continuous previous r) q := by
  fun_cases continuous
  case case1 => exact h.flip
  all_goals exact h

theorem norm : r.norm = .finite 1 := by
  have hOne (p : UnitQuaternion) : (coordinates p.1).norm = .finite 1 := by
    have hSquare := squaredNorm_coordinates p
    unfold Quaternion.squaredNorm at hSquare
    unfold Quaternion.norm
    rw [hSquare, sqrt_finite zero_le_one]
    exact congrArg _ Real.sqrt_one
  rcases h with rfl | rfl
  · exact hOne q
  · exact hOne (-q)

theorem allFinite : r.allFinite = true := by
  rcases h with rfl | rfl <;> rfl

theorem norm_checks : isFinite r.norm = true ∧ ¬ r.norm < lit (1 / 10 ^ 9) := by
  rw [h.norm, lit_finite, lt_finite]
  exact ⟨rfl, by push_cast; norm_num⟩

end UnitQuaternion.SameUpToSign

/-! ## Messages that describe one motion -/

namespace ExternalOdometry

def nedSample {D : Type} (frame : ExternalOdometryFrame D) (resetCounter : Nat) :
    Px4OdometrySample D where
  timestampNs := frame.timestampNs
  poseFrame := .ned
  velocityFrame := .ned
  position := frame.positionNed
  orientation := frame.orientationNed
  velocity := frame.velocityNed
  angularVelocity := frame.angularVelocityBodyFrd
  positionVariance := frame.positionVariance
  velocityVariance := frame.velocityVariance
  orientationVariance := frame.orientationVariance
  resetCounter
  angularVelocityValid := true

def nedVelocity {D : Type} [FloatOps D] (sample : Px4OdometrySample D) : Vec3 D :=
  match sample.velocityFrame with
  | .bodyFrd => sample.orientation.normalized.toRotationMatrix.apply sample.velocity
  | _ => sample.velocity

section Definitions
variable {D : Type} [FloatOps D]

/-- The converted sample has the time and the motion of the message. -/
structure SameRosMotion (converted : ConvertedOdometry D) (message : LioOdometry D) : Prop where
  time : rosTimeToNanoseconds message.stamp.sec message.stamp.nanosec = some converted.timestampNs
  position : converted.position = message.position
  attitude : converted.orientation.toRotationMatrix =
    message.orientation.normalized.toRotationMatrix
  velocity : converted.velocityBody = message.linear
  angular : converted.angularVelocityBody = message.angular

/-- The message carries the converted sample under the frames of the estimator. -/
structure Reports (message : LioOdometry D) (converted : ConvertedOdometry D) : Prop where
  frameId : message.frameId = "lio_odom"
  childFrameId : message.childFrameId = "base_link"
  time : rosTimeToNanoseconds message.stamp.sec message.stamp.nanosec = some converted.timestampNs
  position : message.position = converted.position
  orientation : message.orientation = converted.orientation
  linear : message.linear = converted.velocityBody
  angular : message.angular = converted.angularVelocityBody

/-- The external frame has the time and the motion of the sample. -/
structure SameNedMotion (frame : ExternalOdometryFrame D) (sample : Px4OdometrySample D) :
    Prop where
  time : frame.timestampNs = sample.timestampNs
  position : frame.positionNed = sample.position
  attitude : frame.orientationNed.toRotationMatrix = sample.orientation.normalized.toRotationMatrix
  velocity : frame.velocityNed = nedVelocity sample
  angular : frame.angularVelocityBodyFrd = sample.angularVelocity

variable [SelfAdjointEigenSolver D]

/-- The three covariance blocks of the message turn into positive diagonals. -/
def CovarianceUsable (message : LioOdometry D) : Prop :=
  (transformedCovariances message message.orientation.normalized.toRotationMatrix).isSome = true

end Definitions

section Exact

theorem allFinite_of_validDiagonal {a : Matrix3 (ExactReal ℝ)} (h : validDiagonal a = true) :
    a.diagonal.allFinite = true := by
  simp only [validDiagonal, validVariance, Bool.and_eq_true] at h
  simp only [Vec3.allFinite, h.1.1.1, h.1.2.1, h.2.1, Bool.and_self]

theorem orientationNed_of (q : UnitQuaternion) : SameUpToSign (Quaternion.ofRotationMatrix
        ((cEnuNed.mul (rotationMatrix q.1).lift).mul cFluFrd.inverse)).normalized
      (nedTurn * q * frdTurn) := by
  rw [cFluFrd_inverse, cEnuNed_eq, cFluFrd_eq, rotation_lift_mul, rotation_lift_mul]
  have h := ofRotationMatrix_rotationMatrix (nedTurn * q * frdTurn)
  rw [h.normalized]
  exact h

variable [SelfAdjointEigenSolver (ExactReal ℝ)]

theorem transformedCovarianceDiagonal_allFinite {covariance : Fin 36 → ExactReal ℝ}
    {blockOffset : Nat} {transform : Matrix3 (ExactReal ℝ)} {diagonal : Vec3 (ExactReal ℝ)}
    (h : transformedCovarianceDiagonal covariance blockOffset transform = some diagonal) :
    diagonal.allFinite = true := by
  unfold transformedCovarianceDiagonal at h
  split at h
  · cases h
  · simp only [Option.ite_none_left_eq_some, Bool.not_eq_true', Bool.not_eq_false,
      Option.some.injEq] at h
    obtain ⟨-, -, hDiagonal, rfl⟩ := h
    exact allFinite_of_validDiagonal hDiagonal

theorem transformedCovariances_allFinite {message : LioOdometry (ExactReal ℝ)}
    {rotation : Matrix3 (ExactReal ℝ)} {p o v : Vec3 (ExactReal ℝ)}
    (h : transformedCovariances message rotation = some (p, o, v)) :
    p.allFinite = true ∧ o.allFinite = true ∧ v.allFinite = true := by
  unfold transformedCovariances at h
  split at h
  · rename_i hp ho hv
    cases h
    exact ⟨transformedCovarianceDiagonal_allFinite hp, transformedCovarianceDiagonal_allFinite ho,
      transformedCovarianceDiagonal_allFinite hv⟩
  · cases h

/-- Everything an accepted message says, and what it becomes. -/
structure Accepted (message : LioOdometry (ExactReal ℝ)) (frame : ExternalOdometryFrame (ExactReal ℝ))
    (q : UnitQuaternion) (p v w : Vec3 ℝ) : Prop where
  frameTime : rosTimeToNanoseconds message.stamp.sec message.stamp.nanosec = some frame.timestampNs
  timePositive : 0 < frame.timestampNs
  attitude : message.orientation.normalized.toRotationMatrix = (rotationMatrix q.1).lift
  position : message.position = p.lift
  linear : message.linear = v.lift
  angular : message.angular = w.lift
  usable : CovarianceUsable message
  positionNed : frame.positionNed = (nedTurn • p).lift
  orientationNed : SameUpToSign frame.orientationNed (nedTurn * q * frdTurn)
  velocityNed : frame.velocityNed = ((nedTurn * q) • v).lift
  angularNed : frame.angularVelocityBodyFrd = (frdTurn • w).lift

section
variable {message : LioOdometry (ExactReal ℝ)} {frame : ExternalOdometryFrame (ExactReal ℝ)}

theorem convert_accepted (h : convertRosLioOdometry message = some frame) :
    ∃ q p v w, Accepted message frame q p v w := by
  unfold convertRosLioOdometry at h
  split at h
  · cases h
  split at h
  · cases h
  rename_i timestampNs hTime
  split at h
  · cases h
  rename_i hPositive
  split at h
  · cases h
  rename_i hNorm
  simp only [Bool.or_eq_true, Bool.not_eq_true', decide_eq_true_eq, not_or,
    Bool.not_eq_false] at hNorm
  obtain ⟨q, hNormalized⟩ := normalized_of_norm hNorm.1 hNorm.2
  have hAttitude : message.orientation.normalized.toRotationMatrix = (rotationMatrix q.1).lift := by
    rw [hNormalized, toRotationMatrix_coordinates]
  dsimp only at h
  split at h
  · cases h
  rename_i p o v hCovariances
  split at h
  · cases h
  rename_i hValid
  simp only [Bool.or_eq_true, Bool.not_eq_true', not_or, Bool.not_eq_false, Bool.and_eq_true] at hValid
  obtain ⟨⟨⟨⟨hPosition, -⟩, hVelocity⟩, hAngular⟩, -⟩ := hValid
  rw [hAttitude, cEnuNed_eq, rotation_lift_mul] at hVelocity
  rw [cEnuNed_eq] at hPosition
  rw [cFluFrd_eq] at hAngular
  obtain ⟨position, hPosition⟩ := exists_lift_of_apply hPosition
  obtain ⟨linear, hLinear⟩ := exists_lift_of_apply hVelocity
  obtain ⟨angular, hAngular⟩ := exists_lift_of_apply hAngular
  cases h
  refine ⟨q, position, linear, angular, hTime, not_le.mp hPositive, hAttitude, hPosition, hLinear,
    hAngular, ?_, ?_, ?_, ?_, ?_⟩
  · unfold CovarianceUsable
    rw [hCovariances]
    rfl
  · dsimp only
    rw [hPosition, cEnuNed_eq, rotation_lift_apply]
  · dsimp only
    rw [hAttitude]
    exact orientationNed_of q
  · dsimp only
    rw [hAttitude, hLinear, cEnuNed_eq, rotation_lift_mul, rotation_lift_apply]
  · dsimp only
    rw [hAngular, cFluFrd_eq, rotation_lift_apply]

theorem Accepted.of_attitude {q : UnitQuaternion} {p v w : Vec3 ℝ}
    (h : Accepted message frame q p v w) {u : UnitQuaternion}
    (hu : message.orientation.normalized.toRotationMatrix = (rotationMatrix u.1).lift) :
    frame.orientationNed.toRotationMatrix = (rotationMatrix (nedTurn * u * frdTurn).1).lift ∧
      frame.velocityNed = ((nedTurn * u) • v).lift := by
  have hSame : (rotationMatrix q.1).lift = (rotationMatrix u.1).lift := h.attitude.symm.trans hu
  constructor
  · rw [h.orientationNed.toRotationMatrix, ← rotation_lift_mul, ← rotation_lift_mul, hSame,
      rotation_lift_mul, rotation_lift_mul]
  · rw [h.velocityNed, ← rotation_lift_apply, ← rotation_lift_mul, hSame, rotation_lift_mul,
      rotation_lift_apply]

end

theorem convert_isSome_iff {message : LioOdometry (ExactReal ℝ)} {timestampNs : Int}
    {u : UnitQuaternion} {p v w : Vec3 ℝ} (hFrame : message.frameId = "lio_odom")
    (hChild : message.childFrameId = "base_link")
    (hTime : rosTimeToNanoseconds message.stamp.sec message.stamp.nanosec = some timestampNs)
    (hPositive : 0 < timestampNs) (hOrientation : SameUpToSign message.orientation u)
    (hPosition : message.position = p.lift) (hLinear : message.linear = v.lift)
    (hAngular : message.angular = w.lift) :
    (convertRosLioOdometry message).isSome = true ↔ CovarianceUsable message := by
  constructor
  · intro hSome
    obtain ⟨frame, hFrameSome⟩ := Option.isSome_iff_exists.mp hSome
    obtain ⟨q, p, v, w, hAccepted⟩ := convert_accepted hFrameSome
    exact hAccepted.usable
  · intro hUsable
    obtain ⟨⟨a, b, c⟩, hDiagonals⟩ := Option.isSome_iff_exists.mp hUsable
    obtain ⟨ha, hb, hc⟩ := transformedCovariances_allFinite hDiagonals
    have hMatrix : message.orientation.normalized.toRotationMatrix = (rotationMatrix u.1).lift := by
      rw [hOrientation.normalized, hOrientation.toRotationMatrix]
    have hNorm : ¬ (!message.orientation.allFinite ||
        message.orientation.norm < lit (1 / 10 ^ 9)) = true := by
      rw [hOrientation.allFinite, Bool.not_true, Bool.false_or, decide_eq_true_eq]
      exact hOrientation.norm_checks.2
    have hLinearNed : (cEnuNed.mul (rotationMatrix u.1).lift).apply message.linear =
        ((nedTurn * u) • v).lift := by
      rw [hLinear, cEnuNed_eq, rotation_lift_mul, rotation_lift_apply]
    have hPositionNed : cEnuNed.apply message.position = (nedTurn • p).lift := by
      rw [hPosition, cEnuNed_eq, rotation_lift_apply]
    have hAngularFrd : cFluFrd.apply message.angular = (frdTurn • w).lift := by
      rw [hAngular, cFluFrd_eq, rotation_lift_apply]
    unfold convertRosLioOdometry
    rw [if_neg (by rw [hFrame, hChild]; simp), hTime]
    dsimp only
    rw [if_neg (not_le.mpr hPositive), if_neg hNorm, hDiagonals]
    dsimp only
    rw [hMatrix, hLinearNed, hPositionNed, hAngularFrd, (orientationNed_of u).allFinite, ha, hb, hc]
    rfl

/-- The world orientation that `convert` assembles the sample with. -/
def worldFromFlu {D : Type} [FloatOps D] (previous : Option (Quaternion D))
    (sample : Px4OdometrySample D) : Matrix3 D :=
  (cEnuNed.mul (continuous previous sample.orientation.normalized).toRotationMatrix).mul cFluFrd

section
omit [SelfAdjointEigenSolver (ExactReal ℝ)]

theorem worldFromFlu_eq (previous : Option (Quaternion (ExactReal ℝ)))
    {sample : Px4OdometrySample (ExactReal ℝ)} {s : UnitQuaternion}
    (h : SameUpToSign sample.orientation.normalized s) :
    worldFromFlu previous sample = (rotationMatrix (nedTurn * s * frdTurn).1).lift := by
  unfold worldFromFlu
  rw [(h.continuous previous).toRotationMatrix, cEnuNed_eq, cFluFrd_eq, rotation_lift_mul,
    rotation_lift_mul]

theorem convert_ok {previous : Option (Quaternion (ExactReal ℝ))}
    {sample : Px4OdometrySample (ExactReal ℝ)} {converted : ConvertedOdometry (ExactReal ℝ)}
    (h : (convert previous sample).2 = .ok converted) :
    0 < sample.timestampNs ∧ sample.position.allFinite = true ∧ sample.velocity.allFinite = true ∧
      sample.angularVelocity.allFinite = true ∧ isFinite sample.orientation.norm = true ∧
      ¬ sample.orientation.norm < lit (1 / 10 ^ 9) ∧
      ((sample.velocityFrame = .ned ∧ converted = assemble sample (worldFromFlu previous sample)
            (cEnuNed.apply sample.position) (cEnuNed.apply sample.velocity)) ∨
        (sample.velocityFrame = .bodyFrd ∧ converted =
          assemble sample (worldFromFlu previous sample) (cEnuNed.apply sample.position)
            (((worldFromFlu previous sample).mul cFluFrd).apply sample.velocity))) := by
  unfold convert at h
  split at h
  · cases h
  rename_i hFinite
  simp only [Bool.or_eq_true, Bool.not_eq_true', decide_eq_true_eq, not_or, Bool.not_eq_false,
    not_le] at hFinite
  obtain ⟨⟨⟨hTime, hPosition⟩, hVelocity⟩, hAngular⟩ := hFinite
  split at h
  · cases h
  split at h
  · cases h
  rename_i hNorm
  simp only [Bool.or_eq_true, Bool.not_eq_true', decide_eq_true_eq, not_or,
    Bool.not_eq_false] at hNorm
  refine ⟨hTime, hPosition, hVelocity, hAngular, hNorm.1, hNorm.2, ?_⟩
  split at h
  · split at h
    · rename_i hFrame
      cases h
      exact .inl ⟨hFrame, rfl⟩
    · cases h
    · rename_i hFrame
      cases h
      exact .inr ⟨hFrame, rfl⟩
    · cases h
  · cases h
  · cases h

theorem convert_of_checks (previous : Option (Quaternion (ExactReal ℝ)))
    {sample : Px4OdometrySample (ExactReal ℝ)} (hTime : 0 < sample.timestampNs)
    (hPosition : sample.position.allFinite = true) (hVelocity : sample.velocity.allFinite = true)
    (hAngular : sample.angularVelocity.allFinite = true)
    (hValid : sample.angularVelocityValid = true)
    (hNorm : isFinite sample.orientation.norm = true ∧ ¬ sample.orientation.norm < lit (1 / 10 ^ 9))
    (hPose : sample.poseFrame = .ned) (hFrame : sample.velocityFrame = .ned) :
    (convert previous sample).2 = .ok (assemble sample (worldFromFlu previous sample)
        (cEnuNed.apply sample.position) (cEnuNed.apply sample.velocity)) := by
  have hUnit : ¬ (!isFinite sample.orientation.norm ||
      sample.orientation.norm < lit (1 / 10 ^ 9)) = true := by
    rw [hNorm.1, Bool.not_true, Bool.false_or, decide_eq_true_eq]
    exact hNorm.2
  unfold convert
  rw [if_neg (by simp [hTime, hPosition, hVelocity, hAngular]), if_neg (by simp [hValid]),
    if_neg hUnit]
  rw [hPose, hFrame]
  rfl

end

/-! ## Round trips -/

theorem ros_round_trip {message : LioOdometry (ExactReal ℝ)}
    {frame : ExternalOdometryFrame (ExactReal ℝ)} (h : convertRosLioOdometry message = some frame)
    (previous : Option (Quaternion (ExactReal ℝ))) (resetCounter : Nat) :
    ∃ converted, (convert previous (nedSample frame resetCounter)).2 = .ok converted ∧
        SameRosMotion converted message := by
  obtain ⟨q, p, v, w, hMessage⟩ := convert_accepted h
  have hOrientation : SameUpToSign (nedSample frame resetCounter).orientation.normalized
      (nedTurn * q * frdTurn) := by
    change SameUpToSign frame.orientationNed.normalized _
    rw [hMessage.orientationNed.normalized]
    exact hMessage.orientationNed
  have hWorld : worldFromFlu previous (nedSample frame resetCounter) =
      (rotationMatrix q.1).lift := by
    rw [worldFromFlu_eq previous hOrientation, turned_twice]
  refine ⟨_, convert_of_checks previous hMessage.timePositive ?_ ?_ ?_ rfl
    hMessage.orientationNed.norm_checks rfl rfl, ?_⟩
  · change frame.positionNed.allFinite = true
    rw [hMessage.positionNed]
    rfl
  · change frame.velocityNed.allFinite = true
    rw [hMessage.velocityNed]
    rfl
  · change frame.angularVelocityBodyFrd.allFinite = true
    rw [hMessage.angularNed]
    rfl
  rw [hWorld]
  constructor
  · exact hMessage.frameTime
  · change cEnuNed.apply frame.positionNed = message.position
    rw [hMessage.positionNed, hMessage.position, cEnuNed_eq, rotation_lift_apply,
      smul_smul_of_half nedTurn_mul_self]
  · change (Quaternion.ofRotationMatrix (rotationMatrix q.1).lift).normalized.toRotationMatrix = _
    have hSame := ofRotationMatrix_rotationMatrix q
    rw [hSame.normalized, hSame.toRotationMatrix, hMessage.attitude]
  · change (rotationMatrix q.1).lift.transpose.apply (cEnuNed.apply frame.velocityNed) =
      message.linear
    rw [hMessage.velocityNed, hMessage.linear, rotation_lift_transpose, cEnuNed_eq,
      rotation_lift_apply, rotation_lift_apply, mul_smul, smul_smul_of_half nedTurn_mul_self,
      inv_smul_smul]
  · change cFluFrd.apply frame.angularVelocityBodyFrd = message.angular
    rw [hMessage.angularNed, hMessage.angular, cFluFrd_eq, rotation_lift_apply,
      smul_smul_of_half frdTurn_mul_self]

theorem ned_round_trip {previous : Option (Quaternion (ExactReal ℝ))}
    {sample : Px4OdometrySample (ExactReal ℝ)} {converted : ConvertedOdometry (ExactReal ℝ)}
    (h : (convert previous sample).2 = .ok converted)
    {message : LioOdometry (ExactReal ℝ)} (hReports : Reports message converted) :
    ((convertRosLioOdometry message).isSome = true ↔ CovarianceUsable message) ∧
      ∀ frame, convertRosLioOdometry message = some frame → SameNedMotion frame sample := by
  obtain ⟨hTime, hPosition, hVelocity, hAngular, hFinite, hNorm, hConverted⟩ := convert_ok h
  obtain ⟨p, hPosition⟩ := Vec3.allFinite_iff.mp hPosition
  obtain ⟨v, hVelocity⟩ := Vec3.allFinite_iff.mp hVelocity
  obtain ⟨w, hAngular⟩ := Vec3.allFinite_iff.mp hAngular
  obtain ⟨o, hOrientation⟩ := finite_of_norm hFinite
  obtain ⟨s, hs⟩ := normalized_of_norm (by rw [hOrientation]; rfl) hNorm
  have hWorld := worldFromFlu_eq previous (.inl hs : SameUpToSign sample.orientation.normalized s)
  -- the velocity of the body, whichever frame the sample's velocity is in
  obtain ⟨x, hBody, hNed⟩ : ∃ x : Vec3 ℝ, converted.velocityBody =
      ((nedTurn * s * frdTurn)⁻¹ • nedTurn • x).lift ∧ nedVelocity sample = x.lift := by
    rcases hConverted with ⟨hFrame, rfl⟩ | ⟨hFrame, rfl⟩
    · refine ⟨v, ?_, ?_⟩
      · change (worldFromFlu previous sample).transpose.apply (cEnuNed.apply sample.velocity) = _
        rw [hWorld, hVelocity, rotation_lift_transpose, cEnuNed_eq, rotation_lift_apply,
          rotation_lift_apply]
      · unfold nedVelocity
        rw [hFrame, hVelocity]
    · refine ⟨s • v, ?_, ?_⟩
      · change (worldFromFlu previous sample).transpose.apply
          (((worldFromFlu previous sample).mul cFluFrd).apply sample.velocity) = _
        rw [hWorld, hVelocity, rotation_lift_transpose, cFluFrd_eq, rotation_lift_mul,
          rotation_lift_apply, rotation_lift_apply, mul_smul, mul_smul (nedTurn * s),
          smul_smul_of_half frdTurn_mul_self, mul_smul]
      · unfold nedVelocity
        rw [hFrame, hs, hVelocity, toRotationMatrix_coordinates, rotation_lift_apply]
  have hShape : converted.timestampNs = sample.timestampNs ∧
      converted.position = cEnuNed.apply sample.position ∧
      converted.orientation = (Quaternion.ofRotationMatrix (worldFromFlu previous sample)).normalized ∧
      converted.angularVelocityBody = cFluFrd.apply sample.angularVelocity := by
    rcases hConverted with ⟨-, rfl⟩ | ⟨-, rfl⟩ <;> exact ⟨rfl, rfl, rfl, rfl⟩
  obtain ⟨hStamp, hWorldPosition, hAttitude, hWorldAngular⟩ := hShape
  have hMessageOrientation : SameUpToSign message.orientation (nedTurn * s * frdTurn) := by
    have hSame := ofRotationMatrix_rotationMatrix (nedTurn * s * frdTurn)
    rw [hReports.orientation, hAttitude, hWorld, hSame.normalized]
    exact hSame
  have hMessageMatrix : message.orientation.normalized.toRotationMatrix =
      (rotationMatrix (nedTurn * s * frdTurn).1).lift := by
    rw [hMessageOrientation.normalized, hMessageOrientation.toRotationMatrix]
  have hMessagePosition : message.position = (nedTurn • p).lift := by
    rw [hReports.position, hWorldPosition, hPosition, cEnuNed_eq, rotation_lift_apply]
  have hMessageAngular : message.angular = (frdTurn • w).lift := by
    rw [hReports.angular, hWorldAngular, hAngular, cFluFrd_eq, rotation_lift_apply]
  have hMessageTime : rosTimeToNanoseconds message.stamp.sec message.stamp.nanosec =
      some sample.timestampNs := by
    rw [hReports.time, hStamp]
  have hMessageLinear := hReports.linear.trans hBody
  refine ⟨convert_isSome_iff hReports.frameId hReports.childFrameId hMessageTime hTime
    hMessageOrientation hMessagePosition hMessageLinear hMessageAngular, ?_⟩
  intro frame hFrame
  obtain ⟨q, p', v', w', hAccepted⟩ := convert_accepted hFrame
  obtain ⟨hNedAttitude, hNedVelocity⟩ := hAccepted.of_attitude hMessageMatrix
  constructor
  · have hSame := hAccepted.frameTime
    rw [hMessageTime] at hSame
    exact (Option.some.inj hSame).symm
  · rw [hAccepted.positionNed, ← rotation_lift_apply, ← hAccepted.position, hMessagePosition,
      rotation_lift_apply, smul_smul_of_half nedTurn_mul_self, hPosition]
  · rw [hNedAttitude, turned_twice, hs, toRotationMatrix_coordinates]
  · rw [hNedVelocity, ← rotation_lift_apply, ← hAccepted.linear, hMessageLinear,
      rotation_lift_apply, mul_smul, smul_inv_smul, smul_smul_of_half nedTurn_mul_self, hNed]
  · rw [hAccepted.angularNed, ← rotation_lift_apply, ← hAccepted.angular, hMessageAngular,
      rotation_lift_apply, smul_smul_of_half frdTurn_mul_self, hAngular]

/-- The external conversion is undone by the converter, whatever attitude it saw before; and the
converter is undone by the external conversion, which takes a message that carries the converted
sample exactly when its covariances are usable. -/
theorem conversions_inverse : (∀ message frame, convertRosLioOdometry message = some frame →
      ∀ (previous : Option (Quaternion (ExactReal ℝ))) (resetCounter : Nat), ∃ converted,
        (convert previous (nedSample frame resetCounter)).2 = .ok converted ∧
          SameRosMotion converted message) ∧
      ∀ (previous : Option (Quaternion (ExactReal ℝ))) (sample : Px4OdometrySample (ExactReal ℝ))
        (converted : ConvertedOdometry (ExactReal ℝ)),
        (convert previous sample).2 = .ok converted → ∀ message, Reports message converted →
            ((convertRosLioOdometry message).isSome = true ↔ CovarianceUsable message) ∧
              ∀ frame, convertRosLioOdometry message = some frame → SameNedMotion frame sample :=
  ⟨fun _ _ h previous resetCounter => ros_round_trip h previous resetCounter,
    fun _ _ _ h _ hReports => ned_round_trip h hReports⟩

end Exact

def estimatorMessage {D : Type} [FloatOps D] (stamp : NavigationMode.Stamp)
    (converted : ConvertedOdometry D) : LioOdometry D :=
  let ros := OdometryBridge.toRos converted
  { stamp
    frameId := "lio_odom"
    childFrameId := ros.childFrameId
    position := ros.position
    orientation := ros.orientation
    linear := ros.linear
    angular := ros.angular
    poseCovariance := fun i => ros.poseCovariance.getD i (lit 0)
    twistCovariance := fun i => ros.twistCovariance.getD i (lit 0) }

def unmeasuredSample {D : Type} [FloatOps D] : Px4OdometrySample D where
  timestampNs := 1000000000
  poseFrame := .ned
  velocityFrame := .ned
  position := Vec3.zero
  orientation := .identity
  velocity := Vec3.zero
  angularVelocity := Vec3.zero
  positionVariance := ⟨FloatOps.nan, FloatOps.nan, FloatOps.nan⟩
  velocityVariance := ⟨FloatOps.nan, FloatOps.nan, FloatOps.nan⟩
  orientationVariance := ⟨FloatOps.nan, FloatOps.nan, FloatOps.nan⟩
  resetCounter := 0
  angularVelocityValid := true

/-- The eigenvalues of a diagonal matrix. -/
@[reducible] def diagonalEigenSolver (D : Type) [FloatOps D] : SelfAdjointEigenSolver D where
  minEigenvalue a := some (FloatOps.min a.row0.x (FloatOps.min a.row1.y a.row2.z))

theorem identity_coordinates : (Quaternion.identity : Quaternion (ExactReal ℝ)) =
    coordinates (1 : UnitQuaternion).1 := by
  simp only [Quaternion.identity, coordinates, Quaternion.lift, lit_finite]
  congr 2 <;> simp

theorem unmeasuredSample_accepted : ∃ converted,
    (convert none (unmeasuredSample : Px4OdometrySample (ExactReal ℝ))).2 = .ok converted ∧
      converted.timestampNs = 1000000000 ∧ converted.positionCovarianceAvailable = false := by
  have hUnit : SameUpToSign (unmeasuredSample : Px4OdometrySample (ExactReal ℝ)).orientation 1 :=
    .inl identity_coordinates
  refine ⟨_, convert_of_checks none (by decide) rfl rfl rfl rfl hUnit.norm_checks rfl rfl, rfl, ?_⟩
  change available (⟨lit (-1), lit (-1), lit (-1)⟩ : Vec3 (ExactReal ℝ)) = false
  simp [available, lit_finite, Vec3.allFinite]

theorem not_usable_of_zero [SelfAdjointEigenSolver (ExactReal ℝ)]
    {message : LioOdometry (ExactReal ℝ)} (h : message.poseCovariance 0 = lit 0) :
    ¬ CovarianceUsable message := by
  have hBlock : validDiagonal (blockOf message.poseCovariance 0) = false := by
    have hEntry : (blockOf message.poseCovariance 0).diagonal.x = lit 0 := h
    simp [validDiagonal, validVariance, hEntry, lit_finite]
  have hNone : validatedBlock message.poseCovariance 0 = none := by
    unfold validatedBlock
    dsimp only
    rw [if_neg (by decide), hBlock]
    simp
  unfold CovarianceUsable transformedCovariances transformedCovarianceDiagonal
  rw [hNone]
  simp

/-- A converted sample is not always taken back: without covariances it is refused. -/
theorem conversion_refuses_unmeasured :
    ¬ ∀ (sample : Px4OdometrySample (ExactReal ℝ)) (converted : ConvertedOdometry (ExactReal ℝ)),
      (convert none sample).2 = .ok converted → ∀ stamp : NavigationMode.Stamp,
          rosTimeToNanoseconds stamp.sec stamp.nanosec = some sample.timestampNs →
            ∃ frame, @convertRosLioOdometry _ _ (diagonalEigenSolver _)
              (estimatorMessage stamp converted) = some frame ∧ SameNedMotion frame sample := by
  intro hAlways
  obtain ⟨converted, hAccepted, hTime, hUnavailable⟩ := unmeasuredSample_accepted
  obtain ⟨frame, hFrame, -⟩ := hAlways _ converted hAccepted ⟨1, 0⟩ (by decide)
  have hReports : Reports (estimatorMessage ⟨1, 0⟩ converted) converted :=
    ⟨rfl, rfl, by rw [hTime]; rfl, rfl, rfl, rfl, rfl⟩
  have hUsable := (@ned_round_trip (diagonalEigenSolver _) _ _ _ hAccepted _ hReports).1.mp
    (by rw [hFrame]; rfl)
  refine @not_usable_of_zero (diagonalEigenSolver _) _ ?_ hUsable
  change (if converted.positionCovarianceAvailable then converted.positionVariance.x else lit 0) =
    lit 0
  rw [hUnavailable]
  rfl

end ExternalOdometry

end UavNavigation
