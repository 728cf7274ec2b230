import UavNavigation.ExactReals
import UavNavigation.FrameConverter
import UavNavigation.RigidMotions
import UavNavigation.Runs

/-!
# Resets are compensated exactly

A true motion is reported in a frame that every reset changes. In exact arithmetic
the continuity transform corrects the frame of the last compensated reset to the
frame of the first sample, up to the origins of the rebases. A session is the
compensator together with the frame of the source and its reset counter.
-/

namespace UavNavigation.ResetCompensator

set_option autoImplicit false

open FloatOps Runs RigidFrames UnitQuaternion ExactReal List Vec3

abbrev WorldFrame := Frame UnitQuaternion (Vec3 ℝ)

abbrev WorldMotion := Motion UnitQuaternion (Vec3 ℝ)

def enuOfNed (v : Vec3 ℝ) : Vec3 ℝ := ⟨v.y, v.x, -v.z⟩

def enuRotation (q : UnitQuaternion) : UnitQuaternion where
  val := ⟨q.1.re, q.1.imJ, q.1.imI, -q.1.imK⟩
  property := by
    apply mem_unitary_of_sum_sq
    have hSum := q.sum_sq
    linear_combination hSum

/-- What a reset did, in NED. A delta without its flag is zero. -/
structure ResetDeltas where
  positionXyReset : Bool
  positionZReset : Bool
  velocityXyReset : Bool
  velocityZReset : Bool
  headingReset : Bool
  attitudeReset : Bool
  position : Vec3 ℝ
  velocity : Vec3 ℝ
  headingRad : ℝ
  attitude : Quaternion ℝ
  position_xy : positionXyReset = false → position.x = 0 ∧ position.y = 0
  position_z : positionZReset = false → position.z = 0
  velocity_xy : velocityXyReset = false → velocity.x = 0 ∧ velocity.y = 0
  velocity_z : velocityZReset = false → velocity.z = 0
  attitude_unit : |attitude.x * attitude.x + attitude.y * attitude.y + attitude.z * attitude.z +
    attitude.w * attitude.w - 1| ≤ 1 / 10 ^ 6

namespace ResetDeltas

theorem attitude_pos (r : ResetDeltas) : 0 < r.attitude.x * r.attitude.x +
    r.attitude.y * r.attitude.y + r.attitude.z * r.attitude.z + r.attitude.w * r.attitude.w := by
  have hUnit := (abs_le.mp r.attitude_unit).1
  linarith

/-- The rotation of the reset; the attitude says more than the heading. -/
noncomputable def rotation (r : ResetDeltas) : UnitQuaternion :=
  if r.attitudeReset then unit r.attitude r.attitude_pos
  else if r.headingReset then heading r.headingRad
  else 1

noncomputable def change (r : ResetDeltas) : WorldFrame where
  rotation := enuRotation r.rotation
  position := enuOfNed r.position
  velocity := enuOfNed r.velocity

end ResetDeltas

structure Carries (m : DetailedResetMetadata (ExactReal ℝ)) (r : ResetDeltas) : Prop where
  positionXyReset : m.positionXyReset = r.positionXyReset
  positionZReset : m.positionZReset = r.positionZReset
  velocityXyReset : m.velocityXyReset = r.velocityXyReset
  velocityZReset : m.velocityZReset = r.velocityZReset
  headingReset : m.headingReset = r.headingReset
  attitudeReset : m.attitudeReset = r.attitudeReset
  position : m.positionDeltaSource = r.position.lift
  velocity : m.velocityDeltaSource = r.velocity.lift
  headingRad : m.headingDeltaRad = .finite r.headingRad
  attitude : m.attitudeDelta = r.attitude.lift

variable {m : DetailedResetMetadata (ExactReal ℝ)}

theorem cEnuNed_apply (v : Vec3 ℝ) : cEnuNed.apply v.lift = (enuOfNed v).lift := by
  simp only [cEnuNed, Matrix3.apply, Vec3.dot, Vec3.lift, enuOfNed, lit_finite,
    mul_finite, add_finite]
  congr 2 <;> push_cast <;> ring

theorem cEnuNed_conjugate (q : UnitQuaternion) :
    (cEnuNed.mul (rotationMatrix q.1).lift).mul cEnuNed.transpose =
      (rotationMatrix (enuRotation q).1).lift := by
  simp only [cEnuNed, Matrix3.mul, Matrix3.apply, Matrix3.transpose, Matrix3.lift, Vec3.dot,
    Vec3.lift, rotationMatrix, enuRotation, lit_finite, mul_finite, add_finite]
  congr 3 <;> push_cast <;> ring

theorem identity_eq_rotationMatrix :
    (Matrix3.identity : Matrix3 (ExactReal ℝ)) = (rotationMatrix (1 : UnitQuaternion).1).lift := by
  rw [rotationMatrix_one]
  simp only [Matrix3.identity, Matrix3.lift, Vec3.lift, lit_finite]
  congr 3 <;> simp

theorem enuRotation_one : enuRotation 1 = 1 := by
  apply Subtype.ext
  apply Quaternion.ext
  · rfl
  · rfl
  · rfl
  · exact neg_zero

theorem resetRotationWorld_of_carries {r : ResetDeltas} (h : Carries m r)
    {rotationWorld : Matrix3 (ExactReal ℝ)}
    (hRotation : resetRotationWorld m = some rotationWorld) :
    rotationWorld = (rotationMatrix r.change.rotation.1).lift := by
  unfold resetRotationWorld at hRotation
  rw [h.attitudeReset, h.headingReset] at hRotation
  simp only [ResetDeltas.change, ResetDeltas.rotation]
  split_ifs at hRotation with hAttitude hUnit hHeading
  · rw [if_pos hAttitude, ← cEnuNed_conjugate, ← toRotationMatrix_coordinates, ← normalized_unit,
      ← h.attitude]
    exact (Option.some.inj hRotation).symm
  · rw [if_neg hAttitude, if_pos hHeading, ← cEnuNed_conjugate, ← angleAxisMatrix_heading,
      ← h.headingRad]
    exact (Option.some.inj hRotation).symm
  · rw [if_neg hAttitude, if_neg hHeading, enuRotation_one, ← identity_eq_rotationMatrix]
    exact (Option.some.inj hRotation).symm

structure Session where
  compensator : ResetCompensator (ExactReal ℝ)
  /-- The frame that the source reports in, and its reset counter. -/
  frame : WorldFrame
  counter : Nat
  /-- The frame at the sample that the compensator was initialized with. -/
  first : WorldFrame
  /-- The resets that were not compensated since then. -/
  outstanding : List ResetDeltas
  origin : Vec3 ℝ
  compensated : Nat

namespace Session

noncomputable def start (frame : WorldFrame) (counter : Nat) : Session where
  compensator := .clear
  frame
  counter
  first := frame
  outstanding := []
  origin := 0
  compensated := 0

inductive Operation where
  | reset (r : ResetDeltas)
  | sample (motion : WorldMotion) (reported : ConvertedOdometry (ExactReal ℝ))
      (m : DetailedResetMetadata (ExactReal ℝ))
  | rebase

def originOf (v : Option (Vec3 (ExactReal ℝ))) : Vec3 ℝ :=
  match v with
  | some ⟨.finite x, .finite y, .finite z⟩ => ⟨x, y, z⟩
  | _ => ⟨0, 0, 0⟩

noncomputable def step (s : Session) : Operation → Session × Option (ResetObservation (ExactReal ℝ))
  | .reset r =>
    ({ s with
        frame := s.frame.changed r.change
        counter := (s.counter + 1) % 256
        outstanding := s.outstanding ++ [r] }, none)
  | .sample _ reported m =>
    let seen := s.compensator.observe reported m
    let suppressed := seen.2.status == .resetTransitionSuppressed
    ({ s with
        compensator := seen.1
        first := if s.compensator.initialized then s.first else s.frame
        outstanding :=
          if !s.compensator.initialized || suppressed then [] else s.outstanding
        compensated := if suppressed then s.compensated + 1 else s.compensated },
      some seen.2)
  | .rebase =>
    let rebased := s.compensator.rebasePositionAtCurrentOutput
    ({ s with compensator := rebased.1, origin := s.origin + originOf rebased.2 }, none)

/-- The sample is the motion in the frame of the source; metadata that are available for
a single reset are about that reset. -/
structure Faithful (s : Session) (motion : WorldMotion)
    (reported : ConvertedOdometry (ExactReal ℝ)) (m : DetailedResetMetadata (ExactReal ℝ)) :
    Prop where
  position : reported.position = (s.frame.report motion).position.lift
  velocity : reported.velocityWorld = (s.frame.report motion).velocity.lift
  attitude : SameUpToSign reported.orientation (s.frame.report motion).attitude
  counter : reported.resetCounter = s.counter
  informed : s.compensator.initialized = true → ∀ r, s.outstanding = [r] →
    m.available = true → Carries m r

/-- The output is the motion in the frame of the first sample, with the rebased origin. -/
structure ShowsFirst (s : Session) (motion : WorldMotion)
    (output : ConvertedOdometry (ExactReal ℝ)) : Prop where
  position : output.position = ((s.first.report motion).position - s.origin).lift
  velocity : output.velocityWorld = (s.first.report motion).velocity.lift
  attitude : SameUpToSign output.orientation (s.first.report motion).attitude
  velocityBody : output.velocityBody =
    ((s.first.report motion).attitude⁻¹ • (s.first.report motion).velocity).lift
  resetGeneration : output.resetGeneration = s.compensated

end Session

/-! ## The continuity transform -/

structure Applies (c : ResetCompensator (ExactReal ℝ)) (k : WorldFrame) : Prop where
  rotation : c.continuityRotation = (rotationMatrix k.rotation.1).lift
  position : c.continuityTranslation = k.position.lift
  velocity : c.continuityVelocityTranslation = k.velocity.lift

variable {c : ResetCompensator (ExactReal ℝ)} {k : WorldFrame}
  {sample : ConvertedOdometry (ExactReal ℝ)}

theorem Applies.of_same {c' : ResetCompensator (ExactReal ℝ)} (h : Applies c k)
    (hRotation : c'.continuityRotation = c.continuityRotation)
    (hPosition : c'.continuityTranslation = c.continuityTranslation)
    (hVelocity : c'.continuityVelocityTranslation = c.continuityVelocityTranslation) :
    Applies c' k :=
  ⟨hRotation.trans h.rotation, hPosition.trans h.position, hVelocity.trans h.velocity⟩

theorem applies_clear : Applies clear .identity := by
  exact ⟨identity_eq_rotationMatrix, Vec3.zero_lift, Vec3.zero_lift⟩

theorem smul_lift (q : UnitQuaternion) (v : Vec3 ℝ) :
    (rotationMatrix q.1).lift.apply v.lift = (q • v).lift := rfl

theorem product_lift (p q : UnitQuaternion) :
    (rotationMatrix p.1).lift.mul (rotationMatrix q.1).lift = (rotationMatrix (p * q).1).lift := by
  rw [mul_lift, rotationMatrix_mul]

theorem inverse_lift (q : UnitQuaternion) :
    (rotationMatrix q.1).lift.transpose = (rotationMatrix q⁻¹.1).lift := by
  rw [transpose_lift, rotationMatrix_inv]

theorem Applies.compensated (h : Applies c k) {motion : WorldMotion}
    (hPosition : sample.position = motion.position.lift)
    (hVelocity : sample.velocityWorld = motion.velocity.lift)
    (hAttitude : SameUpToSign sample.orientation motion.attitude) :
    (c.compensated sample).position = (k.report motion).position.lift ∧
      (c.compensated sample).velocityWorld = (k.report motion).velocity.lift ∧
      SameUpToSign (c.compensated sample).orientation (k.report motion).attitude ∧
      (c.compensated sample).velocityBody =
        ((k.report motion).attitude⁻¹ • (k.report motion).velocity).lift := by
  have hMoved : c.continuityVelocityTranslation + c.continuityRotation.apply sample.velocityWorld =
      (k.report motion).velocity.lift := by
    rw [h.rotation, h.velocity, hVelocity, smul_lift, add_real, add_comm]
    rfl
  have hTurned : SameUpToSign (Quaternion.ofRotationMatrix
      (c.continuityRotation.mul sample.orientation.toRotationMatrix))
      (k.report motion).attitude := by
    rw [h.rotation, hAttitude.toRotationMatrix, product_lift]
    exact ofRotationMatrix_rotationMatrix _
  refine ⟨?_, hMoved, ?_, ?_⟩
  · simp only [ResetCompensator.compensated]
    rw [h.rotation, h.position, hPosition, smul_lift, add_real, add_comm]
    rfl
  · simp only [ResetCompensator.compensated, hTurned.normalized]
    exact hTurned
  · simp only [ResetCompensator.compensated, hTurned.normalized, hTurned.toRotationMatrix, hMoved,
      inverse_lift, smul_lift]

theorem unitNorm_of_sameUpToSign {r : Quaternion (ExactReal ℝ)} {q : UnitQuaternion}
    (h : SameUpToSign r q) : unitNorm r = true := by
  have hUnit (p : UnitQuaternion) : unitNorm (coordinates p.1) = true := by
    have hFinite : (coordinates p.1).allFinite = true := rfl
    rw [unitNorm, hFinite, squaredNorm_coordinates, lit_finite, lit_finite]
    simp
  rcases h with rfl | rfl
  · exact hUnit q
  · exact hUnit (-q)

theorem validVariance_rotated (a : Matrix3 ℝ) {variance : Vec3 (ExactReal ℝ)} {available : Bool}
    (h : validVariance variance available = true) :
    validVariance (rotateDiagonalVariance a.lift variance) available = true := by
  simp only [validVariance, Bool.and_eq_true, Bool.or_eq_true, Bool.not_eq_true',
    decide_eq_true_eq] at h
  obtain ⟨hFinite, hSign⟩ := h
  obtain ⟨v, rfl⟩ := allFinite_iff.mp hFinite
  have hRow (row : Vec3 ℝ) : Matrix3.rotatedVariance row.lift v.lift =
      .finite (row.x * row.x * v.x + row.y * row.y * v.y + row.z * row.z * v.z) := rfl
  have hEntry (value : ℝ) (row : Vec3 ℝ) : ∃ e : ℝ,
      (if lit 0 ≤ finite value && isFinite (finite value) then
        Matrix3.rotatedVariance row.lift v.lift else lit (-1)) = .finite e ∧
      (0 ≤ value → 0 ≤ v.x → 0 ≤ v.y → 0 ≤ v.z → 0 ≤ e) := by
    split
    · refine ⟨_, hRow row, fun _ hx hy hz => ?_⟩
      have hSquares := add_nonneg (add_nonneg (mul_nonneg (mul_self_nonneg row.x) hx)
        (mul_nonneg (mul_self_nonneg row.y) hy)) (mul_nonneg (mul_self_nonneg row.z) hz)
      exact hSquares
    · rename_i hNegative
      refine ⟨_, lit_finite _, fun hValue => ?_⟩
      simp [lit_finite, hValue] at hNegative
  obtain ⟨x, hx, hxSign⟩ := hEntry v.x a.row0
  obtain ⟨y, hy, hySign⟩ := hEntry v.y a.row1
  obtain ⟨z, hz, hzSign⟩ := hEntry v.z a.row2
  have hResult : rotateDiagonalVariance a.lift v.lift = Vec3.lift ⟨x, y, z⟩ := by
    exact Vec3.ext hx hy hz
  rcases hSign with hUnavailable | hNonneg
  · simp [validVariance, hResult, hUnavailable]
  · obtain ⟨hvx, hvy, hvz⟩ : 0 ≤ v.x ∧ 0 ≤ v.y ∧ 0 ≤ v.z := by
      simpa [Vec3.lift, lit_finite, and_assoc] using hNonneg
    have hSigns := And.intro (hxSign hvx hvx hvy hvz)
      (And.intro (hySign hvy hvx hvy hvz) (hzSign hvz hvx hvy hvz))
    rw [hResult]
    simp [validVariance, Vec3.lift, Vec3.allFinite, lit_finite, hSigns]

theorem Applies.accepts (h : Applies c k) (hValid : validSample sample = true)
    {motion : WorldMotion} (hPosition : sample.position = motion.position.lift)
    (hVelocity : sample.velocityWorld = motion.velocity.lift)
    (hAttitude : SameUpToSign sample.orientation motion.attitude) :
    c.observeContinuing sample = ({ c with lastOutput := some (c.compensated sample) },
      { status := .accepted, sample := some (c.compensated sample),
        resetGeneration := c.resetGeneration }) := by
  obtain ⟨hMoved, hSpeed, hTurned, hBody⟩ := h.compensated hPosition hVelocity hAttitude
  simp only [validSample, validMotion, Bool.and_eq_true] at hValid
  obtain ⟨-, ⟨⟨⟨⟨-, hAngular⟩, -⟩, hPositionVariance⟩, hVelocityVariance⟩, hOrientationVariance⟩ :=
    hValid
  have hRotated : validVariance (c.compensated sample).positionVariance
      (c.compensated sample).positionCovarianceAvailable = true := by
    simp only [ResetCompensator.compensated, h.rotation]
    exact validVariance_rotated _ hPositionVariance
  have hOutput : validMotion (c.compensated sample) = true := by
    simp only [validMotion, hMoved, hSpeed, hBody, allFinite_lift,
      unitNorm_of_sameUpToSign hTurned, hRotated, Bool.true_and, Bool.and_true, Bool.and_eq_true]
    exact ⟨⟨hAngular, hVelocityVariance⟩, hOrientationVariance⟩
  simp only [observeContinuing, hOutput, if_true]

theorem ResetDeltas.position_of_unflagged (r : ResetDeltas)
    (h : (r.positionXyReset || r.positionZReset) = false) : r.change.position = 0 := by
  rw [Bool.or_eq_false_iff] at h
  obtain ⟨hx, hy⟩ := r.position_xy h.1
  have hz := r.position_z h.2
  simp [ResetDeltas.change, enuOfNed, hx, hy, hz, real_zero]

theorem ResetDeltas.velocity_of_unflagged (r : ResetDeltas)
    (h : (r.velocityXyReset || r.velocityZReset) = false) : r.change.velocity = 0 := by
  rw [Bool.or_eq_false_iff] at h
  obtain ⟨hx, hy⟩ := r.velocity_xy h.1
  have hz := r.velocity_z h.2
  simp [ResetDeltas.change, enuOfNed, hx, hy, hz, real_zero]

theorem Applies.advance (h : Applies c k) {r : ResetDeltas} (hCarries : Carries m r) :
    Applies (c.advance m (rotationMatrix r.change.rotation.1).lift) (k.undoing r.change) := by
  have hRotation : c.continuityRotation.mul (rotationMatrix r.change.rotation.1).lift.transpose =
      (rotationMatrix (k.rotation * r.change.rotation⁻¹).1).lift := by
    rw [h.rotation, inverse_lift, product_lift]
  have hPosition : cEnuNed.apply m.positionDeltaSource = r.change.position.lift := by
    rw [hCarries.position, cEnuNed_apply]
    rfl
  have hVelocity : cEnuNed.apply m.velocityDeltaSource = r.change.velocity.lift := by
    rw [hCarries.velocity, cEnuNed_apply]
    rfl
  refine ⟨hRotation, ?_, ?_⟩
  · simp only [ResetCompensator.advance, hRotation, hPosition, hCarries.positionXyReset,
      hCarries.positionZReset, h.position, smul_lift, sub_real, Frame.undoing]
    split
    · rfl
    · rename_i hUnflagged
      rw [r.position_of_unflagged (by simpa using hUnflagged), smul_zero, sub_zero]
  · simp only [ResetCompensator.advance, hRotation, hVelocity, hCarries.velocityXyReset,
      hCarries.velocityZReset, h.velocity, smul_lift, sub_real, Frame.undoing]
    split
    · rfl
    · rename_i hUnflagged
      rw [r.velocity_of_unflagged (by simpa using hUnflagged), smul_zero, sub_zero]

/-! ## What every session keeps -/

namespace Session

noncomputable def afterResets (f : WorldFrame) (resets : List ResetDeltas) : WorldFrame :=
  resets.foldl (fun f r => f.changed r.change) f

/-- The transform corrects the frame `f`, from which the outstanding resets lead to the
frame of the source, and the last counter is theirs. -/
structure Tracks (s : Session) : Prop where
  generation : s.compensator.resetGeneration = s.compensated
  silent : s.compensator.initialized = false →
    s.compensator.lastOutput = none ∧ Applies s.compensator .identity ∧ s.origin = 0
  corrects : s.compensator.initialized = true → ∃ k f, Applies s.compensator k ∧
    Frame.Corrects k f (s.first.rebased s.origin) ∧ s.frame = afterResets f s.outstanding ∧
    (s.compensator.lastCounter + s.outstanding.length) % 256 = s.counter % 256

theorem start_tracks (frame : WorldFrame) (counter : Nat) : Tracks (start frame counter) where
  generation := rfl
  silent _ := ⟨rfl, applies_clear, rfl⟩
  corrects h := by cases h

/-- What the run has to respect: samples are faithful, and fewer resets than the counter
can tell apart are outstanding at a sample. -/
def Followed (e : Event Session Operation (Option (ResetObservation (ExactReal ℝ)))) : Prop :=
  match e.op with
  | .sample motion reported m => Faithful e.before motion reported m ∧
      (e.before.compensator.initialized = true → e.before.outstanding.length < 256)
  | _ => True

theorem counterDelta_outstanding {last outstanding counter : Nat}
    (h : (last + outstanding) % 256 = counter % 256) (hFew : outstanding < 256) :
    counterDelta last counter = outstanding := by
  unfold counterDelta
  omega

theorem reset_tracks {s : Session} (hs : Tracks s) (r : ResetDeltas) :
    Tracks (step s (.reset r)).1 where
  generation := hs.generation
  silent := hs.silent
  corrects h := by
    obtain ⟨k, f, hApplies, hCorrects, hFrame, hCounter⟩ := hs.corrects h
    refine ⟨k, f, hApplies, hCorrects, ?_, ?_⟩
    · simp only [step, hFrame, afterResets, foldl_append, foldl_cons, foldl_nil]
    · simp only [step, length_append, length_singleton]
      omega

theorem rebase_cases (c : ResetCompensator (ExactReal ℝ)) :
    (c.rebasePositionAtCurrentOutput = (c, none)) ∨
      ∃ output : ConvertedOdometry (ExactReal ℝ), ∃ origin : Vec3 ℝ, c.lastOutput = some output ∧
        output.position = origin.lift ∧ c.rebasePositionAtCurrentOutput =
          ({ c with
              continuityTranslation := c.continuityTranslation - origin.lift
              lastOutput := some { output with position := origin.lift - origin.lift } },
            some origin.lift) := by
  unfold rebasePositionAtCurrentOutput
  split
  · exact .inl rfl
  rename_i output hOutput
  dsimp only
  split
  · rename_i hFinite
    simp only [Bool.and_eq_true] at hFinite
    obtain ⟨origin, hOrigin⟩ := allFinite_iff.mp hFinite.1.1
    exact .inr ⟨output, origin, hOutput, hOrigin, by rw [hOrigin]⟩
  · exact .inl rfl

theorem rebase_tracks {s : Session} (hs : Tracks s) : Tracks (step s .rebase).1 := by
  rcases rebase_cases s.compensator with hNone | ⟨output, origin, hOutput, hOrigin, hSome⟩
  · have hSame : (step s .rebase).1 = s := by
      simp only [step, hNone, originOf]
      rw [← real_zero, add_zero]
    rw [hSame]
    exact hs
  · have hOf : originOf (some origin.lift) = origin := rfl
    simp only [step, hSome, hOf]
    refine ⟨hs.generation, fun h => ?_, fun h => ?_⟩
    · have hLast := (hs.silent h).1
      rw [hOutput] at hLast
      cases hLast
    · obtain ⟨k, f, hApplies, hCorrects, hFrame, hCounter⟩ := hs.corrects h
      refine ⟨k.rebased origin, f, ⟨hApplies.rotation, ?_, hApplies.velocity⟩, ?_, hFrame, hCounter⟩
      · change s.compensator.continuityTranslation - origin.lift = _
        rw [hApplies.position, sub_real]
        rfl
      · have hRebased := hCorrects.rebased origin
        simpa [Frame.rebased, sub_sub] using hRebased

theorem continuing_shows {c : ResetCompensator (ExactReal ℝ)} {k : WorldFrame}
    (hApplies : Applies c k) {s : Session} {motion : WorldMotion}
    {reported : ConvertedOdometry (ExactReal ℝ)}
    (hPosition : reported.position = (s.frame.report motion).position.lift)
    (hVelocity : reported.velocityWorld = (s.frame.report motion).velocity.lift)
    (hAttitude : SameUpToSign reported.orientation (s.frame.report motion).attitude)
    (hCorrects : Frame.Corrects k s.frame (s.first.rebased s.origin))
    (hGeneration : c.resetGeneration = s.compensated) {output : ConvertedOdometry (ExactReal ℝ)}
    (hOutput : (c.observeContinuing reported).2.sample = some output) :
    ShowsFirst s motion output := by
  obtain ⟨hMoved, hSpeed, hTurned, hBody⟩ := hApplies.compensated hPosition hVelocity hAttitude
  rw [hCorrects.report] at hMoved hSpeed hTurned hBody
  rcases observeContinuing_cases c reported with h | h
  · rw [h] at hOutput
    cases hOutput
    refine ⟨?_, hSpeed, hTurned, hBody, hGeneration⟩
    rw [hMoved]
    simp only [Frame.report, Frame.rebased, add_sub_assoc]
  · rw [h] at hOutput
    cases hOutput

/-- What a sample keeps, and what an accepted one shows. -/
structure SampleLaw (s s' : Session) (motion : WorldMotion)
    (o : ResetObservation (ExactReal ℝ)) : Prop where
  tracks : Tracks s'
  shows_first : ∀ output, o.sample = some output → ShowsFirst s' motion output

section
variable {s : Session} (hs : Tracks s) {motion : WorldMotion}
  {reported : ConvertedOdometry (ExactReal ℝ)} {m : DetailedResetMetadata (ExactReal ℝ)}
include hs

theorem sample_started
    (hFaithful : Faithful s motion reported m) (hInitialized : s.compensator.initialized = false)
    (hSeen : s.compensator.observe reported m = observeContinuing
      { s.compensator with initialized := true, lastCounter := reported.resetCounter } reported) :
    SampleLaw s (step s (.sample motion reported m)).1 motion
      (s.compensator.observe reported m).2 := by
  obtain ⟨-, hApplies, hOrigin⟩ := hs.silent hInitialized
  have hFirst : Frame.Corrects Frame.identity s.frame (s.frame.rebased s.origin) := by
    rw [hOrigin]
    simpa [Frame.rebased] using Frame.corrects_identity s.frame
  obtain ⟨hSame, hStatus⟩ := continuing_same
    { s.compensator with initialized := true, lastCounter := reported.resetCounter } reported
  have hApplies' : Applies
      { s.compensator with initialized := true, lastCounter := reported.resetCounter } .identity :=
    hApplies.of_same rfl rfl rfl
  simp only [step, hSeen, hStatus, hInitialized, Bool.not_false, Bool.true_or, if_true]
  constructor
  · rw [hSame]
    refine ⟨hs.generation, fun h => ?_, fun _ => ?_⟩
    · cases h
    · exact ⟨.identity, s.frame, hApplies'.of_same rfl rfl rfl, hFirst, rfl,
        by simp [hFaithful.counter]⟩
  · intro output hOutput
    refine continuing_shows hApplies' ?_ ?_ ?_ ?_ ?_ hOutput
    · exact hFaithful.position
    · exact hFaithful.velocity
    · exact hFaithful.attitude
    · exact hFirst
    · exact hs.generation

section
variable (hFaithful : Faithful s motion reported m)
  (hInitialized : s.compensator.initialized = true) (hFew : s.outstanding.length < 256)
include hFaithful hInitialized hFew

theorem sample_continued
    (hCounter : counterDelta s.compensator.lastCounter reported.resetCounter = 0)
    (hSeen : s.compensator.observe reported m = s.compensator.observeContinuing reported) :
    SampleLaw s (step s (.sample motion reported m)).1 motion
      (s.compensator.observe reported m).2 := by
  obtain ⟨k, f, hApplies, hCorrects, hFrame, hLast⟩ := hs.corrects hInitialized
  have hNone : s.outstanding = [] := by
    rw [hFaithful.counter, counterDelta_outstanding hLast hFew] at hCounter
    exact length_eq_zero_iff.mp hCounter
  have hCurrent : s.frame = f := by
    rw [hFrame, hNone]
    rfl
  obtain ⟨hSame, hStatus⟩ := continuing_same s.compensator reported
  simp only [step, hSeen, hStatus, hInitialized, Bool.not_true, Bool.or_self, if_true,
    Bool.false_eq_true, if_false]
  constructor
  · rw [hSame]
    refine ⟨hs.generation, fun h => ?_, fun _ => ?_⟩
    · rw [hInitialized] at h
      cases h
    · exact ⟨k, f, hApplies.of_same rfl rfl rfl, hCorrects, hFrame, hLast⟩
  · intro output hOutput
    refine continuing_shows hApplies ?_ ?_ ?_ ?_ ?_ hOutput
    · exact hFaithful.position
    · exact hFaithful.velocity
    · exact hFaithful.attitude
    · exact hCurrent ▸ hCorrects
    · exact hs.generation

theorem sample_compensated
    (hCounter : counterDelta s.compensator.lastCounter reported.resetCounter = 1)
    (hAvailable : m.available = true) {rotationWorld : Matrix3 (ExactReal ℝ)}
    (hRotation : resetRotationWorld m = some rotationWorld)
    (hSeen : s.compensator.observe reported m =
      ({ s.compensator.advance m rotationWorld with
          resetGeneration := s.compensator.resetGeneration + 1
          lastCounter := reported.resetCounter },
        { status := .resetTransitionSuppressed
          resetGeneration := s.compensator.resetGeneration + 1 })) :
    SampleLaw s (step s (.sample motion reported m)).1 motion
      (s.compensator.observe reported m).2 := by
  obtain ⟨k, f, hApplies, hCorrects, hFrame, hLast⟩ := hs.corrects hInitialized
  -- the counter is one ahead, so exactly one reset is outstanding and the record is about it
  obtain ⟨r, hOne⟩ : ∃ r, s.outstanding = [r] := by
    rw [hFaithful.counter, counterDelta_outstanding hLast hFew] at hCounter
    exact length_eq_one_iff.mp hCounter
  have hCarries := hFaithful.informed hInitialized r hOne hAvailable
  have hAdvanced := hApplies.advance hCarries
  rw [← resetRotationWorld_of_carries hCarries hRotation] at hAdvanced
  simp only [step, hSeen, hInitialized, beq_self_eq_true, Bool.or_true, if_true]
  constructor
  · refine ⟨congrArg (· + 1) hs.generation, fun h => ?_, fun _ => ?_⟩
    · have hStays : s.compensator.initialized = false := h
      rw [hInitialized] at hStays
      cases hStays
    · refine ⟨k.undoing r.change, f.changed r.change, hAdvanced.of_same rfl rfl rfl,
        hCorrects.undoing r.change, ?_, ?_⟩
      · rw [hFrame, hOne]
        rfl
      · simp [hFaithful.counter]
  · intro output hOutput
    cases hOutput

end

theorem sample_refused (hSame : (s.compensator.observe reported m).1 = s.compensator)
    (hSuppressed : (s.compensator.observe reported m).2.status ≠ .resetTransitionSuppressed)
    (hSample : (s.compensator.observe reported m).2.sample = none) :
    SampleLaw s (step s (.sample motion reported m)).1 motion
      (s.compensator.observe reported m).2 := by
  have hStatus : ((s.compensator.observe reported m).2.status ==
      .resetTransitionSuppressed) = false := by simpa using hSuppressed
  simp only [step, hSame, hStatus, Bool.or_false, Bool.false_eq_true, if_false]
  constructor
  · refine ⟨hs.generation, hs.silent, fun h => ?_⟩
    have hInitialized : s.compensator.initialized = true := h
    simpa [hInitialized] using hs.corrects h
  · intro output hOutput
    rw [hSample] at hOutput
    cases hOutput

theorem sample_law (hFaithful : Faithful s motion reported m)
    (hFew : s.compensator.initialized = true → s.outstanding.length < 256) :
    SampleLaw s (step s (.sample motion reported m)).1 motion
      (s.compensator.observe reported m).2 := by
  cases observe_observed s.compensator reported m with
  | refused hSame _ hSuppressed hSample _ => exact sample_refused hs hSame hSuppressed hSample
  | started hInitialized hSeen => exact sample_started hs hFaithful hInitialized hSeen
  | continued hInitialized hCounter hSeen =>
    exact sample_continued hs hFaithful hInitialized (hFew hInitialized) hCounter hSeen
  | compensated hInitialized hCounter hAvailable _ hRotation hSeen =>
    exact sample_compensated hs hFaithful hInitialized (hFew hInitialized) hCounter hAvailable
      hRotation hSeen

end

theorem sample_outstanding_le (s : Session) (motion : WorldMotion)
    (reported : ConvertedOdometry (ExactReal ℝ)) (m : DetailedResetMetadata (ExactReal ℝ)) :
    (step s (.sample motion reported m)).1.outstanding.length ≤ s.outstanding.length := by
  simp only [step]
  split
  · exact Nat.zero_le _
  · exact Nat.le_refl _

theorem step_tracks (s : Session) (op : Operation) (hs : Tracks s)
    (hFollowed : Followed (eventAt step s op)) : Tracks (step s op).1 := by
  cases op with
  | reset r => exact reset_tracks hs r
  | sample motion reported m => exact (sample_law hs hFollowed.1 hFollowed.2).tracks
  | rebase => exact rebase_tracks hs

/-- Every accepted sample of every session shows the motion in the frame of the first one. -/
theorem compensation_exact (frame : WorldFrame) (counter : Nat) (ops : List Operation)
    (hFollowed : ∀ e ∈ events step (start frame counter) ops, Followed e) :
    ∀ e ∈ events step (start frame counter) ops, ∀ motion reported m,
      e.op = .sample motion reported m → ∃ o, e.result = some o ∧
        (∀ output, o.sample = some output → ShowsFirst e.after motion output) ∧
        o.resetGeneration = e.after.compensated ∧
        (o.status ≠ .accepted → o.status ≠ .resetTransitionSuppressed →
          e.after.compensator.continuityRotation = e.before.compensator.continuityRotation ∧
          e.after.compensator.continuityTranslation = e.before.compensator.continuityTranslation ∧
          e.after.compensator.continuityVelocityTranslation =
            e.before.compensator.continuityVelocityTranslation) := by
  intro e he motion reported m hOp
  obtain ⟨hTracks, hThis, hEvent⟩ :=
    events_guarded step_tracks (start_tracks frame counter) hFollowed he
  rw [hEvent] at hThis ⊢
  rw [hOp] at hThis ⊢
  have hLaw := sample_law hTracks hThis.1 hThis.2
  refine ⟨_, rfl, hLaw.shows_first, ?_, fun _ hSuppressed => observe_transform hSuppressed⟩
  exact (observe_resetGeneration _ reported m).trans hLaw.tracks.generation

/-! ## A counter that comes round -/

section Drift

noncomputable def north : ResetDeltas where
  positionXyReset := true
  positionZReset := false
  velocityXyReset := false
  velocityZReset := false
  headingReset := false
  attitudeReset := false
  position := ⟨1, 0, 0⟩
  velocity := ⟨0, 0, 0⟩
  headingRad := 0
  attitude := ⟨0, 0, 0, 1⟩
  position_xy := by simp
  position_z := by simp
  velocity_xy := by simp
  velocity_z := by simp
  attitude_unit := by norm_num

noncomputable def northRecord : DetailedResetMetadata (ExactReal ℝ) :=
  { (DetailedResetMetadata.default : DetailedResetMetadata (ExactReal ℝ)) with
    available := true
    positionXyReset := true
    positionDeltaSource := Vec3.lift ⟨1, 0, 0⟩
    velocityDeltaSource := Vec3.lift ⟨0, 0, 0⟩
    headingDeltaRad := .finite 0
    attitudeDelta := Quaternion.lift ⟨0, 0, 0, 1⟩ }

noncomputable def resting : WorldMotion := ⟨0, 0, 1⟩

/-- The frame after `n` such resets. -/
noncomputable def frameAfter (n : Nat) : WorldFrame := ⟨1, ⟨0, n, 0⟩, 0⟩

theorem report_frameAfter (n : Nat) : ((frameAfter n).report resting).position = ⟨0, n, 0⟩ := by
  simp only [Frame.report, frameAfter, resting, smul_zero, zero_add]

noncomputable def restingReport (n : Nat) : ConvertedOdometry (ExactReal ℝ) where
  timestampNs := 1000000000 + n
  sourcePoseFrame := .ned
  sourceVelocityFrame := .ned
  worldConvention := .rosEnu
  position := ((frameAfter n).report resting).position.lift
  orientation := coordinates ((frameAfter n).report resting).attitude.1
  velocityWorld := ((frameAfter n).report resting).velocity.lift
  velocityBody := Vec3.lift ⟨0, 0, 0⟩
  angularVelocityBody := Vec3.lift ⟨0, 0, 0⟩
  positionVariance := Vec3.lift ⟨1, 1, 1⟩
  velocityVariance := Vec3.lift ⟨1, 1, 1⟩
  orientationVariance := Vec3.lift ⟨1, 1, 1⟩
  resetCounter := n % 256
  frameGeneration := 1
  positionCovarianceAvailable := true
  velocityCovarianceAvailable := true
  orientationCovarianceAvailable := true
  angularVelocityValid := true

theorem restingReport_valid (n : Nat) : validSample (restingReport n) = true := by
  have hUnit : unitNorm (restingReport n).orientation = true :=
    unitNorm_of_sameUpToSign (.inl rfl)
  have hVariance : validVariance (Vec3.lift ⟨1, 1, 1⟩ : Vec3 (ExactReal ℝ)) true = true := by
    simp [validVariance, Vec3.lift, Vec3.allFinite, lit_finite]
  have hStamp : 0 < (restingReport n).timestampNs := by
    simp only [restingReport]
    omega
  simp only [validSample, validMotion, hUnit, hStamp]
  simp [restingReport, knownPoseFrame, knownVelocityFrame, knownWorldConvention, hVariance]

theorem north_carried : Carries northRecord north :=
  ⟨rfl, rfl, rfl, rfl, rfl, rfl, rfl, rfl, rfl, rfl⟩

noncomputable def rounds : Nat → List Operation
  | 0 => []
  | n + 1 => rounds n ++ [.reset north, .sample resting (restingReport (n + 1)) northRecord]

/-- The session with `n` resets outstanding. -/
noncomputable def drifted (c : ResetCompensator (ExactReal ℝ)) (n : Nat) : Session where
  compensator := c
  frame := frameAfter n
  counter := n % 256
  first := frameAfter 0
  outstanding := List.replicate n north
  origin := 0
  compensated := 0

section
variable (c : ResetCompensator (ExactReal ℝ)) (n : Nat)

theorem frameAfter_changed : (frameAfter n).changed north.change = frameAfter (n + 1) := by
  have hTurn : north.change.rotation = 1 := by
    simp [ResetDeltas.change, ResetDeltas.rotation, north, enuRotation_one]
  have hPosition : north.change.position = ⟨0, 1, 0⟩ := by
    simp [ResetDeltas.change, north, enuOfNed]
  have hVelocity : north.change.velocity = 0 := by
    simp [ResetDeltas.change, north, enuOfNed, real_zero]
  have hNext : (⟨0, n, 0⟩ : Vec3 ℝ) + ⟨0, 1, 0⟩ = ⟨0, (n + 1 : Nat), 0⟩ :=
    Vec3.ext (add_zero 0) (Nat.cast_succ n).symm (add_zero 0)
  simp only [Frame.changed, frameAfter, hTurn, hPosition, hVelocity, one_smul, mul_one, add_zero, hNext]

theorem drifted_reset : (step (drifted c n) (.reset north)).1 = drifted c (n + 1) := by
  have hCounter : (n % 256 + 1) % 256 = (n + 1) % 256 := by omega
  simp only [step, drifted, frameAfter_changed, hCounter, ← replicate_succ']

theorem drifted_sample {c : ResetCompensator (ExactReal ℝ)} (hInitialized : c.initialized = true)
    (hLast : c.lastCounter = 0) {n : Nat} (hn : n % 256 ≠ 0) :
    (step (drifted c n) (.sample resting (restingReport n) northRecord)).1 = drifted c n := by
  have hRefused : (c.observe (restingReport n) northRecord).1 = c ∧
      (c.observe (restingReport n) northRecord).2.status ≠ .resetTransitionSuppressed := by
    cases observe_observed c (restingReport n) northRecord with
    | refused hSame _ hSuppressed => exact ⟨hSame, hSuppressed⟩
    | started hFresh =>
      rw [hInitialized] at hFresh
      cases hFresh
    | continued _ hCounter =>
      simp only [counterDelta, hLast, restingReport] at hCounter
      omega
    | compensated _ _ _ hStamp =>
      exact absurd hStamp (by simp [northRecord, DetailedResetMetadata.default])
  simp [step, drifted, hRefused.1, hRefused.2, hInitialized]

theorem drifted_faithful {m : DetailedResetMetadata (ExactReal ℝ)} (hm : Carries m north) :
    Faithful (drifted c n) resting (restingReport n) m where
  position := rfl
  velocity := rfl
  attitude := .inl rfl
  counter := rfl
  informed _ r hr _ := by
    have hMem : r ∈ List.replicate n north := by
      have hList : List.replicate n north = [r] := hr
      rw [hList]
      exact mem_singleton_self r
    rw [(mem_replicate.mp hMem).2]
    exact hm

end

def Reported (e : Event Session Operation (Option (ResetObservation (ExactReal ℝ)))) : Prop :=
  ∀ motion reported m, e.op = .sample motion reported m → Faithful e.before motion reported m

theorem reported_round (c : ResetCompensator (ExactReal ℝ)) (n : Nat) :
    ∀ e ∈ events step (drifted c n)
        [.reset north, .sample resting (restingReport (n + 1)) northRecord], Reported e := by
  intro e he motion reported m hOp
  rw [events_cons, events_cons, events_nil, drifted_reset] at he
  simp only [mem_cons, not_mem_nil, or_false] at he
  rcases he with rfl | rfl
  · cases hOp
  · cases hOp
    exact drifted_faithful c (n + 1) north_carried

theorem rounds_drifted {c : ResetCompensator (ExactReal ℝ)} (hInitialized : c.initialized = true)
    (hLast : c.lastCounter = 0) {n : Nat} (hn : n < 256) :
    run step (drifted c 0) (rounds n) = drifted c n ∧
      ∀ e ∈ events step (drifted c 0) (rounds n), Reported e := by
  induction n with
  | zero => exact ⟨rfl, by simp [rounds]⟩
  | succ n ih =>
    obtain ⟨hRun, hEvents⟩ := ih (by omega)
    constructor
    · rw [rounds, run_append, hRun, run_cons, run_cons, run_nil, drifted_reset]
      exact drifted_sample hInitialized hLast (by omega)
    · intro e he
      rw [rounds, events_append, hRun] at he
      rcases mem_append.mp he with he | he
      · exact hEvents e he
      · exact reported_round c n e he

noncomputable def firstAccepted : ResetCompensator (ExactReal ℝ) :=
  (observeContinuing { clear with initialized := true, lastCounter := 0 } (restingReport 0)).1

theorem firstAccepted_eq : firstAccepted =
    { clear with initialized := true, lastCounter := 0, lastOutput := firstAccepted.lastOutput } :=
  (continuing_same _ (restingReport 0)).1

theorem applies_firstAccepted : Applies firstAccepted .identity := by
  rw [firstAccepted_eq]
  exact applies_clear.of_same rfl rfl rfl

theorem start_sample :
    (step (start (frameAfter 0) 0) (.sample resting (restingReport 0) .default)).1 =
      drifted firstAccepted 0 := by
  have hSeen : clear.observe (restingReport 0) .default = observeContinuing
      { clear with initialized := true, lastCounter := 0 } (restingReport 0) := by
    unfold observe
    rw [restingReport_valid]
    rfl
  have hStatus := (continuing_same
    { clear with initialized := true, lastCounter := 0 } (restingReport 0)).2
  simp only [step, start, hSeen, hStatus]
  rfl

theorem firstAccepted_observe : firstAccepted.observe (restingReport 256) northRecord =
    firstAccepted.observeContinuing (restingReport 256) := by
  have hInitialized : firstAccepted.initialized = true := by rw [firstAccepted_eq]
  have hCounter : counterDelta firstAccepted.lastCounter (restingReport 256).resetCounter = 0 := by
    rw [firstAccepted_eq]
    rfl
  have hMatched : northRecord.matchedOdometryTimestampNs = 0 := rfl
  simp [observe, restingReport_valid, hInitialized, hCounter, hMatched]

/-- Two hundred and fifty-six resets that are not compensated look like none. -/
theorem drift_shown_as_first :
    let ops := Operation.sample resting (restingReport 0) .default :: rounds 256
    (∀ e ∈ events step (start (frameAfter 0) 0) ops, Reported e) ∧
    ∃ e ∈ events step (start (frameAfter 0) 0) ops, ∃ motion reported m o output,
      e.op = .sample motion reported m ∧ e.result = some o ∧ o.status = .accepted ∧
      o.sample = some output ∧ ¬ ShowsFirst e.after motion output := by
  intro ops
  have hInitialized : firstAccepted.initialized = true := by rw [firstAccepted_eq]
  have hLast : firstAccepted.lastCounter = 0 := by rw [firstAccepted_eq]
  obtain ⟨hRun, hReported⟩ := rounds_drifted hInitialized hLast (n := 255) (by omega)
  have hEvents : events step (start (frameAfter 0) 0) ops =
      eventAt step (start (frameAfter 0) 0) (.sample resting (restingReport 0) .default) ::
        (events step (drifted firstAccepted 0) (rounds 255) ++
          events step (drifted firstAccepted 255)
            [.reset north, .sample resting (restingReport 256) northRecord]) := by
    rw [events_cons, start_sample, ← hRun, ← events_append]
    rfl
  constructor
  · intro e he
    rw [hEvents] at he
    rcases mem_cons.mp he with rfl | he
    · intro motion reported m hOp
      cases hOp
      refine ⟨rfl, rfl, .inl rfl, rfl, fun h => ?_⟩
      cases h
    · rcases mem_append.mp he with he | he
      · exact hReported e he
      · exact reported_round firstAccepted 255 e he
  · refine ⟨eventAt step (drifted firstAccepted 256)
      (.sample resting (restingReport 256) northRecord), ?_, ?_⟩
    · rw [hEvents, events_cons, events_cons, drifted_reset]
      simp
    · have hPosition : (restingReport 256).position =
          ((frameAfter 256).report resting).position.lift := rfl
      have hVelocity : (restingReport 256).velocityWorld =
          ((frameAfter 256).report resting).velocity.lift := rfl
      have hAccepted := applies_firstAccepted.accepts (restingReport_valid 256) hPosition hVelocity
        (.inl rfl)
      have hMoved := (applies_firstAccepted.compensated hPosition hVelocity (.inl rfl)).1
      refine ⟨resting, restingReport 256, northRecord,
        (firstAccepted.observe (restingReport 256) northRecord).2,
        firstAccepted.compensated (restingReport 256), rfl, rfl, ?_, ?_, fun hShows => ?_⟩
      · rw [firstAccepted_observe, hAccepted]
      · rw [firstAccepted_observe, hAccepted]
      · have hFirst : (step (drifted firstAccepted 256)
            (.sample resting (restingReport 256) northRecord)).1.first = frameAfter 0 := by
          simp only [step, drifted, hInitialized, if_true]
        have hShown := hShows.position
        rw [hMoved, eventAt_after, hFirst] at hShown
        have hOrigin : (step (drifted firstAccepted 256)
            (.sample resting (restingReport 256) northRecord)).1.origin = 0 := rfl
        rw [hOrigin, sub_zero, Frame.report_identity, report_frameAfter, report_frameAfter] at hShown
        have hNorth := congrArg Vec3.y hShown
        simp [Vec3.lift] at hNorth

noncomputable def stampedRecord : DetailedResetMetadata (ExactReal ℝ) :=
  { northRecord with timestampNs := 1000000001 }

/-- A sample, a reset, the sample that is suppressed for it and one more. -/
noncomputable def oneReset : List Operation :=
  [.sample resting (restingReport 0) .default, .reset north,
    .sample resting (restingReport 1) stampedRecord, .sample resting (restingReport 1) .default]

theorem oneReset_followed : ∀ e ∈ events step (start (frameAfter 0) 0) oneReset, Followed e := by
  intro e he
  rw [oneReset, events_cons, start_sample, events_cons, drifted_reset, events_cons, events_cons,
    events_nil] at he
  simp only [mem_cons, not_mem_nil, or_false] at he
  rcases he with rfl | rfl | rfl | rfl
  · refine ⟨⟨rfl, rfl, .inl rfl, rfl, fun h => ?_⟩, fun h => ?_⟩
    · cases h
    · cases h
  · trivial
  · refine ⟨drifted_faithful firstAccepted 1 ?_, fun _ => ?_⟩
    · exact ⟨rfl, rfl, rfl, rfl, rfl, rfl, rfl, rfl, rfl, rfl⟩
    · simp [drifted]
  · refine ⟨⟨rfl, rfl, .inl rfl, rfl, fun _ _ _ hAvailable => ?_⟩, fun _ => ?_⟩
    · cases hAvailable
    · apply lt_of_le_of_lt (sample_outstanding_le (drifted firstAccepted 1) resting
        (restingReport 1) stampedRecord)
      simp [drifted]

theorem compensation_exact_oneReset :
    (∀ e ∈ events step (start (frameAfter 0) 0) oneReset, Followed e) ∧
      ∀ e ∈ events step (start (frameAfter 0) 0) oneReset, ∀ motion reported m,
        e.op = .sample motion reported m → ∃ o, e.result = some o ∧
          ∀ output, o.sample = some output → ShowsFirst e.after motion output := by
  refine ⟨oneReset_followed, fun e he motion reported m hOp => ?_⟩
  obtain ⟨o, hResult, hShows, -⟩ :=
    compensation_exact (frameAfter 0) 0 oneReset oneReset_followed e he motion reported m hOp
  exact ⟨o, hResult, hShows⟩

end Drift

end Session

/-! ## Deltas without a flag -/

open FloatOps Runs RigidFrames UnitQuaternion ExactReal

/-- The metadata agree in everything that a set flag is about. -/
structure SameFlagged {D : Type} (m n : DetailedResetMetadata D) : Prop where
  positionXy : m.positionXyReset = true → n.positionDeltaSource.x = m.positionDeltaSource.x ∧
      n.positionDeltaSource.y = m.positionDeltaSource.y
  positionZ : m.positionZReset = true → n.positionDeltaSource.z = m.positionDeltaSource.z
  velocityXy : m.velocityXyReset = true → n.velocityDeltaSource.x = m.velocityDeltaSource.x ∧
      n.velocityDeltaSource.y = m.velocityDeltaSource.y
  velocityZ : m.velocityZReset = true → n.velocityDeltaSource.z = m.velocityDeltaSource.z
  heading : m.headingReset = true → n.headingDeltaRad = m.headingDeltaRad
  attitude : m.attitudeReset = true → n.attitudeDelta = m.attitudeDelta
  rest : n = { m with
    positionDeltaSource := n.positionDeltaSource
    velocityDeltaSource := n.velocityDeltaSource
    headingDeltaRad := n.headingDeltaRad
    attitudeDelta := n.attitudeDelta }

def transform {D : Type} (c : ResetCompensator D) : Matrix3 D × Vec3 D × Vec3 D :=
  (c.continuityRotation, c.continuityTranslation, c.continuityVelocityTranslation)

/-- The transform after the sample is the same for all metadata that agree where a flag is set. -/
def IgnoresUnflagged {D : Type} [FloatOps D] [Trigonometry D] (c : ResetCompensator D)
    (sample : ConvertedOdometry D) (m : DetailedResetMetadata D) : Prop :=
  ∀ n, SameFlagged m n → (c.observe sample n).1.transform = (c.observe sample m).1.transform

/-- The horizontal and the vertical part of a delta are reset together. -/
def Paired {D : Type} (m : DetailedResetMetadata D) : Prop :=
  m.positionXyReset = m.positionZReset ∧ m.velocityXyReset = m.velocityZReset

section Paired
variable {D : Type} {m n : DetailedResetMetadata D}

theorem SameFlagged.flags (h : SameFlagged m n) :
    n.positionXyReset = m.positionXyReset ∧ n.positionZReset = m.positionZReset ∧
      n.velocityXyReset = m.velocityXyReset ∧ n.velocityZReset = m.velocityZReset ∧
      n.headingReset = m.headingReset ∧ n.attitudeReset = m.attitudeReset := by
  rw [h.rest]
  exact ⟨rfl, rfl, rfl, rfl, rfl, rfl⟩

theorem SameFlagged.position (h : SameFlagged m n) (hPaired : Paired m) :
    (m.positionXyReset || m.positionZReset) = true →
      n.positionDeltaSource = m.positionDeltaSource := by
  intro hFlag
  rw [← hPaired.1, Bool.or_self] at hFlag
  obtain ⟨hx, hy⟩ := h.positionXy hFlag
  exact Vec3.ext hx hy (h.positionZ (hPaired.1 ▸ hFlag))

theorem SameFlagged.velocity (h : SameFlagged m n) (hPaired : Paired m) :
    (m.velocityXyReset || m.velocityZReset) = true →
      n.velocityDeltaSource = m.velocityDeltaSource := by
  intro hFlag
  rw [← hPaired.2, Bool.or_self] at hFlag
  obtain ⟨hx, hy⟩ := h.velocityXy hFlag
  exact Vec3.ext hx hy (h.velocityZ (hPaired.2 ▸ hFlag))

variable [FloatOps D]

theorem SameFlagged.finiteDeltas (h : SameFlagged m n) (hPaired : Paired m) :
    finiteDeltas n = finiteDeltas m := by
  obtain ⟨hpx, hpz, hvx, hvz, hHeading, -⟩ := h.flags
  unfold ResetCompensator.finiteDeltas
  rw [hpx, hpz, hvx, hvz, hHeading]
  have hPosition := h.position hPaired
  have hVelocity := h.velocity hPaired
  have hRad := h.heading
  cases hp : (m.positionXyReset || m.positionZReset) <;>
    cases hv : (m.velocityXyReset || m.velocityZReset) <;> cases hh : m.headingReset <;>
    simp_all

theorem SameFlagged.advance (h : SameFlagged m n) (hPaired : Paired m) (c : ResetCompensator D)
    (rotationWorld : Matrix3 D) : c.advance n rotationWorld = c.advance m rotationWorld := by
  obtain ⟨hpx, hpz, hvx, hvz, -, -⟩ := h.flags
  have hPosition := h.position hPaired
  have hVelocity := h.velocity hPaired
  unfold ResetCompensator.advance
  cases hp : (m.positionXyReset || m.positionZReset) <;>
    cases hv : (m.velocityXyReset || m.velocityZReset) <;> simp_all

variable [Trigonometry D]

theorem SameFlagged.resetRotationWorld (h : SameFlagged m n) :
    resetRotationWorld n = resetRotationWorld m := by
  obtain ⟨-, -, -, -, hHeading, hAttitude⟩ := h.flags
  unfold ResetCompensator.resetRotationWorld
  rw [hHeading, hAttitude]
  by_cases ha : m.attitudeReset = true
  · rw [if_pos ha, if_pos ha, h.attitude ha]
  · rw [if_neg ha, if_neg ha]
    by_cases hh : m.headingReset = true
    · rw [if_pos hh, if_pos hh, h.heading hh]
    · rw [if_neg hh, if_neg hh]

theorem SameFlagged.observe (h : SameFlagged m n) (hPaired : Paired m) (c : ResetCompensator D)
    (sample : ConvertedOdometry D) : c.observe sample n = c.observe sample m := by
  have hMatched : n.matchedOdometryTimestampNs = m.matchedOdometryTimestampNs := by rw [h.rest]
  have hStamp : n.timestampNs = m.timestampNs := by rw [h.rest]
  have hInvalid : n.associationInvalid = m.associationInvalid := by rw [h.rest]
  have hAvailable : n.available = m.available := by rw [h.rest]
  have hReset : n.hasReset = m.hasReset := by rw [h.rest]; rfl
  have hTransition : c.observeTransition sample n = c.observeTransition sample m := by
    unfold observeTransition
    simp only [hInvalid, hAvailable, hReset, hStamp, h.finiteDeltas hPaired, h.resetRotationWorld,
      h.advance hPaired]
  unfold ResetCompensator.observe
  rw [hMatched, hTransition]

end Paired

section Transitions
variable {D : Type} [FloatOps D] [Trigonometry D] {c : ResetCompensator D}
  {sample : ConvertedOdometry D} {m n : DetailedResetMetadata D}

/-- Everything that a transition asks for besides the deltas. -/
structure Due (c : ResetCompensator D) (sample : ConvertedOdometry D)
    (m : DetailedResetMetadata D) : Prop where
  validSample : validSample sample = true
  matched : m.matchedOdometryTimestampNs = 0 ∨ m.matchedOdometryTimestampNs = sample.timestampNs
  initialized : c.initialized = true
  counter : counterDelta c.lastCounter sample.resetCounter = 1
  associated : m.associationInvalid = false
  available : m.available = true ∧ m.hasReset = true
  generation : c.resetGeneration ≠ 2 ^ 64 - 1
  output : c.lastOutput.isSome = true
  stamp : 0 < m.timestampNs

variable {rotationWorld : Matrix3 D}

omit [Trigonometry D] in
theorem Due.sameFlagged (h : Due c sample m) (hSame : SameFlagged m n) : Due c sample n := by
  rw [hSame.rest]
  exact ⟨h.validSample, h.matched, h.initialized, h.counter, h.associated, h.available, h.generation,
    h.output, h.stamp⟩

section
variable (h : Due c sample m) (hFinite : finiteDeltas m = true)
  (hRotation : resetRotationWorld m = some rotationWorld)
  (hNext : (c.advance m rotationWorld).continuityRotation.allFinite = true ∧
    (c.advance m rotationWorld).continuityTranslation.allFinite = true ∧
    (c.advance m rotationWorld).continuityVelocityTranslation.allFinite = true)
include h hFinite hRotation hNext

theorem Due.observe : c.observe sample m =
      ({ c.advance m rotationWorld with
          resetGeneration := c.resetGeneration + 1, lastCounter := sample.resetCounter },
        { status := .resetTransitionSuppressed, resetGeneration := c.resetGeneration + 1 }) := by
  have hMatched : (m.matchedOdometryTimestampNs != 0 &&
      m.matchedOdometryTimestampNs != sample.timestampNs) = false := by
    rcases h.matched with h | h <;> simp [h]
  have hStamp : ¬ m.timestampNs ≤ 0 := not_le.mpr h.stamp
  have hOutput : c.lastOutput.isNone = false := by simpa using h.output
  have hGeneration : ¬ c.resetGeneration = 18446744073709551615 := h.generation
  unfold ResetCompensator.observe observeTransition
  simp [h.validSample, hMatched, h.initialized, h.counter, h.associated, h.available, hGeneration,
    hOutput, hStamp, hFinite, hRotation, hNext]

theorem Due.transform :
    (c.observe sample m).1.transform = (c.advance m rotationWorld).transform := by
  rw [h.observe hFinite hRotation hNext]
  rfl

end

theorem due_of_suppressed (h : (c.observe sample m).2.status = .resetTransitionSuppressed) :
    Due c sample m ∧ finiteDeltas m = true ∧ ∃ rotationWorld,
      resetRotationWorld m = some rotationWorld ∧
      (c.advance m rotationWorld).continuityRotation.allFinite = true ∧
      (c.advance m rotationWorld).continuityTranslation.allFinite = true ∧
      (c.advance m rotationWorld).continuityVelocityTranslation.allFinite = true := by
  unfold ResetCompensator.observe at h
  split at h
  · cases h
  rename_i hSample
  split at h
  · cases h
  rename_i hMatched
  split at h
  · exact absurd h (by simpa using (continuing_same _ sample).2)
  rename_i hInitialized
  split at h
  swap
  · exact absurd h (by simpa using (continuing_same _ sample).2)
  unfold observeTransition at h
  split at h
  · cases h
  rename_i hCounter
  split at h
  · cases h
  rename_i hAssociated
  split at h
  · cases h
  rename_i hAvailable
  split at h
  · cases h
  rename_i hGeneration
  split at h
  · cases h
  rename_i hUsable
  rcases hRotation : resetRotationWorld m with _ | rotationWorld
  · rw [hRotation] at h
    cases h
  rw [hRotation] at h
  dsimp only at h
  split at h
  · cases h
  rename_i hNext
  simp only [Bool.not_eq_true, bne_iff_ne, ne_eq, not_not, beq_iff_eq,
    Bool.and_eq_true, Bool.or_eq_true, Bool.not_eq_true', not_or, Bool.not_eq_false,
    decide_eq_true_eq, not_and, Option.isNone_iff_eq_none] at *
  refine ⟨⟨hSample, ?_, hInitialized, hCounter, hAssociated, hAvailable, hGeneration, ?_, ?_⟩,
    hUsable.2, rotationWorld, rfl, hNext.1.1, hNext.1.2, hNext.2⟩
  · by_cases hZero : m.matchedOdometryTimestampNs = 0
    · exact .inl hZero
    · exact .inr (hMatched hZero)
  · exact Option.isSome_iff_ne_none.mpr hUsable.1.1
  · exact not_le.mp hUsable.1.2

end Transitions

/-! ## Reachable compensators -/

inductive Call (D : Type) where
  | observe (sample : ConvertedOdometry D) (m : DetailedResetMetadata D)
  | rebase
  | clear

def called {D : Type} [FloatOps D] [Trigonometry D] (c : ResetCompensator D) :
    Call D → ResetCompensator D × Unit
  | .observe sample m => ((c.observe sample m).1, ())
  | .rebase => (c.rebasePositionAtCurrentOutput.1, ())
  | .clear => (.clear, ())

section Exact
variable {c : ResetCompensator (ExactReal ℝ)} {k : WorldFrame}
  {m n : DetailedResetMetadata (ExactReal ℝ)}

theorem exists_rotation (hFinite : finiteDeltas m = true) {rotationWorld : Matrix3 (ExactReal ℝ)}
    (h : resetRotationWorld m = some rotationWorld) :
    ∃ q : UnitQuaternion, rotationWorld = (rotationMatrix q.1).lift := by
  unfold resetRotationWorld at h
  split_ifs at h with hAttitude hUnit hHeading
  · simp only [unitNorm, Bool.and_eq_true, Bool.not_eq_true', decide_eq_false_iff_not] at hUnit
    obtain ⟨⟨hAttitudeFinite, -⟩, hNear⟩ := hUnit
    obtain ⟨attitude, hLift⟩ := exists_lift_of_allFinite hAttitudeFinite
    have hSquare : m.attitudeDelta.squaredNorm = .finite (attitude.x * attitude.x +
        attitude.y * attitude.y + attitude.z * attitude.z + attitude.w * attitude.w) := by
      rw [hLift]
      rfl
    rw [hSquare, lit_finite, lit_finite, sub_finite, abs_finite, lt_finite, not_lt] at hNear
    have hPositive : 0 < attitude.x * attitude.x + attitude.y * attitude.y +
        attitude.z * attitude.z + attitude.w * attitude.w := by
      have hLow := (abs_le.mp hNear).1
      linarith
    refine ⟨enuRotation (unit attitude hPositive), ?_⟩
    rw [← cEnuNed_conjugate, ← toRotationMatrix_coordinates, ← normalized_unit, ← hLift]
    exact (Option.some.inj h).symm
  · have hRad : isFinite m.headingDeltaRad = true := by
      simp only [finiteDeltas, hHeading, Bool.and_eq_true, Bool.not_true, Bool.false_or] at hFinite
      exact hFinite.2
    obtain ⟨rad, hRad⟩ := isFinite_iff.mp hRad
    refine ⟨enuRotation (heading rad), ?_⟩
    rw [← cEnuNed_conjugate, ← angleAxisMatrix_heading, ← hRad]
    exact (Option.some.inj h).symm
  · refine ⟨1, ?_⟩
    rw [← identity_eq_rotationMatrix]
    exact (Option.some.inj h).symm

theorem Applies.advance_any (h : Applies c k) (hFinite : finiteDeltas m = true)
    (q : UnitQuaternion) : ∃ k', Applies (c.advance m (rotationMatrix q.1).lift) k' := by
  have hRotation : c.continuityRotation.mul (rotationMatrix q.1).lift.transpose =
      (rotationMatrix (k.rotation * q⁻¹).1).lift := by
    rw [h.rotation, inverse_lift, product_lift]
  have hMoved (flag : Bool) (base : Vec3 ℝ) (delta : Vec3 (ExactReal ℝ))
      (hDelta : flag = true → delta.allFinite = true) : ∃ next : Vec3 ℝ,
      (if flag = true then base.lift -
        (rotationMatrix (k.rotation * q⁻¹).1).lift.apply (cEnuNed.apply delta) else base.lift) =
          next.lift := by
    cases flag with
    | false => exact ⟨base, rfl⟩
    | true =>
      obtain ⟨d, rfl⟩ := Vec3.allFinite_iff.mp (hDelta rfl)
      refine ⟨base - (k.rotation * q⁻¹) • enuOfNed d, ?_⟩
      rw [if_pos rfl, cEnuNed_apply, smul_lift, Vec3.sub_real]
  simp only [finiteDeltas, Bool.and_eq_true, Bool.or_eq_true, Bool.not_eq_true'] at hFinite
  obtain ⟨⟨hPosition, hVelocity⟩, -⟩ := hFinite
  obtain ⟨position, hPosition⟩ := hMoved (m.positionXyReset || m.positionZReset) k.position
    m.positionDeltaSource fun hFlag => hPosition.resolve_left (by simp [hFlag])
  obtain ⟨velocity, hVelocity⟩ := hMoved (m.velocityXyReset || m.velocityZReset) k.velocity
    m.velocityDeltaSource fun hFlag => hVelocity.resolve_left (by simp [hFlag])
  refine ⟨⟨k.rotation * q⁻¹, position, velocity⟩, hRotation, ?_, ?_⟩
  · simp only [ResetCompensator.advance, hRotation, h.position]
    exact hPosition
  · simp only [ResetCompensator.advance, hRotation, h.velocity]
    exact hVelocity

theorem called_applies (call : Call (ExactReal ℝ)) (h : ∃ k, Applies c k) :
    ∃ k, Applies (called c call).1 k := by
  obtain ⟨k, hApplies⟩ := h
  cases call with
  | clear => exact ⟨.identity, applies_clear⟩
  | rebase =>
    rcases Session.rebase_cases c with hNone | ⟨output, origin, -, -, hSome⟩
    · refine ⟨k, ?_⟩
      simp only [called, hNone]
      exact hApplies
    · refine ⟨k.rebased origin, ?_⟩
      simp only [called, hSome]
      refine ⟨hApplies.rotation, ?_, hApplies.velocity⟩
      rw [hApplies.position, Vec3.sub_real]
      rfl
  | observe sample m =>
    by_cases hSuppressed : (c.observe sample m).2.status = .resetTransitionSuppressed
    · obtain ⟨hDue, hFinite, rotationWorld, hRotation, hNext⟩ := due_of_suppressed hSuppressed
      obtain ⟨q, rfl⟩ := exists_rotation hFinite hRotation
      have hTransform := hDue.transform hFinite hRotation hNext
      simp only [ResetCompensator.transform, Prod.mk.injEq] at hTransform
      obtain ⟨k', hAdvanced⟩ := hApplies.advance_any hFinite q
      exact ⟨k', hAdvanced.of_same hTransform.1 hTransform.2.1 hTransform.2.2⟩
    · obtain ⟨hRotation, hPosition, hVelocity⟩ := observe_transform hSuppressed
      exact ⟨k, hApplies.of_same hRotation hPosition hVelocity⟩

theorem run_applies (calls : List (Call (ExactReal ℝ))) : ∃ k, Applies (run called clear calls) k :=
  run_invariant (P := fun c => ∃ k, Applies c k) (fun _ call h => called_applies call h)
    ⟨.identity, applies_clear⟩ calls

theorem moved_ne (q : UnitQuaternion) (base : Vec3 ℝ) {d e : Vec3 ℝ} (h : d ≠ e) :
    base.lift - (rotationMatrix q.1).lift.apply (cEnuNed.apply d.lift) ≠
      base.lift - (rotationMatrix q.1).lift.apply (cEnuNed.apply e.lift) := by
  intro hSame
  rw [cEnuNed_apply, cEnuNed_apply, smul_lift, smul_lift, Vec3.sub_real, Vec3.sub_real] at hSame
  have hLift (a b : Vec3 ℝ) (h : a.lift = b.lift) : a = b := by
    simp only [Vec3.lift, Vec3.mk.injEq, finite.injEq] at h
    exact Vec3.ext h.1 h.2.1 h.2.2
  have hTurned := smul_left_cancel q (sub_right_inj.mp (hLift _ _ hSame))
  simp only [enuOfNed, Vec3.mk.injEq, neg_inj] at hTurned
  exact h (Vec3.ext hTurned.2.1 hTurned.1 hTurned.2.2)

theorem exists_leftover (xy z : Bool) (h : xy ≠ z) (d : Vec3 ℝ) :
    ∃ e : Vec3 ℝ, d ≠ e ∧ (xy = true → e.x = d.x ∧ e.y = d.y) ∧ (z = true → e.z = d.z) := by
  cases xy with
  | true =>
    cases z with
    | true => exact absurd rfl h
    | false =>
      refine ⟨⟨d.x, d.y, d.z + 1⟩, fun hSame => ?_, fun _ => ⟨rfl, rfl⟩, fun hz => by cases hz⟩
      exact absurd (congrArg Vec3.z hSame) (by simp)
  | false =>
    cases z with
    | true =>
      refine ⟨⟨d.x + 1, d.y, d.z⟩, fun hSame => ?_, ⟨fun hx => (by cases hx), fun _ => rfl⟩⟩
      exact absurd (congrArg Vec3.x hSame) (by simp)
    | false => exact absurd rfl h

section
variable {sample : ConvertedOdometry (ExactReal ℝ)} (hApplies : Applies c k)
  (hInstalled : (c.observe sample m).2.status = .resetTransitionSuppressed)
  (hIgnores : IgnoresUnflagged c sample m)
include hApplies hInstalled hIgnores

theorem moved_alike (hSame : SameFlagged m n) (hFinite : finiteDeltas n = true) :
    ∃ q : UnitQuaternion, ((m.positionXyReset || m.positionZReset) = true →
        k.position.lift - (rotationMatrix q.1).lift.apply (cEnuNed.apply n.positionDeltaSource) =
          k.position.lift - (rotationMatrix q.1).lift.apply (cEnuNed.apply m.positionDeltaSource)) ∧
      ((m.velocityXyReset || m.velocityZReset) = true →
        k.velocity.lift - (rotationMatrix q.1).lift.apply (cEnuNed.apply n.velocityDeltaSource) =
          k.velocity.lift -
            (rotationMatrix q.1).lift.apply (cEnuNed.apply m.velocityDeltaSource)) := by
  obtain ⟨hDue, hFiniteM, rotationWorld, hRotation, hNext⟩ := due_of_suppressed hInstalled
  obtain ⟨q, rfl⟩ := exists_rotation hFiniteM hRotation
  have hRotationN : resetRotationWorld n = some (rotationMatrix q.1).lift := by
    rw [hSame.resetRotationWorld, hRotation]
  obtain ⟨k', hAdvanced⟩ := hApplies.advance_any hFinite q
  have hNextN : (c.advance n (rotationMatrix q.1).lift).continuityRotation.allFinite = true ∧
      (c.advance n (rotationMatrix q.1).lift).continuityTranslation.allFinite = true ∧
      (c.advance n (rotationMatrix q.1).lift).continuityVelocityTranslation.allFinite = true := by
    rw [hAdvanced.rotation, hAdvanced.position, hAdvanced.velocity]
    exact ⟨rfl, rfl, rfl⟩
  have hTransforms := hIgnores n hSame
  rw [hDue.transform hFiniteM hRotation hNext,
    (hDue.sameFlagged hSame).transform hFinite hRotationN hNextN] at hTransforms
  have hTurned : c.continuityRotation.mul (rotationMatrix q.1).lift.transpose =
      (rotationMatrix (k.rotation * q⁻¹).1).lift := by
    rw [hApplies.rotation, inverse_lift, product_lift]
  obtain ⟨hpx, hpz, hvx, hvz, -, -⟩ := hSame.flags
  simp only [ResetCompensator.transform, ResetCompensator.advance, hTurned, hApplies.position, hApplies.velocity,
    hpx, hpz, hvx, hvz, Prod.mk.injEq, true_and] at hTransforms
  refine ⟨k.rotation * q⁻¹, fun hFlag => ?_, fun hFlag => ?_⟩
  · simpa only [hFlag, if_true] using hTransforms.1
  · simpa only [hFlag, if_true] using hTransforms.2

theorem position_paired : m.positionXyReset = m.positionZReset := by
  by_contra hUnpaired
  have hFinite := (due_of_suppressed hInstalled).2.1
  have hFlag : (m.positionXyReset || m.positionZReset) = true := by
    cases hxy : m.positionXyReset <;> cases hz : m.positionZReset <;> simp_all
  have hDelta : m.positionDeltaSource.allFinite = true := by
    simp only [finiteDeltas, hFlag, Bool.and_eq_true, Bool.not_true, Bool.false_or] at hFinite
    exact hFinite.1.1
  obtain ⟨d, hd⟩ := Vec3.allFinite_iff.mp hDelta
  obtain ⟨e, hNe, hxy, hz⟩ := exists_leftover _ _ hUnpaired d
  have hSame : SameFlagged m { m with positionDeltaSource := e.lift } := by
    refine ⟨fun h => ?_, fun h => ?_, fun _ => ⟨rfl, rfl⟩, fun _ => rfl, fun _ => rfl, fun _ => rfl,
      rfl⟩
    · rw [hd]
      exact ⟨congrArg finite (hxy h).1, congrArg finite (hxy h).2⟩
    · rw [hd]
      exact congrArg finite (hz h)
  have hFiniteN : finiteDeltas { m with positionDeltaSource := e.lift } = true := by
    simp only [finiteDeltas, hDelta, Vec3.allFinite_lift] at hFinite ⊢
    exact hFinite
  obtain ⟨q, hMoved, -⟩ := moved_alike hApplies hInstalled hIgnores hSame hFiniteN
  have hAlike := hMoved hFlag
  rw [hd] at hAlike
  exact moved_ne q k.position hNe hAlike.symm

theorem velocity_paired : m.velocityXyReset = m.velocityZReset := by
  by_contra hUnpaired
  have hFinite := (due_of_suppressed hInstalled).2.1
  have hFlag : (m.velocityXyReset || m.velocityZReset) = true := by
    cases hxy : m.velocityXyReset <;> cases hz : m.velocityZReset <;> simp_all
  have hDelta : m.velocityDeltaSource.allFinite = true := by
    simp only [finiteDeltas, hFlag, Bool.and_eq_true, Bool.not_true, Bool.false_or] at hFinite
    exact hFinite.1.2
  obtain ⟨d, hd⟩ := Vec3.allFinite_iff.mp hDelta
  obtain ⟨e, hNe, hxy, hz⟩ := exists_leftover _ _ hUnpaired d
  have hSame : SameFlagged m { m with velocityDeltaSource := e.lift } := by
    refine ⟨fun _ => ⟨rfl, rfl⟩, fun _ => rfl, fun h => ?_, fun h => ?_, fun _ => rfl, fun _ => rfl,
      rfl⟩
    · rw [hd]
      exact ⟨congrArg finite (hxy h).1, congrArg finite (hxy h).2⟩
    · rw [hd]
      exact congrArg finite (hz h)
  have hFiniteN : finiteDeltas { m with velocityDeltaSource := e.lift } = true := by
    simp only [finiteDeltas, hDelta, Vec3.allFinite_lift] at hFinite ⊢
    exact hFinite
  obtain ⟨q, -, hMoved⟩ := moved_alike hApplies hInstalled hIgnores hSame hFiniteN
  have hAlike := hMoved hFlag
  rw [hd] at hAlike
  exact moved_ne q k.velocity hNe hAlike.symm

end

/-- In every run a reset ignores the deltas without a flag exactly when its flags are paired. -/
theorem unflagged_ignored_iff (calls : List (Call (ExactReal ℝ)))
    (sample : ConvertedOdometry (ExactReal ℝ)) (m : DetailedResetMetadata (ExactReal ℝ))
    (hInstalled : ((run called clear calls).observe sample m).2.status =
      .resetTransitionSuppressed) :
    IgnoresUnflagged (run called clear calls) sample m ↔ Paired m := by
  obtain ⟨k, hApplies⟩ := run_applies calls
  constructor
  · intro hIgnores
    exact ⟨position_paired hApplies hInstalled hIgnores,
      velocity_paired hApplies hInstalled hIgnores⟩
  · intro hPaired n hSame
    rw [hSame.observe hPaired]

end Exact

/-! A reset to the north after one sample. -/

noncomputable def firstSample : List (Call (ExactReal ℝ)) :=
  [.observe (Session.restingReport 0) .default]

/-- The north reset with a time stamp; `up` flags its vertical part too. -/
noncomputable def stampedNorth (up : Bool) : DetailedResetMetadata (ExactReal ℝ) :=
  { Session.northRecord with timestampNs := 1000000001, positionZReset := up }

theorem stampedNorth_installed (up : Bool) :
    ((run called clear firstSample).observe (Session.restingReport 1) (stampedNorth up)).2.status =
      .resetTransitionSuppressed := by
  have hFirst : run called clear firstSample = Session.firstAccepted := by
    have hSeen : clear.observe (Session.restingReport 0) .default = observeContinuing
        { clear with initialized := true, lastCounter := 0 } (Session.restingReport 0) := by
      unfold observe
      rw [Session.restingReport_valid]
      rfl
    simp only [firstSample, run_cons, run_nil, called, hSeen]
    rfl
  have hDue : Due (run called clear firstSample) (Session.restingReport 1) (stampedNorth up) := by
    rw [hFirst, Session.firstAccepted_eq]
    have hStamp : 0 < (stampedNorth up).timestampNs := Int.natCast_pos.mpr (Nat.succ_pos _)
    refine ⟨Session.restingReport_valid 1, .inl rfl, rfl, rfl, rfl, ⟨rfl, rfl⟩, by decide, ?_, hStamp⟩
    have hPosition : (Session.restingReport 0).position =
        ((Session.frameAfter 0).report Session.resting).position.lift := rfl
    have hVelocity : (Session.restingReport 0).velocityWorld =
        ((Session.frameAfter 0).report Session.resting).velocity.lift := rfl
    have hStarted : Applies { (clear : ResetCompensator (ExactReal ℝ)) with
        initialized := true, lastCounter := 0 } .identity := applies_clear.of_same rfl rfl rfl
    have hAccepted := hStarted.accepts (Session.restingReport_valid 0) hPosition hVelocity (.inl rfl)
    unfold Session.firstAccepted
    rw [hAccepted]
    rfl
  have hFinite : finiteDeltas (stampedNorth up) = true := by
    cases up <;> rfl
  obtain ⟨k, hApplies⟩ := run_applies firstSample
  have hRotation : resetRotationWorld (stampedNorth up) = some Matrix3.identity := rfl
  obtain ⟨q, hq⟩ := exists_rotation hFinite hRotation
  obtain ⟨k', hAdvanced⟩ := hApplies.advance_any hFinite q
  rw [hDue.observe hFinite hRotation]
  rw [hq, hAdvanced.rotation, hAdvanced.position, hAdvanced.velocity]
  exact ⟨rfl, rfl, rfl⟩

theorem unflagged_ignored_iff_paired :
    IgnoresUnflagged (run called clear firstSample) (Session.restingReport 1) (stampedNorth true) :=
  (unflagged_ignored_iff firstSample (Session.restingReport 1) (stampedNorth true)
    (stampedNorth_installed true)).mpr ⟨rfl, rfl⟩

/-- The vertical leftover of an earlier reset moves the transform. -/
theorem unflagged_not_ignored :
    ¬ ∀ (calls : List (Call (ExactReal ℝ))) (sample : ConvertedOdometry (ExactReal ℝ))
        (m : DetailedResetMetadata (ExactReal ℝ)),
        ((run called clear calls).observe sample m).2.status = .resetTransitionSuppressed →
          IgnoresUnflagged (run called clear calls) sample m := by
  intro h
  have hIgnores := h firstSample (Session.restingReport 1) (stampedNorth false)
    (stampedNorth_installed false)
  obtain ⟨k, hApplies⟩ := run_applies firstSample
  have hPaired := position_paired hApplies (stampedNorth_installed false) hIgnores
  exact Bool.noConfusion hPaired

end UavNavigation.ResetCompensator
