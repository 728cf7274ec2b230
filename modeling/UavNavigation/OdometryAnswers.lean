import UavNavigation.OdometryHistory

/-!
# The answers of the odometry history

A time is answered by the sample stored at it, or by an interpolation between the
two stored samples around it. In exact arithmetic the linear components of an
interpolation divide those of the two samples.
-/

namespace UavNavigation

set_option autoImplicit false

open FloatOps Runs ExactReal List
open scoped List

namespace OdometryRingBuffer
variable {D : Type} [FloatOps D] {b : OdometryRingBuffer D}

/-! ## Answers -/

section Answers
variable [Slerp D]

inductive Answered (b : OdometryRingBuffer D) (timestampNs : Int) : SampledOdometry D → Prop where
  | stored {x : ConvertedOdometry D} (mem : x ∈ b.samples) (time : x.timestampNs = timestampNs) :
      Answered b timestampNs ⟨x, false⟩
  | interpolated {earlier later : List (ConvertedOdometry D)} {before after : ConvertedOdometry D}
      (samples : b.samples = earlier ++ before :: after :: later)
      (first : before.timestampNs < timestampNs) (last : timestampNs < after.timestampNs)
      (frame : after.frameGeneration = before.frameGeneration)
      (time : after.timeGeneration = before.timeGeneration)
      (gap : after.timestampNs - before.timestampNs ≤ b.config.maxGapNs)
      (valid : validConvertedOdometry (interpolate before after timestampNs) = true) :
      Answered b timestampNs ⟨interpolate before after timestampNs, true⟩

variable {answer : SampledOdometry D}

theorem sampleBetween_some {config : RingBufferConfig} {before after : ConvertedOdometry D}
    {timestampNs : Int} (h : sampleBetween config before after timestampNs = some answer) :
    after.frameGeneration = before.frameGeneration ∧ after.timeGeneration = before.timeGeneration ∧
      after.timestampNs - before.timestampNs ≤ config.maxGapNs ∧
      validConvertedOdometry (interpolate before after timestampNs) = true ∧
      answer = ⟨interpolate before after timestampNs, true⟩ := by
  unfold sampleBetween at h
  rcases hDelta : checkedDifference after.timestampNs before.timestampNs with _ | delta
  · rw [hDelta] at h
    cases h
  · rw [hDelta] at h
    simp only [Option.ite_none_left_eq_some, Bool.or_eq_true, bne_iff_ne, decide_eq_true_eq,
      not_or, not_not, not_lt, Option.ite_none_right_eq_some, Option.some.injEq] at h
    obtain ⟨⟨⟨hFrame, hTime⟩, hGap⟩, hValid, rfl⟩ := h
    rw [checkedDifference_eq hDelta] at hGap
    exact ⟨hFrame, hTime, hGap, hValid, rfl⟩

theorem sample_answered {timestampNs : Int} (h : b.sample timestampNs = some answer) :
    (∃ front ∈ b.samples.head?, front.timestampNs ≤ timestampNs) ∧
      (∃ back ∈ b.samples.getLast?, timestampNs ≤ back.timestampNs) ∧
      Answered b timestampNs answer := by
  unfold sample at h
  rcases hFront : b.samples.head? with _ | front
  · rw [hFront] at h
    cases h
  rcases hBack : b.samples.getLast? with _ | back
  · rw [hFront, hBack] at h
    cases h
  rw [hFront, hBack] at h
  simp only [Option.ite_none_left_eq_some, Bool.or_eq_true, decide_eq_true_eq, not_or, not_lt] at h
  obtain ⟨⟨hLow, hHigh⟩, h⟩ := h
  refine ⟨⟨front, rfl, hLow⟩, ⟨back, rfl, hHigh⟩, ?_⟩
  have hSplit := takeWhile_append_dropWhile (p := (·.timestampNs < timestampNs)) (l := b.samples)
  rcases hRest : b.samples.dropWhile (·.timestampNs < timestampNs) with _ | ⟨upper, later⟩
  · rw [hRest] at h
    cases h
  have hUpper : timestampNs ≤ upper.timestampNs := by
    have hHead := List.head?_dropWhile_not (·.timestampNs < timestampNs) b.samples
    rw [hRest] at hHead
    simpa using hHead
  rw [hRest] at h hSplit
  dsimp only at h
  split at h
  · rename_i hEqual
    cases h
    refine .stored ?_ (beq_iff_eq.mp hEqual)
    rw [← hSplit]
    exact mem_append_right _ mem_cons_self
  · rename_i hNot
    rcases hLast : (b.samples.takeWhile (·.timestampNs < timestampNs)).getLast? with _ | before
    · rw [hLast] at h
      cases h
    · rw [hLast] at h
      obtain ⟨earlier, hEarlier⟩ := List.getLast?_eq_some_iff.mp hLast
      have hBefore : before.timestampNs < timestampNs := by
        have hMem : before ∈ b.samples.takeWhile (·.timestampNs < timestampNs) :=
          mem_of_getLast? hLast
        simpa using all_eq_true.mp all_takeWhile before hMem
      obtain ⟨hFrame, hTime, hGap, hValid, rfl⟩ := sampleBetween_some h
      rw [beq_iff_eq] at hNot
      have hSamples : b.samples = earlier ++ before :: upper :: later := by
        rw [← hSplit, hEarlier, append_assoc, singleton_append]
      exact .interpolated hSamples hBefore (lt_of_le_of_ne hUpper (Ne.symm hNot)) hFrame hTime hGap
        hValid

theorem sample_stored (hb : Sound b) {x : ConvertedOdometry D} (hx : x ∈ b.samples) :
    b.sample x.timestampNs = some ⟨x, false⟩ := by
  obtain ⟨earlier, later, hSplit⟩ := append_of_mem hx
  have hIncreasing := hb.increasing
  rw [hSplit, pairwise_append] at hIncreasing
  obtain ⟨-, hLater, hEarlier⟩ := hIncreasing
  have hBelow : ∀ y ∈ earlier, y.timestampNs < x.timestampNs :=
    fun y hy => hEarlier y hy x mem_cons_self
  have hDrop : b.samples.dropWhile (·.timestampNs < x.timestampNs) = x :: later := by
    rw [hSplit, dropWhile_append_of_pos]
    · simp
    · intro y hy
      simpa using hBelow y hy
  obtain ⟨front, hFront⟩ : ∃ front, b.samples.head? = some front :=
    ⟨_, List.head?_eq_some_head (ne_nil_of_mem hx)⟩
  obtain ⟨back, hBack⟩ : ∃ back, b.samples.getLast? = some back :=
    ⟨_, List.getLast?_eq_some_getLast (ne_nil_of_mem hx)⟩
  have hLow : front.timestampNs ≤ x.timestampNs := by
    cases earlier with
    | nil =>
      rw [hSplit] at hFront
      obtain rfl : x = front := Option.some.inj hFront
      exact le_rfl
    | cons y earlier =>
      rw [hSplit] at hFront
      obtain rfl : y = front := Option.some.inj hFront
      exact (hBelow y mem_cons_self).le
  have hHigh : x.timestampNs ≤ back.timestampNs := hb.stamped hBack x hx
  unfold sample
  rw [hFront, hBack, hDrop]
  simp [not_lt.mpr hLow, not_lt.mpr hHigh]

end Answers

/-! ## Interpolation in exact arithmetic -/

section Exact
variable {K : Type} [Field K] [LinearOrder K] [IsStrictOrderedRing K] [FloorRing K] [SquareRoot K]
  [Slerp (ExactReal K)]

def Divides (alpha : K) (u v middle : Vec3 (ExactReal K)) : Prop :=
  ∃ a c : Vec3 K, u = a.lift ∧ v = c.lift ∧
    middle = Vec3.lift ⟨(1 - alpha) * a.x + alpha * c.x, (1 - alpha) * a.y + alpha * c.y,
      (1 - alpha) * a.z + alpha * c.z⟩

omit [IsStrictOrderedRing K] [Slerp (ExactReal K)] in
theorem blend_divides (alpha : K) {u v : Vec3 (ExactReal K)} (hu : u.allFinite = true)
    (hv : v.allFinite = true) : Divides alpha u v (blend (.finite alpha) u v) := by
  obtain ⟨a, rfl⟩ := Vec3.allFinite_iff.mp hu
  obtain ⟨c, rfl⟩ := Vec3.allFinite_iff.mp hv
  refine ⟨a, c, rfl, rfl, ?_⟩
  unfold blend
  rw [Vec3.lift_sub, Vec3.scale_lift, Vec3.lift_add]
  congr 2 <;> ring

/-- Every linear component divides those of the two ends with one weight. -/
structure LinearlyBetween (alpha : K) (before after middle : ConvertedOdometry (ExactReal K)) :
    Prop where
  position : Divides alpha before.position after.position middle.position
  velocityWorld : Divides alpha before.velocityWorld after.velocityWorld middle.velocityWorld
  velocityBody : Divides alpha before.velocityBody after.velocityBody middle.velocityBody
  angularVelocityBody : Divides alpha before.angularVelocityBody after.angularVelocityBody
    middle.angularVelocityBody

theorem interpolate_between {before after : ConvertedOdometry (ExactReal K)} {timestampNs : Int}
    (hBefore : validConvertedOdometry before = true) (hAfter : validConvertedOdometry after = true)
    (hFirst : before.timestampNs < timestampNs) (hLast : timestampNs < after.timestampNs)
    (hValid : validConvertedOdometry (interpolate before after timestampNs) = true) :
    ∃ alpha : K, 0 ≤ alpha ∧ alpha ≤ 1 ∧
      LinearlyBetween alpha before after (interpolate before after timestampNs) := by
  simp only [validConvertedOdometry, ResetCompensator.validMotion, Bool.and_eq_true] at hBefore hAfter
  obtain ⟨-, ⟨⟨⟨⟨⟨⟨⟨hPositionA, hWorldA⟩, hBodyA⟩, hAngularA⟩, -⟩, -⟩, -⟩, -⟩⟩ := hBefore
  obtain ⟨-, ⟨⟨⟨⟨⟨⟨⟨hPositionC, hWorldC⟩, hBodyC⟩, hAngularC⟩, -⟩, -⟩, -⟩, -⟩⟩ := hAfter
  have hStamp : 0 < (interpolate before after timestampNs).timestampNs := by
    simp only [validConvertedOdometry, Bool.and_eq_true, decide_eq_true_eq] at hValid
    exact hValid.1.1
  unfold interpolate at hStamp ⊢
  rcases hNumerator : checkedDifference timestampNs before.timestampNs with _ | numerator
  · rw [hNumerator] at hStamp
    exact absurd hStamp (lt_irrefl 0)
  rcases hDenominator : checkedDifference after.timestampNs before.timestampNs with _ | denominator
  · rw [hNumerator, hDenominator] at hStamp
    exact absurd hStamp (lt_irrefl 0)
  have hNumeratorEq := checkedDifference_eq hNumerator
  have hDenominatorEq := checkedDifference_eq hDenominator
  have hPositive : (0 : K) < denominator := by
    exact_mod_cast (by omega : 0 < denominator)
  have hNonnegative : (0 : K) ≤ numerator := by
    exact_mod_cast (by omega : 0 ≤ numerator)
  have hOrder : (numerator : K) ≤ denominator := by
    exact_mod_cast (by omega : numerator ≤ denominator)
  have hAlpha : (ofInt numerator / ofInt denominator : ExactReal K) =
      .finite ((numerator : K) / denominator) := div_finite _ hPositive.ne'
  rw [hNumerator, hDenominator] at hStamp
  simp only [hAlpha] at hStamp ⊢
  split at hStamp
  · exact absurd hStamp (lt_irrefl 0)
  rename_i hProper
  rw [if_neg hProper]
  split at hStamp
  · exact absurd hStamp (lt_irrefl 0)
  rename_i hInside
  rw [if_neg hInside]
  exact ⟨numerator / denominator, div_nonneg hNonnegative hPositive.le,
    (div_le_one hPositive).mpr hOrder,
    ⟨blend_divides _ hPositionA hPositionC, blend_divides _ hWorldA hWorldC,
      blend_divides _ hBodyA hBodyC, blend_divides _ hAngularA hAngularC⟩⟩

/-- In every state that operations reach the samples are valid, ordered in time, of one
generation, no more and over no longer than configured, and an answer is a stored sample or lies
between two neighbours. No answer is made of samples from both sides of a break. -/
theorem odometry_history_safe (config : RingBufferConfig)
    (initial : OdometryRingBuffer (ExactReal K)) (hInitial : create config = some initial)
    (ops : List (HistoryOperation (ExactReal K))) :
    let b := run historyStep initial ops
    (∀ s ∈ b.samples, validConvertedOdometry s = true) ∧
    b.samples.Pairwise (fun earlier later => earlier.timestampNs < later.timestampNs) ∧
    (∀ s ∈ b.samples, s.frameGeneration = b.currentGeneration) ∧
    b.samples.length ≤ config.capacity ∧
    (∀ front ∈ b.samples.head?, ∀ back ∈ b.samples.getLast?,
      back.timestampNs - front.timestampNs ≤ config.durationNs) ∧
    (∀ x ∈ b.samples, b.sample x.timestampNs = some ⟨x, false⟩) ∧
    (∀ timestampNs answer, b.sample timestampNs = some answer →
      (∃ front ∈ b.samples.head?, front.timestampNs ≤ timestampNs) ∧
      (∃ back ∈ b.samples.getLast?, timestampNs ≤ back.timestampNs) ∧
      ((∃ x ∈ b.samples, x.timestampNs = timestampNs ∧ answer = ⟨x, false⟩) ∨
        (∀ x ∈ b.samples, x.timestampNs ≠ timestampNs) ∧
        ∃ earlier before after later, b.samples = earlier ++ before :: after :: later ∧
          before.timestampNs < timestampNs ∧ timestampNs < after.timestampNs ∧
          after.frameGeneration = before.frameGeneration ∧
          after.timeGeneration = before.timeGeneration ∧
          after.timestampNs - before.timestampNs ≤ config.maxGapNs ∧
          answer.interpolated = true ∧ validConvertedOdometry answer.value = true ∧
          answer.value = interpolate before after timestampNs ∧
          ∃ alpha : K, 0 ≤ alpha ∧ alpha ≤ 1 ∧ LinearlyBetween alpha before after answer.value)) ∧
    ∀ before op after kept, ops = before ++ op :: after → Breaks initial before op kept →
      b.samples <+ kept ++ pushed after := by
  obtain rfl : initial = { config } := by
    unfold create at hInitial
    exact (Option.ite_none_left_eq_some.mp hInitial).2 |> Option.some.inj |> Eq.symm
  have hEmpty : Sound ({ config } : OdometryRingBuffer (ExactReal K)) := sound_of_empty rfl
  have hSound := run_sound hEmpty ops
  have hLimits : SameLimits config ({ config } : OdometryRingBuffer (ExactReal K)) :=
    ⟨rfl, rfl, rfl⟩
  obtain ⟨hDuration, hCapacity, hGap⟩ := run_sameLimits hLimits ops
  refine ⟨hSound.valid, hSound.increasing, hSound.generation, hCapacity ▸ hSound.size,
    hDuration ▸ hSound.span, fun x hx => sample_stored hSound hx, ?_, ?_⟩
  · intro timestampNs answer hAnswer
    obtain ⟨hLow, hHigh, hAnswered⟩ := sample_answered hAnswer
    refine ⟨hLow, hHigh, ?_⟩
    cases hAnswered with
    | stored hMem hTime => exact .inl ⟨_, hMem, hTime, rfl⟩
    | @interpolated earlier later before after hSamples hFirst hLast hFrame hTime hNear hValid =>
      refine .inr ⟨?_, earlier, before, after, later, hSamples, hFirst, hLast, hFrame, hTime,
        hGap ▸ hNear, rfl, hValid, rfl, ?_⟩
      · intro x hx hStored
        have hExact := sample_stored hSound hx
        rw [hStored, hAnswer] at hExact
        cases hExact
      · have hMem : before ∈ (run historyStep { config } ops).samples ∧
            after ∈ (run historyStep { config } ops).samples := by
          rw [hSamples]
          simp
        exact interpolate_between (hSound.valid _ hMem.1) (hSound.valid _ hMem.2) hFirst hLast hValid
  · rintro before op after kept rfl hBreak
    exact hBreak.separates hEmpty rfl

end Exact

/-- `slerp` between attitudes that hardly differ. -/
instance nearSlerp : Slerp (ExactReal ℚ) where
  slerp a alpha b :=
    let w0 := lit 1 - alpha
    let w1 := if a.w * b.w + a.x * b.x + a.y * b.y + a.z * b.z < lit 0 then -alpha else alpha
    ⟨w0 * a.w + w1 * b.w, w0 * a.x + w1 * b.x, w0 * a.y + w1 * b.y, w0 * a.z + w1 * b.z⟩

def movingSample (timestampNs : Int) (x : ℚ) : ConvertedOdometry (ExactReal ℚ) :=
  let zero : Vec3 (ExactReal ℚ) := ⟨lit 0, lit 0, lit 0⟩
  { timestampNs
    sourcePoseFrame := .ned
    sourceVelocityFrame := .ned
    worldConvention := .rosEnu
    position := ⟨lit x, lit 0, lit 0⟩
    orientation := ⟨lit 1, lit 0, lit 0, lit 0⟩
    velocityWorld := zero
    velocityBody := zero
    angularVelocityBody := zero
    positionVariance := zero
    velocityVariance := zero
    orientationVariance := zero
    resetCounter := 0
    frameGeneration := 1
    positionCovarianceAvailable := true
    velocityCovarianceAvailable := true
    orientationCovarianceAvailable := true
    angularVelocityValid := true }

def bracketed : OdometryRingBuffer (ExactReal ℚ) :=
  run historyStep { config := { stableSamples := 1 } }
    [.push (movingSample 10 0), .push (movingSample 30 2)]

theorem odometry_history_safe_bracketed :
    (bracketed.sample 25).map (·.value.position) = some ⟨lit (3 / 2), lit 0, lit 0⟩ ∧
      ∀ x ∈ bracketed.samples, bracketed.sample x.timestampNs = some ⟨x, false⟩ := by
  have hSafe := odometry_history_safe { stableSamples := 1 } { config := { stableSamples := 1 } }
    rfl [.push (movingSample 10 0), .push (movingSample 30 2)]
  exact ⟨by decide +kernel, hSafe.2.2.2.2.2.1⟩

end OdometryRingBuffer

/-! ## The confidence of an interpolated sample -/

/-- `covariance_availability_mask`: the bits of position, orientation and linear velocity. -/
def covarianceAvailabilityMask {D : Type} (sample : ConvertedOdometry D) : Nat :=
  (if sample.positionCovarianceAvailable then 1 else 0) |||
    (if sample.orientationCovarianceAvailable then 2 else 0) |||
      (if sample.velocityCovarianceAvailable then 4 else 0)

/-- The three covariances are each available in both samples or in neither. -/
structure SameAvailability {D : Type} (a b : ConvertedOdometry D) : Prop where
  position : a.positionCovarianceAvailable = b.positionCovarianceAvailable
  velocity : a.velocityCovarianceAvailable = b.velocityCovarianceAvailable
  orientation : a.orientationCovarianceAvailable = b.orientationCovarianceAvailable

theorem covarianceAvailabilityMask_eq_iff {D : Type} (a b : ConvertedOdometry D) :
    covarianceAvailabilityMask a = covarianceAvailabilityMask b ↔ SameAvailability a b := by
  constructor
  · intro h
    unfold covarianceAvailabilityMask at h
    constructor
    all_goals
      revert h
      cases a.positionCovarianceAvailable <;> cases b.positionCovarianceAvailable <;>
        cases a.velocityCovarianceAvailable <;> cases b.velocityCovarianceAvailable <;>
          cases a.orientationCovarianceAvailable <;> cases b.orientationCovarianceAvailable <;>
            decide
  · rintro ⟨hPosition, hVelocity, hOrientation⟩
    unfold covarianceAvailabilityMask
    rw [hPosition, hVelocity, hOrientation]

def withCovariancesOf {D : Type} (a b : ConvertedOdometry D) : ConvertedOdometry D :=
  { a with
    positionVariance := b.positionVariance
    velocityVariance := b.velocityVariance
    orientationVariance := b.orientationVariance
    positionCovarianceAvailable := b.positionCovarianceAvailable
    velocityCovarianceAvailable := b.velocityCovarianceAvailable
    orientationCovarianceAvailable := b.orientationCovarianceAvailable }

section Definitions
variable {D : Type} [FloatOps D]

/-- No component of the first vector exceeds that of the second. -/
structure AtMost (u v : Vec3 D) : Prop where
  x : u.x ≤ v.x
  y : u.y ≤ v.y
  z : u.z ≤ v.z

/-- The middle sample claims no more than each of the two others. -/
structure NeverOverstates (a b middle : ConvertedOdometry D) : Prop where
  position : middle.positionCovarianceAvailable = true →
    a.positionCovarianceAvailable = true ∧ b.positionCovarianceAvailable = true
  velocity : middle.velocityCovarianceAvailable = true →
    a.velocityCovarianceAvailable = true ∧ b.velocityCovarianceAvailable = true
  orientation : middle.orientationCovarianceAvailable = true →
    a.orientationCovarianceAvailable = true ∧ b.orientationCovarianceAvailable = true
  positionVariance : AtMost a.positionVariance middle.positionVariance ∧
    AtMost b.positionVariance middle.positionVariance
  velocityVariance : AtMost a.velocityVariance middle.velocityVariance ∧
    AtMost b.velocityVariance middle.velocityVariance
  orientationVariance : AtMost a.orientationVariance middle.orientationVariance ∧
    AtMost b.orientationVariance middle.orientationVariance
  angularVelocity : middle.angularVelocityValid = true →
    a.angularVelocityValid = true ∧ b.angularVelocityValid = true

end Definitions

namespace OdometryRingBuffer

section Declared
variable {D : Type} [FloatOps D] [Slerp D]

/-- Interpolation keeps the confidence of both samples, whichever of them lacks a covariance. -/
def KeepsConfidence (a b : ConvertedOdometry D) (timestampNs : Int) : Prop :=
  NeverOverstates a b (interpolate a b timestampNs) ∧ covarianceAvailabilityMask
        (interpolate (withCovariancesOf a b) (withCovariancesOf b a) timestampNs) =
      covarianceAvailabilityMask (interpolate a b timestampNs)

theorem interpolate_availability (a b : ConvertedOdometry D) (timestampNs : Int) :
    SameAvailability (interpolate a b timestampNs) a := by
  unfold interpolate
  dsimp only
  split
  · split
    · exact ⟨rfl, rfl, rfl⟩
    · split <;> exact ⟨rfl, rfl, rfl⟩
  · exact ⟨rfl, rfl, rfl⟩

end Declared

section Exact
variable {K : Type} [Field K] [LinearOrder K] [IsStrictOrderedRing K] [FloorRing K] [SquareRoot K]

omit [IsStrictOrderedRing K] in
theorem atMost_cwiseMax {u v : Vec3 (ExactReal K)} (hu : u.allFinite = true)
    (hv : v.allFinite = true) : AtMost u (cwiseMax u v) ∧ AtMost v (cwiseMax u v) := by
  obtain ⟨a, rfl⟩ := Vec3.allFinite_iff.mp hu
  obtain ⟨c, rfl⟩ := Vec3.allFinite_iff.mp hv
  constructor <;> constructor <;> simp [cwiseMax, Vec3.lift]

variable [Slerp (ExactReal K)]

theorem interpolate_declared {a b : ConvertedOdometry (ExactReal K)} {timestampNs : Int}
    (hPositive : 0 < a.timestampNs) (hOrder : a.timestampNs < b.timestampNs)
    (hRange : b.timestampNs < 2 ^ 63) (hFirst : a.timestampNs ≤ timestampNs)
    (hLast : timestampNs ≤ b.timestampNs) :
    (interpolate a b timestampNs).positionVariance =
        cwiseMax a.positionVariance b.positionVariance ∧
      (interpolate a b timestampNs).velocityVariance =
        cwiseMax a.velocityVariance b.velocityVariance ∧
      (interpolate a b timestampNs).orientationVariance =
        cwiseMax a.orientationVariance b.orientationVariance ∧
      (interpolate a b timestampNs).angularVelocityValid =
        (a.angularVelocityValid && b.angularVelocityValid) := by
  have hNumerator : checkedDifference timestampNs a.timestampNs =
      some (timestampNs - a.timestampNs) := checkedDifference_of_range (by omega) (by omega)
  have hDenominator : checkedDifference b.timestampNs a.timestampNs =
      some (b.timestampNs - a.timestampNs) := checkedDifference_of_range (by omega) (by omega)
  have hSpan : (0 : K) < ((b.timestampNs - a.timestampNs : Int) : K) := by
    exact_mod_cast (by omega : 0 < b.timestampNs - a.timestampNs)
  have hElapsed : (0 : K) ≤ ((timestampNs - a.timestampNs : Int) : K) := by
    exact_mod_cast (by omega : 0 ≤ timestampNs - a.timestampNs)
  have hWithin : ((timestampNs - a.timestampNs : Int) : K) ≤
      ((b.timestampNs - a.timestampNs : Int) : K) := by
    exact_mod_cast (by omega : timestampNs - a.timestampNs ≤ b.timestampNs - a.timestampNs)
  have hAlpha : (ofInt (timestampNs - a.timestampNs) / ofInt (b.timestampNs - a.timestampNs) :
      ExactReal K) =
      .finite (((timestampNs - a.timestampNs : Int) : K) /
        ((b.timestampNs - a.timestampNs : Int) : K)) := div_finite _ hSpan.ne'
  have hProper : (!isFinite (ofInt (timestampNs - a.timestampNs) /
        ofInt (b.timestampNs - a.timestampNs) : ExactReal K) ||
      ofInt (timestampNs - a.timestampNs) / ofInt (b.timestampNs - a.timestampNs) <
        (lit 0 : ExactReal K) ||
      (lit 1 : ExactReal K) <
        ofInt (timestampNs - a.timestampNs) / ofInt (b.timestampNs - a.timestampNs)) = false := by
    rw [hAlpha, lit_finite, lit_finite]
    simp only [isFinite_finite, Bool.not_true, Bool.false_or, Bool.or_eq_false_iff,
      decide_eq_false_iff_not, lt_finite, Rat.cast_zero, Rat.cast_one, not_lt]
    exact ⟨div_nonneg hElapsed hSpan.le, (div_le_one hSpan).mpr hWithin⟩
  unfold interpolate
  rw [hNumerator, hDenominator]
  dsimp only
  rw [if_neg (by omega : ¬ b.timestampNs - a.timestampNs ≤ 0), hProper]
  exact ⟨rfl, rfl, rfl, rfl⟩

omit [IsStrictOrderedRing K] [Slerp (ExactReal K)] in
theorem validConvertedOdometry_variances {s : ConvertedOdometry (ExactReal K)}
    (h : validConvertedOdometry s = true) :
    0 < s.timestampNs ∧ s.positionVariance.allFinite = true ∧
      s.velocityVariance.allFinite = true ∧ s.orientationVariance.allFinite = true := by
  simp only [validConvertedOdometry, ResetCompensator.validMotion, ResetCompensator.validVariance,
    Bool.and_eq_true, decide_eq_true_eq] at h
  exact ⟨h.1.1, h.2.1.1.2.1, h.2.1.2.1, h.2.2.1⟩

/-- For every two valid samples and every time between them, interpolation keeps the confidence
of both exactly when each covariance is available in both or in neither. -/
theorem interpolation_keeps_confidence_iff (a b : ConvertedOdometry (ExactReal K))
    (timestampNs : Int) (ha : validConvertedOdometry a = true)
    (hb : validConvertedOdometry b = true) (hOrder : a.timestampNs < b.timestampNs)
    (hRange : b.timestampNs < 2 ^ 63) (hFirst : a.timestampNs ≤ timestampNs)
    (hLast : timestampNs ≤ b.timestampNs) :
    KeepsConfidence a b timestampNs ↔ SameAvailability a b := by
  obtain ⟨hStampA, hPositionA, hVelocityA, hOrientationA⟩ := validConvertedOdometry_variances ha
  obtain ⟨-, hPositionB, hVelocityB, hOrientationB⟩ := validConvertedOdometry_variances hb
  have hMiddle := interpolate_availability a b timestampNs
  have hSwapped := interpolate_availability (withCovariancesOf a b) (withCovariancesOf b a)
    timestampNs
  constructor
  · rintro ⟨-, hMask⟩
    -- the interpolation of the exchanged samples declares what the later sample declares
    have hSame := (covarianceAvailabilityMask_eq_iff _ _).mp hMask
    exact ⟨(hMiddle.position.symm.trans hSame.position.symm).trans hSwapped.position,
      (hMiddle.velocity.symm.trans hSame.velocity.symm).trans hSwapped.velocity,
      (hMiddle.orientation.symm.trans hSame.orientation.symm).trans hSwapped.orientation⟩
  · intro hSame
    obtain ⟨hPosition, hVelocity, hOrientation, hAngular⟩ :=
      interpolate_declared hStampA hOrder hRange hFirst hLast
    refine ⟨⟨?_, ?_, ?_, ?_, ?_, ?_, ?_⟩, ?_⟩
    · intro h
      rw [hMiddle.position] at h
      exact ⟨h, hSame.position ▸ h⟩
    · intro h
      rw [hMiddle.velocity] at h
      exact ⟨h, hSame.velocity ▸ h⟩
    · intro h
      rw [hMiddle.orientation] at h
      exact ⟨h, hSame.orientation ▸ h⟩
    · rw [hPosition]
      exact atMost_cwiseMax hPositionA hPositionB
    · rw [hVelocity]
      exact atMost_cwiseMax hVelocityA hVelocityB
    · rw [hOrientation]
      exact atMost_cwiseMax hOrientationA hOrientationB
    · intro h
      rw [hAngular, Bool.and_eq_true] at h
      exact h
    · refine (covarianceAvailabilityMask_eq_iff _ _).mpr ⟨?_, ?_, ?_⟩
      · rw [hSwapped.position, hMiddle.position]
        exact hSame.position.symm
      · rw [hSwapped.velocity, hMiddle.velocity]
        exact hSame.velocity.symm
      · rw [hSwapped.orientation, hMiddle.orientation]
        exact hSame.orientation.symm

end Exact

def unmeasured : ConvertedOdometry (ExactReal ℚ) :=
  { movingSample 30 2 with
    positionVariance := ⟨lit (-1), lit (-1), lit (-1)⟩
    positionCovarianceAvailable := false }

theorem interpolation_keeps_confidence_of_measured :
    KeepsConfidence (movingSample 10 0) (movingSample 30 2) 25 :=
  (interpolation_keeps_confidence_iff (movingSample 10 0) (movingSample 30 2) 25 (by decide +kernel)
    (by decide +kernel) (by decide) (by decide) (by decide) (by decide)).mpr ⟨rfl, rfl, rfl⟩

/-- The earlier sample declares the covariance of its position, the later one has none. -/
theorem interpolation_overstates :
    validConvertedOdometry (movingSample 10 0) = true ∧ validConvertedOdometry unmeasured = true ∧
      (interpolate (movingSample 10 0) unmeasured 25).positionCovarianceAvailable = true ∧
      unmeasured.positionCovarianceAvailable = false ∧
      ¬ KeepsConfidence (movingSample 10 0) unmeasured 25 := by
  have hDeclared : (interpolate (movingSample 10 0) unmeasured 25).positionCovarianceAvailable =
      true := by decide +kernel
  refine ⟨by decide +kernel, by decide +kernel, hDeclared, rfl, ?_⟩
  rintro ⟨hKept, -⟩
  exact absurd (hKept.position hDeclared).2 (by decide)

end OdometryRingBuffer

end UavNavigation
