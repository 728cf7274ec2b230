import Mathlib.Data.Prod.Lex
import UavNavigation.ExternalOdometryBridge

/-!
# One callback of the external odometry bridge

What one message does to the highest identity, to the times of the converter, to the
baseline of the continuity and to the latch, and what a message that is published says
of all of them.
-/

namespace UavNavigation.ExternalOdometry

set_option autoImplicit false

open FloatOps Runs NavigationMode

def identity (epoch sequence : Nat) : ℕ ×ₗ ℕ := toLex (epoch, sequence)

def Genuine (epoch sequence : Nat) : Prop := epoch ≠ 0 ∧ sequence ≠ 0

theorem strictlyNewer_iff {highestEpoch highestSequence epoch sequence : Nat} :
    strictlyNewerSourceIdentity highestEpoch highestSequence epoch sequence = true ↔
      Genuine epoch sequence ∧ identity highestEpoch highestSequence < identity epoch sequence := by
  unfold strictlyNewerSourceIdentity identity Genuine
  rw [Prod.Lex.toLex_lt_toLex]
  split
  · rename_i hZero
    refine iff_of_false (by simp) ?_
    rintro ⟨⟨hEpoch, hSequence⟩, -⟩
    exact hZero.elim hEpoch hSequence
  rename_i hSome
  push Not at hSome
  split
  · rename_i hFirst
    subst hFirst
    exact iff_of_true rfl ⟨hSome, .inl (Nat.pos_of_ne_zero hSome.1)⟩
  · simp only [Bool.or_eq_true, decide_eq_true_eq, Bool.and_eq_true, beq_iff_eq]
    constructor
    · rintro (hLater | ⟨rfl, hSequence⟩)
      · exact ⟨hSome, .inl hLater⟩
      · exact ⟨hSome, .inr ⟨rfl, hSequence⟩⟩
    · rintro ⟨-, hLater | ⟨hEpoch, hSequence⟩⟩
      · exact .inl hLater
      · exact .inr ⟨hEpoch.symm, hSequence⟩

namespace TimestampConverter

/-- A converter that holds times has the generation of the bridge. -/
def Ready (c : TimestampConverter) : Prop :=
  c.lastTimestampMappingGeneration = some kTransportTimestampMappingGeneration ∨
    c.lastMeasurementTimeUs = none ∧ c.lastPublicationTimeUs = none

variable {c : TimestampConverter}

theorem mapped_times (h : c.Ready) :
    (c.mapped kTransportTimestampMappingGeneration).lastMeasurementTimeUs =
        c.lastMeasurementTimeUs ∧
      (c.mapped kTransportTimestampMappingGeneration).lastPublicationTimeUs =
        c.lastPublicationTimeUs ∧
      (c.mapped kTransportTimestampMappingGeneration).lastTimestampMappingGeneration =
        some kTransportTimestampMappingGeneration := by
  unfold mapped
  split
  · rename_i hSame
    exact ⟨rfl, rfl, hSame⟩
  · rename_i hOther
    obtain ⟨hMeasurement, hPublication⟩ := h.resolve_left hOther
    exact ⟨hMeasurement.symm, hPublication.symm, rfl⟩

theorem order_none {measurementUs publicationUs : Nat}
    (h : c.order measurementUs publicationUs = none) :
    (∀ last ∈ c.lastMeasurementTimeUs, last < measurementUs) ∧
      ∀ last ∈ c.lastPublicationTimeUs, last ≤ publicationUs := by
  revert h
  fun_cases order
  all_goals intro h
  case case4 hBefore hEqual hPublication =>
    simp only [Option.any_eq_true, decide_eq_true_eq, beq_iff_eq, not_exists, not_and] at *
    constructor
    · intro last hLast
      have := hBefore last hLast
      have := hEqual last hLast
      omega
    · intro last hLast
      have := hPublication last hLast
      omega
  all_goals cases h

/-- What a conversion does to the times of the converter. -/
inductive Converted (c : TimestampConverter) : TimestampConverter → TimestampConversionResult → Prop
  | valid {after : TimestampConverter} {result : TimestampConversionResult}
      (accepted : result.valid = true)
      (measurement : after.lastMeasurementTimeUs = some result.measurementTimeUs)
      (publication : after.lastPublicationTimeUs = some result.publicationTimeUs)
      (later : ∀ last ∈ c.lastMeasurementTimeUs, last < result.measurementTimeUs)
      (notBefore : ∀ last ∈ c.lastPublicationTimeUs, last ≤ result.publicationTimeUs) :
      Converted c after result
  | invalid {after : TimestampConverter} {result : TimestampConversionResult}
      (refused : result.valid = false)
      (measurement : after.lastMeasurementTimeUs = c.lastMeasurementTimeUs)
      (publication : after.lastPublicationTimeUs = c.lastPublicationTimeUs) :
      Converted c after result

theorem convert_times (h : c.Ready) (measurementNs publicationNs : Int)
    (mode : TimestampMappingMode) : Converted c
        (c.convert measurementNs publicationNs mode kTransportTimestampMappingGeneration).1
        (c.convert measurementNs publicationNs mode kTransportTimestampMappingGeneration).2 ∧
      (c.convert measurementNs publicationNs mode kTransportTimestampMappingGeneration).1.Ready := by
  obtain ⟨hMeasurement, hPublication, hGeneration⟩ := mapped_times h
  fun_cases convert
  case case1 => exact ⟨.invalid rfl rfl rfl, h⟩
  case case2 => exact ⟨.invalid rfl rfl rfl, h⟩
  case case8 measurementUs publicationUs _ _ _ _ _ hOrder =>
    obtain ⟨hLater, hNotBefore⟩ := order_none hOrder
    rw [hMeasurement] at hLater
    rw [hPublication] at hNotBefore
    exact ⟨.valid rfl rfl rfl hLater hNotBefore, .inl hGeneration⟩
  all_goals exact ⟨.invalid rfl hMeasurement hPublication, .inl hGeneration⟩

end TimestampConverter

section Continuity
variable {D : Type} [Floating D] [Narrowing D]

/-- A sample against its baseline: the time between them is admissible and the displacement
is the expected one, unless a jump is reported. -/
structure Evaluated (angularDistance : Quaternion D → Quaternion D → D)
    (config : GeometricJumpContinuityConfig D) (previous current : ExternalOdometryFrame D)
    (observation : GeometricJumpContinuityObservation D) : Prop where
  later : previous.timestampNs < current.timestampNs
  dt : observation.dtS = ofInt (current.timestampNs - previous.timestampNs) * lit (1 / 10 ^ 9)
  notShort : ¬observation.dtS < config.minimumContinuityDtS
  notLong : ¬config.maximumContinuityDtS < observation.dtS
  position : observation.positionDeltaM = (current.positionNed - previous.positionNed).norm
  orientation : observation.orientationDeltaRad =
    angularDistance previous.orientationNed current.orientationNed
  allowedPosition : observation.allowedPositionDeltaM = Narrowing.narrow (displacementBound
    config.positionJumpMarginM config.maximumExpectedSpeedMps observation.dtS)
  allowedOrientation : observation.allowedOrientationDeltaRad = Narrowing.narrow
    (displacementBound config.orientationJumpMarginRad config.maximumExpectedAngularRateRadS
      observation.dtS)
  jumped : observation.jumped =
    (decide (observation.allowedPositionDeltaM < observation.positionDeltaM) ||
      decide (observation.allowedOrientationDeltaRad < observation.orientationDeltaRad))

/-- The three things that an observation does to the baseline. -/
inductive Continued (angularDistance : Quaternion D → Quaternion D → D)
    (config : GeometricJumpContinuityConfig D) (current : ExternalOdometryFrame D)
    (generation : Nat) (state : GeometricJumpContinuityState D) :
    GeometricJumpContinuityObservation D → GeometricJumpContinuityState D → Prop
  | reseeded {observation : GeometricJumpContinuityObservation D}
      {after : GeometricJumpContinuityState D} (reseeds : observation.baselineReseeded = true)
      (unevaluated : observation.evaluated = false) (smooth : observation.jumped = false)
      (admissible : observation.sampleAdmissible = true)
      (baseline : after.lastReceived = some current) (same : after.lastGeneration = generation) :
      Continued angularDistance config current generation state observation after
  | passedOver {observation : GeometricJumpContinuityObservation D}
      (keeps : observation.baselineReseeded = false) (unevaluated : observation.evaluated = false)
      (smooth : observation.jumped = false) (inadmissible : observation.sampleAdmissible = false)
      (known : state.lastReceived.isSome = true) :
      Continued angularDistance config current generation state observation state
  | evaluated {observation : GeometricJumpContinuityObservation D}
      {after : GeometricJumpContinuityState D} {previous : ExternalOdometryFrame D}
      (keeps : observation.baselineReseeded = false) (evaluates : observation.evaluated = true)
      (admissible : observation.sampleAdmissible = true)
      (known : state.lastReceived = some previous) (trusted : state.continuityTrusted = true)
      (sameGeneration : state.lastGeneration = generation)
      (baseline : after.lastReceived = some current) (same : after.lastGeneration = generation)
      (against : Evaluated angularDistance config previous current observation) :
      Continued angularDistance config current generation state observation after

theorem evaluateContinuity_continued {angularDistance : Quaternion D → Quaternion D → D}
    {config : GeometricJumpContinuityConfig D} {current previous : ExternalOdometryFrame D}
    {generationValid : Bool} {generation : Nat} {state : GeometricJumpContinuityState D}
    (hKnown : state.lastReceived = some previous) (hTrusted : state.continuityTrusted = true)
    (hGeneration : state.lastGeneration = generation)
    (hLater : 0 < current.timestampNs - previous.timestampNs) :
    Continued angularDistance config current generation state
      (evaluateContinuity angularDistance current previous generationValid generation config
        (current.timestampNs - previous.timestampNs) state).1
      (evaluateContinuity angularDistance current previous generationValid generation config
        (current.timestampNs - previous.timestampNs) state).2 := by
  unfold evaluateContinuity
  dsimp only
  split
  · exact .passedOver rfl rfl rfl rfl (by rw [hKnown]; rfl)
  rename_i hShort
  split
  · exact .reseeded rfl rfl rfl rfl rfl rfl
  rename_i hLong
  split
  · exact .reseeded rfl rfl rfl rfl rfl rfl
  · exact .evaluated rfl rfl rfl hKnown hTrusted hGeneration rfl rfl
      ⟨by omega, rfl, hShort, hLong, rfl, rfl, rfl, rfl, rfl⟩

theorem observe_continued (angularDistance : Quaternion D → Quaternion D → D)
    (current : ExternalOdometryFrame D) (sourceValid generationValid : Bool) (generation : Nat)
    (config : GeometricJumpContinuityConfig D) (state : GeometricJumpContinuityState D) :
    Continued angularDistance config current generation state
      (observeGeometricJumpContinuity angularDistance current sourceValid generationValid generation
        config state).1
      (observeGeometricJumpContinuity angularDistance current sourceValid generationValid generation
        config state).2 := by
  fun_cases observeGeometricJumpContinuity
  case case9 previous hKnown hTrusted _ hGeneration _ =>
    exact .passedOver rfl rfl rfl rfl (by rw [hKnown]; rfl)
  case case10 previous hKnown hTrusted _ hGeneration dtNs hDifference _ =>
    exact .passedOver rfl rfl rfl rfl (by rw [hKnown]; rfl)
  case case11 previous hKnown hTrusted _ hGeneration dtNs hDifference hLater =>
    obtain rfl := checkedDifference_eq hDifference
    simp only [Bool.or_eq_true, Bool.not_eq_true', not_or, Bool.not_eq_false] at hTrusted
    exact evaluateContinuity_continued hKnown hTrusted.2 (not_not.mp hGeneration) (by omega)
  all_goals exact .reseeded rfl rfl rfl rfl rfl rfl

end Continuity

/-! ## One callback -/

namespace Px4ExternalOdometryBridgeNode
variable {D : Type} [Floating D] [Narrowing D] [SelfAdjointEigenSolver D]

abbrev BridgeEvent (D : Type) :=
  Event (BridgeState D) (BridgeMessage D) (Option (VehicleVisualOdometry D))

def accepts (s : BridgeState D) (message : PropagatedLioOdometry D) : Bool :=
  strictlyNewerSourceIdentity s.highestReceivedLioEpoch s.highestReceivedLioSequence
    message.localizationEpoch message.sequence

/-- A sample that is new and converted, and what is observed of it. -/
def observationOf (b : Px4ExternalOdometryBridgeNode D) (s : BridgeState D) :
    BridgeMessage D → Option (Px4Sample D × Observation D)
  | .lioHealth _ => none
  | .lio message nowNs _ =>
    if accepts s message then
      (b.px4Sample message.odometry).toOption.map fun sample =>
        (sample, b.observe (s.received message.localizationEpoch message.sequence) sample.frame nowNs)
    else none

def observedGeneration (s : BridgeState D) : BridgeMessage D → Option Nat
  | .lioHealth message =>
    ((externalLioHealthSnapshot message).filter fun health =>
      decide (s.lastLioHealthStampNs < health.sourceStampNs)).map
        ExternalLioHealthSnapshot.publicFrameGeneration
  | .lio message _ _ =>
    if accepts s message && (s.highestReceivedLioEpoch != 0 &&
        message.localizationEpoch != s.highestReceivedLioEpoch) then some message.localizationEpoch
    else none

inductive LioStep (b : Px4ExternalOdometryBridgeNode D) (s : BridgeState D)
    (message : PropagatedLioOdometry D) (nowNs : Int) (subscriptions : Nat) :
    BridgeState D → Option (VehicleVisualOdometry D) → Prop
  | stale (old : accepts s message = false) : LioStep b s message nowNs subscriptions s none
  | rejected (new : accepts s message = true) {reason : String}
      (conversion : b.px4Sample message.odometry = .error reason) :
      LioStep b s message nowNs subscriptions
        (s.received message.localizationEpoch message.sequence).untrusted none
  | gated (new : accepts s message = true) {sample : Px4Sample D}
      (conversion : b.px4Sample message.odometry = .ok sample) :
      LioStep b s message nowNs subscriptions
        (b.observe (s.received message.localizationEpoch message.sequence) sample.frame nowNs).after
        none
  | published (new : accepts s message = true) {sample : Px4Sample D}
      (conversion : b.px4Sample message.odometry = .ok sample)
      (ready : (b.gateInput (b.observe (s.received message.localizationEpoch message.sequence)
        sample.frame nowNs) sample.frame nowNs subscriptions).publicationReady = true) :
      LioStep b s message nowNs subscriptions
        (b.observe (s.received message.localizationEpoch message.sequence) sample.frame nowNs).after
        (some (b.vehicleOdometry (b.observe (s.received message.localizationEpoch message.sequence)
          sample.frame nowNs) sample))

theorem step_lio (b : Px4ExternalOdometryBridgeNode D) (s : BridgeState D)
    (message : PropagatedLioOdometry D) (nowNs : Int) (subscriptions : Nat) :
    LioStep b s message nowNs subscriptions (b.step s (.lio message nowNs subscriptions)).1
      (b.step s (.lio message nowNs subscriptions)).2 := by
  unfold step onLio
  dsimp only
  split
  · rename_i hOld
    exact .stale (by simpa [accepts] using hOld)
  rename_i hNew
  have hAccepts : accepts s message = true := by simpa [accepts] using hNew
  split
  · rename_i hRejected
    exact .rejected hAccepts hRejected
  rename_i sample hSample
  split
  · rename_i hReady
    exact .published hAccepts hSample hReady
  · exact .gated hAccepts hSample

inductive HealthStep (s : BridgeState D) (message : EstimatorHealth) : BridgeState D → Prop
  | ignored (silent : observedGeneration s (.lioHealth message) = none) : HealthStep s message s
  | heard {health : ExternalLioHealthSnapshot}
      (snapshot : externalLioHealthSnapshot message = some health)
      (newer : s.lastLioHealthStampNs < health.sourceStampNs)
      (tells : observedGeneration s (.lioHealth message) = some health.publicFrameGeneration) :
      HealthStep s message (s.heard health)

variable {b : Px4ExternalOdometryBridgeNode D} {s : BridgeState D} {sample : Px4Sample D}

omit [Floating D] [Narrowing D] [SelfAdjointEigenSolver D] in
theorem step_health (s : BridgeState D) (message : EstimatorHealth) :
    HealthStep s message (onLioHealth s message) := by
  unfold onLioHealth
  split
  · rename_i hNone
    exact .ignored (by simp [observedGeneration, hNone])
  rename_i health hSnapshot
  split
  · rename_i hOld
    exact .ignored (by simp [observedGeneration, hSnapshot, Option.filter, hOld])
  · rename_i hNewer
    have hTells : s.lastLioHealthStampNs < health.sourceStampNs := by omega
    exact .heard hSnapshot hTells (by simp [observedGeneration, hSnapshot, Option.filter, hTells])

theorem observationOf_lio {message : PropagatedLioOdometry D} (hNew : accepts s message = true)
    (hSample : b.px4Sample message.odometry = .ok sample) (nowNs : Int) (subscriptions : Nat) :
    b.observationOf s (.lio message nowNs subscriptions) = some (sample,
      b.observe (s.received message.localizationEpoch message.sequence) sample.frame nowNs) := by
  dsimp only [observationOf]
  rw [if_pos hNew, hSample]
  rfl

structure Admitted (sample : Px4Sample D) (observation : Observation D) : Prop where
  timestamps : observation.timestamps.valid = true
  generation : 0 < observation.after.publicGeneration
  frame : sample.frame.frameValid = true
  trusted : observation.after.jumpContinuityState.continuityTrusted = true
  unlatched : observation.after.jumpLatch.latched = false
  admissible : observation.geometric.sampleAdmissible = true

variable {observation : Observation D}

omit [Narrowing D] [SelfAdjointEigenSolver D] in
theorem admitted_of_ready {b : Px4ExternalOdometryBridgeNode D} {observation : Observation D}
    {sample : Px4Sample D} {nowNs : Int} {subscriptions : Nat}
    (h : (b.gateInput observation sample.frame nowNs subscriptions).publicationReady = true) :
    Admitted sample observation := by
  simp only [ExternalOdometryGateInput.publicationReady, gateInput, Bool.and_eq_true,
    Bool.not_eq_true', decide_eq_true_eq] at h
  obtain ⟨⟨⟨⟨⟨⟨⟨⟨⟨-, hTimes⟩, -⟩, -⟩, -, hGeneration⟩, -⟩, hFrame⟩, hTrusted⟩, hUnlatched⟩,
    hAdmissible⟩ := h
  exact ⟨hTimes, hGeneration, hFrame, hTrusted, hUnlatched, hAdmissible⟩

theorem published_of_result {op : BridgeMessage D} {output : VehicleVisualOdometry D}
    (h : (b.step s op).2 = some output) :
    ∃ sample observation, b.observationOf s op = some (sample, observation) ∧
      output = b.vehicleOdometry observation sample ∧ Admitted sample observation := by
  cases op with
  | lioHealth message => cases h
  | lio message nowNs subscriptions =>
    have hStep := b.step_lio s message nowNs subscriptions
    rw [h] at hStep
    generalize (b.step s (.lio message nowNs subscriptions)).1 = after at hStep
    cases hStep with
    | published hNew hSample hReady =>
      exact ⟨_, _, observationOf_lio hNew hSample nowNs subscriptions, rfl, admitted_of_ready hReady⟩

variable {op : BridgeMessage D} (h : b.observationOf s op = some (sample, observation))
include h

theorem observed_lio : ∃ message nowNs subscriptions, op = .lio message nowNs subscriptions ∧
      accepts s message = true ∧ b.px4Sample message.odometry = .ok sample ∧
      observation =
        b.observe (s.received message.localizationEpoch message.sequence) sample.frame nowNs := by
  cases op with
  | lioHealth message => cases h
  | lio message nowNs subscriptions =>
    dsimp only [observationOf] at h
    split at h
    · rename_i hNew
      cases hSample : b.px4Sample message.odometry with
      | error reason =>
        rw [hSample] at h
        cases h
      | ok converted =>
        rw [hSample] at h
        obtain ⟨rfl, rfl⟩ := Prod.mk.inj (Option.some.inj h)
        exact ⟨message, nowNs, subscriptions, rfl, hNew, hSample, rfl⟩
    · cases h

theorem step_of_observed : (b.step s op).1 = observation.after := by
  obtain ⟨message, nowNs, subscriptions, rfl, hNew, hSample, rfl⟩ := observed_lio h
  have hStep := b.step_lio s message nowNs subscriptions
  generalize (b.step s (.lio message nowNs subscriptions)).1 = after at hStep
  generalize (b.step s (.lio message nowNs subscriptions)).2 = result at hStep
  cases hStep with
  | stale hOld =>
    rw [hNew] at hOld
    cases hOld
  | rejected _ hRejected =>
    rw [hSample] at hRejected
    cases hRejected
  | gated _ hOther =>
    obtain rfl := Except.ok.inj (hSample.symm.trans hOther)
    rfl
  | published _ hOther _ =>
    obtain rfl := Except.ok.inj (hSample.symm.trans hOther)
    rfl

end Px4ExternalOdometryBridgeNode

namespace BridgeState
variable {D : Type}

def highest (s : BridgeState D) : ℕ ×ₗ ℕ :=
  identity s.highestReceivedLioEpoch s.highestReceivedLioSequence

section
variable (s : BridgeState D) (epoch sequence : Nat)

theorem received_highest : (s.received epoch sequence).highest = identity epoch sequence := by
  unfold received
  dsimp only
  split <;> rfl

theorem received_converter :
    (s.received epoch sequence).timestampConverter = s.timestampConverter := by
  unfold received
  dsimp only
  split <;> rfl

theorem received_generation :
    (s.received epoch sequence).publicGeneration = s.publicGeneration := by
  unfold received publicGeneration
  dsimp only
  split <;> rfl

theorem received_baseline : (s.received epoch sequence).lastReceived = none ∨
      (s.received epoch sequence).lastReceived = s.lastReceived ∧
        (s.received epoch sequence).jumpContinuityState = s.jumpContinuityState ∧
          (s.received epoch sequence).jumpLatch = s.jumpLatch := by
  unfold received
  dsimp only
  split
  · exact .inl rfl
  · exact .inr ⟨rfl, rfl, rfl⟩

end

section
variable (s : BridgeState D) (health : ExternalLioHealthSnapshot)
include health

theorem heard_highest : (s.heard health).highest = s.highest := by
  unfold heard
  dsimp only
  split <;> rfl

theorem heard_converter : (s.heard health).timestampConverter = s.timestampConverter := by
  unfold heard
  dsimp only
  split <;> rfl

theorem heard_baseline : (s.heard health).lastReceived = s.lastReceived ∧
      (s.heard health).jumpContinuityState.lastGeneration = s.jumpContinuityState.lastGeneration ∧
      ((s.heard health).jumpContinuityState.continuityTrusted = true →
        s.jumpContinuityState.continuityTrusted = true) := by
  unfold heard
  dsimp only
  split
  · exact ⟨rfl, rfl, fun h => (Bool.false_ne_true h).elim⟩
  · exact ⟨rfl, rfl, id⟩

theorem heard_closed
    (h : s.jumpLatch.latched = true ∨ s.jumpContinuityState.continuityTrusted = false) :
    (s.heard health).jumpLatch.latched = true ∨
      (s.heard health).jumpContinuityState.continuityTrusted = false := by
  unfold heard GeometricJumpLatch.observePublicFrameGeneration
  split
  · exact h
  split
  · exact h
  split
  · exact h
  · exact .inr rfl

end

end BridgeState

namespace GeometricJumpLatch

inductive ToldOf (latch : GeometricJumpLatch) (generation : Nat) : GeometricJumpLatch → Prop
  | kept {after : GeometricJumpLatch} (known : after.generationKnown = true)
      (least : latch.generationKnown = true → latch.lastGeneration ≤ after.lastGeneration)
      (told : generation ≤ after.lastGeneration) (same : after.latched = latch.latched) :
      ToldOf latch generation after
  | cleared {after : GeometricJumpLatch} (known : after.generationKnown = true)
      (wasKnown : latch.generationKnown = true) (newer : latch.lastGeneration < generation)
      (told : after.lastGeneration = generation) : ToldOf latch generation after

theorem observePublicFrameGeneration_told (latch : GeometricJumpLatch) {generation : Nat}
    (hPositive : generation ≠ 0) :
    ToldOf latch generation (latch.observePublicFrameGeneration true generation).1 := by
  unfold observePublicFrameGeneration
  split
  · rename_i hInvalid
    simp only [Bool.not_true, Bool.false_or, beq_iff_eq] at hInvalid
    exact absurd hInvalid hPositive
  split
  · rename_i hUnknown
    simp only [Bool.not_eq_true'] at hUnknown
    refine .kept rfl (fun hKnown => ?_) le_rfl rfl
    rw [hUnknown] at hKnown
    cases hKnown
  rename_i hKnown
  simp only [Bool.not_eq_true', Bool.not_eq_false] at hKnown
  split
  · rename_i hOld
    exact .kept hKnown (fun _ => le_rfl) hOld rfl
  · rename_i hNewer
    exact .cleared hKnown hKnown (not_le.mp hNewer) rfl

/-- What a message does to the latch, with the generation that it tells. -/
structure Moved (latch : GeometricJumpLatch) (generation : Option Nat)
    (after : GeometricJumpLatch) : Prop where
  known : latch.generationKnown = true → after.generationKnown = true
  grows : latch.generationKnown = true → latch.lastGeneration ≤ after.lastGeneration
  told : ∀ g ∈ generation, after.generationKnown = true ∧ g ≤ after.lastGeneration
  cleared : latch.latched = true → after.latched ≠ true →
    ∃ g ∈ generation, latch.generationKnown = true ∧ latch.lastGeneration < g

variable {latch : GeometricJumpLatch}

theorem Moved.refl (latch : GeometricJumpLatch) : Moved latch none latch :=
  ⟨id, fun _ => le_rfl, by simp, fun hSet hNot => absurd hSet hNot⟩

theorem moved_told (latch : GeometricJumpLatch) {generation : Nat} (hPositive : generation ≠ 0) :
    Moved latch (some generation) (latch.observePublicFrameGeneration true generation).1 := by
  have hTold := latch.observePublicFrameGeneration_told hPositive
  generalize (latch.observePublicFrameGeneration true generation).1 = after at hTold ⊢
  cases hTold with
  | kept hKnown hLeast hTold hSame =>
    exact ⟨fun _ => hKnown, hLeast, by simpa using ⟨hKnown, hTold⟩,
      fun hSet hNot => absurd (hSame.trans hSet) hNot⟩
  | cleared hKnown hWasKnown hNewer hTold =>
    exact ⟨fun _ => hKnown, fun _ => by omega, by simpa using ⟨hKnown, hTold.ge⟩,
      fun _ _ => ⟨generation, rfl, hWasKnown, hNewer⟩⟩

theorem Moved.jump {after : GeometricJumpLatch} {generation : Option Nat}
    (h : Moved latch generation after) (jump : Bool) :
    Moved latch generation (after.observeGeometricJump jump) := by
  unfold observeGeometricJump
  split
  · exact h
  · exact ⟨h.known, h.grows, h.told, fun _ hNot => absurd rfl hNot⟩

theorem observeGeometricJump_latched {jump : Bool} (h : jump = true) :
    (latch.observeGeometricJump jump).latched = true := by
  subst h
  unfold observeGeometricJump
  split
  · rename_i hLatched
    simpa using hLatched
  · rfl

end GeometricJumpLatch

namespace Px4ExternalOdometryBridgeNode
variable {D : Type} [Floating D] [Narrowing D] [SelfAdjointEigenSolver D]

/-! ## The parts under one message -/

variable {b : Px4ExternalOdometryBridgeNode D} {op : BridgeMessage D}
  {observation : Observation D} {s : BridgeState D} {sample : Px4Sample D}

section
variable (b : Px4ExternalOdometryBridgeNode D) (s : BridgeState D)

theorem le_highest (op : BridgeMessage D) : s.highest ≤ (b.step s op).1.highest := by
  cases op with
  | lioHealth message =>
    have hStep := step_health s message
    change s.highest ≤ (onLioHealth s message).highest
    generalize onLioHealth s message = after at hStep ⊢
    cases hStep with
    | ignored _ => exact le_rfl
    | heard _ _ _ => exact (s.heard_highest _).ge
  | lio message nowNs subscriptions =>
    have hStep := b.step_lio s message nowNs subscriptions
    generalize (b.step s (.lio message nowNs subscriptions)).1 = after at hStep ⊢
    generalize (b.step s (.lio message nowNs subscriptions)).2 = result at hStep
    have hNew : accepts s message = true →
        s.highest ≤ (s.received message.localizationEpoch message.sequence).highest := by
      intro hNew
      rw [s.received_highest]
      exact (strictlyNewer_iff.mp hNew).2.le
    cases hStep with
    | stale _ => exact le_rfl
    | rejected h _ => exact hNew h
    | gated h _ => exact hNew h
    | published h _ _ => exact hNew h

theorem identity_le_highest {message : PropagatedLioOdometry D} (nowNs : Int) (subscriptions : Nat)
    (hGenuine : Genuine message.localizationEpoch message.sequence) :
    identity message.localizationEpoch message.sequence ≤
      (b.step s (.lio message nowNs subscriptions)).1.highest := by
  have hStep := b.step_lio s message nowNs subscriptions
  generalize (b.step s (.lio message nowNs subscriptions)).1 = after at hStep ⊢
  generalize (b.step s (.lio message nowNs subscriptions)).2 = result at hStep
  have hNew := (s.received_highest message.localizationEpoch message.sequence).ge
  cases hStep with
  | stale hOld =>
    refine not_lt.mp fun hLater => ?_
    rw [accepts, strictlyNewer_iff.mpr ⟨hGenuine, hLater⟩] at hOld
    cases hOld
  | rejected _ _ => exact hNew
  | gated _ _ => exact hNew
  | published _ _ _ => exact hNew

end

theorem observed_times (hReady : s.timestampConverter.Ready)
    (h : b.observationOf s op = some (sample, observation)) :
    TimestampConverter.Converted s.timestampConverter observation.after.timestampConverter
        observation.timestamps ∧
      observation.after.timestampConverter.Ready := by
  obtain ⟨message, nowNs, subscriptions, rfl, hNew, hSample, rfl⟩ := observed_lio h
  rw [← s.received_converter message.localizationEpoch message.sequence] at hReady ⊢
  exact TimestampConverter.convert_times hReady _ _ _

section
variable (b : Px4ExternalOdometryBridgeNode D) (s : BridgeState D) (op : BridgeMessage D)

theorem step_converter :
    (b.step s op).1.timestampConverter = s.timestampConverter ∧ (b.step s op).2 = none ∨
      ∃ sample observation, b.observationOf s op = some (sample, observation) := by
  cases op with
  | lioHealth message =>
    have hStep := step_health s message
    refine .inl ⟨?_, rfl⟩
    change (onLioHealth s message).timestampConverter = s.timestampConverter
    generalize onLioHealth s message = after at hStep ⊢
    cases hStep with
    | ignored _ => rfl
    | heard _ _ _ => exact s.heard_converter _
  | lio message nowNs subscriptions =>
    have hStep := b.step_lio s message nowNs subscriptions
    generalize (b.step s (.lio message nowNs subscriptions)).1 = after at hStep ⊢
    generalize (b.step s (.lio message nowNs subscriptions)).2 = result at hStep ⊢
    cases hStep with
    | stale _ => exact .inl ⟨rfl, rfl⟩
    | rejected _ _ => exact .inl ⟨s.received_converter _ _, rfl⟩
    | gated hNew hSample => exact .inr ⟨_, _, observationOf_lio hNew hSample nowNs subscriptions⟩
    | published hNew hSample _ =>
      exact .inr ⟨_, _, observationOf_lio hNew hSample nowNs subscriptions⟩

theorem snapshot_generation {message : EstimatorHealth} {health : ExternalLioHealthSnapshot}
    (h : externalLioHealthSnapshot message = some health) :
    health.publicFrameGenerationValid = true ∧ health.publicFrameGeneration ≠ 0 ∧
      health.publicFrameGeneration = message.localizationEpoch := by
  unfold externalLioHealthSnapshot at h
  split at h
  · cases h
  split at h
  · cases h
  · rename_i hValid
    obtain rfl := Option.some.inj h
    push Not at hValid
    exact ⟨rfl, hValid.2, rfl⟩

omit [Floating D] [Narrowing D] [SelfAdjointEigenSolver D] in
theorem received_latch {s : BridgeState D} {message : PropagatedLioOdometry D}
    (hNew : accepts s message = true) (nowNs : Int) (subscriptions : Nat) :
    s.jumpLatch.Moved (observedGeneration s (.lio message nowNs subscriptions))
      (s.received message.localizationEpoch message.sequence).jumpLatch := by
  obtain ⟨⟨hEpoch, -⟩, -⟩ := strictlyNewer_iff.mp hNew
  unfold BridgeState.received
  dsimp only [observedGeneration]
  rw [hNew, Bool.true_and]
  by_cases hChanged : s.highestReceivedLioEpoch ≠ 0 ∧
      message.localizationEpoch ≠ s.highestReceivedLioEpoch
  · rw [if_pos (by simpa using hChanged), if_pos (by simpa using hChanged)]
    exact s.jumpLatch.moved_told hEpoch
  · rw [if_neg (by simpa using hChanged), if_neg (by simpa using hChanged)]
    exact .refl _

theorem step_latch : s.jumpLatch.Moved (observedGeneration s op) (b.step s op).1.jumpLatch := by
  cases op with
  | lioHealth message =>
    have hStep := step_health s message
    change s.jumpLatch.Moved _ (onLioHealth s message).jumpLatch
    generalize onLioHealth s message = after at hStep ⊢
    cases hStep with
    | ignored hSilent =>
      rw [hSilent]
      exact .refl _
    | heard hSnapshot _ hTells =>
      obtain ⟨hValid, hPositive, -⟩ := snapshot_generation hSnapshot
      rw [hTells]
      have hMoved := s.jumpLatch.moved_told hPositive
      rw [← hValid] at hMoved
      exact hMoved
  | lio message nowNs subscriptions =>
    have hStep := b.step_lio s message nowNs subscriptions
    generalize (b.step s (.lio message nowNs subscriptions)).1 = after at hStep ⊢
    generalize (b.step s (.lio message nowNs subscriptions)).2 = result at hStep
    cases hStep with
    | stale hOld =>
      dsimp only [observedGeneration]
      rw [hOld, Bool.false_and, if_neg Bool.false_ne_true]
      exact .refl _
    | rejected hNew _ => exact received_latch hNew nowNs subscriptions
    | gated hNew _ => exact (received_latch hNew nowNs subscriptions).jump _
    | published hNew _ _ => exact (received_latch hNew nowNs subscriptions).jump _

end

/-- What an observed sample does to the baseline of the node. -/
inductive SampleStep (b : Px4ExternalOdometryBridgeNode D) (s : BridgeState D)
    (sample : Px4Sample D) (observation : Observation D) : Prop
  | reseeded (reseeds : observation.geometric.baselineReseeded = true)
      (unevaluated : observation.geometric.evaluated = false)
      (smooth : observation.geometric.jumped = false)
      (admissible : observation.geometric.sampleAdmissible = true)
      (baseline : observation.after.lastReceived = some sample.frame)
      (same : observation.after.jumpContinuityState.lastGeneration =
        observation.after.publicGeneration)
  | passedOver (keeps : observation.geometric.baselineReseeded = false)
      (unevaluated : observation.geometric.evaluated = false)
      (smooth : observation.geometric.jumped = false)
      (inadmissible : observation.geometric.sampleAdmissible = false)
      (baseline : observation.after.lastReceived = s.lastReceived)
      (same : observation.after.jumpContinuityState.lastGeneration =
        s.jumpContinuityState.lastGeneration)
      (trust : observation.after.jumpContinuityState.continuityTrusted =
        s.jumpContinuityState.continuityTrusted)
      (latch : observation.after.jumpLatch = s.jumpLatch)
  | evaluated {previous : ExternalOdometryFrame D}
      (keeps : observation.geometric.baselineReseeded = false)
      (evaluates : observation.geometric.evaluated = true)
      (admissible : observation.geometric.sampleAdmissible = true)
      (known : s.lastReceived = some previous)
      (trusted : s.jumpContinuityState.continuityTrusted = true)
      (sameGeneration : s.jumpContinuityState.lastGeneration = observation.after.publicGeneration)
      (baseline : observation.after.lastReceived = some sample.frame)
      (same : observation.after.jumpContinuityState.lastGeneration =
        observation.after.publicGeneration)
      (latch : observation.after.jumpLatch =
        s.jumpLatch.observeGeometricJump observation.geometric.jumped)
      (against : Evaluated b.angularDistance b.jumpContinuityConfig previous sample.frame
        observation.geometric)

omit [SelfAdjointEigenSolver D] in
theorem observe_baseline (b : Px4ExternalOdometryBridgeNode D) (r : BridgeState D)
    (frame : ExternalOdometryFrame D) (nowNs : Int) :
    Continued b.angularDistance b.jumpContinuityConfig frame
      (b.observe r frame nowNs).after.publicGeneration
      { r.jumpContinuityState with lastReceived := r.lastReceived }
      (b.observe r frame nowNs).geometric (b.observe r frame nowNs).after.jumpContinuityState :=
  observe_continued _ _ _ _ _ _ _

theorem observed_sample (h : b.observationOf s op = some (sample, observation)) :
    b.SampleStep s sample observation := by
  obtain ⟨message, nowNs, subscriptions, rfl, hNew, hSample, rfl⟩ := observed_lio h
  have hReceived := s.received_baseline message.localizationEpoch message.sequence
  generalize s.received message.localizationEpoch message.sequence = r at hReceived ⊢
  have hContinued := b.observe_baseline r sample.frame nowNs
  have hLast : (b.observe r sample.frame nowNs).after.lastReceived =
      (b.observe r sample.frame nowNs).after.jumpContinuityState.lastReceived := rfl
  have hLatch : (b.observe r sample.frame nowNs).after.jumpLatch =
      r.jumpLatch.observeGeometricJump (b.observe r sample.frame nowNs).geometric.jumped := rfl
  generalize b.observe r sample.frame nowNs = observation at hContinued hLast hLatch ⊢
  generalize hGeometric : observation.geometric = geometric at hContinued hLatch
  generalize hState : observation.after.jumpContinuityState = state at hContinued hLast
  cases hContinued with
  | reseeded hReseeds hUnevaluated hSmooth hAdmissible hBaseline hSame =>
    subst hGeometric hState
    exact .reseeded hReseeds hUnevaluated hSmooth hAdmissible (hLast.trans hBaseline) hSame
  | passedOver hKeeps hUnevaluated hSmooth hInadmissible hKnown =>
    subst hGeometric
    rcases hReceived with hNone | ⟨hLastReceived, hContinuity, hSameLatch⟩
    · rw [hNone] at hKnown
      cases hKnown
    · refine .passedOver hKeeps hUnevaluated hSmooth hInadmissible (hLast.trans hLastReceived) ?_ ?_ ?_
      · rw [hState, ← hContinuity]
      · rw [hState, ← hContinuity]
      · rw [hLatch, hSmooth, hSameLatch]
        rfl
  | evaluated hKeeps hEvaluates hAdmissible hKnown hTrusted hSameGeneration hBaseline hSame hAgainst =>
    subst hGeometric hState
    rcases hReceived with hNone | ⟨hLastReceived, hContinuity, hSameLatch⟩
    · rw [hNone] at hKnown
      cases hKnown
    · rw [hLastReceived] at hKnown
      rw [hContinuity] at hTrusted hSameGeneration
      rw [hSameLatch] at hLatch
      exact .evaluated hKeeps hEvaluates hAdmissible hKnown hTrusted hSameGeneration
        (hLast.trans hBaseline) hSame hLatch hAgainst

theorem observed_jump (h : b.observationOf s op = some (sample, observation))
    (hJumped : observation.geometric.jumped = true) :
    observation.after.jumpLatch.latched = true := by
  obtain ⟨message, nowNs, subscriptions, -, -, -, rfl⟩ := observed_lio h
  exact GeometricJumpLatch.observeGeometricJump_latched hJumped

theorem unlatched_of_published (h : (b.step s op).2 ≠ none) :
    (b.step s op).1.jumpLatch.latched = false := by
  obtain ⟨output, hOutput⟩ := Option.ne_none_iff_exists'.mp h
  obtain ⟨sample, observation, hObserved, -, hAdmitted⟩ := published_of_result hOutput
  rw [step_of_observed hObserved]
  exact hAdmitted.unlatched

end Px4ExternalOdometryBridgeNode

/-! ## The law of the visual odometry -/

namespace Px4ExternalOdometryBridgeNode
variable {D : Type} [Floating D] [Narrowing D] [SelfAdjointEigenSolver D]

def Bounded (es : List (BridgeEvent D)) (s : BridgeState D) : Prop :=
  ∀ e ∈ es, ∀ message nowNs subscriptions, e.op = .lio message nowNs subscriptions →
    Genuine message.localizationEpoch message.sequence →
    identity message.localizationEpoch message.sequence ≤ s.highest

variable {es : List (BridgeEvent D)} {op : BridgeMessage D} {s : BridgeState D}

section
variable {b : Px4ExternalOdometryBridgeNode D}

theorem Bounded.step (h : Bounded es s) :
    Bounded (es ++ [eventAt b.step s op]) (b.step s op).1 := by
  intro e he message nowNs subscriptions hOp hGenuine
  rcases List.mem_append.mp he with he | he
  · exact (h e he message nowNs subscriptions hOp hGenuine).trans (b.le_highest s op)
  · obtain rfl := List.mem_singleton.mp he
    obtain rfl : op = .lio message nowNs subscriptions := hOp
    exact b.identity_le_highest s nowNs subscriptions hGenuine

def Held (time : VehicleVisualOdometry D → Nat) (es : List (BridgeEvent D)) (last : Option Nat) :
    Prop :=
  ∀ e ∈ es, ∀ output ∈ e.result, ∃ held ∈ last, time output ≤ held

section
omit [Floating D] [Narrowing D] [SelfAdjointEigenSolver D]

theorem Held.silent {time : VehicleVisualOdometry D → Nat} {es : List (BridgeEvent D)}
    {last : Option Nat} {e : BridgeEvent D} (h : Held time es last) (hSilent : e.result = none) :
    Held time (es ++ [e]) last := by
  intro e' he output hOutput
  rcases List.mem_append.mp he with he | he
  · exact h e' he output hOutput
  · obtain rfl := List.mem_singleton.mp he
    rw [hSilent] at hOutput
    cases hOutput

theorem Held.later {time : VehicleVisualOdometry D → Nat} {es : List (BridgeEvent D)}
    {last : Option Nat} {e : BridgeEvent D} {next : Nat} (h : Held time es last)
    (hLater : ∀ held ∈ last, held ≤ next) (hNew : ∀ output ∈ e.result, time output ≤ next) :
    Held time (es ++ [e]) (some next) := by
  intro e' he output hOutput
  refine ⟨next, rfl, ?_⟩
  rcases List.mem_append.mp he with he | he
  · obtain ⟨held, hHeld, hTime⟩ := h e' he output hOutput
    exact hTime.trans (hLater held hHeld)
  · obtain rfl := List.mem_singleton.mp he
    exact hNew output hOutput

end

/-- The converter holds the times of what was published. -/
structure Timed (es : List (BridgeEvent D)) (s : BridgeState D) : Prop where
  ready : s.timestampConverter.Ready
  measurement : Held VehicleVisualOdometry.timestampSample es
    s.timestampConverter.lastMeasurementTimeUs
  publication : Held VehicleVisualOdometry.timestamp es s.timestampConverter.lastPublicationTimeUs

theorem Timed.step (h : Timed es s) : Timed (es ++ [eventAt b.step s op]) (b.step s op).1 := by
  rcases b.step_converter s op with ⟨hSame, hSilent⟩ | ⟨sample, observation, hObserved⟩
  · refine ⟨?_, ?_, ?_⟩
    · rw [hSame]
      exact h.ready
    · rw [hSame]
      exact h.measurement.silent hSilent
    · rw [hSame]
      exact h.publication.silent hSilent
  · obtain ⟨hTimes, hReady⟩ := observed_times h.ready hObserved
    have hPublished : ∀ output ∈ (eventAt b.step s op).result,
        output = b.vehicleOdometry observation sample ∧ observation.timestamps.valid = true := by
      intro output hOutput
      obtain ⟨sample', observation', hOther, hIs, hAdmitted⟩ := published_of_result hOutput
      obtain ⟨rfl, rfl⟩ := Prod.mk.inj (Option.some.inj (hObserved.symm.trans hOther))
      exact ⟨hIs, hAdmitted.timestamps⟩
    have hSilent : observation.timestamps.valid = false → (eventAt b.step s op).result = none := by
      intro hRefused
      refine Option.eq_none_iff_forall_not_mem.mpr fun output hOutput => ?_
      rw [(hPublished output hOutput).2] at hRefused
      cases hRefused
    rw [step_of_observed hObserved]
    refine ⟨hReady, ?_, ?_⟩
    · generalize observation.after.timestampConverter = converter at hTimes ⊢
      cases hTimes with
      | valid _ hMeasurement _ hLater _ =>
        rw [hMeasurement]
        refine h.measurement.later (fun held hHeld => (hLater held hHeld).le) fun output hOutput => ?_
        obtain ⟨rfl, -⟩ := hPublished output hOutput
        exact le_rfl
      | invalid hRefused hMeasurement _ =>
        rw [hMeasurement]
        exact h.measurement.silent (hSilent hRefused)
    · generalize observation.after.timestampConverter = converter at hTimes ⊢
      cases hTimes with
      | valid _ _ hPublication _ hNotBefore =>
        rw [hPublication]
        refine h.publication.later hNotBefore fun output hOutput => ?_
        obtain ⟨rfl, -⟩ := hPublished output hOutput
        exact le_rfl
      | invalid hRefused _ hPublication =>
        rw [hPublication]
        exact h.publication.silent (hSilent hRefused)

def Told (es : List (BridgeEvent D)) (s : BridgeState D) : Prop :=
  ∀ e ∈ es, ∀ generation ∈ observedGeneration e.before e.op,
    s.jumpLatch.generationKnown = true ∧ generation ≤ s.jumpLatch.lastGeneration

theorem Told.step (h : Told es s) : Told (es ++ [eventAt b.step s op]) (b.step s op).1 := by
  have hMoved := b.step_latch s op
  intro e he generation hGeneration
  rcases List.mem_append.mp he with he | he
  · obtain ⟨hKnown, hLeast⟩ := h e he generation hGeneration
    exact ⟨hMoved.known hKnown, hLeast.trans (hMoved.grows hKnown)⟩
  · obtain rfl := List.mem_singleton.mp he
    exact hMoved.told generation hGeneration

end

/-- A message that leaves the baseline: its identity is old, or it comes too soon. -/
def PassedOver (b : Px4ExternalOdometryBridgeNode D) (e : BridgeEvent D) : Prop :=
  ∀ message nowNs subscriptions, e.op = .lio message nowNs subscriptions →
    accepts e.before message = false ∨
      ∃ sample observation, b.observationOf e.before e.op = some (sample, observation) ∧
        observation.geometric.sampleAdmissible = false

/-- A sample among the messages so far after which samples were only passed over. -/
def BaselineAt (b : Px4ExternalOdometryBridgeNode D) (es : List (BridgeEvent D))
    (sample : Px4Sample D) (observation : Observation D) : Prop :=
  observation.geometric.sampleAdmissible = true ∧ ∃ before e between, es = before ++ e :: between ∧
      b.observationOf e.before e.op = some (sample, observation) ∧ ∀ x ∈ between, b.PassedOver x

variable {observation : Observation D}

section
variable {b : Px4ExternalOdometryBridgeNode D} {sample : Px4Sample D} {e : BridgeEvent D}

theorem BaselineAt.extend (h : b.BaselineAt es sample observation) (hPassed : b.PassedOver e) :
    b.BaselineAt (es ++ [e]) sample observation := by
  obtain ⟨hAdmissible, before, first, between, rfl, hObserved, hBetween⟩ := h
  refine ⟨hAdmissible, before, first, between ++ [e], by simp, hObserved, ?_⟩
  intro x hx
  rcases List.mem_append.mp hx with hx | hx
  · exact hBetween x hx
  · rwa [List.mem_singleton.mp hx]

theorem baselineAt_new (hObserved : b.observationOf e.before e.op = some (sample, observation))
    (hAdmissible : observation.geometric.sampleAdmissible = true) :
    b.BaselineAt (es ++ [e]) sample observation :=
  ⟨hAdmissible, es, e, [], rfl, hObserved, by simp⟩

end

def Based (b : Px4ExternalOdometryBridgeNode D) (es : List (BridgeEvent D)) (s : BridgeState D) :
    Prop :=
  s.jumpContinuityState.continuityTrusted = true → ∀ frame ∈ s.lastReceived,
    ∃ sample observation, b.BaselineAt es sample observation ∧ sample.frame = frame ∧
      observation.after.publicGeneration = s.jumpContinuityState.lastGeneration

theorem step_baseline (b : Px4ExternalOdometryBridgeNode D) (s : BridgeState D)
    (op : BridgeMessage D) :
    (∃ sample observation, b.observationOf s op = some (sample, observation)) ∨
      (b.step s op).1.jumpContinuityState.continuityTrusted = false ∨
        b.PassedOver (eventAt b.step s op) ∧ (b.step s op).1.lastReceived = s.lastReceived ∧
          (b.step s op).1.jumpContinuityState.lastGeneration =
            s.jumpContinuityState.lastGeneration ∧
          ((b.step s op).1.jumpContinuityState.continuityTrusted = true →
            s.jumpContinuityState.continuityTrusted = true) := by
  cases op with
  | lioHealth message =>
    have hStep := step_health s message
    have hAfter : (b.step s (.lioHealth message)).1 = onLioHealth s message := rfl
    have hPassed : b.PassedOver (eventAt b.step s (.lioHealth message)) := by
      intro _ _ _ hOp
      cases hOp
    rw [hAfter]
    generalize onLioHealth s message = after at hStep ⊢
    cases hStep with
    | ignored _ => exact .inr (.inr ⟨hPassed, rfl, rfl, id⟩)
    | heard _ _ _ => exact .inr (.inr ⟨hPassed, s.heard_baseline _⟩)
  | lio message nowNs subscriptions =>
    have hStep := b.step_lio s message nowNs subscriptions
    generalize (b.step s (.lio message nowNs subscriptions)).1 = after at hStep ⊢
    generalize (b.step s (.lio message nowNs subscriptions)).2 = result at hStep
    cases hStep with
    | stale hOld =>
      refine .inr (.inr ⟨?_, rfl, rfl, id⟩)
      rintro _ _ _ ⟨⟩
      exact .inl hOld
    | rejected _ _ => exact .inr (.inl rfl)
    | gated hNew hSample => exact .inl ⟨_, _, observationOf_lio hNew hSample nowNs subscriptions⟩
    | published hNew hSample _ =>
      exact .inl ⟨_, _, observationOf_lio hNew hSample nowNs subscriptions⟩

theorem Based.step {b : Px4ExternalOdometryBridgeNode D} (h : b.Based es s) :
    b.Based (es ++ [eventAt b.step s op]) (b.step s op).1 := by
  intro hTrusted frame hFrame
  rcases b.step_baseline s op with ⟨sample, observation, hObserved⟩ | hLost |
    ⟨hPassed, hLast, hGeneration, hTrust⟩
  · rw [step_of_observed hObserved] at hTrusted hFrame ⊢
    cases observed_sample hObserved with
    | reseeded _ _ _ hAdmissible hBaseline hSame =>
      rw [hBaseline] at hFrame
      exact ⟨sample, observation, baselineAt_new hObserved hAdmissible, Option.some.inj hFrame,
        hSame.symm⟩
    | passedOver _ _ _ hInadmissible hBaseline hSame hTrust _ =>
      rw [hBaseline] at hFrame
      rw [hTrust] at hTrusted
      obtain ⟨first, before, hAt, hIs, hGeneration⟩ := h hTrusted frame hFrame
      refine ⟨first, before, hAt.extend fun _ _ _ _ => .inr ⟨_, _, hObserved, hInadmissible⟩, hIs, ?_⟩
      rw [hSame, hGeneration]
    | evaluated _ _ hAdmissible _ _ _ hBaseline hSame _ _ =>
      rw [hBaseline] at hFrame
      exact ⟨sample, observation, baselineAt_new hObserved hAdmissible, Option.some.inj hFrame,
        hSame.symm⟩
  · rw [hLost] at hTrusted
    cases hTrusted
  · rw [hLast] at hFrame
    obtain ⟨first, before, hAt, hIs, hSame⟩ := h (hTrust hTrusted) frame hFrame
    exact ⟨first, before, hAt.extend hPassed, hIs, by rw [hGeneration, hSame]⟩

structure ExternalVisionLaw (b : Px4ExternalOdometryBridgeNode D) (es : List (BridgeEvent D)) :
    Prop where
  /-- A published sample is newer than every genuine sample received before. -/
  newest : ∀ earlier e later output, es = earlier ++ e :: later → e.result = some output →
    ∃ message nowNs subscriptions, e.op = .lio message nowNs subscriptions ∧
      Genuine message.localizationEpoch message.sequence ∧
      ∀ e' ∈ earlier, ∀ message' nowNs' subscriptions', e'.op = .lio message' nowNs' subscriptions' →
        Genuine message'.localizationEpoch message'.sequence →
        identity message'.localizationEpoch message'.sequence <
          identity message.localizationEpoch message.sequence
  timed : ∀ earlier e later output, es = earlier ++ e :: later → e.result = some output →
    ∀ e' ∈ earlier, ∀ output' ∈ e'.result,
      output'.timestampSample < output.timestampSample ∧ output'.timestamp ≤ output.timestamp
  /-- It continues its baseline, or it is the first sample of a new one. -/
  continuous : ∀ earlier e later output, es = earlier ++ e :: later → e.result = some output →
    ∃ sample observation, b.observationOf e.before e.op = some (sample, observation) ∧
      (observation.geometric.baselineReseeded = true ∨
        ∃ baseline first, b.BaselineAt earlier baseline first ∧
          first.after.publicGeneration = observation.after.publicGeneration ∧
          Evaluated b.angularDistance b.jumpContinuityConfig baseline.frame sample.frame
            observation.geometric ∧
          observation.geometric.jumped = false)
  /-- After a jump nothing is published before a generation above all that were told. -/
  latched : ∀ earlier e between p later sample observation,
    es = earlier ++ e :: (between ++ p :: later) →
    b.observationOf e.before e.op = some (sample, observation) →
    observation.geometric.jumped = true → p.result ≠ none →
    ∃ before c after, between ++ [p] = before ++ c :: after ∧
      ∃ generation ∈ observedGeneration c.before c.op,
        ∀ e' ∈ earlier ++ e :: before, ∀ generation' ∈ observedGeneration e'.before e'.op,
          generation' < generation

/-! ## The law holds -/

section Law
variable {b : Px4ExternalOdometryBridgeNode D} {ops : List (BridgeMessage D)}
  {earlier later : List (BridgeEvent D)} {e : BridgeEvent D} {output : VehicleVisualOdometry D}

section
variable (hSplit : events b.step b.initial ops = earlier ++ e :: later)
  (hOutput : e.result = some output)
include hSplit hOutput

theorem published_newest : ∃ message nowNs subscriptions, e.op = .lio message nowNs subscriptions ∧
      Genuine message.localizationEpoch message.sequence ∧
      ∀ e' ∈ earlier, ∀ message' nowNs' subscriptions', e'.op = .lio message' nowNs' subscriptions' →
        Genuine message'.localizationEpoch message'.sequence →
        identity message'.localizationEpoch message'.sequence <
          identity message.localizationEpoch message.sequence := by
  obtain ⟨hBounded, hEvent⟩ := events_history b.step (P := fun es s => Bounded es s) (by simp [Bounded])
    (fun _ _ _ h => h.step) hSplit
  rw [hEvent] at hOutput
  obtain ⟨sample, observation, hObserved, -, -⟩ := published_of_result hOutput
  obtain ⟨message, nowNs, subscriptions, hOp, hNew, -, -⟩ := observed_lio hObserved
  obtain ⟨hGenuine, hLater⟩ := strictlyNewer_iff.mp hNew
  refine ⟨message, nowNs, subscriptions, hOp, hGenuine, ?_⟩
  intro e' he' message' nowNs' subscriptions' hOp' hGenuine'
  exact (hBounded e' he' _ _ _ hOp' hGenuine').trans_lt hLater

theorem published_timed : ∀ e' ∈ earlier, ∀ output' ∈ e'.result,
      output'.timestampSample < output.timestampSample ∧ output'.timestamp ≤ output.timestamp := by
  obtain ⟨hTimed, hEvent⟩ := events_history b.step (P := fun es s => Timed es s)
    ⟨.inr ⟨rfl, rfl⟩, by simp [Held], by simp [Held]⟩ (fun _ _ _ h => h.step) hSplit
  rw [hEvent] at hOutput
  obtain ⟨sample, observation, hObserved, rfl, hAdmitted⟩ := published_of_result hOutput
  obtain ⟨hTimes, -⟩ := observed_times hTimed.ready hObserved
  intro e' he' output' hOutput'
  obtain ⟨measured, hMeasured, hBefore⟩ := hTimed.measurement e' he' output' hOutput'
  obtain ⟨published, hPublished, hNotAfter⟩ := hTimed.publication e' he' output' hOutput'
  generalize observation.after.timestampConverter = converter at hTimes
  cases hTimes with
  | valid _ _ _ hLater hNotBefore =>
    exact ⟨hBefore.trans_lt (hLater measured hMeasured),
      hNotAfter.trans (hNotBefore published hPublished)⟩
  | invalid hRefused _ _ =>
    rw [hAdmitted.timestamps] at hRefused
    cases hRefused

theorem published_continuous :
    ∃ sample observation, b.observationOf e.before e.op = some (sample, observation) ∧
      (observation.geometric.baselineReseeded = true ∨
        ∃ baseline first, b.BaselineAt earlier baseline first ∧
          first.after.publicGeneration = observation.after.publicGeneration ∧
          Evaluated b.angularDistance b.jumpContinuityConfig baseline.frame sample.frame
            observation.geometric ∧
          observation.geometric.jumped = false) := by
  have hStart : b.Based [] b.initial := by
    intro _ frame hFrame
    cases hFrame
  obtain ⟨hBased, hEvent⟩ := events_history b.step (P := fun es s => b.Based es s) hStart
    (fun _ _ _ h => h.step) hSplit
  rw [hEvent] at hOutput
  obtain ⟨sample, observation, hObserved, -, hAdmitted⟩ := published_of_result hOutput
  refine ⟨sample, observation, hObserved, ?_⟩
  cases observed_sample hObserved with
  | reseeded hReseeds _ _ _ _ _ => exact .inl hReseeds
  | passedOver _ _ _ hInadmissible _ _ _ _ =>
    rw [hAdmitted.admissible] at hInadmissible
    cases hInadmissible
  | evaluated _ _ _ hKnown hTrusted hSameGeneration _ _ _ hAgainst =>
    obtain ⟨baseline, first, hAt, hIs, hGeneration⟩ := hBased hTrusted _ hKnown
    rw [← hIs] at hAgainst
    refine .inr ⟨baseline, first, hAt, hGeneration.trans hSameGeneration, hAgainst, ?_⟩
    refine Bool.eq_false_iff.mpr fun hJumped => ?_
    have hLatched := observed_jump hObserved hJumped
    rw [hAdmitted.unlatched] at hLatched
    cases hLatched

end

theorem jump_cleared {between : List (BridgeEvent D)} {p : BridgeEvent D} {sample : Px4Sample D}
    {observation : Observation D}
    (hSplit : events b.step b.initial ops = earlier ++ e :: (between ++ p :: later))
    (hObserved : b.observationOf e.before e.op = some (sample, observation))
    (hJumped : observation.geometric.jumped = true) (hPublished : p.result ≠ none) :
    ∃ before c after, between ++ [p] = before ++ c :: after ∧
      ∃ generation ∈ observedGeneration c.before c.op,
        ∀ e' ∈ earlier ++ e :: before, ∀ generation' ∈ observedGeneration e'.before e'.op,
          generation' < generation := by
  have hParts : events b.step b.initial ops = ((earlier ++ [e]) ++ (between ++ [p])) ++ later := by
    rw [hSplit]
    simp
  obtain ⟨whole, rest, rfl, hWhole, -⟩ := exists_split_of_events hParts
  obtain ⟨first, second, rfl, hFirst, hSecond⟩ := exists_split_of_events hWhole
  obtain ⟨-, hEvent⟩ := events_history b.step (P := fun _ _ => True) trivial
    (fun _ _ _ _ => trivial) hSplit
  have hE : e.after = run b.step b.initial first := by
    apply after_getLast
    rw [hFirst, List.getLast?_concat]
    rfl
  have hP : p.after = run b.step (run b.step b.initial first) second := by
    apply after_getLast
    rw [hSecond, List.getLast?_concat]
    rfl
  have hLatched : (run b.step b.initial first).jumpLatch.latched = true := by
    rw [← hE, hEvent, eventAt_after, step_of_observed hObserved]
    exact observed_jump hObserved hJumped
  have hUnlatched : (run b.step (run b.step b.initial first) second).jumpLatch.latched ≠ true := by
    have hLast : events b.step b.initial (first ++ second ++ rest) =
        (earlier ++ e :: between) ++ p :: later := by
      rw [hSplit]
      simp
    obtain ⟨-, hLastEvent⟩ := events_history b.step (P := fun _ _ => True) trivial
      (fun _ _ _ _ => trivial) hLast
    rw [← hP, hLastEvent, eventAt_after, unlatched_of_published ?_]
    · exact Bool.false_ne_true
    · rw [hLastEvent] at hPublished
      exact hPublished
  obtain ⟨before, c, after, hBetween, hSet, hNot⟩ :=
    exists_loss (P := fun s : BridgeState D => s.jumpLatch.latched = true) hLatched hUnlatched
  rw [hSecond] at hBetween
  refine ⟨before, c, after, hBetween, ?_⟩
  have hFull : events b.step b.initial (first ++ second ++ rest) =
      (earlier ++ e :: before) ++ c :: (after ++ later) := by
    rw [hParts, hBetween]
    simp
  obtain ⟨hTold, hC⟩ := events_history b.step (P := fun es s => Told es s) (by simp [Told])
    (fun _ _ _ h => h.step) hFull
  rw [hC] at hNot
  obtain ⟨generation, hGeneration, -, hNewer⟩ := (b.step_latch c.before c.op).cleared hSet hNot
  refine ⟨generation, hGeneration, ?_⟩
  intro e' he' generation' hGeneration'
  exact (hTold e' he' generation' hGeneration').2.trans_lt hNewer

end Law

/-- Every run of the bridge obeys the law. -/
theorem run_external_vision (b : Px4ExternalOdometryBridgeNode D) (ops : List (BridgeMessage D)) :
    b.ExternalVisionLaw (events b.step b.initial ops) where
  newest _ _ _ _ hSplit hOutput := published_newest hSplit hOutput
  timed _ _ _ _ hSplit hOutput := published_timed hSplit hOutput
  continuous _ _ _ _ hSplit hOutput := published_continuous hSplit hOutput
  latched _ _ _ _ _ _ _ hSplit hObserved hJumped hPublished :=
    jump_cleared hSplit hObserved hJumped hPublished

/-- Every received sample is older than a published one, also one that has no identity. -/
def NewerThanReceived (es : List (BridgeEvent D)) : Prop :=
  ∀ earlier e later output, es = earlier ++ e :: later → e.result = some output →
    ∀ message nowNs subscriptions, e.op = .lio message nowNs subscriptions →
      ∀ e' ∈ earlier, ∀ message' nowNs' subscriptions', e'.op = .lio message' nowNs' subscriptions' →
        identity message'.localizationEpoch message'.sequence <
          identity message.localizationEpoch message.sequence

def precedingSample (b : Px4ExternalOdometryBridgeNode D) (earlier : List (BridgeEvent D)) :
    Option (Px4Sample D) :=
  (earlier.filterMap fun e => e.op.sample).getLast?.bind fun message =>
    (b.px4Sample message.odometry).toOption

def AgainstPreceding (b : Px4ExternalOdometryBridgeNode D) (es : List (BridgeEvent D)) : Prop :=
  ∀ earlier e later output, es = earlier ++ e :: later → e.result = some output →
    ∃ sample observation, b.observationOf e.before e.op = some (sample, observation) ∧
      (observation.geometric.baselineReseeded = true ∨
        ∃ previous ∈ b.precedingSample earlier, Evaluated b.angularDistance b.jumpContinuityConfig
          previous.frame sample.frame observation.geometric)

end Px4ExternalOdometryBridgeNode

/-! ### Runs of one bridge -/

open Px4ExternalOdometryBridgeNode

/-- Eigenvalues of covariances that are diagonal. -/
instance instDiagonalEigenvalues : SelfAdjointEigenSolver (ExactReal ℚ) where
  minEigenvalue a := some (FloatOps.min a.row0.x (FloatOps.min a.row1.y a.row2.z))

def exactBounds : GeometricJumpContinuityConfig (ExactReal ℚ) where
  positionJumpMarginM := lit (3 / 4)
  orientationJumpMarginRad := lit (7 / 20)
  maximumExpectedSpeedMps := lit 10
  maximumExpectedAngularRateRadS := lit 6
  minimumContinuityDtS := lit (1 / 10000)
  maximumContinuityDtS := lit (1 / 2)

theorem exactBounds_accepted : exactBounds.accepted = true := by decide +kernel

def exactBridge : Px4ExternalOdometryBridgeNode (ExactReal ℚ) where
  maxAgeNs := 500000000
  healthMaxAgeNs := 2000000000
  timestampMappingMode := .realtimeTransport
  jumpContinuityConfig := exactBounds
  toFloat x := x
  angularDistance _ _ := lit 0
  maxAgePositive := by decide
  healthMaxAgePositive := by decide
  mappingResolved := by decide
  boundsAccepted := exactBounds_accepted

def healthOf (localizationEpoch : Nat) : BridgeMessage (ExactReal ℚ) :=
  .lioHealth {
    stamp := ⟨1, localizationEpoch⟩
    localizationEpoch
    state := .tracking
    navigationValid := true
    covarianceValid := true
    observabilityValid := true
    correctionFresh := true
    propagationValid := true }

def sampleOf (localizationEpoch sequence nanosec : Nat) (x : Int) : BridgeMessage (ExactReal ℚ) :=
  .lio {
      odometry := {
        stamp := ⟨1, nanosec⟩
        frameId := "lio_odom"
        childFrameId := "base_link"
        position := ⟨ofInt x, ofInt 0, ofInt 0⟩
        orientation := ⟨ofInt 0, ofInt 0, lit (1 / 10 ^ 8), ofInt 1⟩
        linear := Vec3.zero
        angular := Vec3.zero
        poseCovariance := fun i => if i.val % 7 = 0 then lit 1 else lit 0
        twistCovariance := fun i => if i.val % 7 = 0 then lit 1 else lit 0 }
      localizationEpoch
      sequence } (1000000000 + nanosec) 1

def closeSamples : List (BridgeMessage (ExactReal ℚ)) :=
  [healthOf 1, sampleOf 1 1 1000000 0, sampleOf 1 2 1060000 0]

theorem close_published : (exactBridge.step (run exactBridge.step exactBridge.initial closeSamples)
      (sampleOf 1 3 1120000 0)).2.isSome = true ∧
      (exactBridge.observationOf (run exactBridge.step exactBridge.initial closeSamples)
        (sampleOf 1 3 1120000 0)).map (fun o =>
          (o.2.geometric.baselineReseeded, o.2.geometric.dtS, o.1.frame.timestampNs)) =
        some (false, lit (3 / 25000), 1001120000) ∧
      (exactBridge.precedingSample (events exactBridge.step exactBridge.initial closeSamples)).map
        (fun previous => previous.frame.timestampNs) = some 1001060000 := by
  decide +kernel

theorem close_against_first : ¬exactBridge.AgainstPreceding
      (events exactBridge.step exactBridge.initial (closeSamples ++ [sampleOf 1 3 1120000 0])) := by
  intro hLaw
  obtain ⟨hPublished, hFacts, hPreceding⟩ := close_published
  obtain ⟨output, hOutput⟩ := Option.isSome_iff_exists.mp hPublished
  obtain ⟨sample, observation, hObserved, hEither⟩ := hLaw _ (eventAt exactBridge.step
    (run exactBridge.step exactBridge.initial closeSamples) (sampleOf 1 3 1120000 0)) [] output
    (events_concat _ _ _) hOutput
  rw [eventAt_before, eventAt_op] at hObserved
  rw [hObserved] at hFacts
  obtain ⟨hKeeps, hRest⟩ := Prod.mk.inj (Option.some.inj hFacts)
  obtain ⟨hDt, hTime⟩ := Prod.mk.inj hRest
  rcases hEither with hReseeded | ⟨previous, hPrevious, hAgainst⟩
  · rw [hKeeps] at hReseeded
    cases hReseeded
  · rw [hPrevious] at hPreceding
    have hBefore : previous.frame.timestampNs = 1001060000 := Option.some.inj hPreceding
    have hOther := hAgainst.dt
    rw [hDt, hTime, hBefore] at hOther
    exact absurd hOther (by decide +kernel)

/-- A sample without an identity, which is received and forgotten. -/
def unidentified : List (BridgeMessage (ExactReal ℚ)) := [healthOf 1, sampleOf 9 0 0 0]

theorem unidentified_published :
    (exactBridge.step (run exactBridge.step exactBridge.initial unidentified)
      (sampleOf 1 1 1000000 0)).2.isSome = true := by
  decide +kernel

/-- A published sample may be older than one without an identity, and the sample received last is
not always its baseline. -/
theorem vision_order_fails : ¬NewerThanReceived
        (events exactBridge.step exactBridge.initial (unidentified ++ [sampleOf 1 1 1000000 0])) ∧
      ¬exactBridge.AgainstPreceding (events exactBridge.step exactBridge.initial
          (closeSamples ++ [sampleOf 1 3 1120000 0])) := by
  refine ⟨?_, close_against_first⟩
  intro hLaw
  obtain ⟨output, hOutput⟩ := Option.isSome_iff_exists.mp unidentified_published
  have hBefore := hLaw _ (eventAt exactBridge.step
    (run exactBridge.step exactBridge.initial unidentified) (sampleOf 1 1 1000000 0)) [] output
    (events_concat _ _ _) hOutput _ _ _ rfl
    (eventAt exactBridge.step (exactBridge.step exactBridge.initial (healthOf 1)).1
      (sampleOf 9 0 0 0)) (by simp [unidentified]) _ _ _ rfl
  exact absurd hBefore (by decide)

end UavNavigation.ExternalOdometry
