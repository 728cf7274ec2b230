import UavNavigation.ExactReals
import UavNavigation.ExternalVisionLaw

/-!
# The reset counter of the visual odometry

The counter of a published message is the generation of the health in force. As long as
the samples after a published one continue their baselines, each lies within the bound
of the one before it, and the bounds add up over the samples between two messages. In
exact arithmetic.
-/

namespace UavNavigation

set_option autoImplicit false

open FloatOps Runs

namespace ExternalOdometry

open NavigationMode

theorem convert_finite {D : Type} [FloatOps D] [SelfAdjointEigenSolver D] {message : LioOdometry D}
    {frame : ExternalOdometryFrame D} (h : convertRosLioOdometry message = some frame) :
    frame.positionNed.allFinite = true := by
  unfold convertRosLioOdometry at h
  split at h
  · cases h
  split at h
  · cases h
  split at h
  · cases h
  split at h
  · cases h
  dsimp only at h
  split at h
  · cases h
  split at h
  · cases h
  · rename_i hValid
    obtain rfl := Option.some.inj h
    simp only [Bool.or_eq_true, Bool.not_eq_true', not_or, Bool.not_eq_false,
      Bool.and_eq_true] at hValid
    exact hValid.1.1.1.1

namespace Px4ExternalOdometryBridgeNode

section Generations
variable {D : Type} [Floating D] [Narrowing D] [SelfAdjointEigenSolver D]

omit [Narrowing D] in
theorem sample_finite {b : Px4ExternalOdometryBridgeNode D} {odometry : LioOdometry D}
    {sample : Px4Sample D} (h : b.px4Sample odometry = .ok sample) :
    sample.frame.positionNed.allFinite = true := by
  unfold px4Sample at h
  split at h
  · cases h
  rename_i frame hFrame
  split at h
  · cases h
  split at h
  · obtain rfl := Except.ok.inj h
    exact convert_finite hFrame
  · cases h

def BridgeMessage.epoch : BridgeMessage D → Nat
  | .lio message _ _ => message.localizationEpoch
  | .lioHealth message => message.localizationEpoch

def FromHealth (es : List (BridgeEvent D)) (s : BridgeState D) : Prop :=
  s.publicGeneration ≠ 0 → ∃ e ∈ es, e.op.epoch = s.publicGeneration

omit [Floating D] [Narrowing D] [SelfAdjointEigenSolver D] in
theorem received_in_force (s : BridgeState D) (epoch sequence : Nat) :
    (s.received epoch sequence).untrusted.publicGeneration = s.publicGeneration := by
  rw [← s.received_generation epoch sequence]
  rfl

theorem FromHealth.step {b : Px4ExternalOdometryBridgeNode D} {es : List (BridgeEvent D)}
    {s : BridgeState D} {op : BridgeMessage D} (h : FromHealth es s) :
    FromHealth (es ++ [eventAt b.step s op]) (b.step s op).1 := by
  have hKept : (b.step s op).1.publicGeneration = s.publicGeneration →
      FromHealth (es ++ [eventAt b.step s op]) (b.step s op).1 := by
    intro hSame hValid
    rw [hSame] at hValid ⊢
    obtain ⟨e, he, hEpoch⟩ := h hValid
    exact ⟨e, List.mem_append_left _ he, hEpoch⟩
  cases op with
  | lioHealth message =>
    have hStep := step_health s message
    have hAfter : (b.step s (.lioHealth message)).1 = onLioHealth s message := rfl
    rw [hAfter] at hKept ⊢
    generalize onLioHealth s message = after at hStep hKept ⊢
    cases hStep with
    | ignored _ => exact hKept rfl
    | @heard health hSnapshot _ _ =>
      obtain ⟨hValid, -, hEpoch⟩ := snapshot_generation hSnapshot
      intro _
      refine ⟨_, List.mem_append_right _ (List.mem_singleton.mpr rfl), ?_⟩
      have hForce : (s.heard health).publicGeneration = health.publicFrameGeneration := by
        exact if_pos hValid
      rw [hForce, hEpoch]
      rfl
  | lio message nowNs subscriptions =>
    have hStep := b.step_lio s message nowNs subscriptions
    generalize (b.step s (.lio message nowNs subscriptions)).1 = after at hStep hKept ⊢
    generalize (b.step s (.lio message nowNs subscriptions)).2 = result at hStep
    cases hStep with
    | stale _ => exact hKept rfl
    | rejected _ _ => exact hKept (received_in_force s _ _)
    | gated _ _ => exact hKept (s.received_generation _ _)
    | published _ _ _ => exact hKept (s.received_generation _ _)

/-! ## Chains of samples -/

/-- A message that is no new sample, or whose sample is converted and keeps the baseline. -/
def Continues (b : Px4ExternalOdometryBridgeNode D) (e : BridgeEvent D) : Prop :=
  ∀ message nowNs subscriptions, e.op = .lio message nowNs subscriptions →
    accepts e.before message = true →
      ∃ sample observation, b.observationOf e.before e.op = some (sample, observation) ∧
        observation.geometric.baselineReseeded = false

def checked (b : Px4ExternalOdometryBridgeNode D) (e : BridgeEvent D) : Bool :=
  (b.observationOf e.before e.op).any fun o => o.2.geometric.evaluated

/-- A state from which nothing is published before a new baseline. -/
def Closed (s : BridgeState D) : Prop :=
  s.jumpLatch.latched = true ∨ s.jumpContinuityState.continuityTrusted = false

theorem step_unobserved {b : Px4ExternalOdometryBridgeNode D} {s : BridgeState D}
    {op : BridgeMessage D} (hContinues : b.Continues (eventAt b.step s op))
    (hNone : b.observationOf s op = none) :
    (b.step s op).1.lastReceived = s.lastReceived ∧ (Closed s → Closed (b.step s op).1) := by
  cases op with
  | lioHealth message =>
    have hStep := step_health s message
    have hAfter : (b.step s (.lioHealth message)).1 = onLioHealth s message := rfl
    rw [hAfter]
    generalize onLioHealth s message = after at hStep ⊢
    cases hStep with
    | ignored _ => exact ⟨rfl, id⟩
    | heard _ _ _ => exact ⟨(s.heard_baseline _).1, s.heard_closed _⟩
  | lio message nowNs subscriptions =>
    by_cases hNew : accepts s message = true
    · obtain ⟨sample, observation, hObserved, -⟩ := hContinues message nowNs subscriptions rfl hNew
      rw [eventAt_before, eventAt_op, hNone] at hObserved
      cases hObserved
    · have hStep := b.step_lio s message nowNs subscriptions
      generalize (b.step s (.lio message nowNs subscriptions)).1 = after at hStep ⊢
      generalize (b.step s (.lio message nowNs subscriptions)).2 = result at hStep
      cases hStep with
      | stale _ => exact ⟨rfl, id⟩
      | rejected h _ => exact absurd h hNew
      | gated h _ => exact absurd h hNew
      | published h _ _ => exact absurd h hNew

end Generations

section Exact
variable [SelfAdjointEigenSolver (ExactReal ℝ)]

structure Bounds (b : Px4ExternalOdometryBridgeNode (ExactReal ℝ)) (jump speed : ℝ) : Prop where
  jump : b.jumpContinuityConfig.positionJumpMarginM = .finite jump
  speed : b.jumpContinuityConfig.maximumExpectedSpeedMps = .finite speed

omit [SelfAdjointEigenSolver (ExactReal ℝ)] in
theorem exists_bounds (b : Px4ExternalOdometryBridgeNode (ExactReal ℝ)) :
    ∃ jump speed, b.Bounds jump speed := by
  have hAccepted := b.boundsAccepted
  simp only [GeometricJumpContinuityConfig.accepted, Bool.and_eq_true] at hAccepted
  obtain ⟨⟨⟨⟨⟨⟨hJump, -⟩, -⟩, ⟨hSpeed, -⟩⟩, -⟩, -⟩, -⟩ := hAccepted
  obtain ⟨jump, hJump⟩ := ExactReal.isFinite_iff.mp hJump
  obtain ⟨speed, hSpeed⟩ := ExactReal.isFinite_iff.mp hSpeed
  exact ⟨jump, speed, hJump, hSpeed⟩

noncomputable def secondsBetween (first last : ExternalOdometryFrame (ExactReal ℝ)) : ℝ :=
  ((last.timestampNs - first.timestampNs : Int) : ℝ) / 10 ^ 9

def Within (jump speed : ℝ) (samples : Nat) (first last : ExternalOdometryFrame (ExactReal ℝ)) :
    Prop :=
  ∃ p q : Vec3 ℝ, first.positionNed = p.lift ∧ last.positionNed = q.lift ∧
    Vec3.apart q p ≤ samples * jump + speed * secondsBetween first last

section
omit [SelfAdjointEigenSolver (ExactReal ℝ)]

theorem Within.refl {jump speed : ℝ} {frame : ExternalOdometryFrame (ExactReal ℝ)}
    (h : frame.positionNed.allFinite = true) : Within jump speed 0 frame frame := by
  obtain ⟨p, hp⟩ := Vec3.allFinite_iff.mp h
  refine ⟨p, p, hp, hp, ?_⟩
  rw [Vec3.apart_self]
  simp [secondsBetween]

theorem evaluated_apart {b : Px4ExternalOdometryBridgeNode (ExactReal ℝ)} {jump speed : ℝ}
    (hBounds : b.Bounds jump speed) {previous current : ExternalOdometryFrame (ExactReal ℝ)}
    {observation : GeometricJumpContinuityObservation (ExactReal ℝ)}
    (h : Evaluated b.angularDistance b.jumpContinuityConfig previous current observation)
    (hSmooth : observation.jumped = false) {p q : Vec3 ℝ} (hPrevious : previous.positionNed = p.lift)
    (hCurrent : current.positionNed = q.lift) :
    Vec3.apart q p ≤ jump + speed * secondsBetween previous current := by
  have hDelta : observation.positionDeltaM = .finite (Vec3.apart q p) := by
    rw [h.position, hCurrent, hPrevious, Vec3.norm_sub_lift]
  have hAllowed : observation.allowedPositionDeltaM =
      .finite (jump + speed * secondsBetween previous current) := by
    rw [h.allowedPosition, h.dt, hBounds.jump, hBounds.speed]
    change ExactReal.finite _ = _
    congr 3
    unfold secondsBetween
    ring
  rw [h.jumped, Bool.or_eq_false_iff, decide_eq_false_iff_not, hDelta, hAllowed,
    ExactReal.lt_finite] at hSmooth
  exact not_lt.mp hSmooth.1

theorem Within.next {b : Px4ExternalOdometryBridgeNode (ExactReal ℝ)} {jump speed : ℝ}
    (hBounds : b.Bounds jump speed) {samples : Nat}
    {first previous current : ExternalOdometryFrame (ExactReal ℝ)}
    {observation : GeometricJumpContinuityObservation (ExactReal ℝ)}
    (hWithin : Within jump speed samples first previous)
    (h : Evaluated b.angularDistance b.jumpContinuityConfig previous current observation)
    (hSmooth : observation.jumped = false) (hFinite : current.positionNed.allFinite = true) :
    Within jump speed (samples + 1) first current := by
  obtain ⟨p, q, hFirst, hPrevious, hApart⟩ := hWithin
  obtain ⟨r, hCurrent⟩ := Vec3.allFinite_iff.mp hFinite
  refine ⟨p, r, hFirst, hCurrent, ?_⟩
  have hStep := evaluated_apart hBounds h hSmooth hPrevious hCurrent
  have hTimes : secondsBetween first current =
      secondsBetween first previous + secondsBetween previous current := by
    unfold secondsBetween
    push_cast
    ring
  calc Vec3.apart r p ≤ Vec3.apart r q + Vec3.apart q p := Vec3.apart_triangle r q p
    _ ≤ (jump + speed * secondsBetween previous current) +
        (samples * jump + speed * secondsBetween first previous) := add_le_add hStep hApart
    _ = (samples + 1 : Nat) * jump + speed * secondsBetween first current := by
      rw [hTimes]
      push_cast
      ring

end

/-- A state that is closed or whose baseline is within the bounds of a frame. -/
def Chained (jump speed : ℝ) (samples : Nat) (first : ExternalOdometryFrame (ExactReal ℝ))
    (s : BridgeState (ExactReal ℝ)) : Prop :=
  Closed s ∨ ∃ frame, s.lastReceived = some frame ∧ Within jump speed samples first frame

variable {b : Px4ExternalOdometryBridgeNode (ExactReal ℝ)} {s : BridgeState (ExactReal ℝ)}
  {first : ExternalOdometryFrame (ExactReal ℝ)} {ops : List (BridgeMessage (ExactReal ℝ))}
  {op : BridgeMessage (ExactReal ℝ)}

section
variable {jump speed : ℝ} (hBounds : b.Bounds jump speed) {samples : Nat}
  (h : Chained jump speed samples first s)
include hBounds h

theorem Chained.step (hContinues : b.Continues (eventAt b.step s op)) :
    Chained jump speed (samples + if b.checked (eventAt b.step s op) then 1 else 0) first
      (b.step s op).1 := by
  cases hObserved : b.observationOf s op with
  | none =>
    have hUnchecked : b.checked (eventAt b.step s op) = false := by
      unfold checked
      rw [eventAt_before, eventAt_op, hObserved]
      rfl
    obtain ⟨hLast, hClosed⟩ := step_unobserved hContinues hObserved
    rw [hUnchecked, if_neg Bool.false_ne_true]
    rcases h with h | ⟨frame, hFrame, hWithin⟩
    · exact .inl (hClosed h)
    · exact .inr ⟨frame, hLast.trans hFrame, hWithin⟩
  | some o =>
    obtain ⟨sample, observation⟩ := o
    obtain ⟨message, nowNs, subscriptions, rfl, hNew, hSample, -⟩ := observed_lio hObserved
    obtain ⟨_, _, hSame, hKeeps⟩ := hContinues message nowNs subscriptions rfl hNew
    obtain ⟨rfl, rfl⟩ := Prod.mk.inj (Option.some.inj (hObserved.symm.trans hSame))
    have hChecked : b.checked (eventAt b.step s (.lio message nowNs subscriptions)) =
        observation.geometric.evaluated := by
      unfold checked
      rw [eventAt_before, eventAt_op, hObserved]
      rfl
    rw [step_of_observed hObserved, hChecked]
    cases observed_sample hObserved with
    | reseeded hReseeds _ _ _ _ _ =>
      rw [hKeeps] at hReseeds
      cases hReseeds
    | passedOver _ hUnevaluated _ _ hBaseline _ hTrust hLatch =>
      rw [hUnevaluated, if_neg Bool.false_ne_true]
      rcases h with h | ⟨frame, hFrame, hWithin⟩
      · refine .inl ?_
        unfold Closed
        rwa [hLatch, hTrust]
      · exact .inr ⟨frame, hBaseline.trans hFrame, hWithin⟩
    | evaluated _ hEvaluates _ hKnown hTrusted _ hBaseline _ hLatch hAgainst =>
      rw [hEvaluates, if_pos rfl]
      cases hJumped : observation.geometric.jumped with
      | true => exact .inl (.inl (observed_jump hObserved hJumped))
      | false =>
        rcases h with (h | h) | ⟨frame, hFrame, hWithin⟩
        · refine .inl (.inl ?_)
          rw [hLatch, hJumped]
          exact h
        · rw [hTrusted] at h
          cases h
        · obtain rfl := Option.some.inj (hKnown.symm.trans hFrame)
          exact .inr ⟨sample.frame, hBaseline,
            hWithin.next hBounds hAgainst hJumped (sample_finite hSample)⟩

theorem chained_run (hContinues : ∀ e ∈ events b.step s ops, b.Continues e) :
    Chained jump speed (samples + (events b.step s ops).countP b.checked) first
      (run b.step s ops) := by
  induction ops generalizing s samples with
  | nil => exact h
  | cons op ops ih =>
    rw [events_cons] at hContinues ⊢
    obtain ⟨hFirst, hRest⟩ := List.forall_mem_cons.mp hContinues
    have hRun := ih (h.step hBounds hFirst) hRest
    rw [List.countP_cons]
    rwa [add_assoc, add_comm (ite _ _ _)] at hRun

end

/-- Two published messages under one generation of the health: their counter is that of the
generation, samples of the epoch in force are of one epoch, and samples that continue each other
from the first to the second bound the way between the two. -/
structure HonestPair (b : Px4ExternalOdometryBridgeNode (ExactReal ℝ))
    (e p : BridgeEvent (ExactReal ℝ)) (between : List (BridgeEvent (ExactReal ℝ)))
    (first last : VehicleVisualOdometry (ExactReal ℝ)) (sample sample' : Px4Sample (ExactReal ℝ))
    (observation observation' : Observation (ExactReal ℝ)) : Prop where
  observed : b.observationOf e.before e.op = some (sample, observation)
  observed' : b.observationOf p.before p.op = some (sample', observation')
  output : first = b.vehicleOdometry observation sample
  output' : last = b.vehicleOdometry observation' sample'
  generation : observation.after.publicGeneration = observation'.after.publicGeneration
  counter : first.resetCounter = observation.after.publicGeneration % 256
  epochs : e.op.epoch = observation.after.publicGeneration →
    p.op.epoch = observation'.after.publicGeneration → e.op.epoch = p.op.epoch
  positions : (∀ x ∈ between ++ [p], b.Continues x) → ∃ jump speed, b.Bounds jump speed ∧
    Within jump speed ((between ++ [p]).countP b.checked) sample.frame sample'.frame

/-- What the counter says of a run whose epochs are fewer than 256 apart. -/
def ResetHonesty (b : Px4ExternalOdometryBridgeNode (ExactReal ℝ))
    (es : List (BridgeEvent (ExactReal ℝ))) : Prop :=
  (∀ e ∈ es, ∀ e' ∈ es, e.op.epoch < e'.op.epoch + 256) →
    ∀ earlier e between p later first last, es = earlier ++ e :: (between ++ p :: later) →
      e.result = some first → p.result = some last → first.resetCounter = last.resetCounter →
        ∃ sample sample' observation observation',
          HonestPair b e p between first last sample sample' observation observation'

variable {observation : Observation (ExactReal ℝ)} {sample : Px4Sample (ExactReal ℝ)}

theorem published_baseline (hObserved : b.observationOf s op = some (sample, observation))
    (hAdmitted : Admitted sample observation) :
    observation.after.lastReceived = some sample.frame ∧ ¬Closed observation.after := by
  have hOpen : ¬Closed observation.after := by
    rintro (hLatched | hUntrusted)
    · rw [hAdmitted.unlatched] at hLatched
      cases hLatched
    · rw [hAdmitted.trusted] at hUntrusted
      cases hUntrusted
  cases observed_sample hObserved with
  | reseeded _ _ _ _ hBaseline _ => exact ⟨hBaseline, hOpen⟩
  | passedOver _ _ _ hInadmissible _ _ _ _ =>
    rw [hAdmitted.admissible] at hInadmissible
    cases hInadmissible
  | evaluated _ _ _ _ _ _ hBaseline _ _ _ => exact ⟨hBaseline, hOpen⟩

theorem generation_of_event {earlier later : List (BridgeEvent (ExactReal ℝ))}
    {e : BridgeEvent (ExactReal ℝ)} (hSplit : events b.step b.initial ops = earlier ++ e :: later)
    (hObserved : b.observationOf e.before e.op = some (sample, observation))
    (hAdmitted : Admitted sample observation) :
    ∃ x ∈ events b.step b.initial ops, x.op.epoch = observation.after.publicGeneration := by
  obtain ⟨hHealth, -⟩ := events_history b.step (P := fun es s => FromHealth es s)
    (fun hValid => absurd rfl hValid) (fun _ _ _ h => h.step) hSplit
  have hSame : observation.after.publicGeneration = e.before.publicGeneration := by
    obtain ⟨message, nowNs, subscriptions, -, -, -, rfl⟩ := observed_lio hObserved
    exact e.before.received_generation _ _
  rw [hSame]
  obtain ⟨x, hx, hEpoch⟩ := hHealth (by rw [← hSame]; exact hAdmitted.generation.ne')
  exact ⟨x, by rw [hSplit]; exact List.mem_append_left _ hx, hEpoch⟩

theorem run_reset_honesty (b : Px4ExternalOdometryBridgeNode (ExactReal ℝ))
    (ops : List (BridgeMessage (ExactReal ℝ))) :
    b.ResetHonesty (events b.step b.initial ops) := by
  intro hApart earlier e between p later first last hSplit hFirst hLast hCounter
  have hSplit' : events b.step b.initial ops = (earlier ++ e :: between) ++ p :: later := by
    rw [hSplit]
    simp
  obtain ⟨-, hE⟩ := events_history b.step (P := fun _ _ => True) trivial
    (fun _ _ _ _ => trivial) hSplit
  obtain ⟨-, hP⟩ := events_history b.step (P := fun _ _ => True) trivial
    (fun _ _ _ _ => trivial) hSplit'
  rw [hE] at hFirst
  rw [hP] at hLast
  obtain ⟨sample, observation, hObserved, rfl, hAdmitted⟩ := published_of_result hFirst
  obtain ⟨sample', observation', hObserved', rfl, hAdmitted'⟩ := published_of_result hLast
  have hGeneration : observation.after.publicGeneration = observation'.after.publicGeneration := by
    obtain ⟨x, hx, hEpoch⟩ := generation_of_event hSplit hObserved hAdmitted
    obtain ⟨y, hy, hEpoch'⟩ := generation_of_event hSplit' hObserved' hAdmitted'
    have hXY := hApart x hx y hy
    have hYX := hApart y hy x hx
    have hEqual : observation.after.publicGeneration % 256 =
        observation'.after.publicGeneration % 256 := hCounter
    omega
  refine ⟨sample, sample', observation, observation', hObserved, hObserved', rfl, rfl, hGeneration,
    rfl, fun hEpoch hEpoch' => by rw [hEpoch, hEpoch', hGeneration], ?_⟩
  intro hContinues
  obtain ⟨jump, speed, hBounds⟩ := b.exists_bounds
  refine ⟨jump, speed, hBounds, ?_⟩
  have hParts : events b.step b.initial ops = ((earlier ++ [e]) ++ (between ++ [p])) ++ later := by
    rw [hSplit]
    simp
  obtain ⟨whole, rest, rfl, hWhole, -⟩ := exists_split_of_events hParts
  obtain ⟨before, following, rfl, hBefore, hFollowing⟩ := exists_split_of_events hWhole
  have hStart : observation.after = run b.step b.initial before := by
    have hAfter : e.after = run b.step b.initial before := by
      apply after_getLast
      rw [hBefore, List.getLast?_concat]
      rfl
    rw [← hAfter, hE, eventAt_after, step_of_observed hObserved]
  have hEnd : observation'.after = run b.step (run b.step b.initial before) following := by
    have hAfter : p.after = run b.step (run b.step b.initial before) following := by
      apply after_getLast
      rw [hFollowing, List.getLast?_concat]
      rfl
    rw [← hAfter, hP, eventAt_after, step_of_observed hObserved']
  obtain ⟨hBaseline, -⟩ := published_baseline hObserved hAdmitted
  obtain ⟨hBaseline', hOpen⟩ := published_baseline hObserved' hAdmitted'
  obtain ⟨_, _, _, -, -, hSample, -⟩ := observed_lio hObserved
  have hChain : Chained jump speed 0 sample.frame (run b.step b.initial before) := by
    rw [← hStart]
    exact .inr ⟨sample.frame, hBaseline, Within.refl (sample_finite hSample)⟩
  have hRun := chained_run hBounds hChain (by rwa [hFollowing])
  rw [hFollowing, ← hEnd, zero_add] at hRun
  rcases hRun with hClosed | ⟨frame, hFrame, hWithin⟩
  · exact absurd hClosed hOpen
  · obtain rfl := Option.some.inj (hBaseline'.symm.trans hFrame)
    exact hWithin

end Exact

section Literal
variable {D : Type} [Floating D] [Narrowing D] [SelfAdjointEigenSolver D]

/-- Two samples within the continuity time that are further apart than the bound of one step. -/
def Leaps (b : Px4ExternalOdometryBridgeNode D) (first last : Px4Sample D) : Bool :=
  let dtS : D := ofInt (last.frame.timestampNs - first.frame.timestampNs) * lit (1 / 10 ^ 9)
  dtS ≤ b.jumpContinuityConfig.maximumContinuityDtS && b.jumpContinuityConfig.positionJumpMarginM +
      b.jumpContinuityConfig.maximumExpectedSpeedMps * dtS <
        (last.frame.positionNed - first.frame.positionNed).norm

/-- Consecutive messages of one counter are of one epoch and do not leap. -/
def CounterHonest (b : Px4ExternalOdometryBridgeNode D) (es : List (BridgeEvent D)) : Prop :=
  ∀ earlier e between p later first last, es = earlier ++ e :: (between ++ p :: later) →
    e.result = some first → p.result = some last → (∀ x ∈ between, x.result = none) →
      first.resetCounter = last.resetCounter → e.op.epoch = p.op.epoch ∧
          ∀ o ∈ b.observationOf e.before e.op, ∀ o' ∈ b.observationOf p.before p.op,
            b.Leaps o.1 o'.1 = false

/-- A run in which two messages are published, with what is wrong between them. -/
structure Dishonest (b : Px4ExternalOdometryBridgeNode D) (before between : List (BridgeMessage D))
    (first last : BridgeMessage D) : Prop where
  counters : ((b.step (run b.step b.initial before) first).2.map fun m => m.resetCounter) =
    ((b.step (run b.step b.initial (before ++ first :: between)) last).2.map fun m =>
      m.resetCounter)
  published : (b.step (run b.step b.initial before) first).2.isSome = true
  silent : (events b.step (b.step (run b.step b.initial before) first).1 between).all
    (fun x => x.result.isNone) = true
  wrong : first.epoch ≠ last.epoch ∨
    ((b.observationOf (run b.step b.initial before) first).any fun o =>
      (b.observationOf (run b.step b.initial (before ++ first :: between)) last).any fun o' =>
        b.Leaps o.1 o'.1) = true

theorem Dishonest.not_honest {b : Px4ExternalOdometryBridgeNode D}
    {before between : List (BridgeMessage D)} {first last : BridgeMessage D}
    (h : b.Dishonest before between first last) :
    ¬b.CounterHonest (events b.step b.initial (before ++ first :: (between ++ [last]))) := by
  intro hHonest
  obtain ⟨output, hOutput⟩ := Option.isSome_iff_exists.mp h.published
  have hCounters := h.counters
  rw [hOutput, Option.map_some] at hCounters
  obtain ⟨output', hOutput', hSame⟩ := Option.map_eq_some_iff.mp hCounters.symm
  have hSilent : ∀ x ∈ events b.step (b.step (run b.step b.initial before) first).1 between,
      x.result = none :=
    fun x hx => Option.isNone_iff_eq_none.mp (List.all_eq_true.mp h.silent x hx)
  rw [run_append, run_cons] at hOutput'
  have hWrong := h.wrong
  rw [run_append, run_cons] at hWrong
  obtain ⟨hEpochs, hNear⟩ := hHonest (events b.step b.initial before)
    (eventAt b.step (run b.step b.initial before) first) _
    (eventAt b.step (run b.step (b.step (run b.step b.initial before) first).1 between) last) []
    output output' (by rw [events_append, events_cons, events_concat]) hOutput hOutput' hSilent
    hSame.symm
  rcases hWrong with hDiffer | hLeaps
  · exact hDiffer hEpochs
  · obtain ⟨o, hFirst, hRest⟩ := (Option.any_eq_true _ _).mp hLeaps
    obtain ⟨o', hLast, hLeap⟩ := (Option.any_eq_true _ _).mp hRest
    rw [hNear o hFirst o' hLast] at hLeap
    cases hLeap

end Literal

end Px4ExternalOdometryBridgeNode

open Px4ExternalOdometryBridgeNode

def foreignSample : BridgeMessage (ExactReal ℚ) :=
  .lio {
      odometry := {
        stamp := ⟨1, 2000000⟩
        frameId := "odom"
        childFrameId := "base_link"
        position := Vec3.zero
        orientation := Quaternion.identity
        linear := Vec3.zero
        angular := Vec3.zero
        poseCovariance := fun _ => lit 0
        twistCovariance := fun _ => lit 0 }
      localizationEpoch := 1
      sequence := 2 } 1002000000 1

def unheard : BridgeMessage (ExactReal ℚ) → BridgeMessage (ExactReal ℚ)
  | .lio message nowNs _ => .lio message nowNs 0
  | .lioHealth message => .lioHealth message

theorem epoch_ahead :
    exactBridge.Dishonest [healthOf 1] [] (sampleOf 1 1 1000000 0) (sampleOf 2 1 2000000 0) :=
  ⟨by decide +kernel, by decide +kernel, by decide +kernel, .inl (by decide)⟩

theorem leap_after_foreign :
    exactBridge.Dishonest [healthOf 1] [foreignSample] (sampleOf 1 1 1000000 0)
      (sampleOf 1 3 3000000 100) :=
  ⟨by decide +kernel, by decide +kernel, by decide +kernel, .inr (by decide +kernel)⟩

theorem two_steps : exactBridge.Dishonest [healthOf 1] [unheard (sampleOf 1 2 26000000 1)]
      (sampleOf 1 1 1000000 0) (sampleOf 1 3 51000000 2) :=
  ⟨by decide +kernel, by decide +kernel, by decide +kernel, .inr (by decide +kernel)⟩

theorem counter_not_honest : ¬exactBridge.CounterHonest (events exactBridge.step exactBridge.initial
        [healthOf 1, sampleOf 1 1 1000000 0, sampleOf 2 1 2000000 0]) ∧
      ¬exactBridge.CounterHonest (events exactBridge.step exactBridge.initial
        [healthOf 1, sampleOf 1 1 1000000 0, foreignSample, sampleOf 1 3 3000000 100]) ∧
      ¬exactBridge.CounterHonest (events exactBridge.step exactBridge.initial
        [healthOf 1, sampleOf 1 1 1000000 0, unheard (sampleOf 1 2 26000000 1),
          sampleOf 1 3 51000000 2]) :=
  ⟨epoch_ahead.not_honest, leap_after_foreign.not_honest, two_steps.not_honest⟩

end ExternalOdometry

end UavNavigation
