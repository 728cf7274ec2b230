import UavNavigation.AuthorityInvariant

/-!
# The command sampler

`command_sampler.hpp`: a read-only view of the execution authority. Every answer is
a point with the window it belongs to, or a status without a point. What the
evaluator throws is caught inside the two queries of the bundle.
-/

namespace UavNavigation

set_option autoImplicit false

open FloatOps CandidateBundle

inductive SampleStatus where
  | noActiveBundle
  | awaitingActivation
  | activeSample
  | stoppedHold
  | expiredLease
  | goalMismatch
  | evaluatorFailure
deriving DecidableEq

structure SampleResult (D F : Type) where
  bundle : Option (BundlePtr D F)
  point : Option (TrajectoryPoint D)
  awaitingActivation : Bool
  plannedStopHold : Bool
  status : SampleStatus
  timelineVersion : Nat
deriving DecidableEq

namespace CommandSampler
variable {D F : Type} [Floating D] [Evaluator D F]

/-- The part of `sampleActive` that evaluates an active bundle. -/
def sampleBundle (bundle : BundlePtr D F) (stampNs : Int) (version : Nat) : SampleResult D F :=
  let point := bundle.object.sample stampNs
  let declaredEndNs := if 0 < bundle.object.declaredEndNs then some bundle.object.declaredEndNs
    else secondsSumToNanoseconds bundle.object.startWallTimeS bundle.object.durationS
  let endpoint :=
    if point.isNone && bundle.object.validUntilNs < stampNs && declaredEndNs.any (· ≤ stampNs) then
      bundle.object.sampleAtDeclaredEnd
    else none
  if endpoint.isSome then ⟨some bundle, endpoint, false, true, .stoppedHold, version⟩
  else
    let status :=
      if point.isSome then .activeSample
      else if bundle.object.validUntilNs < stampNs then .expiredLease else .evaluatorFailure
    ⟨some bundle, point, false, false, status, version⟩

def sampleActive (timeline : ExecutionAuthoritySnapshot D F) (stampNs : Int)
    (expectedGoalEpoch : Nat) : SampleResult D F :=
  match timeline.active with
  | none =>
    match timeline.pending with
    | none => ⟨none, none, false, false, .noActiveBundle, timeline.version⟩
    | some pending =>
      if expectedGoalEpoch != 0 && pending.object.goalEpoch != expectedGoalEpoch then
        ⟨some pending, none, false, false, .goalMismatch, timeline.version⟩
      else ⟨some pending, none, true, false, .awaitingActivation, timeline.version⟩
  | some bundle =>
    -- a retained bundle is never sampled as the new goal
    if expectedGoalEpoch != 0 && bundle.object.goalEpoch != expectedGoalEpoch then
      ⟨some bundle, none, false, false, .goalMismatch, timeline.version⟩
    else if stampNs < bundle.object.validFromNs then
      ⟨some bundle, none, true, false, .awaitingActivation, timeline.version⟩
    else sampleBundle bundle stampNs timeline.version

def sample (store : ExecutionAuthority D F) (stampNs : Int) (expectedGoalEpoch : Nat) :
    SampleResult D F :=
  sampleActive store.snapshot stampNs expectedGoalEpoch

def evaluated (bundle : CandidateBundle D F) (stampNs : Int) : Option (TrajectoryPoint D) :=
  match bundle.evaluator.bind (Evaluator.call · stampNs (TrajectoryPoint.initial bundle.role)) with
  | some (true, point) => some point
  | _ => none

/-- The bundle accepts a point of its evaluator at a trajectory time. -/
def Accepts (bundle : CandidateBundle D F) (trajectoryTimeS : D) (point : TrajectoryPoint D) : Prop :=
  point.finite = true ∧ bundle.sampledRoleAllowed point.role = true ∧
    bundle.scheduledRole trajectoryTimeS = some point.role

variable {bundle : CandidateBundle D F} {point : TrajectoryPoint D} {stampNs : Int}

theorem sampleAtDeclaredStamp_eq_some : bundle.sampleAtDeclaredStamp stampNs = some point ↔
      bundle.valid = true ∧ bundle.declaredStartNs ≤ stampNs ∧ stampNs ≤ bundle.declaredEndNs ∧
        evaluated bundle stampNs = some point ∧ Accepts bundle point.trajectoryTimeS point := by
  unfold sampleAtDeclaredStamp evaluated Accepts
  generalize (bundle.evaluator.bind (Evaluator.call · stampNs
    (TrajectoryPoint.initial bundle.role)) : Option (Bool × TrajectoryPoint D)) = called
  constructor
  · intro h
    rw [Option.ite_none_left_eq_some] at h
    obtain ⟨hWindow, h⟩ := h
    simp only [Bool.or_eq_true, Bool.not_eq_true', decide_eq_true_eq, not_or, Bool.not_eq_false,
      not_lt] at hWindow
    refine ⟨hWindow.1.1, hWindow.1.2, hWindow.2, ?_⟩
    rcases called with _ | ⟨_ | _, value⟩
    · cases h
    · cases h
    · simp only [Option.ite_none_left_eq_some, Option.ite_none_right_eq_some, Option.some.injEq,
        Bool.or_eq_true, Bool.not_eq_true', not_or, Bool.not_eq_false] at h
      obtain ⟨⟨hFinite, hAllowed⟩, hScheduled, rfl⟩ := h
      exact ⟨rfl, hFinite, hAllowed, hScheduled⟩
  · rintro ⟨hValid, hFirst, hLast, hCalled, hFinite, hAllowed, hScheduled⟩
    rcases called with _ | ⟨_ | _, value⟩
    · cases hCalled
    · cases hCalled
    · obtain rfl : value = point := Option.some.inj hCalled
      simp [hValid, not_lt.mpr hFirst, not_lt.mpr hLast, hFinite, hAllowed, hScheduled]

theorem sample_eq_some : bundle.sample stampNs = some point ↔
      bundle.validFromNs ≤ stampNs ∧ stampNs ≤ bundle.validUntilNs ∧
        bundle.sampleAtDeclaredStamp stampNs = some point := by
  unfold CandidateBundle.sample
  constructor
  · intro h
    rw [Option.ite_none_left_eq_some] at h
    obtain ⟨hWindow, h⟩ := h
    simp only [Bool.or_eq_true, decide_eq_true_eq, not_or, not_lt] at hWindow
    exact ⟨hWindow.1.2, hWindow.2, h⟩
  · rintro ⟨hFirst, hLast, h⟩
    have hValid := (sampleAtDeclaredStamp_eq_some.mp h).1
    simp [hValid, not_lt.mpr hFirst, not_lt.mpr hLast, h]

omit [Evaluator D F] in
theorem declaredEndNs_pos {bundle : CandidateBundle D F} (h : bundle.valid = true) :
    0 < bundle.declaredEndNs := by
  have hConsistent : bundle.endpointMetadataConsistent = true := by
    simp only [valid, Bool.and_eq_true] at h
    tauto
  simp only [endpointMetadataConsistent, Bool.and_eq_true, decide_eq_true_eq] at hConsistent
  omega

/-- The declared end of a valid bundle is sampled like a declared stamp, against the schedule at
its duration, and is finished. -/
theorem sampleAtDeclaredEnd_eq_some : bundle.sampleAtDeclaredEnd = some point ↔
      bundle.valid = true ∧ ∃ value, evaluated bundle bundle.declaredEndNs = some value ∧
        Accepts bundle bundle.durationS value ∧ point = { value with finished := true } := by
  unfold sampleAtDeclaredEnd
  by_cases hValid : bundle.valid = true
  · have hMetadata := (declared_endpoint hValid).1
    have hPositive : 0 < bundle.declaredEndNs := declaredEndNs_pos hValid
    simp only [hValid, hMetadata, hPositive, if_true, not_le.mpr hPositive, if_false, evaluated,
      Accepts]
    generalize (bundle.evaluator.bind (Evaluator.call · bundle.declaredEndNs
      (TrajectoryPoint.initial bundle.role)) : Option (Bool × TrajectoryPoint D)) = called
    rcases called with _ | ⟨_ | _, value⟩
    · simp
    · simp
    · dsimp only
      constructor
      · intro h
        simp only [Option.ite_none_left_eq_some, Option.ite_none_right_eq_some, Option.some.injEq,
          Bool.or_eq_true, Bool.not_eq_true', not_or, Bool.not_eq_false] at h
        obtain ⟨-, ⟨hFinite, hAllowed⟩, hScheduled, rfl⟩ := h
        exact ⟨trivial, value, rfl, ⟨hFinite, hAllowed, hScheduled⟩, rfl⟩
      · rintro ⟨-, other, hSame, ⟨hFinite, hAllowed, hScheduled⟩, rfl⟩
        obtain rfl : value = other := Option.some.inj hSame
        simp [hFinite, hAllowed, hScheduled]
  · simp [hValid]

/-! ## Every answer -/

inductive Sampled (bundle : CandidateBundle D F) (stampNs : Int) :
    SampleStatus → TrajectoryPoint D → Prop where
  | active {point : TrajectoryPoint D} (first : bundle.validFromNs ≤ stampNs)
      (last : stampNs ≤ bundle.validUntilNs) (declaredFirst : bundle.declaredStartNs ≤ stampNs)
      (declaredLast : stampNs ≤ bundle.declaredEndNs) (value : evaluated bundle stampNs = some point)
      (allowed : bundle.sampledRoleAllowed point.role = true)
      (scheduled : bundle.scheduledRole point.trajectoryTimeS = some point.role) :
      Sampled bundle stampNs .activeSample point
  | hold {point : TrajectoryPoint D} (expired : bundle.validUntilNs < stampNs)
      (ended : bundle.declaredEndNs ≤ stampNs)
      (value : evaluated bundle bundle.declaredEndNs = some point) :
      Sampled bundle stampNs .stoppedHold { point with finished := true }

/-- Why the evaluation of a bundle inside its lease gives nothing. -/
def Rejects (bundle : CandidateBundle D F) (stampNs : Int) : Prop :=
  bundle.valid = false ∨ stampNs < bundle.declaredStartNs ∨ bundle.declaredEndNs < stampNs ∨
    ∀ point, evaluated bundle stampNs = some point → ¬ Accepts bundle point.trajectoryTimeS point

inductive Unanswered (store : ExecutionAuthority D F) (stampNs : Int) (expectedGoalEpoch : Nat) :
    SampleStatus → Prop where
  | empty (active : store.active.bundle = none) (pending : store.staged.bundle = none) :
      Unanswered store stampNs expectedGoalEpoch .noActiveBundle
  | pendingForOtherGoal {pending : BundlePtr D F} (active : store.active.bundle = none)
      (staged : store.staged.bundle = some pending) (expected : expectedGoalEpoch ≠ 0)
      (other : pending.object.goalEpoch ≠ expectedGoalEpoch) :
      Unanswered store stampNs expectedGoalEpoch .goalMismatch
  | pendingOnly {pending : BundlePtr D F} (active : store.active.bundle = none)
      (staged : store.staged.bundle = some pending)
      (goal : expectedGoalEpoch ≠ 0 → pending.object.goalEpoch = expectedGoalEpoch) :
      Unanswered store stampNs expectedGoalEpoch .awaitingActivation
  | otherGoal {bundle : BundlePtr D F} (active : store.active.bundle = some bundle)
      (expected : expectedGoalEpoch ≠ 0) (other : bundle.object.goalEpoch ≠ expectedGoalEpoch) :
      Unanswered store stampNs expectedGoalEpoch .goalMismatch
  | early {bundle : BundlePtr D F} (active : store.active.bundle = some bundle)
      (goal : expectedGoalEpoch ≠ 0 → bundle.object.goalEpoch = expectedGoalEpoch)
      (early : stampNs < bundle.object.validFromNs) :
      Unanswered store stampNs expectedGoalEpoch .awaitingActivation
  | expired {bundle : BundlePtr D F} (active : store.active.bundle = some bundle)
      (goal : expectedGoalEpoch ≠ 0 → bundle.object.goalEpoch = expectedGoalEpoch)
      (first : bundle.object.validFromNs ≤ stampNs) (late : bundle.object.validUntilNs < stampNs)
      (noHold : stampNs < bundle.object.declaredEndNs ∨ bundle.object.sampleAtDeclaredEnd = none) :
      Unanswered store stampNs expectedGoalEpoch .expiredLease
  | rejected {bundle : BundlePtr D F} (active : store.active.bundle = some bundle)
      (goal : expectedGoalEpoch ≠ 0 → bundle.object.goalEpoch = expectedGoalEpoch)
      (first : bundle.object.validFromNs ≤ stampNs) (last : stampNs ≤ bundle.object.validUntilNs)
      (rejects : Rejects bundle.object stampNs) :
      Unanswered store stampNs expectedGoalEpoch .evaluatorFailure

theorem rejects_of_sample_eq_none (hFirst : bundle.validFromNs ≤ stampNs)
    (hLast : stampNs ≤ bundle.validUntilNs) (h : bundle.sample stampNs = none) :
    Rejects bundle stampNs := by
  by_contra hAccepted
  simp only [Rejects, not_or, Bool.not_eq_false, not_lt, not_forall, not_not] at hAccepted
  obtain ⟨hValid, hDeclaredFirst, hDeclaredLast, point, hValue, hAccepts⟩ := hAccepted
  have hSome := sample_eq_some.mpr ⟨hFirst, hLast, sampleAtDeclaredStamp_eq_some.mpr
    ⟨hValid, hDeclaredFirst, hDeclaredLast, hValue, hAccepts⟩⟩
  rw [h] at hSome
  cases hSome

theorem sampleBundle_cases (bundle : BundlePtr D F) (version : Nat)
    (hFirst : bundle.object.validFromNs ≤ stampNs) :
    (sampleBundle bundle stampNs version).bundle = some bundle ∧
    ((∃ point, (sampleBundle bundle stampNs version).point = some point ∧
        bundle.object.valid = true ∧
        Sampled bundle.object stampNs (sampleBundle bundle stampNs version).status point) ∨
      (sampleBundle bundle stampNs version).point = none ∧
        ((sampleBundle bundle stampNs version).status = .expiredLease ∧
            bundle.object.validUntilNs < stampNs ∧
            (stampNs < bundle.object.declaredEndNs ∨ bundle.object.sampleAtDeclaredEnd = none) ∨
          (sampleBundle bundle stampNs version).status = .evaluatorFailure ∧
            stampNs ≤ bundle.object.validUntilNs ∧ Rejects bundle.object stampNs)) := by
  unfold sampleBundle
  rcases hPoint : bundle.object.sample stampNs with _ | point
  · by_cases hLate : bundle.object.validUntilNs < stampNs
    · rcases hEnd : bundle.object.sampleAtDeclaredEnd with _ | endpoint
      · simp [hLate]
      · obtain ⟨hValid, value, hValue, -, rfl⟩ := sampleAtDeclaredEnd_eq_some.mp hEnd
        have hPositive := declaredEndNs_pos hValid
        by_cases hEnded : bundle.object.declaredEndNs ≤ stampNs
        · simp only [hLate, hPositive, hEnded, Option.isNone_none, Bool.true_and,
            Option.any_some, decide_true, if_true, Option.isSome_some]
          exact ⟨trivial, .inl ⟨_, rfl, hValid, .hold hLate hEnded hValue⟩⟩
        · simp [hLate, hPositive, hEnded, not_le.mp hEnded]
    · have hLast := not_lt.mp hLate
      have hRejects := rejects_of_sample_eq_none hFirst hLast hPoint
      simp [hLate, hLast, hRejects]
  · obtain ⟨hLease, hLast, hDeclared⟩ := sample_eq_some.mp hPoint
    obtain ⟨hValid, hStart, hEnd, hValue, -, hAllowed, hScheduled⟩ :=
      sampleAtDeclaredStamp_eq_some.mp hDeclared
    exact ⟨rfl, .inl ⟨point, rfl, hValid,
      .active hLease hLast hStart hEnd hValue hAllowed hScheduled⟩⟩

/-- The sampler gives a point only of the valid active bundle of the expected goal, inside its
lease or as the hold at its declared end, and the status of every other answer says what is
missing. -/
theorem sampler_answers (store : ExecutionAuthority D F) (stampNs : Int) (expectedGoalEpoch : Nat) :
    (∀ point ∈ (sample store stampNs expectedGoalEpoch).point,
      ∃ bundle, store.active.bundle = some bundle ∧
        (sample store stampNs expectedGoalEpoch).bundle = some bundle ∧
        bundle.object.valid = true ∧
        (expectedGoalEpoch ≠ 0 → bundle.object.goalEpoch = expectedGoalEpoch) ∧
        Sampled bundle.object stampNs (sample store stampNs expectedGoalEpoch).status point) ∧
    ((sample store stampNs expectedGoalEpoch).point = none →
      Unanswered store stampNs expectedGoalEpoch
        (sample store stampNs expectedGoalEpoch).status) := by
  unfold sample sampleActive ExecutionAuthority.snapshot
  rcases hActive : store.active.bundle with _ | bundle
  · rcases hPending : store.staged.bundle with _ | pending
    · exact ⟨fun point h => (nomatch h), fun _ => .empty hActive hPending⟩
    · dsimp only
      split
      · rename_i hOther
        rw [Bool.and_eq_true, bne_iff_ne, bne_iff_ne] at hOther
        exact ⟨fun point h => (nomatch h),
          fun _ => .pendingForOtherGoal hActive hPending hOther.1 hOther.2⟩
      · rename_i hOwn
        rw [Bool.and_eq_true, bne_iff_ne, bne_iff_ne, not_and_not_right] at hOwn
        exact ⟨fun point h => (nomatch h), fun _ => .pendingOnly hActive hPending hOwn⟩
  · dsimp only
    split
    · rename_i hOther
      rw [Bool.and_eq_true, bne_iff_ne, bne_iff_ne] at hOther
      exact ⟨fun point h => (nomatch h), fun _ => .otherGoal hActive hOther.1 hOther.2⟩
    rename_i hGoal
    rw [Bool.and_eq_true, bne_iff_ne, bne_iff_ne, not_and_not_right] at hGoal
    split
    · rename_i hEarly
      exact ⟨fun point h => (nomatch h), fun _ => .early hActive hGoal hEarly⟩
    rename_i hFirst
    rw [not_lt] at hFirst
    obtain ⟨hBundle, hCases⟩ := sampleBundle_cases bundle store.timelineVersion hFirst
    rcases hCases with ⟨point, hPoint, hValid, hSampled⟩ | ⟨hNone, hStatus⟩
    · rw [hPoint]
      refine ⟨?_, fun h => (nomatch h)⟩
      intro other hOther
      obtain rfl : point = other := Option.some.inj hOther
      exact ⟨bundle, rfl, hBundle, hValid, hGoal, hSampled⟩
    · rw [hNone]
      refine ⟨fun point h => (nomatch h), fun _ => ?_⟩
      rcases hStatus with ⟨hStatus, hLate, hNoHold⟩ | ⟨hStatus, hLast, hRejects⟩
      · rw [hStatus]
        exact .expired hActive hGoal hFirst hLate hNoHold
      · rw [hStatus]
        exact .rejected hActive hGoal hFirst hLast hRejects

open ExecutionAuthority Runs

def overlongLease : BundlePtr Exact StraightFlight :=
  ⟨27, { (flightBundle 27 1).object with validUntilNs := 500 }⟩

def overlongFlight : ExecutionAuthority Exact StraightFlight :=
  run step {} [.publishWorldIdentity {} ⟨flightWorld, 0, none, false, 0, none, false, none, none⟩,
      .setAdmissionGoalEpoch 7 false,
      .tryCommit (flightToken 1) (some flightGoal) (some overlongLease)]

/-- After the declared end the evaluator of the active bundle answers, and the status names it. -/
theorem answering_evaluator_named :
    overlongFlight.active.bundle = some overlongLease ∧ overlongLease.object.valid = true ∧
      (evaluated overlongLease.object 450).isSome = true ∧
      (sample overlongFlight 450 7).point = none ∧
      (sample overlongFlight 450 7).status = .evaluatorFailure := by
  decide +kernel

end CommandSampler

end UavNavigation
