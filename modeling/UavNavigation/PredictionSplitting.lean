import UavNavigation.ExactPropagation
import UavNavigation.PredictionBracket

/-!
# A prediction can be cut at a sample

A prediction that fails leaves the estimator as it was. One that succeeds has
stepped over every pair of neighbours among the start, the samples inside and the
end. Cut at the time of a sample, its two halves are the whole: the sample is the
end of one and the start of the other.
-/

namespace UavNavigation.FastLio

open OrderedQueues PairFolds List

set_option autoImplicit false

variable {D : Type} [FloatOps D] {K : FilterKernel D}

def stepDurations : List (ImuSample D) → List Int
  | previous :: current :: rest =>
    (imuTime current - imuTime previous) :: stepDurations (current :: rest)
  | _ => []

omit [FloatOps D] in
theorem stepDurations_sum (first : ImuSample D) (rest : List (ImuSample D)) :
    (stepDurations (first :: rest)).sum =
      imuTime ((first :: rest).getLast (cons_ne_nil _ _)) - imuTime first := by
  induction rest generalizing first with
  | nil => simp [stepDurations]
  | cons second rest ih =>
    unfold stepDurations
    rw [sum_cons, ih second, getLast_cons_cons]
    omega

section Steps
variable {maximumIntegrationStepNs : Int} {xs ys : List (ImuSample D)} {x : ImuSample D}

theorem stepFault_cons {first second : ImuSample D} {rest : List (ImuSample D)}
    (h : stepFault maximumIntegrationStepNs (first :: second :: rest) = none) :
    second.time.clockDomain = first.time.clockDomain ∧ 0 < imuTime second - imuTime first ∧
      imuTime second - imuTime first ≤ maximumIntegrationStepNs ∧
        stepFault maximumIntegrationStepNs (second :: rest) = none := by
  unfold stepFault at h
  split at h
  · cases h
  rename_i hDifference
  obtain ⟨hDomain, rfl⟩ := checkedDifference_ok hDifference
  split at h
  · cases h
  split at h
  · cases h
  · unfold imuTime
    exact ⟨hDomain, by omega, by omega, h⟩

section
variable {first : ImuSample D} {rest : List (ImuSample D)}
  (h : stepFault maximumIntegrationStepNs (first :: rest) = none)
include h

theorem stepFault_durations :
    ∀ d ∈ stepDurations (first :: rest), 0 < d ∧ d ≤ maximumIntegrationStepNs := by
  induction rest generalizing first with
  | nil => simp [stepDurations]
  | cons second rest ih =>
    obtain ⟨-, hPositive, hShort, hRest⟩ := stepFault_cons h
    exact forall_mem_cons.mpr ⟨⟨hPositive, hShort⟩, ih hRest⟩

theorem stepFault_increasing : Increasing imuTime (first :: rest) := by
  induction rest generalizing first with
  | nil => exact pairwise_singleton _ _
  | cons second rest ih =>
    obtain ⟨-, hPositive, -, hRest⟩ := stepFault_cons h
    have hTail := ih hRest
    refine pairwise_cons.mpr ⟨?_, hTail⟩
    intro y hy
    have hSecond : imuTime second ≤ imuTime y := hTail.ordered.head_le (by simp) hy
    omega

end

theorem stepFault_append (hBefore : stepFault maximumIntegrationStepNs (xs ++ [x]) = none)
    (hAfter : stepFault maximumIntegrationStepNs (x :: ys) = none) :
    stepFault maximumIntegrationStepNs (xs ++ x :: ys) = none := by
  induction xs with
  | nil => exact hAfter
  | cons y xs ih =>
    obtain ⟨z, zs, hHead, hTail⟩ : ∃ z zs, xs ++ [x] = z :: zs ∧ xs ++ x :: ys = z :: (zs ++ ys) := by
      cases xs with
      | nil => exact ⟨x, [], rfl, rfl⟩
      | cons z xs => exact ⟨z, xs ++ [x], rfl, by simp⟩
    rw [cons_append, hHead] at hBefore
    rw [hHead, hTail] at ih
    rw [cons_append, hTail]
    have hRest := ih (stepFault_cons hBefore).2.2.2
    unfold stepFault at hBefore ⊢
    split at hBefore
    · cases hBefore
    split at hBefore
    · cases hBefore
    rename_i hStep
    rw [if_neg hStep]
    split at hBefore
    · cases hBefore
    rename_i hInput
    rw [if_neg hInput]
    exact hRest

end Steps

/-! ## Samples of an interval -/

section Samples
variable {samples : List (ImuSample D)} {start middle stop time : Timestamp}
variable {startSample endSample boundary x : ImuSample D}

theorem interpolateSample_time (h : interpolateSample samples time = .ok boundary) :
    imuTime boundary = time.nanoseconds := by
  revert h
  fun_cases interpolateSample
  all_goals intro h
  case case2 hExact =>
    cases h
    exact hExact
  case case8 =>
    cases h
    rfl
  all_goals cases h

theorem interpolateSample_stamp (hDomains : ∀ y ∈ samples, y.time.clockDomain = time.clockDomain)
    (h : interpolateSample samples time = .ok boundary) : boundary.time = time := by
  have hTime := interpolateSample_time h
  revert h
  fun_cases interpolateSample
  all_goals intro h
  case case2 after hAfter _ =>
    cases h
    exact Timestamp.ext hTime (hDomains _ (mem_of_getElem? hAfter))
  case case8 =>
    cases h
    rfl
  all_goals cases h

theorem interpolateSample_after (h : interpolateSample samples time = .ok boundary) :
    ∃ y ∈ samples, imuTime y ≤ time.nanoseconds := by
  unfold interpolateSample at h
  dsimp only at h
  split at h
  · cases h
  rename_i after hAfter
  split at h
  · rename_i hExact
    exact ⟨after, mem_of_getElem? hAfter, hExact.le⟩
  split at h
  · cases h
  rename_i before hBefore
  have hMem := mem_of_getLast? hBefore
  exact ⟨before, mem_of_mem_take hMem, (lt_of_mem_take_lowerBound hMem).le⟩

section
omit [FloatOps D]

theorem filter_inside_cut (h : Increasing imuTime samples) (hx : x ∈ samples)
    (hStart : start.nanoseconds < imuTime x) (hStop : imuTime x < stop.nanoseconds) :
    (samples.filter fun y => start.nanoseconds < imuTime y ∧ imuTime y < stop.nanoseconds) =
      (samples.filter fun y => start.nanoseconds < imuTime y ∧ imuTime y < imuTime x) ++
        x :: samples.filter fun y => imuTime x < imuTime y ∧ imuTime y < stop.nanoseconds := by
  obtain ⟨before, after, rfl⟩ := append_of_mem hx
  obtain ⟨-, hAfter, hAcross⟩ := pairwise_append.mp h
  have hLow : ∀ y ∈ before, imuTime y < imuTime x := fun y hy => hAcross y hy x mem_cons_self
  have hHigh : ∀ y ∈ after, imuTime x < imuTime y := (pairwise_cons.mp hAfter).1
  have hBefore : (before.filter fun y => start.nanoseconds < imuTime y ∧ imuTime y < stop.nanoseconds) =
      before.filter fun y => start.nanoseconds < imuTime y ∧ imuTime y < imuTime x := by
    apply filter_congr
    intro y hy
    have := hLow y hy
    simp only [decide_eq_decide]
    omega
  have hNone : (after.filter fun y => start.nanoseconds < imuTime y ∧ imuTime y < imuTime x) = [] := by
    apply filter_eq_nil_iff.mpr
    intro y hy
    have := hHigh y hy
    simp only [decide_eq_true_eq]
    omega
  have hNone' : (before.filter fun y => imuTime x < imuTime y ∧ imuTime y < stop.nanoseconds) = [] := by
    apply filter_eq_nil_iff.mpr
    intro y hy
    have := hLow y hy
    simp only [decide_eq_true_eq]
    omega
  have hAfter : (after.filter fun y => start.nanoseconds < imuTime y ∧ imuTime y < stop.nanoseconds) =
      after.filter fun y => imuTime x < imuTime y ∧ imuTime y < stop.nanoseconds := by
    apply filter_congr
    intro y hy
    have := hHigh y hy
    simp only [decide_eq_decide]
    omega
  rw [filter_append, filter_append, filter_append, filter_cons, filter_cons,
    filter_cons, hBefore, hNone, hNone', hAfter]
  simp [hStart, hStop]

theorem filter_inside_empty (h : stop.nanoseconds ≤ start.nanoseconds) :
    (samples.filter fun y => start.nanoseconds < imuTime y ∧ imuTime y < stop.nanoseconds) = [] := by
  apply filter_eq_nil_iff.mpr
  intro y hy
  simp only [decide_eq_true_eq]
  omega

end

theorem integrationSamples_cut (h : Increasing imuTime samples) (hx : x ∈ samples)
    (hMiddle : imuTime x = middle.nanoseconds)
    (hStart : interpolateSample samples start = .ok startSample)
    (hStop : interpolateSample samples stop = .ok endSample)
    (hLow : start.nanoseconds ≤ middle.nanoseconds) (hHigh : middle.nanoseconds ≤ stop.nanoseconds) :
    ∃ front rest, integrationSamples samples start middle startSample x = front ++ [x] ∧
      integrationSamples samples middle stop x endSample = x :: rest ∧
      integrationSamples samples start stop startSample endSample = front ++ x :: rest := by
  rcases hLow.eq_or_lt with hAtStart | hAfterStart
  · -- the first half is one sample
    have hSame : startSample = x := by
      rw [interpolateSample_exact h hx (hMiddle.trans hAtStart.symm)] at hStart
      exact (Except.ok.inj hStart).symm
    subst hSame
    refine ⟨[], _, ?_, rfl, ?_⟩
    · unfold integrationSamples
      rw [filter_inside_empty hAtStart.ge, if_neg (by omega)]
      rfl
    · unfold integrationSamples
      rw [hAtStart]
      rfl
  · refine ⟨startSample :: samples.filter fun y =>
      start.nanoseconds < imuTime y ∧ imuTime y < middle.nanoseconds, _, ?_, rfl, ?_⟩
    · unfold integrationSamples
      rw [if_pos hAfterStart]
      rfl
    rcases hHigh.eq_or_lt with hAtStop | hBeforeStop
    · have hSame : endSample = x := by
        rw [interpolateSample_exact h hx (hMiddle.trans hAtStop)] at hStop
        exact (Except.ok.inj hStop).symm
      subst hSame
      unfold integrationSamples
      rw [← hAtStop, if_pos hAfterStart, if_neg (lt_irrefl _), filter_inside_empty le_rfl]
      rfl
    · unfold integrationSamples
      rw [if_pos (by omega), if_pos hBeforeStop,
        filter_inside_cut h hx (by omega) (by omega), hMiddle]
      simp

end Samples

/-! ## Integrations -/

section
variable {states stored : List (ImuTrajectoryState D)} {state : ImuTrajectoryState D}

theorem addState_eq (h : addState states state = .ok stored) :
    stored = states ++ [{ state with orientationOdomImu := state.orientationOdomImu.normalized }] ∧
      ∀ last ∈ states.getLast?, last.time.nanoseconds < state.time.nanoseconds ∧
        last.time.clockDomain = state.time.clockDomain := by
  revert h
  fun_cases addState
  all_goals intro h
  case case4 hDomain hLater =>
    refine ⟨(Except.ok.inj h).symm, ?_⟩
    intro last hLast
    rw [hLast, Option.any_some] at hDomain hLater
    exact ⟨not_le.mp (of_decide_eq_false (Bool.eq_false_iff.mpr hLater)),
      Timestamp.sameClockDomain_iff.mp (by simpa using hDomain)⟩
  all_goals cases h

theorem addState_append (before : List (ImuTrajectoryState D)) (hStates : states ≠ [])
    (h : addState states state = .ok stored) :
    addState (before ++ states) state = .ok (before ++ stored) := by
  have hLast : (before ++ states).getLast? = states.getLast? := by
    rw [List.getLast?_append, List.getLast?_eq_some_getLast hStates]
    rfl
  unfold addState at h ⊢
  rw [hLast]
  split at h
  · cases h
  rename_i hFinite
  split at h
  · cases h
  rename_i hDomain
  split at h
  · cases h
  rename_i hLater
  rw [if_neg hFinite, if_neg hDomain, if_neg hLater, ← Except.ok.inj h, append_assoc]

end

namespace IkfomEstimator
variable {e moved : IkfomEstimator K} {states trajectory : List (ImuTrajectoryState D)}

def storedState (time : Timestamp) (e : IkfomEstimator K) : ImuTrajectoryState D :=
  { e.trajectoryState time with
    orientationOdomImu := (e.trajectoryState time).orientationOdomImu.normalized }

theorem integrate_gravity (states : List (ImuTrajectoryState D)) (samples : List (ImuSample D))
    (e : IkfomEstimator K) :
    (e.integrate states samples).1.fixedGravityOdomMS2 = e.fixedGravityOdomMS2 := by
  fun_induction integrate states samples e with
  | case1 => rfl
  | case2 => rfl
  | case3 => rfl
  | case4 states previous current rest e dtNs hStep next hSane states' hNext ih => exact ih
  | case5 => rfl

theorem integrate_cons {first second : ImuSample D} {rest : List (ImuSample D)}
    (h : e.integrate states (first :: second :: rest) = (moved, .ok trajectory)) :
    ∃ stored, addState states ((e.advance first second).trajectoryState second.time) = .ok stored ∧
      (e.advance first second).integrate stored (second :: rest) = (moved, .ok trajectory) := by
  unfold integrate at h
  split at h
  · cases (Prod.mk.inj h).2
  dsimp only at h
  split at h
  · cases (Prod.mk.inj h).2
  split at h
  · cases (Prod.mk.inj h).2
  · rename_i stored hStored
    exact ⟨stored, hStored, h⟩

theorem integrate_times {first : ImuSample D} {rest : List (ImuSample D)}
    (h : e.integrate states (first :: rest) = (moved, .ok trajectory)) :
    trajectory.map ImuTrajectoryState.time =
      states.map ImuTrajectoryState.time ++ rest.map ImuSample.time := by
  induction rest generalizing e states first with
  | nil =>
    obtain ⟨-, hStates⟩ := Prod.mk.inj h
    rw [← Except.ok.inj hStates, map_nil, append_nil]
  | cons second rest ih =>
    obtain ⟨stored, hStored, hRest⟩ := integrate_cons h
    rw [ih hRest, (addState_eq hStored).1, map_append, append_assoc]
    rfl

theorem integrate_last (first : ImuSample D) {rest : List (ImuSample D)}
    (hStates : states.getLast? = some (e.storedState first.time))
    (h : e.integrate states (first :: rest) = (moved, .ok trajectory)) :
    trajectory.getLast? =
      some (moved.storedState ((first :: rest).getLast (cons_ne_nil _ _)).time) := by
  induction rest generalizing e states first with
  | nil =>
    obtain ⟨hMoved, hOk⟩ := Prod.mk.inj h
    rw [← Except.ok.inj hOk, ← hMoved]
    exact hStates
  | cons second rest ih =>
    obtain ⟨stored, hStored, hRest⟩ := integrate_cons h
    refine ih second ?_ hRest
    rw [(addState_eq hStored).1, List.getLast?_concat]
    rfl

theorem integrate_prefix {samples : List (ImuSample D)}
    (h : e.integrate states samples = (moved, .ok trajectory)) : states <+: trajectory := by
  fun_induction integrate states samples e with
  | case1 => cases (Prod.mk.inj h).2
  | case2 => cases (Prod.mk.inj h).2
  | case3 => cases (Prod.mk.inj h).2
  | case4 states previous current rest e dtNs hStep next hSane stored hStored ih =>
    refine List.IsPrefix.trans ?_ (ih h)
    rw [(addState_eq hStored).1]
    exact prefix_append _ _
  | case5 samples states e hShort =>
    cases Except.ok.inj (Prod.mk.inj h).2
    exact prefix_rfl

theorem integrate_append {samples : List (ImuSample D)} (before : List (ImuTrajectoryState D))
    (hStates : states ≠ []) (h : e.integrate states samples = (moved, .ok trajectory)) :
    e.integrate (before ++ states) samples = (moved, .ok (before ++ trajectory)) := by
  fun_induction integrate states samples e with
  | case1 => cases (Prod.mk.inj h).2
  | case2 => cases (Prod.mk.inj h).2
  | case3 => cases (Prod.mk.inj h).2
  | case4 states previous current rest e dtNs hStep next hSane stored hStored ih =>
    have hFilled : stored ≠ [] := by
      rw [(addState_eq hStored).1]
      simp
    have hMore := addState_append before hStates hStored
    unfold integrate
    rw [hStep]
    rw [if_neg hSane, hMore]
    exact ih hFilled h
  | case5 samples states e hShort =>
    obtain ⟨rfl, hOk⟩ := Prod.mk.inj h
    cases Except.ok.inj hOk
    cases samples with
    | nil => rfl
    | cons x samples =>
      cases samples with
      | nil => rfl
      | cons y samples => exact absurd rfl (hShort x y samples)

theorem integrate_extend {front rest : List (ImuSample D)} {x : ImuSample D}
    (h : e.integrate states (front ++ [x]) = (moved, .ok trajectory)) :
    e.integrate states (front ++ x :: rest) = moved.integrate trajectory (x :: rest) := by
  induction front generalizing e states with
  | nil =>
    obtain ⟨rfl, hOk⟩ := Prod.mk.inj h
    rw [← Except.ok.inj hOk]
    rfl
  | cons y front ih =>
    obtain ⟨z, zs, hHead, hTail⟩ :
        ∃ z zs, front ++ [x] = z :: zs ∧ front ++ x :: rest = z :: (zs ++ rest) := by
      cases front with
      | nil => exact ⟨x, [], rfl, rfl⟩
      | cons z front => exact ⟨z, front ++ [x], rfl, by simp⟩
    rw [cons_append, hHead] at h
    rw [cons_append, hTail]
    obtain ⟨stored, hStored, hRest⟩ := integrate_cons h
    rw [hHead, hTail] at ih
    rw [← ih hRest]
    unfold integrate at h
    conv_lhs => unfold integrate
    split at h
    · cases (Prod.mk.inj h).2
    dsimp only at h ⊢
    split at h
    · cases (Prod.mk.inj h).2
    rename_i hSane
    rw [if_neg hSane, hStored]

end IkfomEstimator

/-! ## Predictions -/

section Predictions
variable {maximumIntegrationStepNs : Int} {samples integration : List (ImuSample D)}
variable {start middle stop : Timestamp}

structure Prepared (maximumIntegrationStepNs : Int) (samples : List (ImuSample D))
    (start stop : Timestamp) (startSample endSample : ImuSample D) : Prop where
  duration : ∃ durationNs, checkedDifference stop start = .ok durationNs ∧ 0 ≤ durationNs
  nonempty : samples ≠ []
  ordered : orderFault ⟨.clockDomainMismatch, "IMU and IKFoM prediction use different clocks"⟩
    ⟨.timestampRegression, "IMU timestamps must be strictly increasing"⟩ start none samples = none
  startBoundary : interpolateSample samples start = .ok startSample
  stopBoundary : interpolateSample samples stop = .ok endSample
  steps : stepFault maximumIntegrationStepNs
    (integrationSamples samples start stop startSample endSample) = none

theorem prepare_eq_ok : IkfomEstimator.prepare maximumIntegrationStepNs samples start stop =
      .ok integration ↔
    ∃ startSample endSample, Prepared maximumIntegrationStepNs samples start stop startSample endSample ∧
      integration = integrationSamples samples start stop startSample endSample := by
  constructor
  · intro h
    unfold IkfomEstimator.prepare at h
    split at h
    · cases h
    rename_i durationNs hDuration
    split at h
    · cases h
    rename_i hForward
    split at h
    · cases h
    rename_i hNonempty
    split at h
    · cases h
    rename_i hOrdered
    split at h
    · cases h
    · cases h
    rename_i startSample endSample hStart hStop
    dsimp only at h
    split at h
    · cases h
    rename_i hSteps
    refine ⟨startSample, endSample, ?_, (Except.ok.inj h).symm⟩
    exact ⟨⟨durationNs, hDuration, not_lt.mp hForward⟩, fun hNil => hNonempty (by rw [hNil]; rfl),
      hOrdered, hStart, hStop, hSteps⟩
  · rintro ⟨startSample, endSample, h, rfl⟩
    obtain ⟨durationNs, hDuration, hForward⟩ := h.duration
    have hNonempty : ¬samples.isEmpty = true := by
      rw [List.isEmpty_iff]
      exact h.nonempty
    unfold IkfomEstimator.prepare
    rw [hDuration]
    dsimp only
    rw [if_neg (not_lt.mpr hForward), if_neg hNonempty, h.ordered, h.startBoundary, h.stopBoundary]
    dsimp only
    rw [h.steps]

namespace Prepared
variable {startSample endSample middleSample : ImuSample D}

section
variable (h : Prepared maximumIntegrationStepNs samples start stop startSample endSample)
include h

theorem increasing : Increasing imuTime samples := (orderFault_eq_none_iff.mp h.ordered).2.2.1

theorem domain : stop.clockDomain = start.clockDomain ∧ start.nanoseconds ≤ stop.nanoseconds := by
  obtain ⟨durationNs, hDuration, hForward⟩ := h.duration
  obtain ⟨hDomain, rfl⟩ := checkedDifference_ok hDuration
  exact ⟨hDomain, by omega⟩

theorem last : imuTime ((integrationSamples samples start stop startSample endSample).getLast
      (cons_ne_nil _ _)) = stop.nanoseconds := by
  rcases h.domain.2.eq_or_lt with hSame | hLater
  · unfold integrationSamples
    simp only [hSame, filter_inside_empty le_rfl, lt_irrefl, if_false, append_nil,
      getLast_singleton]
    rw [interpolateSample_time h.startBoundary, hSame]
  · unfold integrationSamples
    simp only [hLater, if_true]
    rw [getLast_cons (by simp), getLast_concat]
    exact interpolateSample_time h.stopBoundary

theorem positive : 0 < start.nanoseconds := by
  obtain ⟨y, hy, hBefore⟩ := interpolateSample_after h.startBoundary
  have hFault := (orderFault_eq_none_iff.mp h.ordered).1 y hy
  have hPositive := ImuSample.positive hFault
  unfold imuTime at hBefore
  omega

end

theorem append {x : ImuSample D} (hx : x ∈ samples) (hMiddle : imuTime x = middle.nanoseconds)
    (hFirst : Prepared maximumIntegrationStepNs samples start middle startSample x)
    (hSecond : Prepared maximumIntegrationStepNs samples middle stop x endSample) :
    Prepared maximumIntegrationStepNs samples start stop startSample endSample where
  duration := by
    obtain ⟨hFirstDomain, hFirstOrder⟩ := hFirst.domain
    obtain ⟨hSecondDomain, hSecondOrder⟩ := hSecond.domain
    have hPositive := hFirst.positive
    refine ⟨_, checkedDifference_of_nonneg (hSecondDomain.trans hFirstDomain) ?_ ?_, ?_⟩ <;> omega
  nonempty := hFirst.nonempty
  ordered := hFirst.ordered
  startBoundary := hFirst.startBoundary
  stopBoundary := hSecond.stopBoundary
  steps := by
    obtain ⟨front, rest, hFront, hRest, hWhole⟩ := integrationSamples_cut hFirst.increasing hx hMiddle
      hFirst.startBoundary hSecond.stopBoundary hFirst.domain.2 hSecond.domain.2
    have hBefore := hFirst.steps
    have hAfter := hSecond.steps
    rw [hFront] at hBefore
    rw [hRest] at hAfter
    rw [hWhole]
    exact stepFault_append hBefore hAfter

end Prepared

namespace IkfomEstimator
variable {e moved final : IkfomEstimator K} {trajectory earlier later : List (ImuTrajectoryState D)}

theorem predict_eq_ok : e.predict maximumIntegrationStepNs samples start stop = (moved, .ok trajectory) ↔
    ∃ startSample endSample states,
      Prepared maximumIntegrationStepNs samples start stop startSample endSample ∧
        addState [] (e.trajectoryState start) = .ok states ∧
          e.integrate states (integrationSamples samples start stop startSample endSample) =
            (moved, .ok trajectory) := by
  constructor
  · intro h
    unfold predict at h
    split at h
    · cases (Prod.mk.inj h).2
    rename_i hPrepared
    split at h
    · cases (Prod.mk.inj h).2
    rename_i states hStates
    split at h
    · cases (Prod.mk.inj h).2
    rename_i hIntegrated
    obtain ⟨startSample, endSample, hChecked, rfl⟩ := prepare_eq_ok.mp hPrepared
    exact ⟨startSample, endSample, states, hChecked, hStates, hIntegrated.trans h⟩
  · rintro ⟨startSample, endSample, states, hChecked, hStates, hIntegrated⟩
    unfold predict
    rw [prepare_eq_ok.mpr ⟨startSample, endSample, hChecked, rfl⟩]
    rw [hStates]
    dsimp only
    rw [hIntegrated]

theorem predict_error {status : Status}
    (h : (e.predict maximumIntegrationStepNs samples start stop).2 = .error status) :
    (e.predict maximumIntegrationStepNs samples start stop).1 = e := by
  unfold predict at h ⊢
  split
  · rfl
  rename_i integration hPrepared
  rw [hPrepared] at h
  split
  · rfl
  rename_i states hStates
  rw [hStates] at h
  dsimp only at h
  have hGravity := integrate_gravity states integration e
  split
  · rename_i stopped failure hFailed
    cases stopped
    cases e
    simp_all
  · rename_i hIntegrated
    rw [hIntegrated] at h
    cases h

theorem predict_states {startSample endSample : ImuSample D} {states : List (ImuTrajectoryState D)}
    (hChecked : Prepared maximumIntegrationStepNs samples start stop startSample endSample)
    (hStates : addState [] (e.trajectoryState start) = .ok states)
    (hIntegrated : e.integrate states
      (integrationSamples samples start stop startSample endSample) = (moved, .ok trajectory)) :
    states = [e.storedState start] ∧ trajectory.map (fun s => s.time.nanoseconds) =
        (integrationSamples samples start stop startSample endSample).map imuTime := by
  have hFirst : states = [e.storedState start] := (addState_eq hStates).1
  refine ⟨hFirst, ?_⟩
  have hTimes := congrArg (List.map Timestamp.nanoseconds) (integrate_times hIntegrated)
  rw [map_map, hFirst, map_append, map_map] at hTimes
  have hStart := interpolateSample_time hChecked.startBoundary
  show List.map (Timestamp.nanoseconds ∘ ImuTrajectoryState.time) trajectory = _
  rw [hTimes, map_map]
  unfold integrationSamples
  conv_rhs => rw [map_cons, hStart]
  rfl

/-- A prediction that succeeded, from the samples at its two ends. -/
structure Stepped (maximumIntegrationStepNs : Int) (samples : List (ImuSample D)) (start stop : Timestamp)
    (e moved : IkfomEstimator K) (trajectory : List (ImuTrajectoryState D))
    (startSample endSample : ImuSample D) : Prop where
  startBoundary : interpolateSample samples start = .ok startSample ∧ startSample.time = start
  stopBoundary : interpolateSample samples stop = .ok endSample ∧ endSample.time = stop
  steps : moved = foldPairs advance e (integrationSamples samples start stop startSample endSample)
  within : ∀ d ∈ stepDurations (integrationSamples samples start stop startSample endSample),
    0 < d ∧ d ≤ maximumIntegrationStepNs
  total : (stepDurations (integrationSamples samples start stop startSample endSample)).sum =
    stop.nanoseconds - start.nanoseconds
  times : trajectory.map (fun s => s.time.nanoseconds) =
    (integrationSamples samples start stop startSample endSample).map imuTime
  increasing : trajectory.Pairwise fun s t => s.time.nanoseconds < t.time.nanoseconds
  first : trajectory.head?.map ImuTrajectoryState.time = some start
  last : trajectory.getLast?.map ImuTrajectoryState.time = some stop

structure PredictionLaw (maximumIntegrationStepNs : Int) (samples : List (ImuSample D))
    (start stop : Timestamp) (e : IkfomEstimator K) : Prop where
  failure : ∀ status, (e.predict maximumIntegrationStepNs samples start stop).2 = .error status →
    (e.predict maximumIntegrationStepNs samples start stop).1 = e
  success : ∀ moved trajectory,
    e.predict maximumIntegrationStepNs samples start stop = (moved, .ok trajectory) →
      ∃ startSample endSample,
        Stepped maximumIntegrationStepNs samples start stop e moved trajectory startSample endSample
  splits : ∀ x ∈ samples, start.nanoseconds ≤ imuTime x → imuTime x ≤ stop.nanoseconds →
    ∀ moved earlier final later,
      e.predict maximumIntegrationStepNs samples start x.time = (moved, .ok earlier) →
      moved.predict maximumIntegrationStepNs samples x.time stop = (final, .ok later) →
        e.predict maximumIntegrationStepNs samples start stop = (final, .ok (earlier ++ later.tail))

theorem predict_stepped
    (h : e.predict maximumIntegrationStepNs samples start stop = (moved, .ok trajectory)) :
    ∃ startSample endSample,
      Stepped maximumIntegrationStepNs samples start stop e moved trajectory startSample endSample := by
  obtain ⟨startSample, endSample, states, hChecked, hStates, hIntegrated⟩ := predict_eq_ok.mp h
  obtain ⟨rfl, hTimes⟩ := predict_states hChecked hStates hIntegrated
  obtain ⟨hDomain, hForward⟩ := hChecked.domain
  have hDomains := (orderFault_eq_none_iff.mp hChecked.ordered).2.1
  have hStart := interpolateSample_stamp hDomains hChecked.startBoundary
  have hStop := interpolateSample_stamp (fun y hy => (hDomains y hy).trans hDomain.symm)
    hChecked.stopBoundary
  have hIncreasing := stepFault_increasing hChecked.steps
  have hStamps := integrate_times hIntegrated
  refine ⟨startSample, endSample, ?_⟩
  constructor
  case startBoundary => exact ⟨hChecked.startBoundary, hStart⟩
  case stopBoundary => exact ⟨hChecked.stopBoundary, hStop⟩
  case steps => exact integrate_ok hIntegrated
  case within => exact stepFault_durations hChecked.steps
  case total =>
    have hLast := hChecked.last
    have hSum := stepDurations_sum startSample
      (integrationSamples samples start stop startSample endSample).tail
    rw [← interpolateSample_time hChecked.startBoundary, ← hLast]
    exact hSum
  case times => exact hTimes
  case increasing =>
    have hSorted := pairwise_map.mpr hIncreasing
    have hMapped : ((integrationSamples samples start stop startSample endSample).map imuTime).Pairwise
        (· < ·) := hSorted
    rw [← hTimes] at hMapped
    exact pairwise_map.mp hMapped
  case first =>
    rw [← List.head?_map, hStamps]
    rfl
  case last =>
    rw [← List.getLast?_map, hStamps]
    rcases hForward.eq_or_lt with hSame | hLater
    · rw [filter_inside_empty hSame.ge, if_neg (by omega)]
      exact congrArg some (Timestamp.ext hSame hDomain.symm)
    · rw [if_pos hLater, map_append, ← append_assoc]
      exact List.getLast?_concat.trans (congrArg some hStop)

theorem predict_splits {x : ImuSample D} (hx : x ∈ samples)
    (hFirst : e.predict maximumIntegrationStepNs samples start x.time = (moved, .ok earlier))
    (hSecond : moved.predict maximumIntegrationStepNs samples x.time stop = (final, .ok later)) :
    e.predict maximumIntegrationStepNs samples start stop =
      (final, .ok (earlier ++ later.tail)) := by
  obtain ⟨startSample, middleSample, states, hBefore, hStates, hEarlier⟩ := predict_eq_ok.mp hFirst
  obtain ⟨middleSample', endSample, stored, hAfter, hStored, hLater⟩ := predict_eq_ok.mp hSecond
  have hExact := interpolateSample_exact hBefore.increasing hx (t := x.time) rfl
  obtain rfl : x = middleSample := Except.ok.inj (hExact.symm.trans hBefore.stopBoundary)
  obtain rfl : x = middleSample' := Except.ok.inj (hExact.symm.trans hAfter.startBoundary)
  obtain ⟨front, rest, hFront, hRest, hWhole⟩ := integrationSamples_cut hBefore.increasing hx rfl
    hBefore.startBoundary hAfter.stopBoundary hBefore.domain.2 hAfter.domain.2
  obtain ⟨rfl, -⟩ := predict_states hBefore hStates hEarlier
  obtain ⟨rfl, -⟩ := predict_states hAfter hStored hLater
  apply predict_eq_ok.mpr
  refine ⟨startSample, endSample, _, hBefore.append hx rfl hAfter, hStates, ?_⟩
  -- the first half has stored the state the second one starts with
  have hShared : earlier.getLast? = some (moved.storedState x.time) := by
    have hLast := integrate_last startSample (by
      rw [interpolateSample_stamp (orderFault_eq_none_iff.mp hBefore.ordered).2.1 hBefore.startBoundary]
      rfl) hEarlier
    rw [hLast]
    have hEnd : (integrationSamples samples start x.time startSample x).getLast
        (cons_ne_nil _ _) = x := by
      simp only [hFront, getLast_concat]
    exact congrArg (fun y => some (moved.storedState y.time)) hEnd
  obtain ⟨stem, rfl⟩ := List.getLast?_eq_some_iff.mp hShared
  rw [hFront] at hEarlier
  rw [hRest] at hLater
  rw [hWhole, integrate_extend hEarlier, integrate_append stem (cons_ne_nil _ _) hLater]
  obtain ⟨tail, rfl⟩ := integrate_prefix hLater
  rw [append_assoc]
  rfl

/-- A prediction is all or nothing, and cutting it at a sample does not change it. -/
theorem prediction_transactional (maximumIntegrationStepNs : Int) (samples : List (ImuSample D))
    (start stop : Timestamp) (e : IkfomEstimator K) :
    PredictionLaw maximumIntegrationStepNs samples start stop e where
  failure := fun _ => predict_error
  success := fun _ _ => predict_stepped
  splits := fun _ hx _ _ _ _ _ _ => predict_splits hx

/-- Both ends lie between samples: two interpolated boundaries around one sample, two steps. -/
example : ((({} : IkfomEstimator ImuStatePropagator.countingKernel).predict 10
    (([10, 20, 30] : List Int).map fun t => ImuStatePropagator.sampleAtTime (.rosTime t))
    (.rosTime 12) (.rosTime 28)).2.toOption.map fun states => states.map fun s => s.time.nanoseconds) =
      some [12, 20, 28] := by decide +kernel

end IkfomEstimator

end Predictions

end UavNavigation.FastLio
