import UavNavigation.ExactReals
import UavNavigation.IkfomPrediction
import UavNavigation.Runs

/-!
# The propagated state is one integration from its anchor

A prediction is a fold of the filter step over neighbouring samples. While the
propagator is valid its state is the last applied correction followed by that
fold over what was recorded since, each interval once, however the samples were
flushed.
-/

namespace UavNavigation.FastLio

open OrderedQueues PairFolds Runs List

set_option autoImplicit false

variable {D : Type} [FloatOps D] {K : FilterKernel D}

/-! ## Predictions -/

namespace IkfomEstimator
variable {e moved : IkfomEstimator K} {states trajectory : List (ImuTrajectoryState D)}
  {samples : List (ImuSample D)} {maximumIntegrationStepNs : Int}

theorem integrate_ok (h : e.integrate states samples = (moved, .ok trajectory)) :
    moved = foldPairs advance e samples := by
  fun_induction integrate states samples e with
  | case1 => cases (Prod.mk.inj h).2
  | case2 => cases (Prod.mk.inj h).2
  | case3 => cases (Prod.mk.inj h).2
  | case4 states previous current rest e dtNs hStep next hSane states' hNext ih => exact ih h
  | case5 samples states e hShort =>
    obtain ⟨rfl, -⟩ := Prod.mk.inj h
    cases samples with
    | nil => rfl
    | cons x samples =>
      cases samples with
      | nil => rfl
      | cons y samples => exact absurd rfl (hShort x y samples)

theorem prepare_ok {integration : List (ImuSample D)} {startTime endTime : Timestamp}
    (h : prepare maximumIntegrationStepNs samples startTime endTime = .ok integration) :
    ∃ startSample endSample, interpolateSample samples startTime = .ok startSample ∧
      interpolateSample samples endTime = .ok endSample ∧
      integration = integrationSamples samples startTime endTime startSample endSample := by
  unfold prepare at h
  split at h
  · cases h
  split at h
  · cases h
  split at h
  · cases h
  split at h
  · cases h
  split at h
  · cases h
  · cases h
  · rename_i startSample endSample hStart hEnd
    dsimp only at h
    split at h
    · cases h
    · cases h
      exact ⟨startSample, endSample, hStart, hEnd, rfl⟩

theorem predict_ok {startTime endTime : Timestamp}
    (h : e.predict maximumIntegrationStepNs samples startTime endTime = (moved, .ok trajectory)) :
    ∃ startSample endSample, interpolateSample samples startTime = .ok startSample ∧
      interpolateSample samples endTime = .ok endSample ∧
      moved = foldPairs advance e
        (integrationSamples samples startTime endTime startSample endSample) := by
  unfold predict at h
  split at h
  · cases h
  rename_i hPrepared
  obtain ⟨startSample, endSample, hStart, hEnd, rfl⟩ := prepare_ok hPrepared
  split at h
  · cases h
  split at h
  · cases h
  · rename_i hIntegrated
    cases h
    exact ⟨startSample, endSample, hStart, hEnd, integrate_ok hIntegrated⟩

end IkfomEstimator

/-! ## Boundary samples -/

section Boundary
variable {xs ys : List (ImuSample D)} {x boundary : ImuSample D} {t : Timestamp}

theorem interpolateSample_exact (h : Increasing imuTime xs) (hx : x ∈ xs)
    (ht : imuTime x = t.nanoseconds) : interpolateSample xs t = .ok x := by
  unfold interpolateSample
  dsimp only
  rw [← ht, h.getElem_lowerBound hx]
  dsimp only
  rw [if_pos rfl]

theorem interpolateSample_append (hBefore : ∀ y ∈ xs, imuTime y < t.nanoseconds)
    (hHead : ∃ y ∈ ys.head?, imuTime y ≤ t.nanoseconds) :
    interpolateSample (xs ++ ys) t = interpolateSample ys t := by
  obtain ⟨z, hz, hzt⟩ := hHead
  cases ys with
  | nil => cases hz
  | cons y ys =>
    obtain rfl : y = z := Option.some.inj hz
    unfold interpolateSample
    dsimp only
    rw [lowerBound_append_of_lt hBefore, List.getElem?_append_right (Nat.le_add_right _ _),
      Nat.add_sub_cancel_left, take_length_add_append]
    generalize hPosition : lowerBound imuTime (y :: ys) t.nanoseconds = n
    cases n with
    | zero =>
      have hExact : imuTime y = t.nanoseconds := by
        apply le_antisymm hzt
        by_contra hBefore
        have hSkips : ¬ t.nanoseconds ≤ imuTime y := hBefore
        rw [lowerBound, findIdx_cons, decide_eq_false hSkips] at hPosition
        cases hPosition
      simp only [List.getElem?_cons_zero, hExact, if_true]
    | succ n =>
      rw [take_succ_cons, List.getLast?_append, List.getLast?_cons, Option.some_or]

theorem interpolateSample_extend (h : interpolateSample xs t = .ok boundary) :
    interpolateSample (xs ++ ys) t = .ok boundary := by
  have hInside : lowerBound imuTime xs t.nanoseconds < xs.length := by
    by_contra hOutside
    unfold interpolateSample at h
    dsimp only at h
    rw [List.getElem?_eq_none (by omega)] at h
    cases h
  unfold interpolateSample at h ⊢
  dsimp only at h ⊢
  rw [lowerBound_append_of_inside hInside, List.getElem?_append_left hInside,
    take_append_of_le_length (by omega)]
  exact h

omit [FloatOps D] in
theorem integrationSamples_eq {startTime endTime : Timestamp} {startSample endSample : ImuSample D}
    (h : Increasing imuTime xs) (hLast : endSample ∈ xs.getLast?)
    (hEnd : imuTime endSample = endTime.nanoseconds) :
    integrationSamples xs startTime endTime startSample endSample =
      startSample :: xs.filter fun x => startTime.nanoseconds < imuTime x := by
  obtain ⟨front, rfl⟩ := List.getLast?_eq_some_iff.mp hLast
  unfold integrationSamples
  rw [← hEnd, h.filter_below_last]

end Boundary

/-! ## The history -/

namespace ImuStatePropagator
variable {p q : ImuStatePropagator K} {sample : ImuSample D}

/-- What every run keeps true of the history and the flags. -/
structure Kept (p : ImuStatePropagator K) : Prop where
  suffix : p.history <:+ p.recorded
  nonempty : p.recorded ≠ [] → p.history ≠ []
  latest : p.latestImuTime = p.recorded.getLast?.map ImuSample.time
  ordered : Increasing imuTime p.recorded
  sound : ∀ x ∈ p.recorded, x.fault = none
  domain : ∀ x ∈ p.recorded, ∀ y ∈ p.recorded, x.time.clockDomain = y.time.clockDomain
  gaps : p.recorded.IsChain fun a b =>
    imuTime b - imuTime a ≤ p.config.maximumIntegrationStepNs
  reanchor : p.requiresReanchor = !p.valid
  pending : p.valid = false → p.pendingPredictionSamples = []

theorem create_kept (config : ImuStatePropagatorConfig) :
    Kept ({ config := config } : ImuStatePropagator K) where
  suffix := suffix_rfl
  nonempty := fun h => absurd rfl h
  latest := rfl
  ordered := List.Pairwise.nil
  sound := by simp
  domain := by simp
  gaps := List.IsChain.nil
  reanchor := rfl
  pending := fun _ => rfl

theorem Kept.invalidate (hp : Kept p) (status : PropagatedOdometryStatus) :
    Kept (p.invalidate status) :=
  ⟨hp.suffix, hp.nonempty, hp.latest, hp.ordered, hp.sound, hp.domain, hp.gaps, rfl, fun _ => rfl⟩

omit [FloatOps D] in
theorem dropBefore_spec (cutoffNs : Int) (history : List (ImuSample D)) :
    dropBefore cutoffNs history <:+ history ∧
      (history ≠ [] → dropBefore cutoffNs history ≠ []) := by
  fun_induction dropBefore cutoffNs history with
  | case1 front next rest hOld ih =>
    exact ⟨ih.1.trans (suffix_cons _ _), fun _ => ih.2 (cons_ne_nil _ _)⟩
  | case2 front next rest hYoung => exact ⟨suffix_rfl, id⟩
  | case3 history hShort => exact ⟨suffix_rfl, id⟩

theorem Kept.prune (hp : Kept p) :
    Kept p.pruneHistory ∧ ∃ history, p.pruneHistory = { p with history := history } := by
  unfold pruneHistory
  split
  · exact ⟨hp, p.history, rfl⟩
  rename_i latest hLatest
  split
  · exact ⟨hp, p.history, rfl⟩
  have hFits : ∃ cutoff, checkedSubtract latest p.config.imuHistoryDurationNs = .ok cutoff := by
    have hPositive := p.config.durationPositive
    have hUpper := latest.upper
    unfold checkedSubtract
    rw [dif_pos ⟨by unfold minInt64; omega, by omega⟩]
    exact ⟨_, rfl⟩
  obtain ⟨cutoff, hCutoff⟩ := hFits
  rw [hCutoff]
  obtain ⟨hSuffix, hNonempty⟩ := dropBefore_spec cutoff.nanoseconds p.history
  exact ⟨⟨hSuffix.trans hp.suffix, fun h => hNonempty (hp.nonempty h), hp.latest, hp.ordered,
    hp.sound, hp.domain, hp.gaps, hp.reanchor, hp.pending⟩, _, rfl⟩

structure Continues (p : ImuStatePropagator K) (sample : ImuSample D) : Prop where
  sound : sample.fault = none
  domain : ∀ latest ∈ p.latestImuTime, sample.time.clockDomain = latest.clockDomain
  after : ∀ latest ∈ p.latestImuTime, latest.nanoseconds < imuTime sample
  near : ∀ latest ∈ p.latestImuTime,
    imuTime sample - latest.nanoseconds ≤ p.config.maximumIntegrationStepNs

/-- The three things that can become of a sample. -/
inductive Recording (p : ImuStatePropagator K) (sample : ImuSample D) (append : Bool) :
    ImuStatePropagator K → Prop where
  | rejected (failure : Status) : Recording p sample append (p.setFailure failure)
  | restarted (hSound : sample.fault = none) (hEpoch : p.continuityEpoch ≠ 2 ^ 64 - 1) :
      Recording p sample append (p.restartContinuity sample).1
  | recorded (hContinues : Continues p sample) :
      Recording p sample append (p.recordImu sample append).1

variable {append : Bool}

theorem validateAndRecordImu_recording (sample : ImuSample D) (append : Bool)
    (p : ImuStatePropagator K) :
    Recording p sample append (p.validateAndRecordImu sample append).1 := by
  fun_cases validateAndRecordImu
  case case2 hSound hNone =>
    apply Recording.recorded
    constructor
    case sound => exact hSound
    all_goals
      intro latest hLatest
      rw [hNone] at hLatest
      cases hLatest
  case case6 hSound latest hLatest hDomain hAfter intervalNs hInterval _ =>
    by_cases hEpoch : p.continuityEpoch = 2 ^ 64 - 1
    · unfold restartContinuity
      rw [if_pos hEpoch]
      exact .rejected _
    · exact .restarted hSound hEpoch
  case case7 hSound latest hLatest hDomain hAfter intervalNs hInterval hNear =>
    obtain ⟨-, rfl⟩ := checkedDifference_ok hInterval
    apply Recording.recorded
    constructor
    case sound => exact hSound
    all_goals
      intro last hLast
      rw [hLatest] at hLast
      cases hLast
    · simpa [Timestamp.sameClockDomain] using hDomain
    · exact not_le.mp hAfter
    · exact not_lt.mp hNear
  all_goals exact .rejected _

theorem Kept.latest_of_getLast (hp : Kept p) {x : ImuSample D} (hx : x ∈ p.recorded.getLast?) :
    p.latestImuTime = some x.time := by
  rw [hp.latest, hx]
  rfl

theorem Continues.lt_of_mem (h : Continues p sample) (hp : Kept p) {x : ImuSample D}
    (hx : x ∈ p.recorded) : imuTime x < imuTime sample := by
  have hLast := List.getLast?_eq_some_getLast (ne_nil_of_mem hx)
  have hLatest := hp.latest_of_getLast hLast
  exact lt_of_le_of_lt (hp.ordered.ordered.le_getLast hx hLast) (h.after _ hLatest)

theorem Kept.record (hp : Kept p) (h : Continues p sample) (append : Bool) :
    Kept { p with
      history := p.history ++ [sample]
      recorded := p.recorded ++ [sample]
      latestImuTime := some sample.time
      previousImuSample := p.previousImuSample.or (some sample)
      pendingPredictionSamples :=
        if append && !p.requiresReanchor && p.propagatedTime.isSome then
          p.pendingPredictionSamples ++ [sample]
        else p.pendingPredictionSamples } where
  suffix := by
    obtain ⟨old, hOld⟩ := hp.suffix
    exact ⟨old, by rw [← append_assoc, hOld]⟩
  nonempty := fun _ => by simp
  latest := by simp
  ordered := hp.ordered.concat fun x hx => h.lt_of_mem hp hx
  sound := by
    intro x hx
    rcases mem_append.mp hx with hx | hx
    · exact hp.sound x hx
    · rw [mem_singleton.mp hx]
      exact h.sound
  domain := by
    have hSame (x : ImuSample D) (hx : x ∈ p.recorded) :
        sample.time.clockDomain = x.time.clockDomain := by
      have hLast := List.getLast?_eq_some_getLast (ne_nil_of_mem hx)
      exact (h.domain _ (hp.latest_of_getLast hLast)).trans (hp.domain _ (getLast_mem _) x hx)
    intro x hx y hy
    rcases mem_append.mp hx with hx | hx
    · rcases mem_append.mp hy with hy | hy
      · exact hp.domain x hx y hy
      · rw [mem_singleton.mp hy]
        exact (hSame x hx).symm
    · rw [mem_singleton.mp hx]
      rcases mem_append.mp hy with hy | hy
      · exact hSame y hy
      · rw [mem_singleton.mp hy]
  gaps := by
    apply isChain_append.mpr
    refine ⟨hp.gaps, List.IsChain.singleton _, ?_⟩
    intro x hx y hy
    cases hy
    exact h.near _ (hp.latest_of_getLast hx)
  reanchor := hp.reanchor
  pending := by
    intro hInvalid
    change p.valid = false at hInvalid
    have hReanchor : p.requiresReanchor = true := by rw [hp.reanchor, hInvalid]; rfl
    simp [hReanchor, hp.pending hInvalid]

theorem Kept.recording (hp : Kept p) (h : Recording p sample append q) : Kept q := by
  cases h with
  | rejected failure => exact hp.invalidate _
  | restarted hSound hEpoch =>
    unfold restartContinuity
    rw [if_neg hEpoch]
    refine ⟨suffix_rfl, fun _ => by simp, rfl, pairwise_singleton _ _, ?_, ?_,
      List.IsChain.singleton _, rfl, fun _ => rfl⟩
    · intro x hx
      rw [mem_singleton.mp hx]
      exact hSound
    · intro x hx y hy
      rw [mem_singleton.mp hx, mem_singleton.mp hy]
  | recorded hContinues => exact (hp.record hContinues append).prune.1

/-! ## The propagated state -/

/-- The state is the correction followed by one step for every recorded interval up to
`propagated`, the first one cut at the time of the correction. -/
structure Integrated (p : ImuStatePropagator K) (corrected : K.Estimate) (propagated : Timestamp) :
    Prop where
  applied : p.applied = some corrected
  anchor : p.anchorTime = some corrected.time
  reached : p.propagatedTime = some propagated
  forward : corrected.time.nanoseconds ≤ propagated.nanoseconds
  state : ∃ (boundary : ImuSample D) (before : IkfomEstimator K),
    interpolateSample p.recorded corrected.time = .ok boundary ∧
    p.estimator = foldPairs IkfomEstimator.advance
      (before.rebase corrected.state corrected.covariance)
      (boundary :: p.recorded.filter fun x =>
        corrected.time.nanoseconds < imuTime x ∧ imuTime x ≤ propagated.nanoseconds)

/-- A valid propagator is integrated up to the sample it goes on from. -/
structure Tracked (p : ImuStatePropagator K) (corrected : K.Estimate) (last : ImuSample D) :
    Prop where
  integrated : Integrated p corrected last.time
  previous : p.previousImuSample = some last
  mem : last ∈ p.recorded

/-- Every sample recorded behind the propagated time waits to be flushed. -/
def Complete (p : ImuStatePropagator K) : Prop :=
  ∀ t ∈ p.propagatedTime, p.pendingPredictionSamples ≠ [] →
    p.pendingPredictionSamples = p.recorded.filter fun x => t.nanoseconds < imuTime x

variable {corrected : K.Estimate} {last : ImuSample D}

theorem Tracked.record (h : Tracked p corrected last) (hp : Kept p)
    (hContinues : Continues p sample) (append : Bool) :
    Tracked (p.recordImu sample append).1 corrected last := by
  obtain ⟨-, history, hPruned⟩ := (hp.record hContinues append).prune
  unfold recordImu
  dsimp only
  rw [hPruned]
  obtain ⟨boundary, before, hBoundary, hState⟩ := h.integrated.state
  have hBehind : last.time.nanoseconds < imuTime sample := hContinues.lt_of_mem hp h.mem
  refine ⟨⟨h.integrated.applied, h.integrated.anchor, h.integrated.reached,
    h.integrated.forward, boundary, before, interpolateSample_extend hBoundary, ?_⟩, ?_, ?_⟩
  · dsimp only
    rw [filter_append, hState]
    simp [not_le.mpr hBehind]
  · simp [h.previous]
  · exact mem_append_left _ h.mem

theorem Tracked.getLast {boundary : ImuSample D} (h : Tracked p corrected last) (hp : Kept p)
    (hBoundary : interpolateSample p.recorded corrected.time = .ok boundary) :
    last ∈ (boundary :: p.recorded.filter fun x =>
      corrected.time.nanoseconds < imuTime x ∧ imuTime x ≤ last.time.nanoseconds).getLast? := by
  rcases lt_or_eq_of_le h.integrated.forward with hAfter | hAt
  · have hLast := hp.ordered.getLast_filter h.mem hAfter
    change last ∈ (p.recorded.filter fun x => corrected.time.nanoseconds < imuTime x ∧
      imuTime x ≤ last.time.nanoseconds).getLast? at hLast
    rw [List.getLast?_cons, Option.mem_def.mp hLast]
    rfl
  · have hExact := interpolateSample_exact hp.ordered h.mem hAt.symm
    rw [hBoundary] at hExact
    obtain rfl : boundary = last := Except.ok.inj hExact
    have hNone : (p.recorded.filter fun x => corrected.time.nanoseconds < imuTime x ∧
        imuTime x ≤ boundary.time.nanoseconds) = [] := by
      rw [filter_eq_nil_iff]
      intro x _
      simp only [decide_eq_true_eq, not_and, not_le]
      intro hx
      omega
    rw [hNone]
    rfl

/-! ## Flushing -/

variable {estimator : IkfomEstimator K}

theorem flush_cases (p : ImuStatePropagator K) : (p.flushPendingPrediction.1 = p ∧
      (p.flushPendingPrediction.2 = .ok () ∨ p.requiresReanchor = true)) ∨
    (∃ estimator status, p.flushPendingPrediction =
      ({ p with estimator := estimator }.setFailure status, .error status)) ∨
    ∃ propagated last estimator trajectory, p.propagatedTime = some propagated ∧
      p.pendingPredictionSamples.getLast? = some last ∧ p.requiresReanchor = false ∧
      p.estimator.predict p.config.maximumIntegrationStepNs
        (p.previousImuSample.toList ++ p.pendingPredictionSamples) propagated last.time =
        (estimator, .ok trajectory) ∧
      p.flushPendingPrediction = ({ p with
        estimator := estimator
        propagatedTime := some last.time
        previousImuSample := some last
        pendingPredictionSamples := [] }.ready, .ok ()) := by
  unfold flushPendingPrediction
  split
  · rename_i propagated last hPropagated hLast
    split
    · rename_i hReanchor
      exact .inl ⟨rfl, .inr hReanchor⟩
    rename_i hReady
    split
    · exact .inr (.inl ⟨_, _, rfl⟩)
    · rename_i estimator trajectory hPredicted
      exact .inr (.inr ⟨propagated, last, estimator, trajectory, hPropagated, hLast,
        by simpa using hReady, hPredicted, rfl⟩)
  · exact .inl ⟨rfl, .inl rfl⟩

theorem Kept.flush (hp : Kept p) : Kept p.flushPendingPrediction.1 := by
  rcases p.flush_cases with ⟨hSame, -⟩ | ⟨estimator, status, hFailed⟩ |
    ⟨propagated, last, estimator, trajectory, -, -, -, -, hDone⟩
  · rw [hSame]
    exact hp
  · rw [hFailed]
    exact ⟨hp.suffix, hp.nonempty, hp.latest, hp.ordered, hp.sound, hp.domain, hp.gaps, rfl,
      fun _ => rfl⟩
  · rw [hDone]
    exact ⟨hp.suffix, hp.nonempty, hp.latest, hp.ordered, hp.sound, hp.domain, hp.gaps, rfl,
      fun _ => rfl⟩

theorem Tracked.flushed {next : ImuSample D} {trajectory : List (ImuTrajectoryState D)}
    (h : Tracked p corrected last) (hp : Kept p)
    (hPending : p.pendingPredictionSamples = p.recorded.filter fun x => last.time.nanoseconds < imuTime x)
    (hNext : p.pendingPredictionSamples.getLast? = some next)
    (hPredicted : p.estimator.predict p.config.maximumIntegrationStepNs
      (p.previousImuSample.toList ++ p.pendingPredictionSamples) last.time next.time =
        (estimator, .ok trajectory)) :
    Tracked { p with
      estimator := estimator
      propagatedTime := some next.time
      previousImuSample := some next
      pendingPredictionSamples := [] }.ready corrected next := by
  obtain ⟨boundary, before, hBoundary, hState⟩ := h.integrated.state
  have hNextMem : next ∈ p.recorded := by
    have hMem := mem_of_getLast? hNext
    rw [hPending] at hMem
    exact (mem_filter.mp hMem).1
  have hForward : last.time.nanoseconds < imuTime next := by
    have hMem := mem_of_getLast? hNext
    rw [hPending] at hMem
    simpa using (mem_filter.mp hMem).2
  -- the samples of the prediction are the last integrated one and everything behind it
  have hBehind : ∀ x ∈ p.pendingPredictionSamples, imuTime last < imuTime x := by
    intro x hx
    rw [hPending] at hx
    exact of_decide_eq_true (mem_filter.mp hx).2
  have hOrdered : Increasing imuTime (last :: p.pendingPredictionSamples) := by
    refine pairwise_cons.mpr ⟨hBehind, ?_⟩
    rw [hPending]
    exact hp.ordered.sublist filter_sublist
  rw [h.previous] at hPredicted
  obtain ⟨startSample, endSample, hStart, hEnd, hMoved⟩ := IkfomEstimator.predict_ok hPredicted
  change interpolateSample (last :: p.pendingPredictionSamples) last.time = .ok startSample at hStart
  change interpolateSample (last :: p.pendingPredictionSamples) next.time = .ok endSample at hEnd
  have hLastOf : next ∈ (last :: p.pendingPredictionSamples).getLast? := by
    rw [List.getLast?_cons, hNext]
    rfl
  rw [interpolateSample_exact hOrdered mem_cons_self rfl] at hStart
  rw [interpolateSample_exact hOrdered (mem_of_getLast? hLastOf) rfl] at hEnd
  cases hStart
  cases hEnd
  change estimator = foldPairs IkfomEstimator.advance p.estimator (integrationSamples
    (last :: p.pendingPredictionSamples) last.time next.time last next) at hMoved
  rw [integrationSamples_eq hOrdered hLastOf rfl] at hMoved
  have hAll : ((last :: p.pendingPredictionSamples).filter fun x =>
      last.time.nanoseconds < imuTime x) = p.pendingPredictionSamples := by
    rw [filter_cons_of_neg (by simp [imuTime]), filter_eq_self]
    intro x hx
    exact decide_eq_true (hBehind x hx)
  have hUpTo : (p.recorded.filter fun x =>
      last.time.nanoseconds < imuTime x ∧ imuTime x ≤ next.time.nanoseconds) =
      p.pendingPredictionSamples := by
    rw [hPending]
    apply filter_congr
    intro x hx
    have hLe : last.time.nanoseconds < imuTime x → imuTime x ≤ next.time.nanoseconds := by
      intro hAfter
      have hMem : x ∈ p.pendingPredictionSamples := by
        rw [hPending]
        exact mem_filter.mpr ⟨hx, by simpa using hAfter⟩
      have hOrder := (pairwise_cons.mp hOrdered).2
      exact Ordered.le_getLast (Increasing.ordered hOrder) hMem hNext
    simp only [decide_eq_decide, and_iff_left_iff_imp]
    exact hLe
  refine ⟨⟨h.integrated.applied, h.integrated.anchor, rfl, ?_, boundary, before, hBoundary, ?_⟩,
    rfl, hNextMem⟩
  · exact le_trans h.integrated.forward (le_of_lt hForward)
  · have hSplit := hp.ordered.filter_cut (c := corrected.time.nanoseconds)
      (t := last.time.nanoseconds) (u := next.time.nanoseconds) h.integrated.forward
      (le_of_lt hForward)
    show estimator = foldPairs IkfomEstimator.advance _ (boundary :: p.recorded.filter fun x =>
      corrected.time.nanoseconds < imuTime x ∧ imuTime x ≤ next.time.nanoseconds)
    rw [hMoved, hAll, hState, hSplit, hUpTo, ← cons_append,
      foldPairs_extend (h.getLast hp hBoundary)]

/-! ## Replaying -/

omit [FloatOps D] in
theorem bracketHistory_ok {boundary : Timestamp} {history : List (ImuSample D)} {firstIndex : Nat}
    (h : bracketHistory boundary history = .ok firstIndex) :
    (∀ x ∈ history.take firstIndex, imuTime x < boundary.nanoseconds) ∧
      (∃ x ∈ (history.drop firstIndex).head?, imuTime x ≤ boundary.nanoseconds) ∧
      ∃ x ∈ history, boundary.nanoseconds ≤ imuTime x := by
  unfold bracketHistory at h
  split at h
  · cases h
  dsimp only at h
  split at h
  · cases h
  rename_i x hx
  have hAt : boundary.nanoseconds ≤ imuTime x := by
    obtain ⟨hIn, rfl⟩ := List.getElem?_eq_some_iff.mp hx
    exact le_lowerBound hIn
  have hEnd : ∃ x ∈ history, boundary.nanoseconds ≤ imuTime x :=
    ⟨x, mem_of_getElem? hx, hAt⟩
  split at h
  · rename_i hExact
    cases h
    refine ⟨fun y hy => lt_of_mem_take_lowerBound hy, ⟨x, ?_, le_of_eq hExact⟩, hEnd⟩
    rw [List.head?_drop]
    exact hx
  split at h
  · cases h
  cases h
  refine ⟨?_, ?_, hEnd⟩
  · intro y hy
    have hBefore : y ∈ history.take (lowerBound imuTime history boundary.nanoseconds) :=
      take_subset_take_left _ (Nat.sub_le _ _) hy
    exact lt_of_mem_take_lowerBound hBefore
  · have hIn : lowerBound imuTime history boundary.nanoseconds - 1 < history.length := by
      have hLe := lowerBound_le imuTime history boundary.nanoseconds
      omega
    refine ⟨history[lowerBound imuTime history boundary.nanoseconds - 1], ?_, ?_⟩
    · rw [List.head?_drop, List.getElem?_eq_getElem hIn]
      rfl
    · exact le_of_lt (lt_of_lt_lowerBound (by omega) hIn)

/-- The state after a successful replay, before the history is pruned. -/
def replayed (corrected : K.Estimate) (estimator : IkfomEstimator K) (latest : Timestamp)
    (p : ImuStatePropagator K) : ImuStatePropagator K :=
  { p with
    estimator := estimator
    anchorTime := some corrected.time
    propagatedTime := some latest
    previousImuSample := p.history.getLast?
    pendingPredictionSamples := []
    applied := some corrected }.ready

theorem replay_cases (corrected : K.Estimate) (p : ImuStatePropagator K) :
    (∃ estimator previous status, p.reanchorAndReplay corrected =
      ({ p with estimator := estimator, previousImuSample := previous }.setFailure status,
        .error status)) ∨
    ∃ firstIndex latest estimator trajectory,
      bracketHistory corrected.time p.history = .ok firstIndex ∧
      latest = p.latestImuTime.getD {} ∧ corrected.time.clockDomain = latest.clockDomain ∧
      (p.estimator.rebase corrected.state corrected.covariance).predict
        p.config.maximumIntegrationStepNs (p.history.drop firstIndex) corrected.time latest =
        (estimator, .ok trajectory) ∧
      p.reanchorAndReplay corrected =
        ((p.replayed corrected estimator latest).pruneHistory, .ok ()) := by
  unfold reanchorAndReplay
  split
  · exact .inl ⟨_, _, _, rfl⟩
  split
  · exact .inl ⟨_, _, _, rfl⟩
  rename_i firstIndex hBracket
  dsimp only
  split
  · exact .inl ⟨_, _, _, rfl⟩
  rename_i hDomain
  unfold replayFrom
  dsimp only
  split
  · exact .inl ⟨_, _, _, rfl⟩
  rename_i estimator trajectory hPredicted
  split
  · exact .inl ⟨_, _, _, rfl⟩
  · refine .inr ⟨firstIndex, _, estimator, trajectory, hBracket, rfl, ?_, hPredicted, rfl⟩
    simpa [Timestamp.sameClockDomain] using hDomain

theorem Kept.replayed (hp : Kept p) (corrected : K.Estimate) (estimator : IkfomEstimator K)
    (latest : Timestamp) : Kept (p.replayed corrected estimator latest) :=
  ⟨hp.suffix, hp.nonempty, hp.latest, hp.ordered, hp.sound, hp.domain, hp.gaps, rfl, fun _ => rfl⟩

theorem Kept.replay (hp : Kept p) (corrected : K.Estimate) :
    Kept (p.reanchorAndReplay corrected).1 := by
  rcases replay_cases corrected p with ⟨estimator, previous, status, hFailed⟩ |
    ⟨firstIndex, latest, estimator, trajectory, -, -, -, -, hDone⟩
  · rw [hFailed]
    exact ⟨hp.suffix, hp.nonempty, hp.latest, hp.ordered, hp.sound, hp.domain, hp.gaps, rfl,
      fun _ => rfl⟩
  · rw [hDone]
    exact (hp.replayed corrected estimator latest).prune.1

theorem Kept.tracked (hp : Kept p) {firstIndex : Nat} {latest : Timestamp}
    {trajectory : List (ImuTrajectoryState D)}
    (hBracket : bracketHistory corrected.time p.history = .ok firstIndex)
    (hLatest : latest = p.latestImuTime.getD {})
    (hPredicted : (p.estimator.rebase corrected.state corrected.covariance).predict
      p.config.maximumIntegrationStepNs (p.history.drop firstIndex) corrected.time latest =
        (estimator, .ok trajectory)) :
    ∃ last, Tracked (p.replayed corrected estimator latest).pruneHistory corrected last := by
  obtain ⟨hBefore, hHead, hEnd⟩ := bracketHistory_ok hBracket
  obtain ⟨old, hOld⟩ := hp.suffix
  -- what was recorded is cut where the replay begins
  have hSplit : p.recorded = (old ++ p.history.take firstIndex) ++ p.history.drop firstIndex := by
    rw [append_assoc, take_append_drop, hOld]
  have hReplay : p.history.drop firstIndex ≠ [] := by
    obtain ⟨x, hx, -⟩ := hHead
    intro hNone
    rw [hNone] at hx
    cases hx
  obtain ⟨last, hLast⟩ : ∃ last, last ∈ (p.history.drop firstIndex).getLast? :=
    ⟨_, List.getLast?_eq_some_getLast hReplay⟩
  have hLastRecorded : last ∈ p.recorded.getLast? := by
    rw [hSplit, List.getLast?_append, Option.mem_def.mp hLast]
    rfl
  have hLastHistory : last ∈ p.history.getLast? := by
    rw [← take_append_drop firstIndex p.history, List.getLast?_append, Option.mem_def.mp hLast]
    rfl
  have hLastTime : latest = last.time := by
    rw [hLatest, hp.latest_of_getLast hLastRecorded]
    rfl
  subst hLastTime
  have hOrdered : Increasing imuTime (p.history.drop firstIndex) :=
    hp.ordered.sublist (by rw [hSplit]; exact sublist_append_right _ _)
  have hAllBefore : ∀ x ∈ old ++ p.history.take firstIndex,
      imuTime x < corrected.time.nanoseconds := by
    intro x hx
    rcases mem_append.mp hx with hx | hx
    · obtain ⟨y, hy, hyt⟩ := hHead
      have hOrder := hp.ordered
      rw [hSplit] at hOrder
      have hxy := hOrder.lt_of_append (mem_append_left _ hx) (mem_of_mem_head? hy)
      exact lt_of_lt_of_le hxy hyt
    · exact hBefore x hx
  have hForward : corrected.time.nanoseconds ≤ last.time.nanoseconds := by
    obtain ⟨x, hx, hxt⟩ := hEnd
    have hOrder : Increasing imuTime p.history := hp.ordered.sublist hp.suffix.sublist
    exact le_trans hxt (hOrder.ordered.le_getLast hx hLastHistory)
  obtain ⟨startSample, endSample, hStart, hEndSample, hMoved⟩ :=
    IkfomEstimator.predict_ok hPredicted
  rw [interpolateSample_exact hOrdered (mem_of_getLast? hLast) rfl] at hEndSample
  cases hEndSample
  rw [integrationSamples_eq hOrdered hLast rfl] at hMoved
  have hBoundary : interpolateSample p.recorded corrected.time = .ok startSample := by
    rw [hSplit, interpolateSample_append hAllBefore hHead]
    exact hStart
  have hSelected : (p.recorded.filter fun x => corrected.time.nanoseconds < imuTime x ∧
      imuTime x ≤ last.time.nanoseconds) =
      (p.history.drop firstIndex).filter fun x => corrected.time.nanoseconds < imuTime x := by
    have hNone : ((old ++ p.history.take firstIndex).filter fun x =>
        corrected.time.nanoseconds < imuTime x) = [] := by
      rw [filter_eq_nil_iff]
      intro x hx
      simpa using le_of_lt (hAllBefore x hx)
    have hUpTo : ∀ x ∈ p.recorded, imuTime x ≤ last.time.nanoseconds :=
      fun x hx => hp.ordered.ordered.le_getLast hx hLastRecorded
    rw [filter_above hUpTo, hSplit, filter_append, hNone, nil_append]
  obtain ⟨-, history, hPruned⟩ := (hp.replayed corrected estimator last.time).prune
  rw [hPruned]
  refine ⟨last, ⟨rfl, rfl, rfl, hForward, startSample, p.estimator, hBoundary, ?_⟩,
    hLastHistory, mem_of_getLast? hLastRecorded⟩
  show estimator = foldPairs IkfomEstimator.advance _ (startSample :: p.recorded.filter fun x =>
    corrected.time.nanoseconds < imuTime x ∧ imuTime x ≤ last.time.nanoseconds)
  rw [hMoved, hSelected]

/-! ## Runs -/

abbrev PropagatorEvent (K : FilterKernel D) :=
  Event (ImuStatePropagator K) (PropagatorCall K) PropagatorAnswer

theorem reset_kept (p : ImuStatePropagator K) : Kept p.reset :=
  ⟨suffix_rfl, fun h => absurd rfl h, rfl, List.Pairwise.nil,
    fun _ hx => (not_mem_nil hx).elim, fun _ hx => (not_mem_nil hx).elim, List.IsChain.nil, rfl, fun _ => rfl⟩

theorem Kept.step (hp : Kept p) (call : PropagatorCall K) : Kept (p.step call).1 := by
  cases call with
  | acceptImu sample => exact hp.recording (validateAndRecordImu_recording sample true p)
  | recordImuForReplay sample => exact hp.recording (validateAndRecordImu_recording sample false p)
  | flushPendingPrediction => exact hp.flush
  | reanchorAndReplay corrected => exact hp.replay corrected
  | invalidate status => exact hp.invalidate status
  | reset => exact reset_kept p

def Exact (p : ImuStatePropagator K) : Prop :=
  p.valid = true → ∃ corrected last, Tracked p corrected last

theorem Exact.recording (h : Exact p) (hp : Kept p) (hRecording : Recording p sample append q) :
    Exact q := by
  intro hValid
  cases hRecording with
  | rejected failure => cases hValid
  | restarted hSound hEpoch =>
    unfold restartContinuity at hValid
    rw [if_neg hEpoch] at hValid
    cases hValid
  | recorded hContinues =>
    obtain ⟨-, history, hPruned⟩ := (hp.record hContinues append).prune
    have hBefore : p.valid = true := by
      unfold recordImu at hValid
      dsimp only at hValid
      rw [hPruned] at hValid
      exact hValid
    obtain ⟨corrected, last, hTracked⟩ := h hBefore
    exact ⟨corrected, last, hTracked.record hp hContinues append⟩

theorem Exact.flush (h : Exact p) (hp : Kept p) (hComplete : Complete p) :
    Exact p.flushPendingPrediction.1 := by
  intro hValid
  rcases p.flush_cases with ⟨hSame, -⟩ | ⟨estimator, status, hFailed⟩ |
    ⟨propagated, next, estimator, trajectory, hPropagated, hNext, hReady, hPredicted, hDone⟩
  · rw [hSame] at hValid ⊢
    exact h hValid
  · rw [hFailed] at hValid
    cases hValid
  · have hBefore : p.valid = true := by
      have hReanchor := hp.reanchor
      rw [hReady] at hReanchor
      simpa using hReanchor.symm
    obtain ⟨corrected, last, hTracked⟩ := h hBefore
    obtain rfl : last.time = propagated :=
      Option.some.inj (hTracked.integrated.reached.symm.trans hPropagated)
    have hPending : p.pendingPredictionSamples ≠ [] := by
      intro hNone
      rw [hNone] at hNext
      cases hNext
    rw [hDone]
    exact ⟨corrected, next, hTracked.flushed hp (hComplete _ hPropagated hPending) hNext hPredicted⟩

theorem Exact.replay (hp : Kept p) (corrected : K.Estimate) :
    Exact (p.reanchorAndReplay corrected).1 := by
  intro hValid
  rcases replay_cases corrected p with ⟨estimator, previous, status, hFailed⟩ |
    ⟨firstIndex, latest, estimator, trajectory, hBracket, hLatest, -, hPredicted, hDone⟩
  · rw [hFailed] at hValid
    cases hValid
  · rw [hDone]
    exact ⟨corrected, hp.tracked hBracket hLatest hPredicted⟩

theorem Exact.step (h : Exact p) (hp : Kept p) (call : PropagatorCall K)
    (hComplete : call = .flushPendingPrediction → Complete p) : Exact (p.step call).1 := by
  cases call with
  | acceptImu sample => exact h.recording hp (validateAndRecordImu_recording sample true p)
  | recordImuForReplay sample =>
    exact h.recording hp (validateAndRecordImu_recording sample false p)
  | flushPendingPrediction => exact h.flush hp (hComplete rfl)
  | reanchorAndReplay corrected => exact Exact.replay hp corrected
  | invalidate status =>
    intro hValid
    cases hValid
  | reset =>
    intro hValid
    cases hValid

/-! ## Runs in which nothing is kept out -/

/-- Every sample recorded behind the propagated time of a valid state waits. -/
def Waiting (p : ImuStatePropagator K) : Prop :=
  p.valid = true → ∀ t ∈ p.propagatedTime,
    p.pendingPredictionSamples = p.recorded.filter fun x => t.nanoseconds < imuTime x

theorem Waiting.complete (h : Waiting p) (hp : Kept p) : Complete p := by
  intro t ht hSome
  cases hValid : p.valid with
  | false => exact absurd (hp.pending hValid) hSome
  | true => exact h hValid t ht

/-- A call that keeps no sample out of the pending ones of a valid state. -/
def KeepsNoneOut (e : PropagatorEvent K) : Prop :=
  ∀ sample, e.op = .recordImuForReplay sample → e.before.valid = false

theorem Waiting.recording (h : Waiting p) (hp : Kept p) (hExact : Exact p)
    (hAppend : append = false → p.valid = false) (hRecording : Recording p sample append q) :
    Waiting q := by
  intro hValid t ht
  cases hRecording with
  | rejected failure => cases hValid
  | restarted hSound hEpoch =>
    unfold restartContinuity at hValid
    rw [if_neg hEpoch] at hValid
    cases hValid
  | recorded hContinues =>
    obtain ⟨-, history, hPruned⟩ := (hp.record hContinues append).prune
    unfold recordImu at hValid ht ⊢
    dsimp only at hValid ht ⊢
    rw [hPruned] at hValid ht ⊢
    obtain ⟨corrected, last, hTracked⟩ := hExact hValid
    obtain rfl : last.time = t := Option.some.inj (hTracked.integrated.reached.symm.trans ht)
    have hBehind : last.time.nanoseconds < imuTime sample := hContinues.lt_of_mem hp hTracked.mem
    have hReanchor : p.requiresReanchor = false := by rw [hp.reanchor, hValid]; rfl
    have hOn : append = true := by
      cases append with
      | false => exact absurd (hAppend rfl) (by rw [hValid]; decide)
      | true => rfl
    have hSome : p.propagatedTime.isSome = true := by
      rw [hTracked.integrated.reached]
      rfl
    rw [hOn, hReanchor, hSome, filter_append, ← h hValid _ ht]
    simp [hBehind]

theorem Waiting.flush (h : Waiting p) (hp : Kept p) : Waiting p.flushPendingPrediction.1 := by
  rcases p.flush_cases with ⟨hSame, -⟩ | ⟨estimator, status, hFailed⟩ |
    ⟨propagated, next, estimator, trajectory, hPropagated, hNext, hReady, hPredicted, hDone⟩
  · rw [hSame]
    exact h
  · rw [hFailed]
    intro hValid
    cases hValid
  · rw [hDone]
    intro hValid t ht
    obtain rfl : next.time = t := Option.some.inj ht
    have hBefore : p.valid = true := by
      have hReanchor := hp.reanchor
      rw [hReady] at hReanchor
      simpa using hReanchor.symm
    have hPending := h hBefore _ hPropagated
    have hOrdered : Increasing imuTime p.pendingPredictionSamples := by
      rw [hPending]
      exact hp.ordered.sublist filter_sublist
    have hForward : propagated.nanoseconds < imuTime next := by
      have hMem := mem_of_getLast? hNext
      rw [hPending] at hMem
      simpa using (mem_filter.mp hMem).2
    refine (filter_eq_nil_iff.mpr ?_).symm
    intro x hx
    rw [decide_eq_true_iff, not_lt]
    by_cases hBehind : propagated.nanoseconds < imuTime x
    · have hMem : x ∈ p.pendingPredictionSamples := by
        rw [hPending]
        exact mem_filter.mpr ⟨hx, by simpa using hBehind⟩
      exact hOrdered.ordered.le_getLast hMem hNext
    · exact le_trans (not_lt.mp hBehind) (le_of_lt hForward)

theorem Waiting.replay (hp : Kept p) (corrected : K.Estimate) :
    Waiting (p.reanchorAndReplay corrected).1 := by
  intro hValid
  rcases replay_cases corrected p with ⟨estimator, previous, status, hFailed⟩ |
    ⟨firstIndex, latest, estimator, trajectory, hBracket, hLatest, -, hPredicted, hDone⟩
  · rw [hFailed] at hValid
    cases hValid
  · obtain ⟨last, hTracked⟩ := hp.tracked hBracket hLatest hPredicted
    obtain ⟨-, history, hPruned⟩ := (hp.replayed corrected estimator latest).prune
    rw [hDone]
    rw [hPruned] at hTracked ⊢
    intro t ht
    obtain rfl : latest = t := Option.some.inj ht
    refine (filter_eq_nil_iff.mpr ?_).symm
    intro x hx
    rw [decide_eq_true_iff, not_lt]
    have hLast := List.getLast?_eq_some_getLast (ne_nil_of_mem hx)
    rw [hLatest, hp.latest_of_getLast hLast]
    exact hp.ordered.ordered.le_getLast hx hLast

theorem Waiting.step (h : Waiting p) (hp : Kept p) (hExact : Exact p) (call : PropagatorCall K)
    (hNone : KeepsNoneOut (eventAt ImuStatePropagator.step p call)) : Waiting (p.step call).1 := by
  cases call with
  | acceptImu sample =>
    refine h.recording hp hExact ?_ (validateAndRecordImu_recording sample true p)
    intro hOff
    cases hOff
  | recordImuForReplay sample =>
    exact h.recording hp hExact (fun _ => hNone sample rfl)
      (validateAndRecordImu_recording sample false p)
  | flushPendingPrediction => exact h.flush hp
  | reanchorAndReplay corrected => exact Waiting.replay hp corrected
  | invalidate status =>
    intro hValid
    cases hValid
  | reset =>
    intro hValid
    cases hValid

def Failed (e : PropagatorEvent K) : Prop :=
  (e.op = .flushPendingPrediction ∨ ∃ corrected, e.op = .reanchorAndReplay corrected) ∧
    ∃ status, e.result = .status (.error status)

def Reanchored (e : PropagatorEvent K) : Prop :=
  (∃ corrected, e.op = .reanchorAndReplay corrected) ∧ e.result = .status (.ok ())

theorem Kept.failed (hp : Kept p) {call : PropagatorCall K}
    (hFailed : Failed (eventAt ImuStatePropagator.step p call)) : (p.step call).1.valid = false := by
  obtain ⟨hCall | ⟨corrected, hCall⟩, failure, hResult⟩ := hFailed
  · obtain rfl : call = .flushPendingPrediction := hCall
    have hError : p.flushPendingPrediction.2 = .error failure := PropagatorAnswer.status.inj hResult
    show p.flushPendingPrediction.1.valid = false
    rcases p.flush_cases with ⟨hSame, hOk | hReanchor⟩ | ⟨estimator, status, hFailed⟩ |
      ⟨_, _, estimator, trajectory, -, -, -, -, hDone⟩
    · rw [hOk] at hError
      cases hError
    · rw [hSame]
      have hFlag := hp.reanchor
      rw [hReanchor] at hFlag
      simpa using hFlag.symm
    · rw [hFailed]
      rfl
    · rw [hDone] at hError
      cases hError
  · obtain rfl : call = .reanchorAndReplay corrected := hCall
    have hError : (p.reanchorAndReplay corrected).2 = .error failure :=
      PropagatorAnswer.status.inj hResult
    show (p.reanchorAndReplay corrected).1.valid = false
    rcases replay_cases corrected p with ⟨estimator, previous, status, hFailed⟩ |
      ⟨_, latest, estimator, trajectory, -, -, -, -, hDone⟩
    · rw [hFailed]
      rfl
    · rw [hDone] at hError
      cases hError

theorem Kept.stays_invalid (hp : Kept p) (hInvalid : p.valid = false) {call : PropagatorCall K}
    (hNot : ¬Reanchored (eventAt ImuStatePropagator.step p call)) : (p.step call).1.valid = false := by
  have hRecording {sample : ImuSample D} {append : Bool} {q : ImuStatePropagator K}
      (h : Recording p sample append q) : q.valid = false := by
    cases h with
    | rejected failure => rfl
    | restarted hSound hEpoch =>
      unfold restartContinuity
      rw [if_neg hEpoch]
    | recorded hContinues =>
      obtain ⟨-, history, hPruned⟩ := (hp.record hContinues append).prune
      unfold recordImu
      dsimp only
      rw [hPruned]
      exact hInvalid
  cases call with
  | acceptImu sample => exact hRecording (validateAndRecordImu_recording sample true p)
  | recordImuForReplay sample => exact hRecording (validateAndRecordImu_recording sample false p)
  | flushPendingPrediction =>
    show p.flushPendingPrediction.1.valid = false
    rcases p.flush_cases with ⟨hSame, -⟩ | ⟨estimator, status, hFailed⟩ |
      ⟨_, _, estimator, trajectory, -, -, hReady, -, -⟩
    · rw [hSame]
      exact hInvalid
    · rw [hFailed]
      rfl
    · rw [hp.reanchor, hInvalid] at hReady
      cases hReady
  | reanchorAndReplay corrected =>
    show (p.reanchorAndReplay corrected).1.valid = false
    rcases replay_cases corrected p with ⟨estimator, previous, status, hFailed⟩ |
      ⟨_, latest, estimator, trajectory, -, -, -, -, hDone⟩
    · rw [hFailed]
      rfl
    · refine absurd ⟨⟨corrected, rfl⟩, ?_⟩ hNot
      show PropagatorAnswer.status (p.reanchorAndReplay corrected).2 = _
      rw [hDone]
  | invalidate status => rfl
  | reset => rfl

theorem estimate_invalid (hInvalid : p.valid = false) : p.estimate = none := by
  unfold estimate
  split
  · rfl
  · rw [hInvalid]
    rfl

/-- The laws of the propagated state over the events of a run. -/
structure PropagationLaws (es : List (PropagatorEvent K)) : Prop where
  history : ∀ e ∈ es, Increasing imuTime e.after.history ∧
    (∀ x ∈ e.after.history, ∀ y ∈ e.after.history, x.time.clockDomain = y.time.clockDomain) ∧
    e.after.history.IsChain fun a b =>
      imuTime b - imuTime a ≤ e.after.config.maximumIntegrationStepNs
  exact : ∀ earlier since after, es = earlier ++ since ++ after →
    (∀ x ∈ earlier.getLast?, Reanchored x) →
    (∀ x ∈ since, x.op = .flushPendingPrediction → Complete x.before) →
    ∀ e ∈ (earlier ++ since).getLast?, e.after.valid = true →
      ∃ corrected propagated, Integrated e.after corrected propagated
  complete : ∀ earlier since after, es = earlier ++ since ++ after →
    (∀ x ∈ earlier.getLast?, Reanchored x) → (∀ x ∈ since, KeepsNoneOut x) →
    ∀ x ∈ since, Complete x.before
  closed : ∀ before e later after, es = before ++ e :: (later ++ after) → Failed e →
    (∀ x ∈ later, ¬Reanchored x) →
    ∀ x ∈ e :: later, x.after.valid = false ∧ x.after.estimate = none

variable {calls : List (PropagatorCall K)}

theorem Kept.closed (hp : Kept p) (hInvalid : p.valid = false)
    (hNot : ∀ x ∈ events ImuStatePropagator.step p calls, ¬Reanchored x) :
    ∀ x ∈ events ImuStatePropagator.step p calls, x.after.valid = false := by
  induction calls generalizing p with
  | nil => simp
  | cons call calls ih =>
    have hNext := hp.stays_invalid hInvalid (hNot _ mem_cons_self)
    intro x hx
    rcases mem_cons.mp hx with rfl | hx
    · exact hNext
    · exact ih (hp.step call) hNext (fun y hy => hNot y (mem_cons_of_mem _ hy)) x hx

theorem anchored_exact (config : ImuStatePropagatorConfig)
    (hReached : ∀ calls : List (PropagatorCall K),
      Kept (run ImuStatePropagator.step ({ config := config } : ImuStatePropagator K) calls))
    (hAnchored : ∀ x ∈ (events ImuStatePropagator.step
      ({ config := config } : ImuStatePropagator K) calls).getLast?, Reanchored x) :
    Exact (run ImuStatePropagator.step ({ config := config } : ImuStatePropagator K) calls) ∧
      Waiting (run ImuStatePropagator.step ({ config := config } : ImuStatePropagator K) calls) := by
  induction calls using List.reverseRecOn with
  | nil =>
    refine ⟨?_, ?_⟩
    · intro h
      cases h
    · intro h
      cases h
  | append_singleton calls call ih =>
    rw [events_concat, List.getLast?_concat] at hAnchored
    rw [run_concat]
    obtain ⟨⟨corrected, hCall⟩, -⟩ := hAnchored _ rfl
    obtain rfl : call = .reanchorAndReplay corrected := hCall
    exact ⟨Exact.replay (hReached calls) corrected, Waiting.replay (hReached calls) corrected⟩

/-- Every run of a new propagator obeys the laws of the propagated state. -/
theorem propagated_state_exact (config : ImuStatePropagatorConfig)
    (calls : List (PropagatorCall K)) :
    PropagationLaws (events step ({ config := config } : ImuStatePropagator K) calls) := by
  have hReached (calls : List (PropagatorCall K)) :
      Kept (run step ({ config := config } : ImuStatePropagator K) calls) :=
    run_invariant (P := Kept) (fun _ call hp => hp.step call) (create_kept config) calls
  constructor
  case history =>
    intro e he
    obtain ⟨before, call, after, rfl, rfl⟩ := exists_split_of_mem_events he
    have hNext := (hReached before).step call
    have hInfix := hNext.suffix.isInfix
    refine ⟨List.Pairwise.sublist hInfix.sublist hNext.ordered, ?_, hNext.gaps.infix hInfix⟩
    exact fun x hx y hy => hNext.domain x (hInfix.mem hx) y (hInfix.mem hy)
  case exact =>
    intro earlier since after hSplit hAnchored hComplete e he hValid
    obtain ⟨xs, rest, rfl, hEvents, -⟩ := exists_split_of_events hSplit
    obtain ⟨ys, zs, rfl, hEarlier, hSince⟩ := exists_split_of_events hEvents
    rw [← hEarlier] at hAnchored
    have hExact := (anchored_exact config hReached hAnchored).1
    have hGuarded : Kept (run step (run step ({ config := config } : ImuStatePropagator K) ys) zs) ∧
        Exact (run step (run step ({ config := config } : ImuStatePropagator K) ys) zs) := by
      apply run_guarded (P := fun p => Kept p ∧ Exact p)
        (Q := fun e => e.op = .flushPendingPrediction → Complete e.before)
      · exact fun p call hp hCall => ⟨hp.1.step call, hp.2.step hp.1 call hCall⟩
      · exact ⟨hReached ys, hExact⟩
      · intro x hx
        rw [hSince] at hx
        exact hComplete x hx
    rw [← run_append] at hGuarded
    rw [← hEvents] at he
    rw [after_getLast he] at hValid ⊢
    obtain ⟨corrected, last, hTracked⟩ := hGuarded.2 hValid
    exact ⟨corrected, last.time, hTracked.integrated⟩
  case complete =>
    intro earlier since after hSplit hAnchored hNone x hx
    obtain ⟨xs, rest, rfl, hEvents, -⟩ := exists_split_of_events hSplit
    obtain ⟨ys, zs, rfl, hEarlier, hSince⟩ := exists_split_of_events hEvents
    rw [← hEarlier] at hAnchored
    obtain ⟨hExact, hWaiting⟩ := anchored_exact config hReached hAnchored
    rw [← hSince] at hx hNone
    obtain ⟨⟨hKept, -, hWaits⟩, -, -⟩ := events_guarded
      (P := fun p => Kept p ∧ Exact p ∧ Waiting p) (Q := KeepsNoneOut)
      (fun p call hp hCall => ⟨hp.1.step call, hp.2.1.step hp.1 call fun _ => hp.2.2.complete hp.1,
        hp.2.2.step hp.1 hp.2.1 call hCall⟩)
      ⟨hReached ys, hExact, hWaiting⟩ hNone hx
    exact hWaits.complete hKept
  case closed =>
    intro before e later after hSplit hFailed hNot
    obtain ⟨xs, ys, rfl, hBefore, hRest⟩ := exists_split_of_events hSplit
    cases ys with
    | nil => cases hRest
    | cons call ys =>
      obtain ⟨rfl, hLater⟩ := List.cons.inj hRest
      obtain ⟨zs, rest, rfl, rfl, -⟩ := exists_split_of_events hLater
      have hp := hReached xs
      have hInvalid := hp.failed hFailed
      intro x hx
      have hAfter : x.after.valid = false := by
        rcases mem_cons.mp hx with rfl | hx
        · exact hInvalid
        · exact (hp.step call).closed hInvalid hNot x hx
      exact ⟨hAfter, estimate_invalid hAfter⟩

/-! ## A sample that is never integrated -/

def countingKernel : FilterKernel (ExactReal ℚ) where
  FilterState := Nat
  Covariance := Unit
  State := Nat
  defaultState := 0
  initialFilterState := 0
  initialFilterCovariance := ()
  toIkfomState := id
  fromIkfomState := id
  gravityVector := fun _ => Vec3.zero
  withGravity := fun steps _ => steps
  withFixedGravity := id
  startCovariance := ()
  filterPredict := fun steps _ _ _ => (Nat.succ steps, ())
  stateFinite := fun _ => true
  covarianceFinite := fun _ => true
  covarianceSaneDuringPrediction := fun _ => true
  covarianceValid := fun _ => true
  orientationOdomImu := fun _ => Quaternion.identity
  positionOdomImuM := fun _ => Vec3.zero
  velocityOdomImuMS := fun _ => Vec3.zero
  gyroBiasRadS := fun _ => Vec3.zero

theorem counted_steps (e : IkfomEstimator countingKernel) (x : ImuSample (ExactReal ℚ))
    (xs : List (ImuSample (ExactReal ℚ))) :
    @id Nat (foldPairs IkfomEstimator.advance e (x :: xs)).x = @id Nat e.x + xs.length := by
  induction xs generalizing e x with
  | nil => rfl
  | cons y xs ih =>
    rw [foldPairs_cons_cons, ih]
    exact Nat.succ_add_eq_add_succ _ _

def sampleAtTime (time : Timestamp) : ImuSample (ExactReal ℚ) := ⟨time, Vec3.zero, Vec3.zero⟩

/-- The third sample is recorded for a replay that does not come before the flush. -/
def skippingCalls : List (PropagatorCall countingKernel) :=
  [.acceptImu (sampleAtTime (.rosTime 10)), .acceptImu (sampleAtTime (.rosTime 20)),
    .reanchorAndReplay ⟨(.rosTime 10), (0 : Nat), ()⟩,
    .recordImuForReplay (sampleAtTime (.rosTime 30)),
    .acceptImu (sampleAtTime (.rosTime 40)),
    .flushPendingPrediction]

def skippingRun : ImuStatePropagator countingKernel := run step { config := {} } skippingCalls

/-- The propagator is valid, but one of the three intervals behind the anchor is missing: the
state has moved by two steps. -/
theorem replay_sample_skipped : skippingRun.valid = true ∧
    ¬∃ corrected propagated, Integrated skippingRun corrected propagated := by
  refine ⟨by decide +kernel, ?_⟩
  rintro ⟨corrected, propagated, h⟩
  have hApplied : skippingRun.applied.map (·.time.nanoseconds) = some 10 := by decide +kernel
  have hReached : skippingRun.propagatedTime.map (·.nanoseconds) = some 40 := by decide +kernel
  have hRecorded : (skippingRun.recorded.filter fun x =>
      10 < imuTime x ∧ imuTime x ≤ 40).length = 3 := by decide +kernel
  have hMoved : @id Nat skippingRun.estimator.x = 2 := by decide +kernel
  obtain ⟨boundary, before, -, hState⟩ := h.state
  have hFrom : corrected.time.nanoseconds = 10 := by
    rw [h.applied] at hApplied
    exact Option.some.inj hApplied
  have hUntil : propagated.nanoseconds = 40 := by
    rw [h.reached] at hReached
    exact Option.some.inj hReached
  rw [hState, counted_steps, hFrom, hUntil, hRecorded] at hMoved
  omega

end ImuStatePropagator

end UavNavigation.FastLio
