import UavNavigation.MeasurementBuffer

/-!
# The bracket of a prediction

A prediction gets the bracket of its interval in the samples of the group, merged
with the retained history when it starts before the scan. The gaps it allows are
those up to the largest gap the group was recorded with, when there is one, and
the configured limit only otherwise.
-/

namespace UavNavigation.FastLio

open OrderedQueues List

set_option autoImplicit false

variable {D : Type} [FloatOps D]

theorem orderFault_eq_none_iff {domainFault regressionFault : Status} {start : Timestamp}
    {previous : Option Timestamp} {samples : List (ImuSample D)} :
    orderFault domainFault regressionFault start previous samples = none ↔
      (∀ x ∈ samples, x.fault = none) ∧ (∀ x ∈ samples, x.time.clockDomain = start.clockDomain) ∧
        Increasing imuTime samples ∧ ∀ t ∈ previous, ∀ x ∈ samples, t.nanoseconds < imuTime x := by
  induction samples generalizing previous with
  | nil => simp [orderFault, Increasing]
  | cons sample rest ih =>
    unfold orderFault
    cases hFault : sample.fault with
    | some status =>
      simp only [reduceCtorEq, false_iff]
      intro h
      have hNone := h.1 sample mem_cons_self
      rw [hFault] at hNone
      cases hNone
    | none =>
      dsimp only
      split
      · rename_i hDomain
        simp only [reduceCtorEq, false_iff]
        intro h
        rw [Bool.not_eq_true', Bool.eq_false_iff, ne_eq, Timestamp.sameClockDomain_iff] at hDomain
        exact hDomain (h.2.1 sample mem_cons_self)
      rename_i hDomain
      simp only [Bool.not_eq_true', Bool.not_eq_false, Timestamp.sameClockDomain_iff] at hDomain
      split
      · rename_i hBefore
        simp only [reduceCtorEq, false_iff]
        intro h
        obtain ⟨t, ht, hLe⟩ := (Option.any_eq_true ..).mp hBefore
        exact absurd (h.2.2.2 t ht sample mem_cons_self) (not_lt.mpr (of_decide_eq_true hLe))
      · rename_i hAfter
        have hAbove : ∀ t ∈ previous, t.nanoseconds < imuTime sample := by
          intro t ht
          rw [ht, Option.any_some, decide_eq_true_eq] at hAfter
          exact not_le.mp hAfter
        rw [ih, forall_mem_cons, forall_mem_cons]
        constructor
        · rintro ⟨hFaults, hDomains, hIncreasing, hHead⟩
          refine ⟨⟨hFault, hFaults⟩, ⟨hDomain, hDomains⟩,
            pairwise_cons.mpr ⟨hHead _ rfl, hIncreasing⟩, ?_⟩
          intro t ht
          exact forall_mem_cons.mpr
            ⟨hAbove t ht, fun x hx => (hAbove t ht).trans (hHead _ rfl x hx)⟩
        · rintro ⟨⟨-, hFaults⟩, ⟨-, hDomains⟩, hIncreasing, -⟩
          obtain ⟨hHead, hTail⟩ := pairwise_cons.mp hIncreasing
          refine ⟨hFaults, hDomains, hTail, ?_⟩
          intro t ht
          cases ht
          exact hHead

def GapsWithin (limitNs : Int) (samples : List (ImuSample D)) : Prop :=
  samples.IsChain fun previous current => imuTime current - imuTime previous ≤ limitNs

instance instDecidableGapsWithin (limitNs : Int) (samples : List (ImuSample D)) :
    Decidable (GapsWithin limitNs samples) :=
  inferInstanceAs (Decidable (samples.IsChain _))

theorem gapFault_eq_none_iff {limitNs : Int} (hLimit : 0 < limitNs) {samples : List (ImuSample D)}
    {domain : ClockDomain} (hFaults : ∀ x ∈ samples, x.fault = none)
    (hDomains : ∀ x ∈ samples, x.time.clockDomain = domain) (hIncreasing : Increasing imuTime samples) :
    gapFault limitNs samples = none ↔ GapsWithin limitNs samples := by
  unfold GapsWithin
  induction samples with
  | nil => simp [gapFault]
  | cons previous rest ih =>
    cases rest with
    | nil => simp [gapFault]
    | cons current rest =>
      obtain ⟨hHead, hTail⟩ := pairwise_cons.mp hIncreasing
      obtain ⟨hFault, hFaults⟩ := forall_mem_cons.mp hFaults
      obtain ⟨hDomain, hDomains⟩ := forall_mem_cons.mp hDomains
      have hPositive := ImuSample.positive hFault
      have hNext := ImuSample.positive (hFaults current mem_cons_self)
      have hLess := hHead current mem_cons_self
      have hGap : checkedDifference current.time previous.time =
          .ok (imuTime current - imuTime previous) :=
        checkedDifference_of_nonneg ((hDomains current mem_cons_self).trans hDomain.symm)
          hNext.le hPositive.le
      rw [isChain_cons_cons, ← ih hFaults hDomains hTail]
      rw [gapFault, hGap]
      dsimp only
      rw [if_neg (by omega)]
      by_cases hLarge : limitNs < imuTime current - imuTime previous
      · rw [if_pos ⟨hLimit, hLarge⟩]
        simp only [reduceCtorEq, not_le.mpr hLarge, false_and]
      · rw [if_neg fun h => hLarge h.2]
        simp only [not_lt.mp hLarge, true_and]

omit [FloatOps D] in
theorem mergeHistory_union {history group : List (ImuSample D)} (hHistory : Increasing imuTime history)
    (hGroup : Increasing imuTime group) :
    PreferredUnion imuTime group history (mergeHistory history group) := by
  induction history generalizing group with
  | nil => exact .nil_right hGroup
  | cons sample history ih =>
    obtain ⟨hSample, hRest⟩ := pairwise_cons.mp hHistory
    unfold mergeHistory
    induction group with
    | nil => exact .nil_left hHistory
    | cons other group inner =>
      obtain ⟨hOther, hTail⟩ := pairwise_cons.mp hGroup
      unfold mergeSample
      split
      · rename_i hBefore
        refine .cons_second (ih hRest hGroup) ?_ hSample
        exact forall_mem_cons.mpr ⟨hBefore, fun x hx => hBefore.trans (hOther x hx)⟩
      split
      · rename_i hAfter
        refine .cons_first (inner hTail) hOther ?_
        exact forall_mem_cons.mpr ⟨hAfter, fun x hx => hAfter.trans (hSample x hx)⟩
      · rename_i hNotBefore hNotAfter
        have hSame : imuTime other = imuTime sample := by omega
        refine .skip_second (.cons_first (ih hRest hTail) hOther ?_) mem_cons_self hSame
        intro x hx
        rw [hSame]
        exact hSample x hx

/-! ## The piece of the samples -/

section Piece
variable {samples output : List (ImuSample D)} {domain : ClockDomain} {limitNs startNs endNs : Int}

section
omit [FloatOps D]

theorem first_eq (hIncreasing : Increasing imuTime samples)
    (hStart : ∃ x ∈ samples, imuTime x ≤ startNs) :
    (if lowerBound imuTime samples startNs = samples.length ∨
        0 < lowerBound imuTime samples startNs ∧ (samples[lowerBound imuTime samples startNs]?).any
            (fun x => imuTime x ≠ startNs) = true then
      lowerBound imuTime samples startNs - 1
    else lowerBound imuTime samples startNs) = upperBound imuTime samples startNs - 1 := by
  have hUpper := hIncreasing.upperBound_pos_of_start hStart
  have hBounds := hIncreasing.upperBound_eq (t := startNs)
  have hLength := lowerBound_le imuTime samples startNs
  rcases Nat.lt_or_eq_of_le hLength with hInside | hEnd
  · rw [List.getElem?_eq_getElem hInside, Option.any_some] at hBounds ⊢
    by_cases hExact : imuTime samples[lowerBound imuTime samples startNs] = startNs
    · simp only [hExact, decide_true, if_true] at hBounds
      rw [if_neg (by simp [hInside.ne, hExact]), hBounds, Nat.add_sub_cancel]
    · simp only [hExact, decide_false, Bool.false_eq_true, if_false] at hBounds
      rw [if_pos (.inr ⟨by omega, by simp [hExact]⟩)]
      omega
  · rw [List.getElem?_eq_none hEnd.ge] at hBounds
    simp only [Option.any_none, Bool.false_eq_true, if_false] at hBounds
    rw [if_pos (.inl hEnd)]
    omega

theorem endIndex_eq (hIncreasing : Increasing imuTime samples)
    (hUpper : 0 < upperBound imuTime samples endNs) :
    (if (samples[upperBound imuTime samples endNs - 1]?).any (fun x => imuTime x < endNs) then
      upperBound imuTime samples endNs
    else upperBound imuTime samples endNs - 1) = lowerBound imuTime samples endNs := by
  have hBounds := hIncreasing.upperBound_eq (t := endNs)
  have hLength := upperBound_le imuTime samples endNs
  have hInside : upperBound imuTime samples endNs - 1 < samples.length := by omega
  rw [List.getElem?_eq_getElem hInside, Option.any_some]
  split at hBounds
  · rename_i hExact
    obtain ⟨x, hx, hTime⟩ := (Option.any_eq_true ..).mp hExact
    have hSame : upperBound imuTime samples endNs - 1 = lowerBound imuTime samples endNs := by omega
    have hLast : samples[upperBound imuTime samples endNs - 1] = x := by
      simp only [hSame]
      exact (List.getElem?_eq_some_iff.mp hx).2
    rw [hLast, of_decide_eq_true hTime, if_neg (by simp)]
    exact hSame
  · have hBelow : imuTime samples[upperBound imuTime samples endNs - 1] < endNs :=
      lt_of_lt_lowerBound (by omega) hInside
    rw [if_pos (decide_eq_true hBelow)]
    omega

end

theorem bracketSamples_ok_iff (hIncreasing : Increasing imuTime samples)
    (hFaults : ∀ x ∈ samples, x.fault = none) (hDomains : ∀ x ∈ samples, x.time.clockDomain = domain)
    (hLimit : 0 < limitNs) (hOrder : startNs ≤ endNs) :
    bracketSamples limitNs samples startNs endNs = .ok output ↔
      Covers imuTime samples startNs endNs ∧
        GapsWithin limitNs (bracket imuTime samples startNs endNs) ∧
          output = bracket imuTime samples startNs endNs := by
  by_cases hStart : ∃ x ∈ samples, imuTime x ≤ startNs
  · have hUpper : 0 < upperBound imuTime samples endNs := by
      obtain ⟨x, hx, hLow⟩ := hStart
      exact hIncreasing.upperBound_pos_of_start ⟨x, hx, hLow.trans hOrder⟩
    have hFirst := first_eq hIncreasing hStart
    have hEnd := endIndex_eq hIncreasing hUpper
    have hFirstPositive := hIncreasing.upperBound_pos_of_start hStart
    have hFirstLength := upperBound_le imuTime samples startNs
    have hFirstInside : upperBound imuTime samples startNs - 1 < samples.length := by omega
    have hFirstLow : imuTime samples[upperBound imuTime samples startNs - 1] ≤ startNs :=
      le_of_lt_upperBound (by omega) hFirstInside
    have hNonempty : samples.isEmpty = false := by
      cases samples with
      | nil => exact absurd hFirstInside (Nat.not_lt_zero _)
      | cons => rfl
    unfold bracketSamples
    dsimp only
    rw [hFirst, hEnd, hNonempty, if_neg Bool.false_ne_true,
      List.getElem?_eq_getElem hFirstInside, Option.any_some, if_neg (by simpa using hFirstLow),
      if_neg hUpper.ne']
    by_cases hStop : ∃ x ∈ samples, endNs ≤ imuTime x
    · have hLast := lowerBound_lt_of_stop hStop
      obtain ⟨hBounds, hBracket⟩ := hIncreasing.bracket_eq ⟨hStart, hStop⟩ hOrder
      rw [if_neg (not_le.mpr hLast), ← hBracket]
      have hSubset : ∀ x ∈ bracket imuTime samples startNs endNs, x ∈ samples :=
        fun x hx => mem_of_mem_filter hx
      have hGaps : gapFault limitNs (bracket imuTime samples startNs endNs) = none ↔
          GapsWithin limitNs (bracket imuTime samples startNs endNs) :=
        gapFault_eq_none_iff hLimit (fun x hx => hFaults x (hSubset x hx))
          (fun x hx => hDomains x (hSubset x hx)) (hIncreasing.sublist filter_sublist)
      have hFilled : (bracket imuTime samples startNs endNs).isEmpty = false := by
        rw [hBracket, isEmpty_eq_false_iff]
        intro hNil
        have hZero := congrArg List.length hNil
        rw [length_take, length_drop, length_nil] at hZero
        omega
      -- one sample at both ends is at the start and at the end
      have hSingle : ¬ (lowerBound imuTime samples endNs = upperBound imuTime samples startNs - 1 ∧
          startNs ≠ endNs) := by
        rintro ⟨hSame, hApart⟩
        have hHigh := le_lowerBound hLast
        simp only [hSame] at hHigh
        omega
      cases hFault : gapFault limitNs (bracket imuTime samples startNs endNs) with
      | some status =>
        have hNot : ¬ GapsWithin limitNs (bracket imuTime samples startNs endNs) := by
          rw [← hGaps, hFault]
          simp
        simp [hNot]
      | none =>
        rw [if_neg hSingle, hFilled, if_neg Bool.false_ne_true]
        constructor
        · intro hOk
          cases hOk
          exact ⟨⟨hStart, hStop⟩, hGaps.mp hFault, rfl⟩
        · rintro ⟨-, -, rfl⟩
          rfl
    · have hNone : lowerBound imuTime samples endNs = samples.length :=
        lowerBound_eq_length.mpr fun x hx => not_le.mp fun hLe => hStop ⟨x, hx, hLe⟩
      rw [if_pos hNone.ge]
      constructor
      · intro hOk
        cases hOk
      · rintro ⟨hCovers, -⟩
        exact absurd hCovers.stop hStop
  · -- no sample at or before the start
    have hAbove : ∀ x ∈ samples, startNs < imuTime x :=
      fun x hx => not_le.mp fun hLe => hStart ⟨x, hx, hLe⟩
    have hFails : ∀ found, bracketSamples limitNs samples startNs endNs ≠ .ok found := by
      intro found
      unfold bracketSamples
      cases samples with
      | nil => simp
      | cons sample rest =>
        have hSample := hAbove sample mem_cons_self
        have hLower : lowerBound imuTime (sample :: rest) startNs = 0 := by
          unfold lowerBound
          rw [findIdx_cons, decide_eq_true hSample.le]
          rfl
        rw [hLower, if_neg (by simp : ¬ (sample :: rest).isEmpty = true),
          if_neg (by simp : ¬ (0 = (sample :: rest).length ∨ 0 < 0 ∧ _))]
        simp [hSample]
    constructor
    · intro hOk
      exact absurd hOk (hFails output)
    · rintro ⟨hCovers, -⟩
      exact absurd hCovers.start hStart

end Piece

/-! ## Whole predictions -/

/-- The largest gap the group was recorded with comes before the configured limit. -/
def takenGapNs (config : MeasurementSynchronizerConfig) (group : MeasurementGroup D) : Int :=
  if 0 < group.maxImuGapNs then group.maxImuGapNs else config.maximumImuGapNs

omit [FloatOps D] in
theorem takenGapNs_pos (config : MeasurementSynchronizerConfig) (group : MeasurementGroup D) :
    0 < takenGapNs config group := by
  unfold takenGapNs
  split
  · rename_i hRecorded
    exact hRecorded
  · exact config.positive

/-- Ordered samples of one clock, and an interval of that clock. -/
structure OrderedPrediction (history : List (ImuSample D)) (group : MeasurementGroup D)
    (start stop : Timestamp) : Prop where
  history_increasing : Increasing imuTime history
  group_increasing : Increasing imuTime group.imuSamples
  history_domain : ∀ x ∈ history, x.time.clockDomain = start.clockDomain
  group_domain : ∀ x ∈ group.imuSamples, x.time.clockDomain = start.clockDomain
  stop_domain : stop.clockDomain = start.clockDomain
  ordered : start.nanoseconds ≤ stop.nanoseconds

/-- The samples of a prediction: those of the group alone when it starts with the scan. -/
structure MergedSamples (history : List (ImuSample D)) (group : MeasurementGroup D)
    (start : Timestamp) (merged : List (ImuSample D)) : Prop where
  steady : start.nanoseconds = group.scan.startTime.nanoseconds → merged = group.imuSamples
  early : start.nanoseconds ≠ group.scan.startTime.nanoseconds →
    PreferredUnion imuTime group.imuSamples history merged

/-- The samples a prediction reads pass their own checks. -/
structure ValidSamples (history : List (ImuSample D)) (group : MeasurementGroup D)
    (start : Timestamp) : Prop where
  group_valid : ∀ x ∈ group.imuSamples, x.fault = none
  history_valid : start.nanoseconds ≠ group.scan.startTime.nanoseconds → ∀ x ∈ history, x.fault = none

section Prediction
variable {config : MeasurementSynchronizerConfig} {history merged output : List (ImuSample D)}
  {group : MeasurementGroup D} {start stop : Timestamp}

section
omit [FloatOps D]

theorem MergedSamples.increasing (hInput : OrderedPrediction history group start stop)
    (hMerged : MergedSamples history group start merged) : Increasing imuTime merged := by
  by_cases hSteady : start.nanoseconds = group.scan.startTime.nanoseconds
  · rw [hMerged.steady hSteady]
    exact hInput.group_increasing
  · exact (hMerged.early hSteady).increasing

theorem MergedSamples.forall_mem {p : ImuSample D → Prop}
    (hMerged : MergedSamples history group start merged) (hGroup : ∀ x ∈ group.imuSamples, p x)
    (hHistory : start.nanoseconds ≠ group.scan.startTime.nanoseconds → ∀ x ∈ history, p x) :
    ∀ x ∈ merged, p x := by
  intro x hx
  by_cases hSteady : start.nanoseconds = group.scan.startTime.nanoseconds
  · rw [hMerged.steady hSteady] at hx
    exact hGroup x hx
  · rcases ((hMerged.early hSteady).members x).mp hx with hx | ⟨hx, -⟩
    · exact hGroup x hx
    · exact hHistory hSteady x hx

end

theorem sequenceFault_eq_none_iff {samples : List (ImuSample D)}
    (hDomain : ∀ x ∈ samples, x.time.clockDomain = start.clockDomain)
    (hIncreasing : Increasing imuTime samples) :
    sequenceFault start none samples = none ↔ ∀ x ∈ samples, x.fault = none := by
  unfold sequenceFault
  rw [orderFault_eq_none_iff]
  constructor
  · intro h
    exact h.1
  · intro hFaults
    refine ⟨hFaults, hDomain, hIncreasing, ?_⟩
    intro t ht
    cases ht

/-- A prediction gets samples exactly when those it reads are valid, cover the interval and
have no gap above the limit it takes. -/
theorem build_ok_iff (hInput : OrderedPrediction history group start stop)
    (hMerged : MergedSamples history group start merged) :
    buildPredictionImuSamples config history group start stop = .ok output ↔
      ValidSamples history group start ∧ Covers imuTime merged start.nanoseconds stop.nanoseconds ∧
          GapsWithin (takenGapNs config group)
            (bracket imuTime merged start.nanoseconds stop.nanoseconds) ∧
            output = bracket imuTime merged start.nanoseconds stop.nanoseconds := by
  have hGroup := sequenceFault_eq_none_iff hInput.group_domain hInput.group_increasing
  have hHistory := sequenceFault_eq_none_iff hInput.history_domain hInput.history_increasing
  have hPiece (hValid : ValidSamples history group start) :
      bracketSamples (takenGapNs config group) merged start.nanoseconds stop.nanoseconds =
          .ok output ↔ _ :=
    bracketSamples_ok_iff (hMerged.increasing hInput)
      (hMerged.forall_mem hValid.group_valid hValid.history_valid)
      (hMerged.forall_mem hInput.group_domain fun _ => hInput.history_domain)
      (takenGapNs_pos config group) hInput.ordered
  have hSame : start.sameClockDomain stop = true :=
    Timestamp.sameClockDomain_iff.mpr hInput.stop_domain.symm
  unfold buildPredictionImuSamples
  rw [hSame, if_neg (by simp), if_neg (not_lt.mpr hInput.ordered)]
  dsimp only
  cases hGroupFault : sequenceFault start none group.imuSamples with
  | some status =>
    simp only [reduceCtorEq, false_iff]
    rintro ⟨hValid, -⟩
    rw [hGroup.mpr hValid.group_valid] at hGroupFault
    cases hGroupFault
  | none =>
    have hGroupValid := hGroup.mp hGroupFault
    by_cases hSteady : start.nanoseconds = group.scan.startTime.nanoseconds
    · have hValid : ValidSamples history group start := ⟨hGroupValid, absurd hSteady⟩
      rw [if_pos hSteady, ← hMerged.steady hSteady]
      exact (hPiece hValid).trans (and_iff_right hValid).symm
    · rw [if_neg hSteady]
      cases hHistoryFault : sequenceFault start none history with
      | some status =>
        simp only [reduceCtorEq, false_iff]
        rintro ⟨hValid, -⟩
        rw [hHistory.mpr (hValid.history_valid hSteady)] at hHistoryFault
        cases hHistoryFault
      | none =>
        have hValid : ValidSamples history group start :=
          ⟨hGroupValid, fun _ => hHistory.mp hHistoryFault⟩
        have hUnion := mergeHistory_union hInput.history_increasing hInput.group_increasing
        rw [hUnion.unique (hMerged.early hSteady)]
        exact (hPiece hValid).trans (and_iff_right hValid).symm

/-- A prediction gets the bracket of its interval exactly when the configured limit allows it. -/
def AcceptsConfiguredGaps (config : MeasurementSynchronizerConfig) (history : List (ImuSample D))
    (group : MeasurementGroup D) (start stop : Timestamp) (merged : List (ImuSample D)) : Prop :=
  ((∃ output, buildPredictionImuSamples config history group start stop = .ok output) ↔
    Covers imuTime merged start.nanoseconds stop.nanoseconds ∧ GapsWithin config.maximumImuGapNs
        (bracket imuTime merged start.nanoseconds stop.nanoseconds)) ∧
    ∀ output, buildPredictionImuSamples config history group start stop = .ok output →
      output = bracket imuTime merged start.nanoseconds stop.nanoseconds

/-- Where the samples cover the interval, they are all valid and the bracket keeps both the limit
taken and the configured one, or it exceeds the configured one and a fault or the limit taken has
it refused. -/
def LimitAgrees (config : MeasurementSynchronizerConfig) (history : List (ImuSample D))
    (group : MeasurementGroup D) (start stop : Timestamp) (merged : List (ImuSample D)) : Prop :=
  let samples := bracket imuTime merged start.nanoseconds stop.nanoseconds
  Covers imuTime merged start.nanoseconds stop.nanoseconds →
    (ValidSamples history group start ∧ GapsWithin (takenGapNs config group) samples ∧
      GapsWithin config.maximumImuGapNs samples) ∨
    (¬ GapsWithin config.maximumImuGapNs samples ∧
      ¬ (ValidSamples history group start ∧ GapsWithin (takenGapNs config group) samples))

theorem accepts_configured_gaps_iff (hInput : OrderedPrediction history group start stop)
    (hMerged : MergedSamples history group start merged) :
    AcceptsConfiguredGaps config history group start stop merged ↔
      LimitAgrees config history group start stop merged := by
  have hBuild (output : List (ImuSample D)) :
      buildPredictionImuSamples config history group start stop = .ok output ↔ _ :=
    build_ok_iff hInput hMerged
  have hFound : (∃ output, buildPredictionImuSamples config history group start stop = .ok output) ↔
      ValidSamples history group start ∧ Covers imuTime merged start.nanoseconds stop.nanoseconds ∧
          GapsWithin (takenGapNs config group)
            (bracket imuTime merged start.nanoseconds stop.nanoseconds) := by
    constructor
    · rintro ⟨output, hOk⟩
      obtain ⟨hValid, hCovers, hGaps, -⟩ := (hBuild output).mp hOk
      exact ⟨hValid, hCovers, hGaps⟩
    · rintro ⟨hValid, hCovers, hGaps⟩
      exact ⟨_, (hBuild _).mpr ⟨hValid, hCovers, hGaps, rfl⟩⟩
  have hBracket : ∀ output, buildPredictionImuSamples config history group start stop = .ok output →
        output = bracket imuTime merged start.nanoseconds stop.nanoseconds :=
    fun output hOk => ((hBuild output).mp hOk).2.2.2
  unfold AcceptsConfiguredGaps LimitAgrees
  rw [and_iff_left hBracket, hFound]
  constructor
  · intro hAccepts samples hCovers
    by_cases hGaps : GapsWithin config.maximumImuGapNs samples
    · obtain ⟨hValid, -, hTaken⟩ := hAccepts.mpr ⟨hCovers, hGaps⟩
      exact .inl ⟨hValid, hTaken, hGaps⟩
    · refine .inr ⟨hGaps, ?_⟩
      rintro ⟨hValid, hTaken⟩
      exact hGaps (hAccepts.mp ⟨hValid, hCovers, hTaken⟩).2
  · intro hAgrees
    constructor
    · rintro ⟨hValid, hCovers, hTaken⟩
      rcases hAgrees hCovers with ⟨-, -, hGaps⟩ | ⟨-, hRefused⟩
      · exact ⟨hCovers, hGaps⟩
      · exact absurd ⟨hValid, hTaken⟩ hRefused
    · rintro ⟨hCovers, hGaps⟩
      rcases hAgrees hCovers with ⟨hValid, hTaken, -⟩ | ⟨hExceeded, -⟩
      · exact ⟨hValid, hCovers, hTaken⟩
      · exact absurd hGaps hExceeded

end Prediction

def briskGroup : MeasurementGroup (ExactReal ℚ) :=
  { scan := scanOver (.rosTime 102) (.rosTime 108)
    imuSamples := [sampleAt (.rosTime 100), sampleAt (.rosTime 105), sampleAt (.rosTime 110)]
    propagationStartTime := .rosTime 102
    hasStartBracket := true
    hasEndBracket := true
    maxImuGapNs := 5 }

/-- A prediction from the history on, which is as brisk as the group. -/
theorem accepts_configured_gaps_brisk : AcceptsConfiguredGaps {}
      [sampleAt (.rosTime 90), sampleAt (.rosTime 95), sampleAt (.rosTime 100)] briskGroup
      (.rosTime 93) (.rosTime 108)
      (mergeHistory [sampleAt (.rosTime 90), sampleAt (.rosTime 95), sampleAt (.rosTime 100)]
        briskGroup.imuSamples) := by
  rw [accepts_configured_gaps_iff]
  · intro
    exact .inl ⟨⟨by decide, by decide⟩, by decide, by decide⟩
  · exact ⟨by decide, by decide, by decide, by decide, rfl, by decide⟩
  · constructor
    · intro hSteady
      exact absurd hSteady (by decide)
    · intro
      exact mergeHistory_union (by decide) (by decide)

/-- A gap far below the configured limit is refused, as those of the group are smaller still. -/
theorem refuses_configured_gap :
    ¬ ∀ (config : MeasurementSynchronizerConfig) (history : List (ImuSample (ExactReal ℚ)))
      (group : MeasurementGroup (ExactReal ℚ)) (start stop : Timestamp)
      (merged : List (ImuSample (ExactReal ℚ))),
      OrderedPrediction history group start stop → MergedSamples history group start merged →
        AcceptsConfiguredGaps config history group start stop merged := by
  intro h
  have hAccepts := h {} [sampleAt (.rosTime 80), sampleAt (.rosTime 90), sampleAt (.rosTime 100)]
    briskGroup (.rosTime 85) (.rosTime 108) _
    ⟨by decide, by decide, by decide, by decide, rfl, by decide⟩
    ⟨fun hSteady => absurd hSteady (by decide), fun _ => mergeHistory_union (by decide) (by decide)⟩
  obtain ⟨output, hOk⟩ := hAccepts.1.mpr ⟨⟨by decide, by decide⟩, by decide⟩
  cases hOk

end UavNavigation.FastLio
