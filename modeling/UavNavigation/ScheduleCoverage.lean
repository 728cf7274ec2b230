import UavNavigation.CommandSampling

/-!
# What a valid role schedule covers

`roleScheduleValid` lets an interval begin up to a microsecond away from the end
of the one before it, and the schedule end up to a microsecond away from the
duration. `scheduledRole` looks the rounded nanosecond up in half-open intervals
and skips an interval whose ends are not nanoseconds of 64 bits. The theorem says
for which valid schedules every time of the duration has its role.
-/

namespace UavNavigation

set_option autoImplicit false

open FloatOps RoundedPartition ExactReal CandidateBundle

section Coverage
variable {K : Type} [Field K] [LinearOrder K] [FloorRing K] [SquareRoot K] [IsStrictOrderedRing K]

def scheduleInterval (s : Stretch K CandidateRole) : CandidateRoleInterval (ExactReal K) :=
  ⟨.finite s.first, .finite s.last, s.label⟩

def convertible (s : Stretch K CandidateRole) : Bool :=
  0 ≤ s.first && nanoseconds s.last ≤ 2 ^ 63 - 1

/-- Every time of the duration has the role of an interval that holds its nanosecond, and the last
nanosecond has the last role. -/
def ScheduledThroughout {F : Type} (bundle : CandidateBundle (ExactReal K) F) (duration : K)
    (stretches : List (Stretch K CandidateRole)) : Prop :=
  ∀ t, 0 ≤ t → t ≤ duration → ∃ role, bundle.scheduledRole (.finite t) = some role ∧
    (nanoseconds t < nanoseconds duration →
      ∃ s ∈ stretches, holds nanoseconds (nanoseconds t) s = true ∧ s.label = role) ∧
    (nanoseconds t = nanoseconds duration → lastLabel stretches = some role)

/-- The duration fits into 64 bits, no hole follows time zero or the end of a convertible interval,
and no other role reaches over the rounded duration. -/
structure Gapless (duration : K) (stretches : List (Stretch K CandidateRole)) : Prop where
  fits : nanoseconds duration ≤ 2 ^ 63 - 1
  start : 0 < nanoseconds duration →
    ∃ s ∈ stretches.filter convertible, holds nanoseconds 0 s = true
  ends : ∀ s ∈ stretches.filter convertible, nanoseconds s.last < nanoseconds duration →
    ∃ u ∈ stretches.filter convertible, holds nanoseconds (nanoseconds s.last) u = true
  last : ∀ role, labelAt nanoseconds (nanoseconds duration) (stretches.filter convertible) =
    some role → lastLabel stretches = some role

theorem toOffsetNs_eq (x : K) : toOffsetNs (finite x) =
    if 0 ≤ x ∧ nanoseconds x ≤ 2 ^ 63 - 1 then some (nanoseconds x) else none := by
  split
  · rename_i h
    exact toOffsetNs_finite h.1 h.2
  rename_i h
  unfold toOffsetNs
  split
  · rfl
  rename_i hGuard
  simp only [isFinite_finite, Bool.not_true, Bool.false_or, decide_eq_true_eq,
    lit_finite, lt_finite, Rat.cast_zero, not_lt] at hGuard
  have hLarge : (ofInt (2 ^ 63 - 1) : ExactReal K) < finite (nanoseconds x : K) := by
    change ((2 ^ 63 - 1 : Int) : K) < ((nanoseconds x : Int) : K)
    rw [Int.cast_lt]
    by_contra hFits
    exact h ⟨hGuard, not_lt.mp hFits⟩
  rw [round_scaled]
  exact if_pos (by simpa using hLarge)

theorem intervalRole_eq (n : Int) (stretches : List (Stretch K CandidateRole))
    (hOrder : ∀ s ∈ stretches, s.first < s.last) :
    intervalRole n (stretches.map scheduleInterval) =
      labelAt nanoseconds n (stretches.filter convertible) := by
  induction stretches with
  | nil => rfl
  | cons s rest ih =>
    have hLess := hOrder s List.mem_cons_self
    have hRest := ih fun u hu => hOrder u (List.mem_cons_of_mem s hu)
    have hMono := nanoseconds_mono hLess.le
    simp only [List.map_cons, intervalRole, scheduleInterval, toOffsetNs_eq]
    by_cases hConvertible : convertible s = true
    · have hUsed := hConvertible
      simp only [convertible, Bool.and_eq_true, decide_eq_true_eq] at hUsed
      rw [if_pos ⟨hUsed.1, hMono.trans hUsed.2⟩, if_pos ⟨hUsed.1.trans hLess.le, hUsed.2⟩,
        List.filter_cons_of_pos hConvertible, labelAt_cons]
      by_cases hHolds : holds nanoseconds n s = true
      · rw [if_pos hHolds]
        exact if_pos hHolds
      · rw [if_neg hHolds, ← hRest]
        exact if_neg hHolds
    · rw [List.filter_cons_of_neg hConvertible, ← hRest]
      simp only [convertible, Bool.and_eq_true, decide_eq_true_eq, not_and] at hConvertible
      by_cases hFirst : 0 ≤ s.first
      · have hLarge := hConvertible hFirst
        rw [if_neg fun h : 0 ≤ s.last ∧ nanoseconds s.last ≤ 2 ^ 63 - 1 => hLarge h.2]
        split
        · rename_i hNone
          cases hNone
        · rfl
      · rw [if_neg fun h : 0 ≤ s.first ∧ nanoseconds s.first ≤ 2 ^ 63 - 1 => hFirst h.1]

section
omit [IsStrictOrderedRing K]

theorem stretches_of_scheduleCursor {durationS : ExactReal K}
    {schedule : List (CandidateRoleInterval (ExactReal K))} {cursor end' : ExactReal K}
    (h : scheduleCursor durationS cursor schedule = some end') :
    ∃ stretches : List (Stretch K CandidateRole), schedule = stretches.map scheduleInterval ∧
      ∀ s ∈ stretches, s.first < s.last := by
  induction schedule generalizing cursor with
  | nil => exact ⟨[], rfl, fun s hs => nomatch hs⟩
  | cons interval rest ih =>
    unfold scheduleCursor at h
    split at h
    · cases h
    rename_i hGuard
    simp only [Bool.or_eq_true, Bool.not_eq_true', decide_eq_true_eq, not_or,
      Bool.not_eq_false] at hGuard
    obtain ⟨⟨⟨⟨⟨hBegin, hEnd⟩, -⟩, hLess⟩, -⟩, -⟩ := hGuard
    obtain ⟨first, hFirst⟩ := isFinite_iff.mp hBegin
    obtain ⟨last, hLast⟩ := isFinite_iff.mp hEnd
    rw [hFirst, hLast, le_finite, not_le] at hLess
    obtain ⟨stretches, rfl, hOrder⟩ := ih h
    refine ⟨⟨first, last, interval.role⟩ :: stretches, ?_, ?_⟩
    · cases interval
      simp_all [scheduleInterval]
    · intro s hs
      rcases List.mem_cons.mp hs with rfl | hs
      · exact hLess
      · exact hOrder s hs

theorem stretches_of_valid {F : Type} {bundle : CandidateBundle (ExactReal K) F}
    (h : bundle.roleScheduleValid = true) :
    ∃ (duration : K) (stretches : List (Stretch K CandidateRole)),
      bundle.durationS = .finite duration ∧ bundle.roleSchedule = stretches.map scheduleInterval ∧ stretches ≠ [] ∧
      ∀ s ∈ stretches, s.first < s.last := by
  unfold roleScheduleValid at h
  split at h
  · cases h
  rename_i hGuard
  simp only [Bool.or_eq_true, Bool.not_eq_true', decide_eq_true_eq, not_or,
    Bool.not_eq_false] at hGuard
  obtain ⟨⟨hFinite, -⟩, hNonempty⟩ := hGuard
  obtain ⟨duration, hDuration⟩ := isFinite_iff.mp hFinite
  split at h
  · cases h
  rename_i cursor hCursor
  obtain ⟨stretches, hSchedule, hOrder⟩ := stretches_of_scheduleCursor hCursor
  refine ⟨duration, stretches, hDuration, hSchedule, ?_, hOrder⟩
  rintro rfl
  exact hNonempty (by rw [hSchedule]; rfl)

end

/-! ## Covered exactly without holes -/

section Valid
variable {F : Type} {bundle : CandidateBundle (ExactReal K) F} {duration t : K}
  {stretches : List (Stretch K CandidateRole)}

/-- The role of a time of the duration: that of the first convertible interval that holds its
nanosecond, or the last one at the last nanosecond. -/
theorem scheduledRole_within (hValid : bundle.roleScheduleValid = true)
    (hDuration : bundle.durationS = .finite duration)
    (hSchedule : bundle.roleSchedule = stretches.map scheduleInterval)
    (hOrder : ∀ s ∈ stretches, s.first < s.last) (ht : 0 ≤ t) (htd : t ≤ duration) :
    bundle.scheduledRole (.finite t) = if nanoseconds t ≤ 2 ^ 63 - 1 then
      (labelAt nanoseconds (nanoseconds t) (stretches.filter convertible)).or
        (if nanoseconds duration ≤ 2 ^ 63 - 1 ∧ nanoseconds duration = nanoseconds t then
          lastLabel stretches else none) else none := by
  have hLast : bundle.roleSchedule.getLast?.map (·.role) = lastLabel stretches := by
    rw [hSchedule, List.getLast?_map, Option.map_map]
    rfl
  unfold scheduledRole
  rw [if_neg (within_schedule hValid hDuration ht htd), toOffsetNs_eq]
  by_cases hFits : nanoseconds t ≤ 2 ^ 63 - 1
  · rw [if_pos ⟨ht, hFits⟩, if_pos hFits]
    dsimp only
    rw [hSchedule, intervalRole_eq _ _ hOrder]
    cases labelAt nanoseconds (nanoseconds t) (stretches.filter convertible) with
    | some role => rfl
    | none =>
      have hEnd : toOffsetNs (finite duration) =
          if nanoseconds duration ≤ 2 ^ 63 - 1 then some (nanoseconds duration) else none := by
        rw [toOffsetNs_eq]
        simp only [ht.trans htd, true_and]
      rw [Option.none_or, ← hSchedule, hLast, hDuration, hEnd]
      by_cases hRounded : nanoseconds duration ≤ 2 ^ 63 - 1
      · simp only [hRounded, if_true, true_and, Option.some.injEq]
      · simp only [hRounded, if_false, false_and, reduceCtorEq]
  · rw [if_neg fun h : 0 ≤ t ∧ nanoseconds t ≤ 2 ^ 63 - 1 => hFits h.2, if_neg hFits]

omit [SquareRoot K] in
theorem exists_time {n : Int} (hn : 0 ≤ n) (hLess : n < nanoseconds duration)
    (hDuration : 0 ≤ duration) : ∃ t : K, 0 ≤ t ∧ t ≤ duration ∧ nanoseconds t = n := by
  refine ⟨(n : K) * (1 / 1000000000), by positivity, ?_, nanoseconds_of_int hn⟩
  have hBound := (nanoseconds_bounds hDuration).1
  have hNext : ((n : K) + 1) ≤ nanoseconds duration := by exact_mod_cast hLess
  linarith

section
variable (hValid : bundle.roleScheduleValid = true)
  (hDuration : bundle.durationS = .finite duration)
  (hSchedule : bundle.roleSchedule = stretches.map scheduleInterval)
  (hOrder : ∀ s ∈ stretches, s.first < s.last)
include hValid hDuration hSchedule hOrder

theorem gapless_of_scheduled (hNonneg : 0 ≤ duration)
    (h : ScheduledThroughout bundle duration stretches) : Gapless duration stretches := by
  -- before the last nanosecond the role can only come from an interval
  have hHeld (n : Int) (hn : 0 ≤ n) (hLess : n < nanoseconds duration) :
      ∃ s ∈ stretches.filter convertible, holds nanoseconds n s = true := by
    obtain ⟨t, ht, htd, rfl⟩ := exists_time hn hLess hNonneg
    obtain ⟨role, hRole, -⟩ := h t ht htd
    rw [scheduledRole_within hValid hDuration hSchedule hOrder ht htd] at hRole
    split at hRole
    · rw [if_neg fun hEnd => hLess.ne hEnd.2.symm, Option.or_none] at hRole
      rw [← labelAt_isSome, hRole]
      rfl
    · cases hRole
  obtain ⟨role, hRole, -, hEnd⟩ := h duration hNonneg le_rfl
  rw [scheduledRole_within hValid hDuration hSchedule hOrder hNonneg le_rfl] at hRole
  split at hRole
  · rename_i hFits
    refine ⟨hFits, fun hPositive => hHeld 0 le_rfl hPositive, ?_, ?_⟩
    · intro s hs hLess
      have hUsed : convertible s = true := (List.mem_filter.mp hs).2
      simp only [convertible, Bool.and_eq_true, decide_eq_true_eq] at hUsed
      have hLast := nanoseconds_nonneg (hUsed.1.trans (hOrder s (List.mem_filter.mp hs).1).le)
      exact hHeld _ hLast hLess
    · intro other hOther
      rw [hOther, Option.some_or] at hRole
      rw [hRole]
      exact hEnd rfl
  · cases hRole

theorem scheduled_of_gapless (hNonempty : stretches ≠ [])
    (h : Gapless duration stretches) : ScheduledThroughout bundle duration stretches := by
  intro t ht htd
  have hRounded := nanoseconds_mono htd
  rw [scheduledRole_within hValid hDuration hSchedule hOrder ht htd, if_pos (hRounded.trans h.fits)]
  rcases hRounded.lt_or_eq with hLess | hSame
  · have hHeld := held_of_ends h.start (fun s hs _ => h.ends s hs) (nanoseconds_nonneg ht) hLess
    obtain ⟨role, hRole⟩ := Option.isSome_iff_exists.mp (labelAt_isSome.mpr hHeld)
    obtain ⟨s, hs, hHolds, hLabel⟩ := exists_of_labelAt hRole
    refine ⟨role, by rw [hRole]; rfl, ?_, fun hSame => absurd hSame hLess.ne⟩
    intro _
    exact ⟨s, (List.mem_filter.mp hs).1, hHolds, hLabel⟩
  · obtain ⟨final, hFinal⟩ : ∃ final, lastLabel stretches = some final := by
      refine ⟨(stretches.getLast hNonempty).label, ?_⟩
      rw [lastLabel, List.getLast?_eq_some_getLast hNonempty]
      rfl
    rw [hSame, if_pos ⟨h.fits, rfl⟩, hFinal]
    refine ⟨final, ?_, fun hLess => absurd hLess (lt_irrefl _), fun _ => rfl⟩
    cases hFound : labelAt nanoseconds (nanoseconds duration) (stretches.filter convertible) with
    | none => rfl
    | some role =>
      have hLast := h.last role hFound
      rw [hFinal] at hLast
      rw [hLast]
      rfl

end

omit [IsStrictOrderedRing K] in
theorem duration_nonneg (hValid : bundle.roleScheduleValid = true)
    (hDuration : bundle.durationS = .finite duration) : 0 ≤ duration := by
  unfold roleScheduleValid at hValid
  split at hValid
  · cases hValid
  rename_i hGuard
  simp only [hDuration, Bool.or_eq_true, decide_eq_true_eq, not_or, lit_finite,
    lt_finite, Rat.cast_zero, not_lt] at hGuard
  exact hGuard.1.2

end Valid

/-- A bundle with a valid schedule has a role for every time of its duration exactly when the
rounded schedule has no gap. -/
theorem scheduled_iff_gapless {F : Type} {bundle : CandidateBundle (ExactReal K) F}
    (hValid : bundle.roleScheduleValid = true) :
    ∃ (duration : K) (stretches : List (Stretch K CandidateRole)),
      bundle.durationS = .finite duration ∧
      bundle.roleSchedule = stretches.map scheduleInterval ∧
      (ScheduledThroughout bundle duration stretches ↔ Gapless duration stretches) := by
  obtain ⟨duration, stretches, hDuration, hSchedule, hNonempty, hOrder⟩ :=
    stretches_of_valid hValid
  have hNonneg := duration_nonneg hValid hDuration
  refine ⟨duration, stretches, hDuration, hSchedule, ?_, ?_⟩
  · exact gapless_of_scheduled hValid hDuration hSchedule hOrder hNonneg
  · exact scheduled_of_gapless hValid hDuration hSchedule hOrder hNonempty

end Coverage

open ExecutionAuthority (StraightFlight flightBundle)

/-- The second interval begins 50 ns behind the end of the first one. -/
def gappedStretches : List (Stretch ℚ CandidateRole) :=
  [⟨0, 200e-9, .main⟩, ⟨250e-9, 399e-9, .main⟩]

def gappedBundle : CandidateBundle (ExactReal ℚ) StraightFlight :=
  { (flightBundle 27 1).object with roleSchedule := gappedStretches.map scheduleInterval }

/-- The bundle is valid, and at 220 ns it has no role and no sample. -/
theorem valid_schedule_with_gap :
    gappedBundle.valid = true ∧ gappedBundle.roleScheduleValid = true ∧
      gappedBundle.durationS = .finite 399e-9 ∧
      gappedBundle.scheduledRole (.finite 220e-9) = none ∧
      gappedBundle.sampleAtDeclaredStamp 221 = none ∧
      ¬ ScheduledThroughout gappedBundle 399e-9 gappedStretches := by
  have hNone : gappedBundle.scheduledRole (.finite 220e-9) = none := by decide +kernel
  refine ⟨by decide +kernel, by decide +kernel, by decide +kernel, hNone, by decide +kernel, ?_⟩
  intro h
  obtain ⟨role, hRole, -⟩ := h 220e-9 (by norm_num) (by norm_num)
  rw [hNone] at hRole
  cases hRole

/-- A main and a backup interval that meet at 200 ns. -/
def meetingStretches : List (Stretch ℚ CandidateRole) :=
  [⟨0, 200e-9, .main⟩, ⟨200e-9, 399e-9, .backup⟩]

def meetingBundle : CandidateBundle (ExactReal ℚ) StraightFlight :=
  { (flightBundle 27 1).object with
    kind := .mainWithBackup, backupAvailable := true
    roleSchedule := meetingStretches.map scheduleInterval }

theorem meetingStretches_gapless : Gapless 399e-9 meetingStretches := by
  refine ⟨by decide +kernel, fun _ => by decide +kernel, by decide +kernel, ?_⟩
  intro role hRole
  have hNone : labelAt nanoseconds (nanoseconds (399e-9 : ℚ))
      (meetingStretches.filter convertible) = none := by decide +kernel
  rw [hNone] at hRole
  cases hRole

/-- Two intervals without a gap have a role at every time. -/
theorem meeting_schedule_covered : meetingBundle.valid = true ∧
    meetingBundle.roleScheduleValid = true ∧ ScheduledThroughout meetingBundle 399e-9 meetingStretches := by
  have hValid : meetingBundle.roleScheduleValid = true := by decide +kernel
  refine ⟨by decide +kernel, hValid, ?_⟩
  obtain ⟨duration, stretches, hDuration, hSchedule, hIff⟩ := scheduled_iff_gapless hValid
  have hInjective : Function.Injective (scheduleInterval (K := ℚ)) := by
    rintro ⟨first, last, label⟩ ⟨first', last', label'⟩ h
    simpa [scheduleInterval] using h
  obtain rfl : stretches = meetingStretches := (List.map_injective_iff.mpr hInjective hSchedule).symm
  obtain rfl : duration = 399e-9 := (ExactReal.finite.inj hDuration).symm
  exact hIff.mpr meetingStretches_gapless

end UavNavigation
