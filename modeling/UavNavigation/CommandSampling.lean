import UavNavigation.ExactReals
import UavNavigation.RoundedPartition
import UavNavigation.AuthorityInvariant

/-!
# Sampling an exported command

The evaluator of an exported command finds the role of a stamp from the elapsed
nanoseconds, and the bundle finds it from the rounded trajectory time. Over exact
seconds both read the same partition of the duration, and the theorem at the end
says for which commands they agree at every declared stamp.

The declared start, the declared end and the duration are rounded one by one, so
the declared span may differ from the rounded duration by one nanosecond.
-/

namespace UavNavigation

set_option autoImplicit false

open FloatOps RoundedPartition ExactReal CandidateBundle

/-! ## Rounded nanoseconds -/

section Nanoseconds
variable {K : Type} [Field K] [LinearOrder K] [FloorRing K] [SquareRoot K] [IsStrictOrderedRing K]

/-- A time in seconds, in nanoseconds, rounded half away from zero. -/
def nanoseconds (x : K) : Int := roundAway (x * 1000000000)

section
omit [SquareRoot K]

theorem nanoseconds_of_nonneg {x : K} (hx : 0 ≤ x) : nanoseconds x = ⌊x * 1000000000 + 1 / 2⌋ := by
  have hScaled : 0 ≤ x * 1000000000 := by positivity
  exact if_pos hScaled

theorem nanoseconds_zero : nanoseconds (0 : K) = 0 := by
  unfold nanoseconds
  rw [zero_mul]
  exact roundAway_zero

theorem nanoseconds_bounds {x : K} (hx : 0 ≤ x) : (nanoseconds x : K) ≤ x * 1000000000 + 1 / 2 ∧
      x * 1000000000 - 1 / 2 < (nanoseconds x : K) := by
  rw [nanoseconds_of_nonneg hx]
  have hLow := Int.floor_le (x * 1000000000 + 1 / 2)
  have hHigh := Int.lt_floor_add_one (x * 1000000000 + 1 / 2)
  refine ⟨hLow, ?_⟩
  linarith

theorem roundAway_mono : Monotone (roundAway : K → Int) := by
  intro x y hxy
  unfold roundAway
  by_cases hx : 0 ≤ x
  · rw [if_pos hx, if_pos (hx.trans hxy)]
    exact Int.floor_le_floor (by linarith)
  · rw [if_neg hx]
    by_cases hy : 0 ≤ y
    · rw [if_pos hy]
      have hLow : ⌈x - 1 / 2⌉ ≤ 0 := Int.ceil_le.mpr (by push_cast; linarith [not_le.mp hx])
      have hHigh : 0 ≤ ⌊y + 1 / 2⌋ := Int.floor_nonneg.mpr (by linarith)
      exact hLow.trans hHigh
    · rw [if_neg hy]
      exact Int.ceil_le_ceil (by linarith)

theorem nanoseconds_mono : Monotone (nanoseconds : K → Int) := by
  intro x y hxy
  apply roundAway_mono
  linarith

theorem nanoseconds_nonneg {x : K} (hx : 0 ≤ x) : 0 ≤ nanoseconds x := by
  have h := nanoseconds_mono hx
  rwa [nanoseconds_zero] at h

theorem nanoseconds_of_int {n : Int} (hn : 0 ≤ n) :
    nanoseconds ((n : K) * (1 / 1000000000)) = n := by
  have hNonneg : (0 : K) ≤ (n : K) * (1 / 1000000000) := by positivity
  rw [nanoseconds_of_nonneg hNonneg]
  have hScaled : (n : K) * (1 / 1000000000) * 1000000000 + 1 / 2 = n + 1 / 2 := by ring
  rw [hScaled, Int.floor_intCast_add]
  have hHalf : ⌊(1 / 2 : K)⌋ = 0 := by
    rw [Int.floor_eq_iff]
    constructor <;> norm_num
  omega

theorem nanoseconds_span {start duration : K} (hs : 0 ≤ start) (hd : 0 ≤ duration) :
    nanoseconds duration - 1 ≤ nanoseconds (start + duration) - nanoseconds start ∧
      nanoseconds (start + duration) - nanoseconds start ≤ nanoseconds duration + 1 := by
  obtain ⟨hs1, hs2⟩ := nanoseconds_bounds hs
  obtain ⟨hd1, hd2⟩ := nanoseconds_bounds hd
  obtain ⟨he1, he2⟩ := nanoseconds_bounds (add_nonneg hs hd)
  have hLow : ((nanoseconds duration + nanoseconds start : Int) : K) <
      (nanoseconds (start + duration) + 2 : Int) := by
    push_cast
    linarith
  have hHigh : ((nanoseconds (start + duration) : Int) : K) <
      (nanoseconds duration + nanoseconds start + 2 : Int) := by
    push_cast
    linarith
  have hLow' := Int.cast_lt.mp hLow
  have hHigh' := Int.cast_lt.mp hHigh
  omega

theorem elapsed_le_duration {start duration : K} (hs : 0 ≤ start) (hd : 0 ≤ duration) {n : Int}
    (hn : n < nanoseconds (start + duration) - nanoseconds start) :
    (n : K) * (1 / 1000000000) ≤ duration := by
  obtain ⟨-, hStart⟩ := nanoseconds_bounds hs
  obtain ⟨hEnd, -⟩ := nanoseconds_bounds (add_nonneg hs hd)
  have hStep : n + 1 ≤ nanoseconds (start + duration) - nanoseconds start := by omega
  have hCast : ((n + 1 : Int) : K) ≤
      ((nanoseconds (start + duration) - nanoseconds start : Int) : K) := Int.cast_le.mpr hStep
  push_cast at hCast
  linarith

end

theorem round_scaled (x : K) :
    round ((Floating.widen (finite x) : Floating.LongDouble (ExactReal K)) *
      (lit 1000000000 : Floating.LongDouble (ExactReal K))) =
      (finite (nanoseconds x : K) : ExactReal K) := by
  have hScale : ((1000000000 : ℚ) : K) = 1000000000 := by norm_num
  change finite ((roundAway (x * ((1000000000 : ℚ) : K)) : Int) : K) = _
  rw [hScale]
  rfl

omit [SquareRoot K] in
theorem truncate_int (n : Int) : truncate (n : K) = n := by
  simp [truncate]

theorem llroundNs_finite (x : K) : llroundNs (finite x) = nanoseconds x := by
  unfold llroundNs
  rw [round_scaled]
  exact truncate_int _

theorem toOffsetNs_finite {x : K} (hx : 0 ≤ x) (hBound : nanoseconds x ≤ 2 ^ 63 - 1) :
    toOffsetNs (finite x) = some (nanoseconds x) := by
  have hNeg : ¬ (finite x < (lit 0 : ExactReal K)) := by
    rw [lit_finite, lt_finite]
    push_cast
    exact not_lt.mpr hx
  have hFits : ¬ ((ofInt (2 ^ 63 - 1) : ExactReal K) < finite (nanoseconds x : K)) := by
    change ¬ (((2 ^ 63 - 1 : Int) : K) < ((nanoseconds x : Int) : K))
    rw [Int.cast_lt]
    omega
  unfold toOffsetNs
  simp only [isFinite_finite, Bool.not_true, Bool.false_or, decide_eq_true_eq, hNeg, if_false]
  rw [round_scaled]
  erw [if_neg (by simpa using hFits)]
  exact congrArg some (truncate_int _)

theorem roundedNanoseconds_finite {n ns : Int}
    (h : @roundedNanoseconds (ExactReal K) _ (finite (n : K)) = some ns) :
    ns = n ∧ n ≤ 2 ^ 63 - 1 := by
  unfold roundedNanoseconds at h
  split at h
  · cases h
  · rename_i hGuard
    simp only [Bool.or_eq_true, decide_eq_true_eq, not_or] at hGuard
    have hFits : ¬ (((2 ^ 63 - 1 : Int) : K) < ((n : Int) : K)) := hGuard.2
    rw [Int.cast_lt] at hFits
    exact ⟨(Option.some.inj h).symm.trans (truncate_int n), by omega⟩

theorem secondsToNanoseconds_finite {x : K} {ns : Int}
    (h : secondsToNanoseconds (finite x) = some ns) : 0 ≤ x ∧ ns = nanoseconds x := by
  unfold secondsToNanoseconds at h
  split at h
  · cases h
  · rename_i hGuard
    rw [round_scaled] at h
    refine ⟨?_, (roundedNanoseconds_finite h).1⟩
    simpa [lit_finite] using hGuard

theorem secondsSumToNanoseconds_finite {x y : K} {ns : Int}
    (h : secondsSumToNanoseconds (finite x) (finite y) = some ns) :
    0 ≤ y ∧ ns = nanoseconds (x + y) ∧ ns ≤ 2 ^ 63 - 1 := by
  unfold secondsSumToNanoseconds at h
  split at h
  · cases h
  · rename_i hGuard
    have hSum := round_scaled (x + y)
    erw [hSum] at h
    obtain ⟨rfl, hFits⟩ := roundedNanoseconds_finite h
    refine ⟨?_, rfl, hFits⟩
    simp only [lit_finite, isFinite_finite, lt_finite, Rat.cast_zero, Bool.not_true, Bool.false_or,
      Bool.or_eq_true, decide_eq_true_eq, not_or, not_lt] at hGuard
    exact hGuard.2

end Nanoseconds

/-! ## The roles of a command as a partition -/

section Roles
variable {K : Type} [Field K] [LinearOrder K] [FloorRing K] [SquareRoot K] [IsStrictOrderedRing K]

def roleInterval (s : Stretch K CandidateTrajectoryRole) : CommandRoleInterval (ExactReal K) :=
  ⟨.finite s.first, .finite s.last, s.label⟩

section
omit [IsStrictOrderedRing K]

theorem covers_of_completeCursor {roles : List (CommandRoleInterval (ExactReal K))} {c : K}
    {cursor : ExactReal K} (h : completeCursor (.finite c) roles = some cursor) :
    ∃ d stretches, cursor = .finite d ∧ roles = stretches.map roleInterval ∧
      Covers c d stretches := by
  induction roles generalizing c with
  | nil => exact ⟨c, [], (Option.some.inj h).symm, rfl, rfl⟩
  | cons interval rest ih =>
    unfold completeCursor at h
    split at h
    · cases h
    rename_i hGuard
    simp only [Bool.or_eq_true, Bool.not_eq_true', decide_eq_true_eq, not_or,
      Bool.not_eq_false] at hGuard
    obtain ⟨⟨⟨⟨hBegin, hEnd⟩, -⟩, hLess⟩, hCursor⟩ := hGuard
    obtain ⟨first, hFirst⟩ := isFinite_iff.mp hBegin
    obtain ⟨last, hLast⟩ := isFinite_iff.mp hEnd
    rw [hFirst, hLast] at hLess
    rw [hFirst, equal_finite, decide_eq_true_eq] at hCursor
    rw [hLast] at h
    obtain ⟨d, stretches, rfl, rfl, hCovers⟩ := ih h
    refine ⟨d, ⟨first, last, interval.role⟩ :: stretches, rfl, ?_, hCursor, ?_, hCovers⟩
    · cases interval
      simp_all [roleInterval]
    · exact not_le.mp hLess

theorem covers_of_complete {command : CandidateCommandBundle (ExactReal K)}
    (h : candidateRoleScheduleIsComplete command = true) :
    ∃ duration stretches, command.position.totalDuration = .finite duration ∧
      command.roles = stretches.map roleInterval ∧ stretches ≠ [] ∧
      Covers 0 duration stretches := by
  unfold candidateRoleScheduleIsComplete at h
  dsimp only at h
  split at h
  · cases h
  rename_i hGuard
  simp only [Bool.or_eq_true, Bool.not_eq_true', decide_eq_true_eq, not_or,
    Bool.not_eq_false] at hGuard
  obtain ⟨⟨hFinite, -⟩, hNonempty⟩ := hGuard
  obtain ⟨duration, hDuration⟩ := isFinite_iff.mp hFinite
  have hZero : (lit 0 : ExactReal K) = .finite 0 := by rw [lit_finite, Rat.cast_zero]
  rw [hZero] at h
  split at h
  · cases h
  rename_i cursor hCursor
  obtain ⟨d, stretches, rfl, hRoles, hCovers⟩ := covers_of_completeCursor hCursor
  rw [hDuration, equal_finite, decide_eq_true_eq] at h
  subst d
  refine ⟨duration, stretches, hDuration, hRoles, ?_, hCovers⟩
  rintro rfl
  exact hNonempty (by rw [hRoles]; rfl)

end

theorem evaluatesBackup_eq_marks (elapsedNs durationNs : Int)
    (stretches : List (Stretch K CandidateTrajectoryRole)) :
    evaluatesBackup elapsedNs durationNs (stretches.map roleInterval) =
      marks nanoseconds elapsedNs (elapsedNs == durationNs) (· == .backup) stretches := by
  induction stretches with
  | nil => rfl
  | cons s rest ih =>
    simp only [List.map_cons, evaluatesBackup, marks, ih, roleInterval, llroundNs_finite,
      List.isEmpty_map]

def exportedInterval (emergencyCandidate : Bool) (s : Stretch K CandidateTrajectoryRole) :
    CandidateRoleInterval (ExactReal K) :=
  ⟨.finite s.first, .finite s.last, exportedRole emergencyCandidate s.label⟩

theorem intervalRole_eq_labelAt (emergencyCandidate : Bool) (n : Int)
    {stretches : List (Stretch K CandidateTrajectoryRole)}
    (hFits : ∀ s ∈ stretches, 0 ≤ s.first ∧ s.first ≤ s.last ∧ nanoseconds s.last ≤ 2 ^ 63 - 1) :
    intervalRole n (stretches.map (exportedInterval emergencyCandidate)) =
      (labelAt nanoseconds n stretches).map (exportedRole emergencyCandidate) := by
  induction stretches with
  | nil => rfl
  | cons s rest ih =>
    obtain ⟨hFirst, hOrder, hLast⟩ := hFits s List.mem_cons_self
    have hRest := ih fun t ht => hFits t (List.mem_cons_of_mem s ht)
    have hBegin := toOffsetNs_finite hFirst ((nanoseconds_mono hOrder).trans hLast)
    have hEnd := toOffsetNs_finite (hFirst.trans hOrder) hLast
    rw [labelAt_cons, List.map_cons]
    simp only [intervalRole, exportedInterval, hBegin, hEnd]
    by_cases hHolds : holds nanoseconds n s = true
    · rw [if_pos hHolds]
      exact if_pos hHolds
    · rw [if_neg hHolds, ← hRest]
      exact if_neg hHolds

variable {F : Type} {bundle : CandidateBundle (ExactReal K) F} {duration t : K}
  {stretches : List (Stretch K CandidateTrajectoryRole)} {emergencyCandidate : Bool}

theorem within_schedule (hValid : bundle.roleScheduleValid = true)
    (hDuration : bundle.durationS = .finite duration) (ht : 0 ≤ t) (htd : t ≤ duration) :
    ¬ (!bundle.roleScheduleValid || !isFinite (finite t) || finite t < (lit 0 : ExactReal K) ||
      bundle.durationS + lit 1e-9 < finite t) := by
  rw [hDuration, hValid, lit_finite, lit_finite, add_finite]
  simp only [isFinite_finite, lt_finite, Bool.not_true, Bool.false_or, Bool.or_eq_true,
    decide_eq_true_eq, not_or, not_lt]
  exact ⟨by simpa using ht, by linarith⟩

/-- The role the schedule has at a time within the duration: the role of the interval that
holds its nanosecond, and at the last nanosecond the last role. -/
theorem scheduledRole_eq (hValid : bundle.roleScheduleValid = true)
    (hDuration : bundle.durationS = .finite duration)
    (hSchedule : bundle.roleSchedule = stretches.map (exportedInterval emergencyCandidate))
    (hCovers : Covers 0 duration stretches) (hFits : nanoseconds duration ≤ 2 ^ 63 - 1)
    (ht : 0 ≤ t) (htd : t ≤ duration) :
    bundle.scheduledRole (.finite t) =
      (if nanoseconds t < nanoseconds duration then labelAt nanoseconds (nanoseconds t) stretches
        else lastLabel stretches).map (exportedRole emergencyCandidate) := by
  have hOrder := nanoseconds_mono htd
  have hSample := toOffsetNs_finite ht (hOrder.trans hFits)
  have hLast := toOffsetNs_finite (ht.trans htd) hFits
  have hRole : intervalRole (nanoseconds t) bundle.roleSchedule =
      (labelAt nanoseconds (nanoseconds t) stretches).map (exportedRole emergencyCandidate) := by
    rw [hSchedule]
    apply intervalRole_eq_labelAt
    intro s hs
    obtain ⟨hFirst, hLess, hEnd⟩ := hCovers.bounds hs
    exact ⟨hFirst, hLess.le, (nanoseconds_mono hEnd).trans hFits⟩
  unfold scheduledRole
  rw [if_neg (within_schedule hValid hDuration ht htd), hSample, hDuration, hLast]
  simp only [hRole]
  by_cases hBefore : nanoseconds t < nanoseconds duration
  · rw [if_pos hBefore]
    have hFirst := nanoseconds_nonneg ht
    rw [← @nanoseconds_zero K] at hFirst
    obtain ⟨label, hLabel⟩ := exists_labelAt hCovers hFirst hBefore
    rw [hLabel]
    rfl
  · rw [if_neg hBefore, labelAt_beyond nanoseconds_mono hCovers (not_lt.mp hBefore)]
    have hSame : nanoseconds duration = nanoseconds t := le_antisymm (not_lt.mp hBefore) hOrder
    rw [hSame]
    simp only [Option.map_none, if_true, hSchedule, lastLabel, List.getLast?_map, Option.map_map]
    rfl

end Roles

/-! ## When the two lookups agree -/

section Agreement
variable {P : Type} [LinearOrder P] {f : P → Int} {c d : P} {span n : Int}
  {stretches : List (Stretch P CandidateTrajectoryRole)}

/-- What the evaluator finds at the nanosecond `n` of a span. -/
def evaluatedRole (f : P → Int) (span n : Int)
    (stretches : List (Stretch P CandidateTrajectoryRole)) : CandidateTrajectoryRole :=
  if marks f n (n == span) (· == .backup) stretches then .backup else .main

/-- What the schedule finds there, where `rounded` is the rounded duration. -/
def plannedRole (f : P → Int) (rounded span n : Int)
    (stretches : List (Stretch P CandidateTrajectoryRole)) : Option CandidateTrajectoryRole :=
  if n < span ∧ n < rounded then labelAt f n stretches else lastLabel stretches

theorem any_backup (role : CandidateTrajectoryRole) :
    (if (some role).any (· == .backup) then CandidateTrajectoryRole.backup else .main) =
      role := by
  cases role <;> rfl

omit [LinearOrder P] in
theorem exists_lastLabel (h : stretches ≠ []) : ∃ role, lastLabel stretches = some role := by
  refine ⟨(stretches.getLast h).label, ?_⟩
  rw [lastLabel, List.getLast?_eq_some_getLast h]
  rfl

variable (hf : Monotone f) (hCovers : Covers c d stretches)
include hf hCovers

theorem labelAt_eq_evaluatedRole (hc : f c ≤ n) (hd : n < f d) :
    labelAt f n stretches = some (evaluatedRole f span n stretches) := by
  obtain ⟨role, hRole⟩ := exists_labelAt hCovers hc hd
  unfold evaluatedRole
  rw [marks_inside hf hCovers hd, hRole, any_backup]

theorem lastLabel_eq_evaluatedRole (hNonempty : stretches ≠ []) (hd : f d ≤ span) :
    lastLabel stretches = some (evaluatedRole f span span stretches) := by
  obtain ⟨role, hRole⟩ := exists_lastLabel hNonempty
  unfold evaluatedRole
  rw [marks_beyond hf hCovers hd, hRole, beq_self_eq_true, Bool.true_and, any_backup]

theorem evaluatedRole_between (hd : f d ≤ n) (hSpan : n ≠ span) :
    evaluatedRole f span n stretches = .main := by
  unfold evaluatedRole
  rw [marks_beyond hf hCovers hd, beq_false_of_ne hSpan]
  rfl

/-- At every nanosecond both lookups find the same role, and it is one the bundle allows. -/
def AgreeThroughout (f : P → Int) (rounded span : Int) (available : Bool)
    (stretches : List (Stretch P CandidateTrajectoryRole)) : Prop :=
  ∀ n, 0 ≤ n → n ≤ span →
    plannedRole f rounded span n stretches = some (evaluatedRole f span n stretches) ∧
      (available = true ∨ evaluatedRole f span n stretches = .main)

def BackupUnseen (f : P → Int) (stretches : List (Stretch P CandidateTrajectoryRole)) : Prop :=
  lastLabel stretches = some .main ∧ ∀ s ∈ stretches, s.label = .backup → f s.first = f s.last

def SpanAgrees (f : P → Int) (rounded span : Int)
    (stretches : List (Stretch P CandidateTrajectoryRole)) : Prop :=
  span = rounded ∨ (span = rounded + 1 ∧ lastLabel stretches = some .main) ∨
    (span = rounded - 1 ∧ labelAt f (rounded - 1) stretches = lastLabel stretches)

variable {available : Bool} (hZero : f c = 0)
include hZero

theorem backupUnseen_of_agree (hNear : f d - 1 ≤ span) (hAgree : ∀ n, 0 ≤ n → n ≤ span →
      plannedRole f (f d) span n stretches = some (evaluatedRole f span n stretches) ∧
        evaluatedRole f span n stretches = .main) (hSpan : 0 ≤ span) :
    BackupUnseen f stretches := by
  constructor
  · obtain ⟨hPlanned, hMain⟩ := hAgree span hSpan le_rfl
    rw [hMain] at hPlanned
    simpa [plannedRole] using hPlanned
  · intro s hs hBackup
    obtain ⟨hFirst, hLess, hLast⟩ := hCovers.bounds hs
    have h1 := hf hFirst
    have h2 := hf hLess.le
    have h3 := hf hLast
    by_contra hSeen
    -- The first nanosecond of the interval is one of the span.
    have hHolds : holds f (f s.first) s = true := by
      simp only [holds, Bool.and_eq_true, decide_eq_true_eq]
      omega
    have hLabel := labelAt_of_mem hf hCovers hs hHolds
    have hRole := @labelAt_eq_evaluatedRole P _ f c d span _ stretches hf hCovers h1
      (show f s.first < f d by omega)
    have hMain := (hAgree (f s.first) (by omega) (by omega)).2
    rw [hLabel, hBackup, hMain] at hRole
    cases hRole

theorem spanAgrees_of_agree (hSpan : 0 ≤ span) (hNear : f d - 1 ≤ span ∧ span ≤ f d + 1)
    (hAgree : ∀ n, 0 ≤ n → n ≤ span →
      plannedRole f (f d) span n stretches = some (evaluatedRole f span n stretches)) :
    SpanAgrees f (f d) span stretches := by
  have hEnd : lastLabel stretches = some (evaluatedRole f span span stretches) := by
    simpa [plannedRole] using hAgree span hSpan le_rfl
  have hOrder := hf hCovers.le
  rcases (show span = f d ∨ span = f d + 1 ∨ span = f d - 1 by omega) with h | h | h
  · exact .inl h
  · refine .inr (.inl ⟨h, ?_⟩)
    have hLast : lastLabel stretches = some (evaluatedRole f span (f d) stretches) := by
      simpa [plannedRole] using hAgree (f d) (by omega) (by omega)
    rwa [evaluatedRole_between hf hCovers le_rfl (by omega)] at hLast
  · refine .inr (.inr ⟨h, ?_⟩)
    rw [hEnd, ← h]
    exact labelAt_eq_evaluatedRole hf hCovers (by omega) (by omega)

variable (hNonempty : stretches ≠ [])
include hNonempty

theorem planned_of_spanAgrees (hSpan : SpanAgrees f (f d) span stretches) {n : Int} (hn : 0 ≤ n)
    (hEnd : n ≤ span) :
    plannedRole f (f d) span n stretches = some (evaluatedRole f span n stretches) := by
  unfold plannedRole
  by_cases hInside : n < span ∧ n < f d
  · rw [if_pos hInside]
    exact labelAt_eq_evaluatedRole hf hCovers (by omega) hInside.2
  · rw [if_neg hInside]
    rcases hSpan with h | ⟨h, hLast⟩ | ⟨h, hLast⟩
    · have hn' : n = span := by omega
      subst hn'
      exact lastLabel_eq_evaluatedRole hf hCovers hNonempty h.ge
    · by_cases hn' : n = span
      · subst hn'
        exact lastLabel_eq_evaluatedRole hf hCovers hNonempty (by omega)
      · rw [evaluatedRole_between hf hCovers (by omega) hn', hLast]
    · have hn' : n = span := by omega
      subst hn'
      rw [← hLast, ← h]
      exact labelAt_eq_evaluatedRole hf hCovers (by omega) (by omega)

theorem evaluated_main_of_unseen (hUnseen : BackupUnseen f stretches) {n : Int} (hn : 0 ≤ n)
    (hEnd : n ≤ span) : evaluatedRole f span n stretches = .main := by
  obtain ⟨hLast, hEmpty⟩ := hUnseen
  by_cases hInside : n < f d
  · have hRole := @labelAt_eq_evaluatedRole P _ f c d span _ stretches hf hCovers (by omega) hInside
    cases hLabel : evaluatedRole f span n stretches with
    | main => rfl
    | backup =>
      rw [hLabel] at hRole
      obtain ⟨s, hFind, hBackup⟩ := Option.map_eq_some_iff.mp hRole
      have hHolds := List.find?_some hFind
      have hSame := hEmpty s (List.mem_of_find?_eq_some hFind) hBackup
      simp only [holds, Bool.and_eq_true, decide_eq_true_eq] at hHolds
      omega
  · by_cases hn' : n = span
    · subst hn'
      have hRole := lastLabel_eq_evaluatedRole hf hCovers hNonempty (not_lt.mp hInside)
      rw [hLast] at hRole
      exact (Option.some.inj hRole).symm
    · exact evaluatedRole_between hf hCovers (not_lt.mp hInside) hn'

theorem agreeThroughout_iff (hSpan : 0 ≤ span) (hNear : f d - 1 ≤ span ∧ span ≤ f d + 1) :
    AgreeThroughout f (f d) span available stretches ↔
      (available = true ∨ BackupUnseen f stretches) ∧ SpanAgrees f (f d) span stretches := by
  constructor
  · intro hAgree
    have hPlanned := fun n hn hEnd => (hAgree n hn hEnd).1
    refine ⟨?_, spanAgrees_of_agree hf hCovers hZero hSpan hNear hPlanned⟩
    cases hAvailable : available with
    | true => exact .inl rfl
    | false =>
      refine .inr (backupUnseen_of_agree hf hCovers hZero hNear.1 ?_ hSpan)
      intro n hn hEnd
      obtain ⟨hPlan, hAllowed⟩ := hAgree n hn hEnd
      exact ⟨hPlan, hAllowed.resolve_left (by rw [hAvailable]; decide)⟩
  · rintro ⟨hAllowed, hSpanAgrees⟩ n hn hEnd
    refine ⟨planned_of_spanAgrees hf hCovers hZero hNonempty hSpanAgrees hn hEnd, ?_⟩
    rcases hAllowed with h | hUnseen
    · exact .inl h
    · exact .inr (evaluated_main_of_unseen hf hCovers hZero hNonempty hUnseen hn hEnd)

end Agreement

/-! ## Exported candidates -/

def CandidateBundle.evaluatedPoint {D F : Type} [Floating D] [Evaluator D F]
    (bundle : CandidateBundle D F) (stampNs : Int) : Option (TrajectoryPoint D) :=
  match bundle.evaluator.bind (Evaluator.call · stampNs (TrajectoryPoint.initial bundle.role)) with
  | some (true, point) => some point
  | _ => none

/-- At every declared stamp the evaluator has a point with a role that is allowed and
scheduled, so that the bundle can be sampled there and at its end. -/
def CandidateBundle.SampledThroughout {D F : Type} [Floating D] [Evaluator D F]
    (bundle : CandidateBundle D F) : Prop :=
  (∀ stampNs, bundle.declaredStartNs ≤ stampNs → stampNs ≤ bundle.declaredEndNs →
    ∃ point, bundle.evaluatedPoint stampNs = some point ∧
      bundle.sampledRoleAllowed point.role = true ∧
      bundle.scheduledRole point.trajectoryTimeS = some point.role ∧
      bundle.sampleAtDeclaredStamp stampNs = some point) ∧
  bundle.sampleAtDeclaredEnd.isSome = true

section Sampling
variable {K : Type} [Field K] [LinearOrder K] [FloorRing K] [SquareRoot K] [IsStrictOrderedRing K]
  {command : CandidateCommandBundle (ExactReal K)}
  {candidate : CandidateBundle (ExactReal K) (CommandEvaluator (ExactReal K))}
  {start duration : K} {stretches : List (Stretch K CandidateTrajectoryRole)}

/-- The position and the yaw have finite states throughout the duration. -/
def CandidateCommandBundle.FiniteThroughout (command : CandidateCommandBundle (ExactReal K)) :
    Prop :=
  ∀ t, lit 0 ≤ t → t ≤ command.position.totalDuration →
    (command.position.getState t).allFinite = true ∧ (command.yaw.getState t).allFinite = true

/-- What the export of a complete command copies into the candidate. -/
structure ExportedAs (command : CandidateCommandBundle (ExactReal K))
    (candidate : CandidateBundle (ExactReal K) (CommandEvaluator (ExactReal K)))
    (start duration : K) (stretches : List (Stretch K CandidateTrajectoryRole)) : Prop where
  start_nonneg : 0 ≤ start
  duration_nonneg : 0 ≤ duration
  startWT : command.position.startWT = .finite start
  totalDuration : command.position.totalDuration = .finite duration
  roles : command.roles = stretches.map roleInterval
  covers : Covers 0 duration stretches
  nonempty : stretches ≠ []
  fits : nanoseconds (start + duration) ≤ 2 ^ 63 - 1
  start_pos : 0 < nanoseconds start
  declaredStart : candidate.declaredStartNs = nanoseconds start
  declaredEnd : candidate.declaredEndNs = nanoseconds (start + duration)
  durationS : candidate.durationS = .finite duration
  schedule : candidate.roleSchedule = stretches.map (exportedInterval command.emergencyCandidate)
  role : candidate.role = if command.emergencyCandidate then .emergency else .main
  backup : candidate.backupAvailable = command.backupSuffixAvailable
  evaluator : candidate.evaluator =
    some ⟨command, command.emergencyCandidate, nanoseconds start, nanoseconds (start + duration)⟩
  valid : candidate.valid = true

theorem exportedAs_of_ok {certificate : CommandCertificate (ExactReal K)} {request : ExportRequest}
    {boundary : Except CandidateExportFailure (RouteBoundary (ExactReal K))}
    (hComplete : candidateRoleScheduleIsComplete command = true)
    (h : exportStagedCommandCandidate command certificate request boundary = .ok candidate) :
    ∃ start duration stretches, ExportedAs command candidate start duration stretches := by
  obtain ⟨hStart, -, startNs, declaredEndNs, hStartNs, hEndNs, -, ⟨routeBoundary, rfl⟩, hValid⟩ :=
    exportStagedCommandCandidate_ok h
  obtain ⟨duration, stretches, hDuration, hRoles, hNonempty, hCovers⟩ := covers_of_complete hComplete
  obtain ⟨start, hStart⟩ := isFinite_iff.mp hStart
  rw [hStart] at hStartNs
  rw [hStart, hDuration] at hEndNs
  obtain ⟨hNonneg, rfl⟩ := secondsToNanoseconds_finite hStartNs
  obtain ⟨hDurationNonneg, rfl, hFits⟩ := secondsSumToNanoseconds_finite hEndNs
  refine ⟨start, duration, stretches, hNonneg, hDurationNonneg, hStart, hDuration, hRoles, hCovers,
    hNonempty, hFits, ?_, rfl, rfl, hDuration, ?_, rfl, rfl, rfl, hValid⟩
  · simp only [valid, endpointMetadataConsistent, Bool.and_eq_true, decide_eq_true_eq] at hValid
    have hConsistent := hValid.1.1.1.1.1.1.2
    exact hConsistent.1.1.1
  · simp only [buildCandidate, hRoles, List.map_map]
    rfl

theorem exportedRole_ite (emergencyCandidate backup : Bool) :
    exportedRole emergencyCandidate (if backup then .backup else .main) =
      if emergencyCandidate then .emergency else if backup then .backup else .main := by
  cases emergencyCandidate <;> cases backup <;> rfl

omit [IsStrictOrderedRing K] in
theorem finite_of_states {state yawState : StatePVAJ (ExactReal K)}
    (hState : state.allFinite = true) (hYaw : yawState.allFinite = true) :
    state.position.allFinite = true ∧ state.velocity.allFinite = true ∧
      state.acceleration.allFinite = true ∧ state.jerk.allFinite = true ∧
      isFinite yawState.position.x = true ∧ isFinite yawState.velocity.x = true := by
  simp only [StatePVAJ.allFinite, Bool.and_eq_true] at hState hYaw
  obtain ⟨⟨⟨hPosition, hVelocity⟩, hAcceleration⟩, hJerk⟩ := hState
  obtain ⟨⟨⟨hYawPosition, hYawVelocity⟩, -⟩, -⟩ := hYaw
  simp only [Vec3.allFinite, Bool.and_eq_true] at hYawPosition hYawVelocity
  exact ⟨hPosition, hVelocity, hAcceleration, hJerk, hYawPosition.1.1, hYawVelocity.1.1⟩

theorem evaluate_of_commandTime (e : CommandEvaluator (ExactReal K)) {stampNs : Int} {t : K}
    (hTime : commandTrajectoryTime stampNs e.startNs e.endNs e.command.position.totalDuration =
      ⟨false, .finite t⟩) (ht : 0 ≤ t)
    (hState : (e.command.position.getState (.finite t)).allFinite = true)
    (hYaw : (e.command.yaw.getState (.finite t)).allFinite = true)
    (initial : TrajectoryPoint (ExactReal K)) :
    ∃ point, e.evaluate stampNs initial = (true, point) ∧ point.finite = true ∧
      point.trajectoryTimeS = .finite t ∧
      point.role = (if e.emergencyCandidate then .emergency
        else if evaluatesBackup (stampNs - e.startNs) (e.endNs - e.startNs) e.command.roles
        then .backup else .main) := by
  have hNonneg : ¬ (finite t < (lit 0 : ExactReal K)) := by
    rw [lit_finite, lt_finite, Rat.cast_zero]
    exact not_lt.mpr ht
  unfold CommandEvaluator.evaluate
  simp only [hTime, if_neg hNonneg, hState, hYaw, Bool.not_true, Bool.or_self, Bool.false_eq_true,
    if_false]
  refine ⟨_, rfl, ?_, rfl, rfl⟩
  obtain ⟨h1, h2, h3, h4, h5, h6⟩ := finite_of_states hState hYaw
  simp only [TrajectoryPoint.finite, h1, h2, h3, h4, h5, h6, isFinite_finite, Bool.and_self]

namespace ExportedAs
variable (h : ExportedAs command candidate start duration stretches)
include h

theorem fits_duration : nanoseconds duration ≤ 2 ^ 63 - 1 := by
  apply (nanoseconds_mono _).trans h.fits
  linarith [h.start_nonneg]

theorem start_le_end : nanoseconds start ≤ nanoseconds (start + duration) := by
  apply nanoseconds_mono
  linarith [h.duration_nonneg]

/-- The trajectory time of the nanosecond `n` of the span. -/
theorem commandTime {n : Int} (hn : 0 ≤ n)
    (hSpan : n ≤ nanoseconds (start + duration) - nanoseconds start) :
    ∃ t, commandTrajectoryTime (nanoseconds start + n) (nanoseconds start)
        (nanoseconds (start + duration)) command.position.totalDuration = ⟨false, .finite t⟩ ∧
      0 ≤ t ∧ t ≤ duration ∧
      ((n < nanoseconds (start + duration) - nanoseconds start ∧ nanoseconds t = n) ∨
        (n = nanoseconds (start + duration) - nanoseconds start ∧ t = duration)) := by
  have hPos := h.start_pos
  have hDuration := h.duration_nonneg
  have hGuard : ¬ (nanoseconds start ≤ 0 || nanoseconds (start + duration) < nanoseconds start ||
      !isFinite (finite duration) ||
      decide (finite duration < (lit 0 : ExactReal K))) = true := by
    rw [lit_finite]
    simp only [Bool.or_eq_true, decide_eq_true_eq, isFinite_finite, Bool.not_true,
      lt_finite, Rat.cast_zero, not_or, not_lt, not_le]
    exact ⟨⟨⟨hPos, by omega⟩, by simp⟩, hDuration⟩
  unfold commandTrajectoryTime
  rw [h.totalDuration, if_neg hGuard]
  by_cases hEnd : n < nanoseconds (start + duration) - nanoseconds start
  · have hCast : (0 : K) ≤ n := by exact_mod_cast hn
    have hUnit : ((1 / 1000000000 : ℚ) : K) = 1 / 1000000000 := by norm_num
    refine ⟨(n : K) * (1 / 1000000000), ?_, by positivity,
      elapsed_le_duration h.start_nonneg hDuration hEnd, ?_⟩
    · have hElapsed : nanoseconds start + n - nanoseconds start = n := by omega
      rw [if_neg (by omega), hElapsed, lit_finite, hUnit]
      rfl
    · exact .inl ⟨hEnd, nanoseconds_of_int hn⟩
  · refine ⟨duration, ?_, hDuration, le_rfl, .inr ⟨by omega, rfl⟩⟩
    have hLast : nanoseconds start + n = nanoseconds (start + duration) := by omega
    rw [hLast, if_pos le_rfl]
    simp

variable (hFinite : command.FiniteThroughout)
include hFinite

theorem evaluatedPoint_spec {n : Int} (hn : 0 ≤ n)
    (hSpan : n ≤ nanoseconds (start + duration) - nanoseconds start) :
    ∃ point, candidate.evaluator.bind (Evaluator.call · (nanoseconds start + n)
        (TrajectoryPoint.initial candidate.role)) = some (true, point) ∧
      point.finite = true ∧
      point.role = exportedRole command.emergencyCandidate (evaluatedRole nanoseconds
        (nanoseconds (start + duration) - nanoseconds start) n stretches) ∧
      candidate.scheduledRole point.trajectoryTimeS =
        (plannedRole nanoseconds (nanoseconds duration)
          (nanoseconds (start + duration) - nanoseconds start) n stretches).map
          (exportedRole command.emergencyCandidate) ∧
      (n = nanoseconds (start + duration) - nanoseconds start →
        point.trajectoryTimeS = .finite duration) := by
  obtain ⟨t, hTime, ht, htd, hCase⟩ := h.commandTime hn hSpan
  have hZero : (lit 0 : ExactReal K) ≤ .finite t := by
    rw [lit_finite, le_finite, Rat.cast_zero]
    exact ht
  have hEnd : finite t ≤ command.position.totalDuration := by
    rw [h.totalDuration, le_finite]
    exact htd
  obtain ⟨hState, hYaw⟩ := hFinite (.finite t) hZero hEnd
  obtain ⟨point, hPoint, hPointFinite, hPointTime, hRole⟩ := evaluate_of_commandTime
    ⟨command, command.emergencyCandidate, nanoseconds start, nanoseconds (start + duration)⟩
    hTime ht hState hYaw (TrajectoryPoint.initial candidate.role)
  refine ⟨point, ?_, hPointFinite, ?_, ?_, ?_⟩
  · rw [h.evaluator]
    exact congrArg some hPoint
  · have hElapsed : nanoseconds start + n - nanoseconds start = n := by omega
    rw [hRole]
    simp only [h.roles, hElapsed, evaluatesBackup_eq_marks, evaluatedRole, exportedRole_ite]
  · rw [hPointTime, scheduledRole_eq (roleScheduleValid_of_valid h.valid)
      h.durationS h.schedule h.covers h.fits_duration ht htd]
    unfold plannedRole
    rcases hCase with ⟨hBefore, hNs⟩ | ⟨hLast, rfl⟩
    · simp only [hNs, hBefore, true_and]
    · have hNot : ¬ n < nanoseconds (start + t) - nanoseconds start := by omega
      simp only [lt_irrefl, if_false, hNot, false_and]
  · intro hLast
    rcases hCase with ⟨hBefore, -⟩ | ⟨-, rfl⟩
    · omega
    · exact hPointTime

/-- At the nanosecond `n` of the span both lookups agree on an allowed role. -/
def AgreesAt (command : CandidateCommandBundle (ExactReal K))
    (candidate : CandidateBundle (ExactReal K) (CommandEvaluator (ExactReal K)))
    (start duration : K) (stretches : List (Stretch K CandidateTrajectoryRole)) (n : Int) : Prop :=
  let span := nanoseconds (start + duration) - nanoseconds start
  let role := exportedRole command.emergencyCandidate (evaluatedRole nanoseconds span n stretches)
  candidate.sampledRoleAllowed role = true ∧
    (plannedRole nanoseconds (nanoseconds duration) span n stretches).map
      (exportedRole command.emergencyCandidate) = some role

theorem sampleAtDeclaredStamp_iff {n : Int} (hn : 0 ≤ n)
    (hSpan : n ≤ nanoseconds (start + duration) - nanoseconds start) :
    (∃ point, candidate.evaluatedPoint (nanoseconds start + n) = some point ∧
      candidate.sampledRoleAllowed point.role = true ∧
      candidate.scheduledRole point.trajectoryTimeS = some point.role ∧
      candidate.sampleAtDeclaredStamp (nanoseconds start + n) = some point) ↔
      AgreesAt command candidate start duration stretches n := by
  obtain ⟨point, hPoint, hPointFinite, hRole, hScheduled, -⟩ :=
    h.evaluatedPoint_spec hFinite hn hSpan
  have hEvaluated : candidate.evaluatedPoint (nanoseconds start + n) = some point := by
    unfold evaluatedPoint
    rw [hPoint]
  constructor
  · rintro ⟨point', hPoint', hAllowed, hSame, -⟩
    obtain rfl := Option.some.inj (hEvaluated.symm.trans hPoint')
    rw [hRole] at hAllowed
    rw [hScheduled, hRole] at hSame
    exact ⟨hAllowed, hSame⟩
  · rintro ⟨hAllowed, hSame⟩
    rw [← hRole] at hAllowed
    rw [← hScheduled, ← hRole] at hSame
    refine ⟨point, hEvaluated, hAllowed, hSame, ?_⟩
    have hInside : ¬ (!candidate.valid || nanoseconds start + n < candidate.declaredStartNs ||
        decide (candidate.declaredEndNs < nanoseconds start + n)) = true := by
      rw [h.valid, h.declaredStart, h.declaredEnd]
      simp only [Bool.not_true, Bool.false_or, Bool.or_eq_true, decide_eq_true_eq]
      omega
    unfold sampleAtDeclaredStamp
    rw [if_neg hInside, hPoint]
    simp only [hPointFinite, hAllowed, hSame, Bool.not_true, Bool.or_self, Bool.false_eq_true,
      if_false, if_true]

theorem sampleAtDeclaredEnd_isSome (hAgrees : AgreesAt command candidate start duration stretches
      (nanoseconds (start + duration) - nanoseconds start)) :
    candidate.sampleAtDeclaredEnd.isSome = true := by
  have hOrder := h.start_le_end
  obtain ⟨point, hPoint, hPointFinite, hRole, hScheduled, hTime⟩ :=
    h.evaluatedPoint_spec hFinite (sub_nonneg.mpr hOrder) le_rfl
  obtain ⟨hAllowed, hSame⟩ := hAgrees
  rw [← hRole] at hAllowed
  rw [← hScheduled, ← hRole, hTime rfl] at hSame
  have hEnd : nanoseconds start + (nanoseconds (start + duration) - nanoseconds start) =
      nanoseconds (start + duration) := by omega
  rw [hEnd] at hPoint
  have hPos : 0 < nanoseconds (start + duration) := h.start_pos.trans_le hOrder
  unfold sampleAtDeclaredEnd
  simp only [h.valid, (declared_endpoint h.valid).1, h.declaredEnd, h.durationS,
    if_pos hPos, if_neg (not_le.mpr hPos), hPoint, hPointFinite, hAllowed, hSame, Bool.not_true,
    Bool.or_self, Bool.false_eq_true, if_false, if_true, Option.isSome_some]

theorem sampledThroughout_iff : candidate.SampledThroughout ↔
      ∀ n, 0 ≤ n → n ≤ nanoseconds (start + duration) - nanoseconds start →
        AgreesAt command candidate start duration stretches n := by
  constructor
  · rintro ⟨hSampled, -⟩ n hn hSpan
    apply (h.sampleAtDeclaredStamp_iff hFinite hn hSpan).mp
    apply hSampled
    · rw [h.declaredStart]
      omega
    · rw [h.declaredEnd]
      omega
  · intro hAgrees
    refine ⟨?_, h.sampleAtDeclaredEnd_isSome hFinite
      (hAgrees _ (sub_nonneg.mpr h.start_le_end) le_rfl)⟩
    intro stampNs hStart hEnd
    rw [h.declaredStart] at hStart
    rw [h.declaredEnd] at hEnd
    have hStamp : stampNs = nanoseconds start + (stampNs - nanoseconds start) := by omega
    rw [hStamp]
    have hn : 0 ≤ stampNs - nanoseconds start := by omega
    have hSpan : stampNs - nanoseconds start ≤
        nanoseconds (start + duration) - nanoseconds start := by omega
    exact (h.sampleAtDeclaredStamp_iff hFinite hn hSpan).mpr (hAgrees _ hn hSpan)

end ExportedAs

end Sampling

/-! ## Which commands are sampled throughout -/

def lastRole {D : Type} (roles : List (CommandRoleInterval D)) : Option CandidateTrajectoryRole :=
  roles.getLast?.map (·.role)

section Condition
variable {D : Type} [Floating D]

def declaredSpanNs (command : CandidateCommandBundle D) : Int :=
  llroundNs (command.position.startWT + command.position.totalDuration) -
    llroundNs command.position.startWT

def roleAtNs (n : Int) (roles : List (CommandRoleInterval D)) : Option CandidateTrajectoryRole :=
  (roles.find? fun interval =>
    llroundNs interval.beginTT ≤ n && n < llroundNs interval.endTT).map (·.role)

/-- The last role is main, and no nanosecond falls into a backup interval. -/
def backupUnseen (roles : List (CommandRoleInterval D)) : Bool :=
  lastRole roles == some .main && roles.all fun interval =>
    interval.role != .backup || llroundNs interval.beginTT == llroundNs interval.endTT

/-- The declared span is the rounded duration, or off by one where that does not matter. -/
def spanAgrees (command : CandidateCommandBundle D) : Bool :=
  let rounded := llroundNs command.position.totalDuration
  let span := declaredSpanNs command
  span == rounded || (span == rounded + 1 && lastRole command.roles == some .main) ||
    (span == rounded - 1 && roleAtNs (rounded - 1) command.roles == lastRole command.roles)

def rolesAgree (command : CandidateCommandBundle D) : Bool :=
  command.emergencyCandidate ||
    ((command.backupSuffixAvailable || backupUnseen command.roles) && spanAgrees command)

end Condition

section Theorem
variable {K : Type} [Field K] [LinearOrder K] [FloorRing K] [SquareRoot K] [IsStrictOrderedRing K]

theorem roleAtNs_map (n : Int) (stretches : List (Stretch K CandidateTrajectoryRole)) :
    roleAtNs n (stretches.map roleInterval) = labelAt nanoseconds n stretches := by
  unfold roleAtNs labelAt
  rw [List.find?_map, Option.map_map]
  simp only [Function.comp_def, roleInterval, llroundNs_finite]
  rfl

omit [Field K] [LinearOrder K] [FloorRing K] [SquareRoot K] [IsStrictOrderedRing K] in
theorem lastRole_map (stretches : List (Stretch K CandidateTrajectoryRole)) :
    lastRole (stretches.map roleInterval) = lastLabel stretches := by
  unfold lastRole lastLabel
  rw [List.getLast?_map, Option.map_map]
  rfl

theorem backupUnseen_iff (stretches : List (Stretch K CandidateTrajectoryRole)) :
    backupUnseen (stretches.map roleInterval) = true ↔ BackupUnseen nanoseconds stretches := by
  unfold backupUnseen BackupUnseen
  rw [lastRole_map]
  simp only [Bool.and_eq_true, beq_iff_eq, List.all_eq_true, List.forall_mem_map, roleInterval,
    llroundNs_finite, Bool.or_eq_true, bne_iff_ne, ne_eq, Classical.or_iff_not_imp_left, not_not]

variable {command : CandidateCommandBundle (ExactReal K)}
  {candidate : CandidateBundle (ExactReal K) (CommandEvaluator (ExactReal K))}
  {start duration : K} {stretches : List (Stretch K CandidateTrajectoryRole)}

section
variable (h : ExportedAs command candidate start duration stretches)
include h

theorem spanAgrees_iff : spanAgrees command = true ↔ SpanAgrees nanoseconds (nanoseconds duration)
      (nanoseconds (start + duration) - nanoseconds start) stretches := by
  unfold spanAgrees declaredSpanNs SpanAgrees
  rw [h.startWT, h.totalDuration, h.roles, add_finite]
  simp only [llroundNs_finite, roleAtNs_map, lastRole_map, Bool.or_eq_true, Bool.and_eq_true,
    beq_iff_eq, or_assoc]

theorem agreesAt_of_emergency
    (hEmergency : command.emergencyCandidate = true) {n : Int} (hn : 0 ≤ n) :
    ExportedAs.AgreesAt command candidate start duration stretches n := by
  have hRole : candidate.role = .emergency := by rw [h.role, if_pos hEmergency]
  have hPlanned : ∃ role, plannedRole nanoseconds (nanoseconds duration)
      (nanoseconds (start + duration) - nanoseconds start) n stretches = some role := by
    unfold plannedRole
    split
    · rename_i hInside
      exact exists_labelAt h.covers (by rwa [nanoseconds_zero]) hInside.2
    · exact exists_lastLabel h.nonempty
  obtain ⟨role, hPlanned⟩ := hPlanned
  unfold ExportedAs.AgreesAt
  dsimp only
  rw [hEmergency, hPlanned]
  refine ⟨?_, rfl⟩
  simp only [sampledRoleAllowed, hRole, exportedRole, if_true]
  rfl

theorem agreesAt_iff (hEmergency : command.emergencyCandidate = false) (n : Int) :
    ExportedAs.AgreesAt command candidate start duration stretches n ↔
      plannedRole nanoseconds (nanoseconds duration)
          (nanoseconds (start + duration) - nanoseconds start) n stretches =
        some (evaluatedRole nanoseconds (nanoseconds (start + duration) - nanoseconds start) n
          stretches) ∧
      (command.backupSuffixAvailable = true ∨
        evaluatedRole nanoseconds (nanoseconds (start + duration) - nanoseconds start) n
          stretches = .main) := by
  have hRole : candidate.role = .main := by rw [h.role, hEmergency]; rfl
  have hInjective : Function.Injective (exportedRole false) := by
    intro a b
    cases a <;> cases b <;> simp [exportedRole]
  have hAllowed : ∀ role, candidate.sampledRoleAllowed (exportedRole false role) = true ↔
      command.backupSuffixAvailable = true ∨ role = .main := by
    intro role
    unfold sampledRoleAllowed
    rw [hRole, h.backup]
    cases role <;> cases command.backupSuffixAvailable <;> decide
  unfold ExportedAs.AgreesAt
  dsimp only
  rw [hEmergency, hAllowed, ← Option.map_some, (Option.map_injective hInjective).eq_iff]
  exact and_comm

end

/-- A command exported from a complete schedule is sampled throughout exactly when the
roles agree. -/
theorem exported_sampledThroughout_iff {certificate : CommandCertificate (ExactReal K)}
    {request : ExportRequest}
    {boundary : Except CandidateExportFailure (RouteBoundary (ExactReal K))}
    (hComplete : candidateRoleScheduleIsComplete command = true)
    (hFinite : command.FiniteThroughout)
    (hExport : exportStagedCommandCandidate command certificate request boundary = .ok candidate) :
    candidate.SampledThroughout ↔ rolesAgree command = true := by
  obtain ⟨start, duration, stretches, h⟩ := exportedAs_of_ok hComplete hExport
  rw [h.sampledThroughout_iff hFinite]
  unfold rolesAgree
  cases hEmergency : command.emergencyCandidate with
  | true => exact ⟨fun _ => rfl, fun _ n hn _ => agreesAt_of_emergency h hEmergency hn⟩
  | false =>
    have hAgree : AgreeThroughout nanoseconds (nanoseconds duration)
        (nanoseconds (start + duration) - nanoseconds start) command.backupSuffixAvailable
        stretches ↔ _ :=
      agreeThroughout_iff nanoseconds_mono h.covers nanoseconds_zero h.nonempty
        (sub_nonneg.mpr h.start_le_end) (nanoseconds_span h.start_nonneg h.duration_nonneg)
    rw [Bool.false_or, Bool.and_eq_true, Bool.or_eq_true, h.roles, backupUnseen_iff,
      spanAgrees_iff h, ← hAgree]
    simp only [agreesAt_iff h hEmergency]
    rfl

end Theorem

def stillTrajectory (start duration : ℚ) : Trajectory (ExactReal ℚ) where
  empty := false
  startWT := .finite start
  totalDuration := .finite duration
  getState _ := ⟨Vec3.zero, Vec3.zero, Vec3.zero, Vec3.zero⟩

/-- Two seconds from the first second on, with a change of roles in the middle. -/
def stillCommand (first second : CandidateTrajectoryRole) (backupSuffixAvailable : Bool) :
    CandidateCommandBundle (ExactReal ℚ) where
  position := stillTrajectory 1 2
  yaw := stillTrajectory 1 2
  roles := [⟨.finite 0, .finite 1, first⟩, ⟨.finite 1, .finite 2, second⟩]
  localizationEpoch := 1
  goalEpoch := 1
  requestId := 1
  backupSuffixAvailable := backupSuffixAvailable
  backupStartTT := if backupSuffixAvailable then .finite 1 else .finite 2
  terminalStop := false
  backupDisposition := if backupSuffixAvailable then .success else .noNeed

def stillCertificate : CommandCertificate (ExactReal ℚ) where
  pinnedWorld := ⟨1, 1, 1, 1⟩
  validatedWorld := ⟨1, 1, 1, 1⟩
  protectedRegion := ⟨Vec3.zero, Vec3.zero⟩

def stillExport (command : CandidateCommandBundle (ExactReal ℚ)) :
    Except CandidateExportFailure (CandidateBundle (ExactReal ℚ) (CommandEvaluator (ExactReal ℚ))) :=
  exportStagedCommandCandidate command stillCertificate ⟨1, 1, 1, 1, 1000000000, 2000000000⟩
    (.ok ⟨none, none⟩)

theorem stillCommand_finite (first second : CandidateTrajectoryRole) (available : Bool) :
    (stillCommand first second available).FiniteThroughout := fun _ _ _ => ⟨rfl, rfl⟩

/-- The main part followed by its backup suffix. -/
theorem backup_suffix_sampled :
    ∃ candidate, stillExport (stillCommand .main .backup true) = .ok candidate ∧
      candidate.SampledThroughout := by
  have hOk : (stillExport (stillCommand .main .backup true)).isOk = true := by decide +kernel
  cases hExport : stillExport (stillCommand .main .backup true) with
  | error failure =>
    rw [hExport] at hOk
    cases hOk
  | ok candidate =>
    refine ⟨candidate, rfl, (exported_sampledThroughout_iff ?_ ?_ hExport).mpr ?_⟩
    · decide +kernel
    · exact stillCommand_finite _ _ _
    · decide +kernel

/-- An inherited backup prefix without a backup suffix: the candidate is exported, and it
cannot be sampled at its declared start. -/
theorem inherited_backup_not_sampled :
    candidateRoleScheduleIsComplete (stillCommand .backup .main false) = true ∧
      (stillCommand .backup .main false).FiniteThroughout ∧
      ∃ candidate, stillExport (stillCommand .backup .main false) = .ok candidate ∧
        candidate.declaredStartNs = 1000000000 ∧ candidate.declaredEndNs = 3000000000 ∧
        candidate.sampleAtDeclaredStamp 1000000000 = none ∧ ¬ candidate.SampledThroughout := by
  refine ⟨by decide +kernel, stillCommand_finite _ _ _, ?_⟩
  have hOk : (match stillExport (stillCommand .backup .main false) with
      | .ok candidate => candidate.declaredStartNs == 1000000000 &&
          candidate.declaredEndNs == 3000000000 &&
          (candidate.sampleAtDeclaredStamp 1000000000).isNone
      | .error _ => false) = true := by decide +kernel
  cases hExport : stillExport (stillCommand .backup .main false) with
  | error failure =>
    rw [hExport] at hOk
    cases hOk
  | ok candidate =>
    rw [hExport] at hOk
    simp only [Bool.and_eq_true, beq_iff_eq, Option.isNone_iff_eq_none] at hOk
    obtain ⟨⟨hStart, hEnd⟩, hNone⟩ := hOk
    refine ⟨candidate, rfl, hStart, hEnd, hNone, ?_⟩
    rintro ⟨hSampled, -⟩
    obtain ⟨point, -, -, -, hSome⟩ := hSampled 1000000000 hStart.le (by rw [hEnd]; decide)
    rw [hNone] at hSome
    cases hSome

end UavNavigation
