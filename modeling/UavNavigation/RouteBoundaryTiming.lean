import UavNavigation.CorridorGenerator

/-!
# The timing of a route boundary

The acceptance visit and the guide projection of `route_boundary_timing.hpp`. The abort oracle is
asked before every position; here it is a function of how often it was asked before.
-/

namespace UavNavigation

set_option autoImplicit false

open FloatOps ExactReal

structure FirstAcceptanceVolumeVisit (D : Type) where
  entryTimeS : Option D
  exitTimeS : Option D
deriving DecidableEq

/-- The arguments of `firstAcceptanceVisit`. `abortAtEntry` is the answer of the oracle after the
search, when the rounded entry is tested. -/
structure AcceptanceSearch (D : Type) where
  positionAt : D → Vec3 D
  contains : Vec3 D → Option Bool
  durationS : D
  abort : Nat → Bool
  abortAtEntry : Bool
  findExit : Bool

structure PassThroughSwitchWindow (D : Type) where
  crossingLowerS : D
  approachUpperS : D
  preferredCrossingS : Option D
deriving DecidableEq

namespace AcceptanceSearch
variable {D : Type} [FloatOps D]

def answer (a : AcceptanceSearch D) (timeS : D) : Option Bool :=
  if !(a.positionAt timeS).allFinite then none else a.contains (a.positionAt timeS)

def inside (a : AcceptanceSearch D) (asked : Nat) (timeS : D) : Option Bool :=
  if a.abort asked then none else a.answer timeS

/-- The refinement of a bracket. -/
def bisect (a : AcceptanceSearch D) (previousInside : Bool) : Nat → Nat → D → D → Option D
  | 0, _, _, upper => some upper
  | iterations + 1, asked, lower, upper =>
    let middle := lit (1 / 2) * (lower + upper)
    match a.inside asked middle with
    | none => none
    | some middleInside =>
      if middleInside = previousInside then a.bisect previousInside iterations (asked + 1) middle upper
      else a.bisect previousInside iterations (asked + 1) lower middle

def probeTime (a : AcceptanceSearch D) (probe : Nat) : D :=
  FloatOps.min a.durationS (ofInt probe * lit (1 / 200))

/-- The loop over the probes, of which the first argument are left. -/
def scan (a : AcceptanceSearch D) :
    Nat → Nat → Nat → Option D → D → Bool → Option (FirstAcceptanceVolumeVisit D)
  | 0, _, _, entry, _, _ => some ⟨entry, none⟩
  | left + 1, probe, asked, entry, previousTime, previousInside =>
    let timeS := a.probeTime probe
    let next (asked : Nat) (entry : Option D) (inside : Bool) :=
      if a.durationS ≤ timeS then some ⟨entry, none⟩
      else a.scan left (probe + 1) asked entry timeS inside
    match a.inside asked timeS with
    | none => none
    | some currentInside =>
      if currentInside = previousInside then next (asked + 1) entry currentInside
      else
        match a.bisect previousInside 32 (asked + 1) previousTime timeS with
        | none => none
        | some upper =>
          match currentInside, entry with
          | true, none =>
            if a.findExit then next (asked + 33) (some upper) true else some ⟨some upper, none⟩
          | false, some _ => some ⟨entry, some upper⟩
          | _, _ => next (asked + 33) entry currentInside

def firstAcceptanceVisit (a : AcceptanceSearch D) : Option (FirstAcceptanceVolumeVisit D) :=
  if !isFinite a.durationS || a.durationS < lit 0 then none
  else
    let count := ceil (a.durationS / lit (1 / 200))
    if !isFinite count || lit 10000000 < count then none
    else
      match a.inside 0 (lit 0) with
      | none => none
      | some true =>
        if a.findExit then a.scan (toInt count).toNat 1 1 (some (lit 0)) (lit 0) true
        else some ⟨some (lit 0), none⟩
      | some false => a.scan (toInt count).toNat 1 1 none (lit 0) false

/-- The search with the containment that `firstAcceptanceSphereVisit` hands over. -/
def inSphere (a : AcceptanceSearch D) (center : Vec3 D) (radius : D) : AcceptanceSearch D :=
  { a with
    contains := fun point =>
      let distance := (point - center).norm
      if !isFinite distance then none else some (distance ≤ radius) }

def firstAcceptanceSphereVisit (a : AcceptanceSearch D) (center : Vec3 D) (radius : D) :
    Option (FirstAcceptanceVolumeVisit D) :=
  if !center.allFinite || !isFinite radius || radius ≤ lit 0 then none
  else
    match (a.inSphere center radius).firstAcceptanceVisit with
    | some ⟨some entry, exit⟩ =>
      let entryNs := ceil (entry * lit (10 ^ 9))
      if !isFinite entryNs || entryNs < lit 0 || lit (2 ^ 63 - 1) < entryNs then none
      else
        let canonicalEntryS := ofInt (toInt entryNs) * lit (1 / 10 ^ 9)
        if a.durationS < canonicalEntryS || a.abortAtEntry then none
        else if (a.inSphere center radius).answer canonicalEntryS ≠ some true ||
          exit.any (· ≤ canonicalEntryS) then none
        else some ⟨some canonicalEntryS, exit⟩
    | visit => visit

def crossingAfter (reserveS timeS : D) : D :=
  (ceil (timeS * lit (10 ^ 9)) + ceil (reserveS * lit (10 ^ 9)) + lit 2) * lit (1 / 10 ^ 9)

def passThroughSwitchWindow (visit : FirstAcceptanceVolumeVisit D) (reserveS : D) :
    Option (PassThroughSwitchWindow D) :=
  match visit.entryTimeS with
  | none => none
  | some entry =>
    if !isFinite entry || entry < lit 0 || !isFinite reserveS || reserveS < lit 0 ||
      visit.exitTimeS.any (fun exit => !isFinite exit || exit < entry) then none
    else
      let entryNs := entry * lit (10 ^ 9)
      let reserveNs := reserveS * lit (10 ^ 9)
      if !isFinite entryNs || !isFinite reserveNs || !isFinite (entryNs + reserveNs) ||
        visit.exitTimeS.any (fun exit => !isFinite ((exit + reserveS) * lit (10 ^ 9))) then none
      else
        some ⟨crossingAfter reserveS entry, (FloatOps.floor entryNs - lit 2) * lit (1 / 10 ^ 9),
          visit.exitTimeS.map (crossingAfter reserveS)⟩

theorem inside_some {a : AcceptanceSearch D} {n : Nat} {t : D} {b : Bool}
    (h : a.inside n t = some b) : a.answer t = some b := by
  unfold inside at h
  split at h
  · cases h
  · exact h

/-! ## The search in exact arithmetic -/

section Probes
variable {K : Type} [Field K] [LinearOrder K] [IsStrictOrderedRing K]

def probe (d : K) (i : Nat) : K := d ⊓ i * (1 / 200)

/-- A probe before the end is below the next one. -/
theorem probe_lt {d : K} {i : Nat} (h : probe d i < d) : probe d i < probe d (i + 1) := by
  have hHere : probe d i = i * (1 / 200) := by
    refine inf_eq_right.mpr (le_of_not_ge fun hEnd => ?_)
    rw [probe, inf_eq_left.mpr hEnd] at h
    exact lt_irrefl _ h
  refine lt_inf_iff.mpr ⟨h, ?_⟩
  rw [hHere]
  push_cast
  linarith

theorem probe_mono {d : K} {i j : Nat} (h : i ≤ j) : probe d i ≤ probe d j := by
  have hCast : (i : K) ≤ j := by exact_mod_cast h
  exact inf_le_inf_left d (by linarith)

end Probes

section Exact
variable {K : Type} [Field K] [LinearOrder K] [FloorRing K] [IsStrictOrderedRing K] [SquareRoot K]
  {a : AcceptanceSearch (ExactReal K)} {d : K}

omit [IsStrictOrderedRing K] in
theorem probeTime_finite (hd : a.durationS = .finite d) (i : Nat) :
    a.probeTime i = .finite (probe d i) := by
  have hTime : (ofInt (i : Int) * lit (1 / 200) : ExactReal K) = .finite (i * (1 / 200)) := by
    change finite (((i : Int) : K) * ((1 / 200 : ℚ) : K)) = _
    push_cast
    rfl
  rw [probeTime, hd, hTime, min_finite, probe]

theorem bisect_spec {previousInside : Bool} {iterations asked : Nat} {lower upper : K}
    {r : ExactReal K} (hBracket : lower < upper)
    (hUpper : a.answer (.finite upper) = some !previousInside)
    (h : a.bisect previousInside iterations asked (.finite lower) (.finite upper) = some r) :
    ∃ x, r = .finite x ∧ lower < x ∧ x ≤ upper ∧ a.answer (.finite x) = some !previousInside := by
  induction iterations generalizing asked lower upper with
  | zero => exact ⟨upper, (Option.some.inj h).symm, hBracket, le_rfl, hUpper⟩
  | succ iterations ih =>
    have hMiddle : lit (1 / 2) * (finite lower + .finite upper) =
        .finite ((lower + upper) / 2) := by
      rw [lit_finite, add_finite, mul_finite]
      push_cast
      congr 1
      ring
    rw [bisect, hMiddle] at h
    split at h
    · cases h
    rename_i middleInside hInside
    split at h
    · obtain ⟨x, hr, hLower, hRest⟩ := ih (by linarith) hUpper h
      exact ⟨x, hr, by linarith, hRest⟩
    · rename_i hOther
      have hAnswer : a.answer (.finite ((lower + upper) / 2)) = some !previousInside := by
        rw [inside_some hInside, Bool.eq_not.mpr hOther]
      obtain ⟨x, hr, hLower, hBelow, hRest⟩ := ih (by linarith) hAnswer h
      exact ⟨x, hr, hLower, by linarith, hRest⟩

/-- The entry `x` was found in the bracket that ends with probe `j`. -/
structure Entered (a : AcceptanceSearch (ExactReal K)) (d : K) (j : Nat) (x : K) : Prop where
  before : ∀ i < j, a.answer (.finite (probe d i)) = some false ∧ probe d i < x
  upper : x ≤ probe d j
  inside : a.answer (.finite x) = some true

/-- The exit `x` was found in the bracket that ends with probe `k`. -/
structure Exited (a : AcceptanceSearch (ExactReal K)) (d : K) (j k : Nat) (x : K) : Prop where
  between : ∀ i, j ≤ i → i < k → a.answer (.finite (probe d i)) = some true ∧ probe d i < x
  upper : x ≤ probe d k
  outside : a.answer (.finite x) = some false

/-- What is known behind probe `n`: the entry so far and the last answer. -/
inductive Scanned (a : AcceptanceSearch (ExactReal K)) (d : K) (n : Nat) :
    Option (ExactReal K) → Bool → Prop
  | before (outside : ∀ i ≤ n, a.answer (.finite (probe d i)) = some false) : Scanned a d n none false
  | within {j : Nat} {x : K} (entered : Entered a d j x)
      (inside : ∀ i, j ≤ i → i ≤ n → a.answer (.finite (probe d i)) = some true) :
      Scanned a d n (some (.finite x)) true

inductive Visited (a : AcceptanceSearch (ExactReal K)) (d : K) :
    FirstAcceptanceVolumeVisit (ExactReal K) → Prop
  | missed : Visited a d ⟨none, none⟩
  | entered {j : Nat} {x : K} (entered : Entered a d j x) : Visited a d ⟨some (.finite x), none⟩
  | left {j k : Nat} {x y : K} (entered : Entered a d j x) (exited : Exited a d j k y) :
      Visited a d ⟨some (.finite x), some (.finite y)⟩

omit [IsStrictOrderedRing K] in
theorem Scanned.visited {n : Nat} {entry : Option (ExactReal K)} {b : Bool}
    (h : Scanned a d n entry b) : Visited a d ⟨entry, none⟩ := by
  cases h with
  | before _ => exact .missed
  | within hEntered _ => exact .entered hEntered

theorem scan_visited (hd : a.durationS = .finite d) {left n asked : Nat}
    {entry : Option (ExactReal K)} {b : Bool} {visit : FirstAcceptanceVolumeVisit (ExactReal K)}
    (hs : Scanned a d n entry b) (hOpen : left = 0 ∨ probe d n < d)
    (h : a.scan left (n + 1) asked entry (.finite (probe d n)) b = some visit) :
    Visited a d visit := by
  induction left generalizing n asked entry b with
  | zero =>
    obtain rfl := Option.some.inj h
    exact hs.visited
  | succ left ih =>
    have hLess : probe d n < probe d (n + 1) := probe_lt (hOpen.resolve_left nofun)
    -- what the loop does with the answer of probe `n + 1`
    have hNext {asked : Nat} {entry : Option (ExactReal K)} {b : Bool}
        (hs : Scanned a d (n + 1) entry b)
        (h : (if a.durationS ≤ a.probeTime (n + 1) then some ⟨entry, none⟩
          else a.scan left (n + 1 + 1) asked entry (a.probeTime (n + 1)) b) = some visit) :
        Visited a d visit := by
      rw [hd, probeTime_finite hd] at h
      split at h
      · obtain rfl := Option.some.inj h
        exact hs.visited
      · rename_i hEnd
        exact ih hs (.inr (not_le.mp hEnd)) h
    unfold scan at h
    dsimp only at h
    split at h
    · cases h
    rename_i current hInside
    have hAnswer : a.answer (.finite (probe d (n + 1))) = some current := by
      rw [← probeTime_finite hd]
      exact inside_some hInside
    split at h
    · rename_i hSame
      subst hSame
      refine hNext ?_ h
      cases hs with
      | before hOutside =>
        refine .before fun i hi => ?_
        rcases Nat.le_succ_iff.mp hi with hi | rfl
        · exact hOutside i hi
        · exact hAnswer
      | within hEntered hWithin =>
        refine .within hEntered fun i hj hi => ?_
        rcases Nat.le_succ_iff.mp hi with hi | rfl
        · exact hWithin i hj hi
        · exact hAnswer
    · rename_i hChange
      rw [Bool.eq_not.mpr hChange] at hAnswer h
      rw [probeTime_finite hd] at h
      split at h
      · cases h
      rename_i upper hUpper
      obtain ⟨x, rfl, hLower, hEnd, hx⟩ := bisect_spec hLess hAnswer hUpper
      have hBelow {i : Nat} (hi : i < n + 1) : probe d i < x :=
        lt_of_le_of_lt (probe_mono (Nat.lt_succ_iff.mp hi)) hLower
      cases hs with
      | before hOutside =>
        have hEntered : Entered a d (n + 1) x :=
          ⟨fun i hi => ⟨hOutside i (Nat.lt_succ_iff.mp hi), hBelow hi⟩, hEnd, hx⟩
        simp only [Bool.not_false] at h
        split at h
        · rw [← probeTime_finite hd] at h
          refine hNext (.within hEntered fun i hj hi => ?_) h
          rwa [Nat.le_antisymm hi hj]
        · obtain rfl := Option.some.inj h
          exact .entered hEntered
      | within hEntered hWithin =>
        obtain rfl := Option.some.inj h
        exact .left hEntered
          ⟨fun i hj hi => ⟨hWithin i hj (Nat.lt_succ_iff.mp hi), hBelow hi⟩, hEnd, hx⟩

theorem firstAcceptanceVisit_visited (hd : a.durationS = .finite d)
    {visit : FirstAcceptanceVolumeVisit (ExactReal K)} (h : a.firstAcceptanceVisit = some visit) :
    Visited a d visit := by
  unfold firstAcceptanceVisit at h
  dsimp only at h
  split at h
  · cases h
  rename_i hDuration
  have hNonneg : 0 ≤ d := by
    simp only [hd, lit_finite, lt_finite, Rat.cast_zero, Bool.or_eq_true,
      decide_eq_true_eq, not_or, not_lt] at hDuration
    exact hDuration.2
  have hZero : (lit 0 : ExactReal K) = .finite (probe d 0) := by
    rw [lit_finite, probe, Nat.cast_zero, zero_mul, inf_eq_right.mpr hNonneg, Rat.cast_zero]
  have hOpen : (toInt (ceil (a.durationS / lit (1 / 200)))).toNat = 0 ∨ probe d 0 < d := by
    rcases hNonneg.eq_or_lt with rfl | hPositive
    · left
      rw [hd, lit_finite, div_finite _ (by norm_num), zero_div,
        ceil_finite, Int.ceil_zero, Int.cast_zero]
      change (truncate (0 : K)).toNat = 0
      simp [truncate]
    · right
      rwa [probe, Nat.cast_zero, zero_mul, inf_eq_right.mpr hNonneg]
  split at h
  · cases h
  rw [hZero] at h
  split at h
  · cases h
  · rename_i hInside
    have hAnswer := inside_some hInside
    have hEntered : Entered a d 0 (probe d 0) := ⟨fun i hi => absurd hi (Nat.not_lt_zero i), le_rfl, hAnswer⟩
    split at h
    · refine scan_visited hd (.within hEntered fun i _ hi => ?_) hOpen h
      rwa [Nat.le_zero.mp hi]
    · obtain rfl := Option.some.inj h
      exact .entered hEntered
  · rename_i hOutside
    refine scan_visited hd (.before fun i hi => ?_) hOpen h
    rw [Nat.le_zero.mp hi]
    exact inside_some hOutside

/-! ## The window -/

theorem crossingAfter_finite (r t : K) :
    ∃ c, crossingAfter (.finite r) (.finite t) = finite c ∧ t + r < c := by
  refine ⟨(⌈t * 10 ^ 9⌉ + ⌈r * 10 ^ 9⌉ + 2) * (1 / 10 ^ 9), ?_, ?_⟩
  · simp only [crossingAfter, lit_finite, mul_finite, ceil_finite, add_finite]
    push_cast
    rfl
  · have hTime := Int.le_ceil (t * 10 ^ 9)
    have hReserve := Int.le_ceil (r * 10 ^ 9)
    rw [mul_one_div, lt_div_iff₀ (by positivity)]
    linarith

theorem window_spec {e r : K} (he : 0 ≤ e) (hr : 0 ≤ r) {exit : Option (ExactReal K)}
    (hExit : ∀ x ∈ exit, ∃ y, x = .finite y ∧ e < y) :
    ∃ w, passThroughSwitchWindow ⟨some (.finite e), exit⟩ (.finite r) = some w ∧
      w.approachUpperS < .finite e ∧ (.finite e + .finite r) < w.crossingLowerS ∧
      ∀ x ∈ exit, ∃ p ∈ w.preferredCrossingS, x + .finite r < p := by
  have hAfter : ∀ t, ∃ c, crossingAfter (.finite r) (.finite t) = finite c ∧ t + r < c :=
    crossingAfter_finite r
  obtain ⟨lower, hLower, hLess⟩ := hAfter e
  have hFloor : (⌊e * 10 ^ 9⌋ : K) ≤ e * 10 ^ 9 := Int.floor_le _
  have hFirst : ¬ ((exit.any fun x => !isFinite x || decide (x < finite e)) = true) := by
    simp only [Option.any_eq_true, not_exists, not_and]
    intro x hx
    obtain ⟨y, rfl, hy⟩ := hExit x hx
    simp [hy.le]
  have hSecond : ¬ ((exit.any fun x =>
      !isFinite ((x + finite r) * lit (10 ^ 9))) = true) := by
    simp only [Option.any_eq_true, not_exists, not_and]
    intro x hx
    obtain ⟨y, rfl, -⟩ := hExit x hx
    simp [lit_finite]
  refine ⟨⟨.finite lower, .finite ((⌊e * 10 ^ 9⌋ - 2) * (1 / 10 ^ 9)),
    exit.map (crossingAfter (.finite r))⟩, ?_, ?_, hLess, ?_⟩
  · simp only [passThroughSwitchWindow, hFirst, hSecond, hLower]
    simp [lit_finite, he, hr, FloatOps.floor, Int.ceil_neg]
  · rw [lt_finite, mul_one_div, div_lt_iff₀ (by positivity)]
    linarith
  · intro x hx
    obtain ⟨y, rfl, -⟩ := hExit x hx
    obtain ⟨c, hc, hBelow⟩ := hAfter y
    exact ⟨.finite c, by simp [Option.mem_def.mp hx, hc], hBelow⟩

theorem acceptance_timing_sound {center : Vec3 (ExactReal K)} {radius e : ExactReal K}
    {exit : Option (ExactReal K)} (hd : a.durationS = .finite d)
    (h : a.firstAcceptanceSphereVisit center radius = some ⟨some e, exit⟩) :
    let inBall := (a.inSphere center radius).answer
    ∃ (n : ℤ) (t : K) (j : ℕ), t = n * (1 / 10 ^ 9) ∧ e = .finite t ∧ 0 ≤ t ∧ t ≤ d ∧
      inBall e = some true ∧
      -- the bracket that was refined ends with probe `j`
      (∀ i < j, inBall (.finite (probe d i)) = some false ∧ probe d i < t) ∧
      t < probe d j + 1 / 10 ^ 9 ∧
      (∀ x ∈ exit, ∃ y k, x = .finite y ∧ t < y ∧ y ≤ d ∧ inBall x = some false ∧ y ≤ probe d k ∧
        ∀ i, j ≤ i → i < k → inBall (.finite (probe d i)) = some true ∧ probe d i < y) ∧
      ∀ r : K, 0 ≤ r → ∃ w, passThroughSwitchWindow ⟨some e, exit⟩ (.finite r) = some w ∧
        w.approachUpperS < e ∧ (0 < r → e < e + .finite r) ∧ e + .finite r < w.crossingLowerS ∧
        ∀ x ∈ exit, ∃ p ∈ w.preferredCrossingS, x + .finite r < p := by
  intro inBall
  unfold firstAcceptanceSphereVisit at h
  split at h
  · cases h
  have hSearch : (a.inSphere center radius).durationS = .finite d := hd
  split at h
  · rename_i entry exit' hVisit
    have hVisited := firstAcceptanceVisit_visited hSearch hVisit
    obtain ⟨j, x, rfl, hEntered, hExit⟩ : ∃ j x, entry = .finite x ∧
        Entered (a.inSphere center radius) d j x ∧
        ∀ y ∈ exit', ∃ k z, y = .finite z ∧ Exited (a.inSphere center radius) d j k z := by
      cases hVisited with
      | entered hEntered => exact ⟨_, _, rfl, hEntered, nofun⟩
      | left hEntered hExited =>
        refine ⟨_, _, rfl, hEntered, fun y hy => ⟨_, _, ?_, hExited⟩⟩
        exact (Option.some.inj hy).symm
    have hNs : ceil (finite x * lit (10 ^ 9)) = .finite (⌈x * 10 ^ 9⌉ : K) := by
      rw [lit_finite, mul_finite, ceil_finite]
      push_cast
      rfl
    have hCanonical (n : ℤ) : (ofInt (toInt (finite (n : K))) * lit (1 / 10 ^ 9) :
        ExactReal K) = .finite (n * (1 / 10 ^ 9)) := by
      have hInt : toInt (finite (n : K)) = n := by
        change truncate (n : K) = n
        simp [truncate]
      rw [hInt, lit_finite]
      change finite ((n : K) * _) = _
      push_cast
      rfl
    rw [hNs] at h
    dsimp only at h
    rw [hCanonical, hd] at h
    split at h
    · cases h
    rename_i hRange
    split at h
    · cases h
    rename_i hLate
    split at h
    · cases h
    rename_i hChecked
    simp only [Option.some.injEq, FirstAcceptanceVolumeVisit.mk.injEq] at h
    obtain ⟨rfl, rfl⟩ := h
    simp only [isFinite_finite, Bool.not_true, Bool.false_or, lit_finite,
      lt_finite, Bool.or_eq_true, decide_eq_true_eq, not_or, not_lt, Rat.cast_zero]
      at hRange hLate
    simp only [ne_eq, decide_not, Bool.or_eq_true, Bool.not_eq_true', decide_eq_false_iff_not,
      not_or, not_not, Option.any_eq_true, decide_eq_true_eq, not_exists, not_and] at hChecked
    have hCeil := Int.le_ceil (x * 10 ^ 9)
    have hBelow := Int.ceil_lt_add_one (x * 10 ^ 9)
    have hStart : x ≤ ⌈x * 10 ^ 9⌉ * (1 / 10 ^ 9) := by
      rw [mul_one_div, le_div_iff₀ (by positivity)]
      exact hCeil
    have hClose : ⌈x * 10 ^ 9⌉ * (1 / 10 ^ 9) < x + 1 / 10 ^ 9 := by
      rw [mul_one_div, div_lt_iff₀ (by positivity), add_mul, one_div_mul_cancel (by positivity)]
      exact hBelow
    have hPositive : (0 : K) ≤ ⌈x * 10 ^ 9⌉ * (1 / 10 ^ 9) := by
      exact mul_nonneg hRange.1 (by positivity)
    have hLater : ∀ y ∈ exit', ∃ k z, y = .finite z ∧ ⌈x * 10 ^ 9⌉ * (1 / 10 ^ 9) < z ∧
        Exited (a.inSphere center radius) d j k z := by
      intro y hy
      obtain ⟨k, z, rfl, hExited⟩ := hExit y hy
      exact ⟨k, z, rfl, not_le.mp (hChecked.2 _ hy), hExited⟩
    refine ⟨_, _, j, rfl, rfl, hPositive, hLate.1, hChecked.1, ?_, ?_, ?_, ?_⟩
    · exact fun i hi => ⟨(hEntered.before i hi).1, lt_of_lt_of_le (hEntered.before i hi).2 hStart⟩
    · linarith [hEntered.upper]
    · intro y hy
      obtain ⟨k, z, rfl, hAfter, hExited⟩ := hLater y hy
      exact ⟨z, k, rfl, hAfter, hExited.upper.trans inf_le_left, hExited.outside, hExited.upper,
        hExited.between⟩
    · intro r hr
      obtain ⟨w, hw, hApproach, hCrossing, hPreferred⟩ := window_spec hPositive hr fun y hy => by
        obtain ⟨k, z, hz, hAfter, -⟩ := hLater y hy
        exact ⟨z, hz, hAfter⟩
      exact ⟨w, hw, hApproach, fun hr => lt_add_of_pos_right _ hr, hCrossing, hPreferred⟩
  · rename_i hOther
    exact absurd h (hOther e exit)

end Exact

/-! ## A vehicle that waits in the ball -/

def waiting : AcceptanceSearch (ExactReal ℚ) where
  positionAt _ := Vec3.zero
  contains _ := none
  durationS := lit 0
  abort _ := false
  abortAtEntry := false
  findExit := true

theorem waiting_visit : waiting.firstAcceptanceSphereVisit Vec3.zero (lit 1) =
    some ⟨some (.finite 0), none⟩ := by decide +kernel

/-- A reserve of zero is accepted, and then the entry is not before the entry and the reserve. -/
theorem acceptance_timing_no_reserve : ∃ e w,
    waiting.firstAcceptanceSphereVisit Vec3.zero (lit 1) = some ⟨some e, none⟩ ∧
      passThroughSwitchWindow ⟨some e, none⟩ (lit 0) = some w ∧ ¬ e < e + lit 0 :=
  ⟨_, ⟨lit (1 / 500000000), lit (-1 / 500000000), none⟩, waiting_visit, by decide +kernel,
    by decide +kernel⟩

/-! ## A vehicle that crosses the ball -/

/-- Crosses the ball of radius 2/5 at the origin between 6 ms and 14 ms. -/
def crossing : AcceptanceSearch (ExactReal ℚ) where
  positionAt t := ⟨lit 100 * t - lit 1, lit 0, lit 0⟩
  contains _ := none
  durationS := lit (1 / 50)
  abort _ := false
  abortAtEntry := false
  findExit := true

def crossingExit : ExactReal ℚ := .finite (12025908429 / 858993459200)

theorem crossing_visit : crossing.firstAcceptanceSphereVisit Vec3.zero (lit (2 / 5)) =
    some ⟨some (.finite (6000001 / 10 ^ 9)), some crossingExit⟩ := by decide +kernel

theorem acceptance_timing_crossing :
    let inBall := (crossing.inSphere Vec3.zero (lit (2 / 5))).answer
    let entry : ExactReal ℚ := .finite (6000001 / 10 ^ 9)
    let reserve : ExactReal ℚ := .finite (1 / 1000)
    inBall (.finite 0) = some false ∧ inBall (.finite (1 / 200)) = some false ∧
      inBall entry = some true ∧ inBall crossingExit = some false ∧ entry < crossingExit ∧
      ∃ w, passThroughSwitchWindow ⟨some entry, some crossingExit⟩ reserve = some w ∧
        w.approachUpperS < entry ∧ entry < entry + reserve ∧ entry + reserve < w.crossingLowerS ∧
        ∃ p ∈ w.preferredCrossingS, crossingExit + reserve < p := by
  intro inBall entry reserve
  obtain ⟨n, t, j, -, ht, -, -, hInside, hBefore, hClose, hExit, hWindow⟩ :=
    acceptance_timing_sound (d := 1 / 50) (by decide +kernel) crossing_visit
  obtain ⟨y, -, hy, hLater, -, hOutside, -⟩ := hExit crossingExit rfl
  obtain ⟨w, hw, hApproach, hReserve, hCrossing, hPreferred⟩ := hWindow (1 / 1000) (by norm_num)
  obtain rfl := ExactReal.finite.inj ht
  have hStart : probe (1 / 50 : ℚ) 0 = 0 := by decide +kernel
  have hFirst : probe (1 / 50 : ℚ) 1 = 1 / 200 := by decide +kernel
  -- the entry is past the bracket that ends with probe 1
  have hLate : 1 < j := by
    by_contra hEarly
    have hProbe : probe (1 / 50 : ℚ) j ≤ probe (1 / 50) 1 := probe_mono (not_lt.mp hEarly)
    linarith
  refine ⟨?_, ?_, hInside, hOutside, ?_, w, hw, hApproach, hReserve (by norm_num), hCrossing,
    hPreferred crossingExit rfl⟩
  · exact hStart ▸ (hBefore 0 (by omega)).1
  · exact hFirst ▸ (hBefore 1 hLate).1
  · rw [hy]
    exact (lt_finite _ _).mpr hLater

end AcceptanceSearch

end UavNavigation
