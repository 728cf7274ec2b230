import Mathlib.Algebra.Order.Group.Int

/-!
# Rounded partitions

Labelled stretches that follow each other from one point to another, and a
monotone rounding of points to integers. A stretch holds the integers from its
rounded first point up to, but without, its rounded last point; a short stretch
may hold none. Every integer between the rounded ends is in exactly one stretch.
-/

namespace UavNavigation.RoundedPartition

set_option autoImplicit false

variable {P R : Type}

structure Stretch (P R : Type) where
  first : P
  last : P
  label : R

def holds (f : P → Int) (n : Int) (s : Stretch P R) : Bool := f s.first ≤ n && n < f s.last

def labelAt (f : P → Int) (n : Int) (stretches : List (Stretch P R)) : Option R :=
  (stretches.find? (holds f n)).map Stretch.label

def lastLabel (stretches : List (Stretch P R)) : Option R := stretches.getLast?.map Stretch.label

/-- Some stretch with a marked label holds the integer, or is the last one and begins
before it, where the end counts as well. -/
def marks (f : P → Int) (n : Int) (atEnd : Bool) (marked : R → Bool) : List (Stretch P R) → Bool
  | [] => false
  | s :: rest =>
    (f s.first ≤ n && (n < f s.last || (atEnd && rest.isEmpty)) && marked s.label) ||
      marks f n atEnd marked rest

section Covers
variable [LinearOrder P]

/-- The stretches follow each other from `c` to `d`. -/
def Covers : P → P → List (Stretch P R) → Prop
  | c, d, [] => c = d
  | c, d, s :: rest => s.first = c ∧ s.first < s.last ∧ Covers s.last d rest

variable {f : P → Int} {c d : P} {n : Int} {stretches : List (Stretch P R)}

theorem Covers.le (h : Covers c d stretches) : c ≤ d := by
  induction stretches generalizing c with
  | nil => exact le_of_eq h
  | cons s rest ih =>
    obtain ⟨rfl, hLess, hRest⟩ := h
    exact hLess.le.trans (ih hRest)

theorem Covers.bounds (h : Covers c d stretches) {s : Stretch P R} (hs : s ∈ stretches) :
    c ≤ s.first ∧ s.first < s.last ∧ s.last ≤ d := by
  induction stretches generalizing c with
  | nil => cases hs
  | cons head rest ih =>
    obtain ⟨rfl, hLess, hRest⟩ := h
    rcases List.mem_cons.mp hs with rfl | hs
    · exact ⟨le_rfl, hLess, hRest.le⟩
    · obtain ⟨hFirst, hOwn, hLast⟩ := ih hRest hs
      exact ⟨hLess.le.trans hFirst, hOwn, hLast⟩

omit [LinearOrder P] in
theorem labelAt_cons (s : Stretch P R) (rest : List (Stretch P R)) :
    labelAt f n (s :: rest) = if holds f n s then some s.label else labelAt f n rest := by
  unfold labelAt
  rw [List.find?_cons]
  cases holds f n s <;> rfl

variable (hf : ∀ ⦃a b⦄, a ≤ b → f a ≤ f b)
include hf

theorem labelAt_before (h : Covers c d stretches) (hn : n < f c) : labelAt f n stretches = none := by
  induction stretches generalizing c with
  | nil => rfl
  | cons s rest ih =>
    obtain ⟨rfl, hLess, hRest⟩ := h
    have hNot : holds f n s = false := by
      simp only [holds, Bool.and_eq_false_iff, decide_eq_false_iff_not]
      omega
    rw [labelAt_cons, hNot]
    exact ih hRest (hn.trans_le (hf hLess.le))

theorem labelAt_beyond (h : Covers c d stretches) (hn : f d ≤ n) : labelAt f n stretches = none := by
  induction stretches generalizing c with
  | nil => rfl
  | cons s rest ih =>
    obtain ⟨rfl, -, hRest⟩ := h
    have hLast := hf hRest.le
    have hNot : holds f n s = false := by
      simp only [holds, Bool.and_eq_false_iff, decide_eq_false_iff_not]
      omega
    rw [labelAt_cons, hNot]
    exact ih hRest

omit hf in
theorem exists_labelAt (h : Covers c d stretches) (hc : f c ≤ n) (hd : n < f d) :
    ∃ label, labelAt f n stretches = some label := by
  induction stretches generalizing c with
  | nil =>
    have hSame : c = d := h
    subst hSame
    omega
  | cons s rest ih =>
    obtain ⟨rfl, hLess, hRest⟩ := h
    rw [labelAt_cons]
    by_cases hHolds : holds f n s = true
    · exact ⟨s.label, by rw [if_pos hHolds]⟩
    · rw [if_neg hHolds]
      apply ih hRest
      simp only [holds, Bool.and_eq_true, decide_eq_true_eq] at hHolds
      omega

variable (h : Covers c d stretches)
include h

theorem labelAt_of_mem {s : Stretch P R} (hs : s ∈ stretches)
    (hHolds : holds f n s = true) : labelAt f n stretches = some s.label := by
  induction stretches generalizing c with
  | nil => cases hs
  | cons head rest ih =>
    obtain ⟨rfl, hLess, hRest⟩ := h
    rw [labelAt_cons]
    rcases List.mem_cons.mp hs with rfl | hs
    · rw [if_pos hHolds]
    · have hLater := hf (hRest.bounds hs).1
      have hNot : ¬ holds f n head = true := by
        simp only [holds, Bool.and_eq_true, decide_eq_true_eq] at hHolds ⊢
        omega
      rw [if_neg hNot]
      exact ih hRest hs

theorem marks_inside (hd : n < f d) (atEnd : Bool) (marked : R → Bool) :
    marks f n atEnd marked stretches = (labelAt f n stretches).any marked := by
  induction stretches generalizing c with
  | nil => rfl
  | cons s rest ih =>
    obtain ⟨rfl, hLess, hRest⟩ := h
    have hTail := ih hRest
    cases hNext : rest with
    | nil =>
      -- The last stretch reaches to the end, so the end clause adds nothing.
      rw [hNext] at hRest
      have hLast : s.last = d := hRest
      rw [labelAt_cons]
      simp only [marks, Bool.or_false, hLast, hd, decide_true, Bool.true_or, Bool.and_true, holds]
      by_cases hFirst : f s.first ≤ n
      · simp [hFirst]
      · simp [hFirst, labelAt]
    | cons t more =>
      rw [← hNext, labelAt_cons]
      have hEmpty : rest.isEmpty = false := by rw [hNext]; rfl
      simp only [marks, hEmpty, Bool.and_false, Bool.or_false, hTail]
      by_cases hHolds : holds f n s = true
      · have hBefore : n < f s.last := by
          simp only [holds, Bool.and_eq_true, decide_eq_true_eq] at hHolds
          exact hHolds.2
        rw [if_pos hHolds, labelAt_before hf hRest hBefore]
        simp only [holds] at hHolds
        simp [hHolds]
      · rw [if_neg hHolds]
        simp only [holds, Bool.not_eq_true] at hHolds
        simp [hHolds]

theorem marks_beyond (hd : f d ≤ n) (atEnd : Bool) (marked : R → Bool) :
    marks f n atEnd marked stretches = (atEnd && (lastLabel stretches).any marked) := by
  induction stretches generalizing c with
  | nil => simp [marks, lastLabel]
  | cons s rest ih =>
    obtain ⟨rfl, hLess, hRest⟩ := h
    have hTail := ih hRest
    have hFirst : f s.first ≤ n := (hf (hLess.le.trans hRest.le)).trans hd
    have hLast : ¬ n < f s.last := not_lt.mpr ((hf hRest.le).trans hd)
    cases hNext : rest with
    | nil => simp [marks, lastLabel, hFirst, hLast]
    | cons t more =>
      rw [hNext] at hTail
      simp only [marks, hFirst, hLast, List.isEmpty_cons, Bool.and_false, decide_false,
        Bool.or_false, Bool.false_and, Bool.false_or] at hTail ⊢
      simpa [lastLabel] using hTail

end Covers

/-!
## Stretches in any order

A stretch that holds an integer holds the next one too, or ends there. So all integers of a range
are held as soon as its first one is and every end inside the range.
-/

variable {f : P → Int} {n : Int} {stretches : List (Stretch P R)}

theorem held_of_ends {a b : Int} (hFirst : a < b → ∃ s ∈ stretches, holds f a s = true)
    (hEnds : ∀ s ∈ stretches, a ≤ f s.last → f s.last < b →
      ∃ t ∈ stretches, holds f (f s.last) t = true) {n : Int} (hn : a ≤ n) :
    n < b → ∃ s ∈ stretches, holds f n s = true := by
  induction n, hn using Int.leInduction with
  | base => exact hFirst
  | succ n hn ih =>
    intro hLess
    obtain ⟨s, hs, hHolds⟩ := ih (by omega)
    simp only [holds, Bool.and_eq_true, decide_eq_true_eq] at hHolds
    by_cases hInside : n + 1 < f s.last
    · refine ⟨s, hs, ?_⟩
      simp only [holds, Bool.and_eq_true, decide_eq_true_eq]
      omega
    · have hEnd : f s.last = n + 1 := by omega
      rw [← hEnd]
      exact hEnds s hs (by omega) (by omega)

theorem labelAt_isSome :
    (labelAt f n stretches).isSome = true ↔ ∃ s ∈ stretches, holds f n s = true := by
  simp [labelAt]

theorem exists_of_labelAt {label : R} (h : labelAt f n stretches = some label) :
    ∃ s ∈ stretches, holds f n s = true ∧ s.label = label := by
  obtain ⟨s, hFound, hLabel⟩ := Option.map_eq_some_iff.mp h
  exact ⟨s, List.mem_of_find?_eq_some hFound, List.find?_some hFound, hLabel⟩

end UavNavigation.RoundedPartition
