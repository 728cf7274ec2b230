import Mathlib.Algebra.Order.Group.Nat
import Mathlib.Data.List.Sort

/-!
# Queues ordered by a key

The two bounds of a queue and the order laws they rest on. In a queue whose
keys never fall the bounds are where a binary search stops, so every element
before a bound lies on one side of the key and every later one on the other.
-/

namespace UavNavigation.OrderedQueues

set_option autoImplicit false

open List

variable {A K : Type} [LinearOrder K]

/-- The position of the first element whose key is not below `t`. -/
def lowerBound (key : A → K) (xs : List A) (t : K) : Nat := xs.findIdx fun x => t ≤ key x

/-- The position of the first element whose key is above `t`. -/
def upperBound (key : A → K) (xs : List A) (t : K) : Nat := xs.findIdx fun x => t < key x

def insertOrdered (key : A → K) (xs : List A) (x : A) : List A :=
  xs.take (upperBound key xs (key x)) ++ x :: xs.drop (upperBound key xs (key x))

def Ordered (key : A → K) (xs : List A) : Prop := xs.Pairwise fun a b => key a ≤ key b

def Increasing (key : A → K) (xs : List A) : Prop := xs.Pairwise fun a b => key a < key b

variable {key : A → K} {xs ys : List A} {t : K} {i j : Nat}

variable {x : A}

theorem lowerBound_le (key : A → K) (xs : List A) (t : K) : lowerBound key xs t ≤ xs.length :=
  findIdx_le_length

theorem upperBound_le (key : A → K) (xs : List A) (t : K) : upperBound key xs t ≤ xs.length :=
  findIdx_le_length

theorem lt_of_lt_lowerBound (h : i < lowerBound key xs t) (hi : i < xs.length) : key xs[i] < t := by
  have hNot := not_of_lt_findIdx h
  simpa using hNot

theorem le_lowerBound (h : lowerBound key xs t < xs.length) : t ≤ key xs[lowerBound key xs t] := by
  have hSome := findIdx_of_getElem?_eq_some (List.getElem?_eq_getElem h)
  exact of_decide_eq_true hSome

theorem le_of_lt_upperBound (h : i < upperBound key xs t) (hi : i < xs.length) : key xs[i] ≤ t := by
  have hNot := not_of_lt_findIdx h
  simpa using hNot

theorem lt_upperBound (h : upperBound key xs t < xs.length) : t < key xs[upperBound key xs t] := by
  have hSome := findIdx_of_getElem?_eq_some (List.getElem?_eq_getElem h)
  exact of_decide_eq_true hSome

theorem lowerBound_eq_length : lowerBound key xs t = xs.length ↔ ∀ x ∈ xs, key x < t := by
  simp [lowerBound, findIdx_eq_length]

theorem upperBound_pos : 0 < upperBound key (x :: xs) t ↔ key x ≤ t := by
  by_cases h : t < key x
  · simp [upperBound, findIdx_cons, h]
  · simp [upperBound, findIdx_cons, h, not_lt.mp h]

theorem lt_of_mem_take_lowerBound (h : x ∈ xs.take (lowerBound key xs t)) : key x < t := by
  obtain ⟨i, hi, rfl⟩ := getElem_of_mem h
  rw [length_take] at hi
  rw [getElem_take]
  exact lt_of_lt_lowerBound (by omega) (by omega)

theorem le_of_mem_take_upperBound (h : x ∈ xs.take (upperBound key xs t)) : key x ≤ t := by
  obtain ⟨i, hi, rfl⟩ := getElem_of_mem h
  rw [length_take] at hi
  rw [getElem_take]
  exact le_of_lt_upperBound (by omega) (by omega)

variable {y : A}

theorem Increasing.ordered (h : Increasing key xs) : Ordered key xs :=
  List.Pairwise.imp (fun hlt => le_of_lt hlt) h

theorem Increasing.sublist (h : Increasing key ys) (hSub : xs.Sublist ys) : Increasing key xs :=
  List.Pairwise.sublist hSub h

theorem Ordered.sublist (h : Ordered key ys) (hSub : xs.Sublist ys) : Ordered key xs :=
  List.Pairwise.sublist hSub h

theorem Increasing.getElem_lt (h : Increasing key xs) (hij : i < j) (hj : j < xs.length) :
    key xs[i] < key xs[j] := pairwise_iff_getElem.mp h i j (by omega) hj hij

theorem Ordered.getElem_le (h : Ordered key xs) (hij : i ≤ j) (hj : j < xs.length) :
    key xs[i] ≤ key xs[j] := by
  rcases Nat.lt_or_eq_of_le hij with hlt | rfl
  · exact pairwise_iff_getElem.mp h i j (by omega) hj hlt
  · exact le_refl _

theorem Ordered.lt_of_mem_drop_upperBound (h : Ordered key xs)
    (hx : x ∈ xs.drop (upperBound key xs t)) : t < key x := by
  obtain ⟨i, hi, rfl⟩ := getElem_of_mem hx
  rw [length_drop] at hi
  rw [getElem_drop]
  have hStart : upperBound key xs t < xs.length := by omega
  exact lt_of_lt_of_le (lt_upperBound hStart) (h.getElem_le (by omega) (by omega))

theorem Increasing.lt_of_append (h : Increasing key (xs ++ ys)) (hx : x ∈ xs) (hy : y ∈ ys) :
    key x < key y := (pairwise_append.mp h).2.2 x hx y hy

theorem Ordered.le_getLast (h : Ordered key xs) (hx : x ∈ xs) (hy : y ∈ xs.getLast?) :
    key x ≤ key y := by
  obtain ⟨i, hi, rfl⟩ := getElem_of_mem hx
  rw [List.getLast?_eq_getElem?] at hy
  obtain ⟨hLast, rfl⟩ := List.getElem?_eq_some_iff.mp hy
  exact h.getElem_le (by omega) hLast

theorem Ordered.head_le (h : Ordered key xs) (hx : x ∈ xs.head?) (hy : y ∈ xs) : key x ≤ key y := by
  cases xs with
  | nil => cases hy
  | cons z xs =>
    cases hx
    rcases mem_cons.mp hy with rfl | hy
    · exact le_refl _
    · exact (pairwise_cons.mp h).1 y hy

theorem Ordered.concat (h : Ordered key xs) (hy : ∀ x ∈ xs, key x ≤ key y) :
    Ordered key (xs ++ [y]) := by
  apply pairwise_append.mpr
  refine ⟨h, pairwise_singleton _ _, ?_⟩
  intro x hx z hz
  rw [mem_singleton.mp hz]
  exact hy x hx

theorem mem_insertOrdered : y ∈ insertOrdered key xs x ↔ y = x ∨ y ∈ xs := by
  have hSplit := take_append_drop (upperBound key xs (key x)) xs
  constructor
  · intro hy
    rcases mem_append.mp hy with hy | hy
    · exact .inr (mem_of_mem_take hy)
    · rcases mem_cons.mp hy with rfl | hy
      · exact .inl rfl
      · exact .inr (mem_of_mem_drop hy)
  · rintro (rfl | hy)
    · exact mem_append_right _ mem_cons_self
    · rw [← hSplit] at hy
      rcases mem_append.mp hy with hy | hy
      · exact mem_append_left _ hy
      · exact mem_append_right _ (mem_cons_of_mem _ hy)

theorem Increasing.concat (h : Increasing key xs) (hy : ∀ x ∈ xs, key x < key y) :
    Increasing key (xs ++ [y]) := by
  apply pairwise_append.mpr
  refine ⟨h, pairwise_singleton _ _, ?_⟩
  intro x hx z hz
  rw [mem_singleton.mp hz]
  exact hy x hx

theorem Ordered.insertOrdered (h : Ordered key xs) : Ordered key (insertOrdered key xs x) := by
  have hTake : ∀ a ∈ xs.take (upperBound key xs (key x)), key a ≤ key x :=
    fun a ha => le_of_mem_take_upperBound ha
  have hDrop : ∀ b ∈ xs.drop (upperBound key xs (key x)), key x ≤ key b :=
    fun b hb => le_of_lt (h.lt_of_mem_drop_upperBound hb)
  apply pairwise_append.mpr
  refine ⟨h.sublist (take_sublist _ _), ?_, ?_⟩
  · exact pairwise_cons.mpr ⟨hDrop, h.sublist (drop_sublist _ _)⟩
  · intro a ha b hb
    rcases mem_cons.mp hb with rfl | hb
    · exact hTake a ha
    · exact le_trans (hTake a ha) (hDrop b hb)

theorem Increasing.insertOrdered (h : Increasing key xs) (hNew : ∀ y ∈ xs, key y ≠ key x) :
    Increasing key (insertOrdered key xs x) := by
  have hBefore : ∀ y ∈ xs.take (upperBound key xs (key x)), key y < key x := by
    intro y hy
    exact lt_of_le_of_ne (le_of_mem_take_upperBound hy) (hNew y (mem_of_mem_take hy))
  have hAfter : ∀ y ∈ xs.drop (upperBound key xs (key x)), key x < key y :=
    fun y hy => h.ordered.lt_of_mem_drop_upperBound hy
  refine pairwise_append.mpr ⟨h.sublist (take_sublist _ _), ?_, ?_⟩
  · exact pairwise_cons.mpr ⟨hAfter, h.sublist (drop_sublist _ _)⟩
  · intro y hy z hz
    rcases mem_cons.mp hz with rfl | hz
    · exact hBefore y hy
    · exact (hBefore y hy).trans (hAfter z hz)

theorem Increasing.of_insertOrdered (h : Increasing key (OrderedQueues.insertOrdered key xs x)) :
    ∀ y ∈ xs, key y ≠ key x := by
  intro y hy
  obtain ⟨-, hRest, hAcross⟩ := pairwise_append.mp h
  rw [← take_append_drop (upperBound key xs (key x)) xs] at hy
  rcases mem_append.mp hy with hy | hy
  · exact (hAcross y hy x mem_cons_self).ne
  · exact ((pairwise_cons.mp hRest).1 y hy).ne'

/-- Storage behind the last element, or in order when that is asked for and needed. -/
def store (key : A → K) (append : Bool) (xs : List A) (x : A) : List A :=
  match xs.getLast? with
  | none => [x]
  | some back => if append = true ∨ key back < key x then xs ++ [x] else insertOrdered key xs x

theorem Increasing.store {append : Bool} (h : Increasing key xs) (hNew : ∀ y ∈ xs, key y ≠ key x)
    (hAppend : append = true → ∀ y ∈ xs, key y < key x) :
    Increasing key (store key append xs x) := by
  fun_cases OrderedQueues.store
  · exact pairwise_singleton _ _
  · rename_i back hBack hLater
    apply h.concat
    intro y hy
    rcases hLater with hAll | hLater
    · exact hAppend hAll y hy
    · exact lt_of_le_of_lt (h.ordered.le_getLast hy hBack) hLater
  · exact h.insertOrdered hNew

theorem Increasing.of_store {append : Bool}
    (h : Increasing key (OrderedQueues.store key append xs x)) : ∀ y ∈ xs, key y ≠ key x := by
  unfold OrderedQueues.store at h
  split at h
  · rename_i hNone
    rw [List.getLast?_eq_none_iff.mp hNone]
    simp
  split at h
  · intro y hy
    exact (h.lt_of_append hy (mem_singleton_self x)).ne
  · exact h.of_insertOrdered

theorem length_store (key : A → K) (append : Bool) (xs : List A) (x : A) :
    (store key append xs x).length = xs.length + 1 := by
  fun_cases store
  · rename_i hNone
    rw [List.getLast?_eq_none_iff.mp hNone]
    rfl
  · simp
  · unfold insertOrdered
    rw [length_append, length_cons, ← Nat.add_assoc, ← length_append, take_append_drop]

theorem lowerBound_append_of_lt (h : ∀ x ∈ xs, key x < t) :
    lowerBound key (xs ++ ys) t = xs.length + lowerBound key ys t := by
  induction xs with
  | nil => simp
  | cons x xs ih =>
    have hx : ¬ t ≤ key x := not_le.mpr (h x mem_cons_self)
    have hRest := ih fun y hy => h y (mem_cons_of_mem _ hy)
    unfold lowerBound at hRest ⊢
    rw [cons_append, findIdx_cons, decide_eq_false hx, hRest, length_cons]
    simp only [cond_false]
    omega

theorem lowerBound_append_of_inside (h : lowerBound key xs t < xs.length) :
    lowerBound key (xs ++ ys) t = lowerBound key xs t := by
  unfold lowerBound at h ⊢
  rw [findIdx_append, if_pos h]

theorem Increasing.getElem_lowerBound (h : Increasing key xs) (hx : x ∈ xs) :
    xs[lowerBound key xs (key x)]? = some x := by
  obtain ⟨i, hi, rfl⟩ := getElem_of_mem hx
  have hNotAfter : lowerBound key xs (key xs[i]) ≤ i := by
    by_contra hAfter
    exact lt_irrefl _ (lt_of_lt_lowerBound (not_le.mp hAfter) hi)
  rcases Nat.lt_or_eq_of_le hNotAfter with hBefore | hSame
  · have hAt := le_lowerBound (Nat.lt_trans hBefore hi)
    exact absurd (h.getElem_lt hBefore hi) (not_lt.mpr hAt)
  · rw [hSame, List.getElem?_eq_getElem hi]

theorem Increasing.filter_cut {c u : K} (h : Increasing key xs) (hc : c ≤ t) (hu : t ≤ u) :
    (xs.filter fun x => c < key x ∧ key x ≤ u) =
      (xs.filter fun x => c < key x ∧ key x ≤ t) ++ xs.filter fun x => t < key x ∧ key x ≤ u := by
  induction xs with
  | nil => rfl
  | cons x xs ih =>
    obtain ⟨hFirst, hRest⟩ := pairwise_cons.mp h
    have hSplit := ih hRest
    rcases le_or_gt (key x) t with hBefore | hAfter
    · have hu' : key x ≤ u := le_trans hBefore hu
      simp only [filter_cons, hBefore, hu', not_lt.mpr hBefore, and_true,
        decide_false, Bool.false_eq_true, if_false]
      rw [hSplit]
      split <;> rfl
    · have hNone : (xs.filter fun y => c < key y ∧ key y ≤ t) = [] := by
        rw [filter_eq_nil_iff]
        intro y hy
        have hyx := lt_trans hAfter (hFirst y hy)
        simp [not_le.mpr hyx]
      rw [hNone] at hSplit
      simp only [filter_cons, hAfter, not_le.mpr hAfter, lt_of_le_of_lt hc hAfter, and_false,
        true_and, decide_false, Bool.false_eq_true, if_false, hNone, nil_append]
      rw [hSplit, nil_append]

theorem Increasing.filter_below_last {c : K} {z : A} (h : Increasing key (xs ++ [z])) :
    ((xs ++ [z]).filter fun x => c < key x ∧ key x < key z) ++ (if c < key z then [z] else []) =
      (xs ++ [z]).filter fun x => c < key x := by
  have hBefore : ∀ x ∈ xs, key x < key z :=
    fun x hx => h.lt_of_append hx (mem_singleton_self z)
  have hFront : (xs.filter fun x => c < key x ∧ key x < key z) = xs.filter fun x => c < key x := by
    apply filter_congr
    intro x hx
    simp [hBefore x hx]
  rw [filter_append, filter_append, hFront, append_assoc]
  congr 1
  by_cases hc : c < key z <;> simp [hc]

theorem filter_above {c u : K} (hAll : ∀ x ∈ xs, key x ≤ u) :
    (xs.filter fun x => c < key x ∧ key x ≤ u) = xs.filter fun x => c < key x := by
  apply filter_congr
  intro x hx
  simp [hAll x hx]

theorem Increasing.getLast_filter {c : K} (h : Increasing key xs) (hx : x ∈ xs) (hc : c < key x) :
    x ∈ (xs.filter fun y => c < key y ∧ key y ≤ key x).getLast? := by
  obtain ⟨front, back, rfl⟩ := append_of_mem hx
  have hNone : (back.filter fun y => c < key y ∧ key y ≤ key x) = [] := by
    rw [filter_eq_nil_iff]
    intro y hy
    have hxy := (pairwise_cons.mp (pairwise_append.mp h).2.1).1 y hy
    simp [not_le.mpr hxy]
  rw [filter_append, filter_cons, hNone]
  simp [hc]

/-! ## Brackets and unions of ordered queues -/

variable {low high : K}

instance instDecidableIncreasing (key : A → K) (xs : List A) : Decidable (Increasing key xs) :=
  inferInstanceAs (Decidable (xs.Pairwise _))

theorem Increasing.upperBound_eq (h : Increasing key xs) : upperBound key xs t =
      lowerBound key xs t + if (xs[lowerBound key xs t]?).any (key · = t) then 1 else 0 := by
  induction xs with
  | nil => rfl
  | cons x xs ih =>
    obtain ⟨hFirst, hRest⟩ := pairwise_cons.mp h
    have hSame := ih hRest
    unfold upperBound lowerBound at hSame ⊢
    rw [findIdx_cons, findIdx_cons]
    rcases lt_trichotomy (key x) t with hBelow | hAt | hAbove
    · rw [decide_eq_false (not_lt.mpr hBelow.le), decide_eq_false (not_le.mpr hBelow), hSame]
      simp only [cond_false, List.getElem?_cons_succ]
      omega
    · have hNone : xs.findIdx (fun x => decide (t < key x)) = 0 := by
        cases xs with
        | nil => rfl
        | cons y xs =>
          have hy : t < key y := hAt ▸ hFirst y mem_cons_self
          rw [findIdx_cons, decide_eq_true hy]
          rfl
      rw [decide_eq_false (not_lt.mpr hAt.le), decide_eq_true hAt.ge, hNone]
      simp [hAt]
    · rw [decide_eq_true hAbove, decide_eq_true hAbove.le]
      simp [hAbove.ne']

/-- The queue reaches over both ends of the interval. -/
structure Covers (key : A → K) (xs : List A) (low high : K) : Prop where
  start : ∃ x ∈ xs, key x ≤ low
  stop : ∃ x ∈ xs, high ≤ key x

/-- The elements from the last one at or below the interval to the first one at or above it. -/
def bracket (key : A → K) (xs : List A) (low high : K) : List A :=
  xs.filter fun x =>
    (∀ y ∈ xs, key y ≤ low → key y ≤ key x) ∧ ∀ y ∈ xs, high ≤ key y → key x ≤ key y

theorem filter_positions {p : A → Bool} {first count : Nat}
    (h : ∀ i (hi : i < xs.length), p xs[i] = decide (first ≤ i ∧ i < first + count)) :
    xs.filter p = (xs.drop first).take count := by
  induction xs generalizing first count with
  | nil => simp
  | cons x xs ih =>
    have hHead := h 0 (Nat.zero_lt_succ _)
    have hTail (i : Nat) (hi : i < xs.length) :
        p xs[i] = decide (first ≤ i + 1 ∧ i + 1 < first + count) := h (i + 1) (by simpa using hi)
    rw [getElem_cons_zero] at hHead
    rw [filter_cons, hHead]
    cases first with
    | succ first =>
      have hRest : xs.filter p = (xs.drop first).take count := by
        apply ih
        intro i hi
        rw [hTail i hi, decide_eq_decide]
        omega
      simp [hRest]
    | zero =>
      cases count with
      | zero =>
        have hRest : xs.filter p = (xs.drop 0).take 0 := by
          apply ih
          intro i hi
          rw [hTail i hi, decide_eq_decide]
          omega
        simp [hRest]
      | succ count =>
        have hRest : xs.filter p = (xs.drop 0).take count := by
          apply ih
          intro i hi
          rw [hTail i hi, decide_eq_decide]
          omega
        simp [hRest]

section Brackets
variable (h : Increasing key xs)
include h

theorem Increasing.upperBound_pos_of_start (hStart : ∃ x ∈ xs, key x ≤ low) :
    0 < upperBound key xs low := by
  obtain ⟨x, hx, hLow⟩ := hStart
  by_contra hZero
  have hDrop : x ∈ xs.drop (upperBound key xs low) := by
    rw [Nat.eq_zero_of_not_pos hZero]
    exact hx
  exact absurd hLow (not_le.mpr (h.ordered.lt_of_mem_drop_upperBound hDrop))

omit h in
theorem lowerBound_lt_of_stop (hStop : ∃ x ∈ xs, high ≤ key x) :
    lowerBound key xs high < xs.length := by
  obtain ⟨x, hx, hHigh⟩ := hStop
  refine lt_of_le_of_ne (lowerBound_le key xs high) ?_
  intro hEqual
  exact absurd (lowerBound_eq_length.mp hEqual x hx) (not_lt.mpr hHigh)

theorem Increasing.bracket_eq (hCovers : Covers key xs low high) (hOrder : low ≤ high) :
    upperBound key xs low - 1 ≤ lowerBound key xs high ∧ bracket key xs low high =
        (xs.drop (upperBound key xs low - 1)).take
          (lowerBound key xs high + 1 - (upperBound key xs low - 1)) := by
  have hUpper := h.upperBound_pos_of_start hCovers.start
  have hLast := lowerBound_lt_of_stop hCovers.stop
  have hLength := upperBound_le key xs low
  have hFirst : upperBound key xs low - 1 < xs.length := by omega
  have hLow : key xs[upperBound key xs low - 1] ≤ low := le_of_lt_upperBound (by omega) hFirst
  have hHigh : high ≤ key xs[lowerBound key xs high] := le_lowerBound hLast
  have hBounds : upperBound key xs low - 1 ≤ lowerBound key xs high := by
    by_contra hNot
    have hLess := h.getElem_lt (not_le.mp hNot) hFirst
    exact absurd (hLess.trans_le (hLow.trans hOrder)) (not_lt.mpr hHigh)
  refine ⟨hBounds, filter_positions ?_⟩
  intro i hi
  rw [decide_eq_decide]
  constructor
  · rintro ⟨hAbove, hBelow⟩
    have hAfter : ¬ i < upperBound key xs low - 1 := fun hLess =>
      absurd (hAbove _ (getElem_mem hFirst) hLow) (not_le.mpr (h.getElem_lt hLess hFirst))
    have hBefore : ¬ lowerBound key xs high < i := fun hLess =>
      absurd (hBelow _ (getElem_mem hLast) hHigh) (not_le.mpr (h.getElem_lt hLess hi))
    omega
  · rintro ⟨hAfter, hBefore⟩
    constructor
    · intro y hy hyLow
      obtain ⟨j, hj, rfl⟩ := getElem_of_mem hy
      have hPosition : j < upperBound key xs low := by
        by_contra hNot
        have hUpperLength : upperBound key xs low < xs.length := by omega
        have hBeyond := (lt_upperBound hUpperLength).trans_le (h.ordered.getElem_le (not_lt.mp hNot) hj)
        exact absurd hyLow (not_le.mpr hBeyond)
      exact h.ordered.getElem_le (by omega) hi
    · intro y hy hyHigh
      obtain ⟨j, hj, rfl⟩ := getElem_of_mem hy
      have hPosition : lowerBound key xs high ≤ j := by
        by_contra hNot
        exact absurd hyHigh (not_le.mpr (lt_of_lt_lowerBound (not_le.mp hNot) hj))
      exact h.ordered.getElem_le (by omega) hj

end Brackets

/-- Everything of the first queue, and of the second what has a key of its own. -/
structure PreferredUnion (key : A → K) (first second merged : List A) : Prop where
  increasing : Increasing key merged
  members : ∀ x, x ∈ merged ↔ x ∈ first ∨ x ∈ second ∧ ∀ y ∈ first, key y ≠ key x

namespace PreferredUnion
variable {first second merged other : List A} {a : A}

theorem nil_left (h : Increasing key second) : PreferredUnion key [] second second :=
  ⟨h, by simp⟩

theorem nil_right (h : Increasing key first) : PreferredUnion key first [] first :=
  ⟨h, by simp⟩

theorem unique (h : PreferredUnion key first second merged)
    (hOther : PreferredUnion key first second other) : merged = other := by
  exact Pairwise.eq_of_mem_iff h.increasing hOther.increasing
    fun {x} => (h.members x).trans (hOther.members x).symm

section
variable (h : PreferredUnion key first second merged) (hFirst : ∀ x ∈ first, key a < key x)
  (hSecond : ∀ x ∈ second, key a < key x)
include h hFirst hSecond

theorem cons_first : PreferredUnion key (a :: first) second (a :: merged) := by
  constructor
  · refine pairwise_cons.mpr ⟨?_, h.increasing⟩
    intro x hx
    rcases (h.members x).mp hx with hx | ⟨hx, -⟩
    · exact hFirst x hx
    · exact hSecond x hx
  · intro x
    rw [mem_cons, mem_cons, h.members x]
    constructor
    · rintro (rfl | hx | ⟨hx, hOwn⟩)
      · exact .inl (.inl rfl)
      · exact .inl (.inr hx)
      · exact .inr ⟨hx, forall_mem_cons.mpr ⟨(hSecond x hx).ne, hOwn⟩⟩
    · rintro ((rfl | hx) | ⟨hx, hOwn⟩)
      · exact .inl rfl
      · exact .inr (.inl hx)
      · exact .inr (.inr ⟨hx, (forall_mem_cons.mp hOwn).2⟩)

theorem cons_second : PreferredUnion key first (a :: second) (a :: merged) := by
  constructor
  · refine pairwise_cons.mpr ⟨?_, h.increasing⟩
    intro x hx
    rcases (h.members x).mp hx with hx | ⟨hx, -⟩
    · exact hFirst x hx
    · exact hSecond x hx
  · intro x
    rw [mem_cons, mem_cons, h.members x]
    constructor
    · rintro (rfl | hx | ⟨hx, hOwn⟩)
      · exact .inr ⟨.inl rfl, fun y hy => (hFirst y hy).ne'⟩
      · exact .inl hx
      · exact .inr ⟨.inr hx, hOwn⟩
    · rintro (hx | ⟨rfl | hx, hOwn⟩)
      · exact .inr (.inl hx)
      · exact .inl rfl
      · exact .inr (.inr ⟨hx, hOwn⟩)

end

theorem skip_second {b : A} (h : PreferredUnion key first second merged) (hb : b ∈ first)
    (hKey : key b = key a) : PreferredUnion key first (a :: second) merged := by
  refine ⟨h.increasing, ?_⟩
  intro x
  rw [h.members x, mem_cons]
  constructor
  · rintro (hx | ⟨hx, hOwn⟩)
    · exact .inl hx
    · exact .inr ⟨.inr hx, hOwn⟩
  · rintro (hx | ⟨rfl | hx, hOwn⟩)
    · exact .inl hx
    · exact absurd hKey (hOwn b hb)
    · exact .inr ⟨hx, hOwn⟩

end PreferredUnion

end UavNavigation.OrderedQueues
