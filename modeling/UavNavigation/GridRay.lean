import Mathlib.Algebra.Order.Floor.Ring
import Mathlib.Tactic.Positivity
import Mathlib.Tactic.Ring
import UavNavigation.Literals

/-!
# A ray on one axis of a uniform grid

A number lies in the half-open cell that its quotient by the resolution is rounded
down to. A point moves from one number to another as its parameter runs from zero to
one. In each direction it leaves a cell by one boundary, at one parameter, and the
cells it passes are monotone in the parameter.
-/

namespace GridRay

set_option autoImplicit false

variable {K : Type} [Field K] [LinearOrder K] [IsStrictOrderedRing K] [FloorRing K]

def cell (resolution x : K) : Int := ⌊x / resolution⌋

variable {resolution : K} {x : K}

section
variable (hr : 0 < resolution)
include hr

theorem le_cell_iff {c : Int} : c ≤ cell resolution x ↔ c * resolution ≤ x := by
  rw [cell, Int.le_floor, le_div_iff₀ hr]

theorem cell_lt_iff {c : Int} : cell resolution x < c ↔ x < c * resolution := by
  rw [cell, Int.floor_lt, div_lt_iff₀ hr]

theorem cell_eq_iff {c : Int} :
    cell resolution x = c ↔ c * resolution ≤ x ∧ x < (c + 1) * resolution := by
  rw [cell, Int.floor_eq_iff, le_div_iff₀ hr, div_lt_iff₀ hr]

theorem cell_mono {y : K} (h : x ≤ y) : cell resolution x ≤ cell resolution y :=
  (le_cell_iff hr).mpr (((le_cell_iff hr).mp le_rfl).trans h)

theorem lt_of_cell_lt {y : K} (h : cell resolution x < cell resolution y) : x < y :=
  lt_of_not_ge fun hle => absurd (cell_mono hr hle) (not_le.mpr h)

theorem cell_center (c : Int) : cell resolution ((c + 1 / 2) * resolution) = c := by
  rw [cell_eq_iff hr]
  constructor
  · exact mul_le_mul_of_nonneg_right (by linarith) hr.le
  · exact mul_lt_mul_of_pos_right (by linarith) hr

end

theorem cell_natCast_mul (k : Nat) (x : K) :
    cell (k * resolution) x = cell resolution x / (k : Int) := by
  rw [cell, mul_comm, ← div_div, Int.floor_div_natCast]
  rfl

section Motion
variable {start finish : K}

def position (start finish t : K) : K := start + t * (finish - start)

def cellAt (resolution start finish t : K) : Int := cell resolution (position start finish t)

section
omit [LinearOrder K] [IsStrictOrderedRing K] [FloorRing K]

theorem position_zero : position start finish 0 = start := by simp [position]

theorem position_one : position start finish 1 = finish := by simp [position]

end

section
omit [FloorRing K]

theorem lt_position {low t : K} (hStart : low < start) (hFinish : low < finish) (h0 : 0 ≤ t)
    (h1 : t ≤ 1) : low < position start finish t := by
  unfold position
  rcases h0.lt_or_eq with hPos | hZero
  · nlinarith [mul_pos hPos (sub_pos.mpr hFinish),
      mul_nonneg (sub_nonneg.mpr h1) (sub_pos.mpr hStart).le]
  · simpa [← hZero] using hStart

theorem position_lt {high t : K} (hStart : start < high) (hFinish : finish < high) (h0 : 0 ≤ t)
    (h1 : t ≤ 1) : position start finish t < high := by
  unfold position
  rcases h0.lt_or_eq with hPos | hZero
  · nlinarith [mul_pos hPos (sub_pos.mpr hFinish),
      mul_nonneg (sub_nonneg.mpr h1) (sub_pos.mpr hStart).le]
  · simpa [← hZero] using hStart

end

def Heads (start finish : K) (direction : Int) : Prop :=
  direction = 1 ∧ start < finish ∨ direction = -1 ∧ finish < start

variable {direction : Int}

section
omit [IsStrictOrderedRing K]

theorem cellAt_zero : cellAt resolution start finish 0 = cell resolution start := by
  rw [cellAt, position_zero]

theorem cellAt_one : cellAt resolution start finish 1 = cell resolution finish := by
  rw [cellAt, position_one]

end

theorem heads_mono (hr : 0 < resolution) (h : Heads start finish direction) {t u : K}
    (htu : t ≤ u) :
    0 ≤ direction * (cellAt resolution start finish u - cellAt resolution start finish t) := by
  rcases h with ⟨rfl, hlt⟩ | ⟨rfl, hlt⟩
  · have hMono : cellAt resolution start finish t ≤ cellAt resolution start finish u := by
      refine cell_mono hr ?_
      unfold position
      nlinarith
    omega
  · have hMono : cellAt resolution start finish u ≤ cellAt resolution start finish t := by
      refine cell_mono hr ?_
      unfold position
      nlinarith
    omega

theorem cellAt_of_same (hr : 0 < resolution) (h : cell resolution start = cell resolution finish)
    {t : K} (h0 : 0 ≤ t) (h1 : t ≤ 1) :
    cellAt resolution start finish t = cell resolution start := by
  obtain ⟨hLow, hHigh⟩ := (cell_eq_iff hr).mp (rfl : cell resolution start = _)
  obtain ⟨hLow', hHigh'⟩ := (cell_eq_iff hr).mp h.symm
  rw [cellAt, cell_eq_iff hr]
  unfold position
  constructor
  · nlinarith [mul_nonneg h0 (sub_nonneg.mpr hLow'),
      mul_nonneg (sub_nonneg.mpr h1) (sub_nonneg.mpr hLow)]
  · rcases h0.lt_or_eq with hPos | hZero
    · nlinarith [mul_pos hPos (sub_pos.mpr hHigh'),
        mul_nonneg (sub_nonneg.mpr h1) (sub_pos.mpr hHigh).le]
    · simpa [← hZero] using hHigh

theorem cellAt_mem (hr : 0 < resolution) {low high : Int}
    (hStart : low ≤ cell resolution start ∧ cell resolution start ≤ high)
    (hFinish : low ≤ cell resolution finish ∧ cell resolution finish ≤ high)
    {t : K} (h0 : 0 ≤ t) (h1 : t ≤ 1) :
    low ≤ cellAt resolution start finish t ∧ cellAt resolution start finish t ≤ high := by
  rcases lt_trichotomy start finish with hlt | heq | hgt
  · have hFirst := heads_mono hr (Or.inl ⟨rfl, hlt⟩) h0
    have hLast := heads_mono hr (Or.inl ⟨rfl, hlt⟩) h1
    rw [cellAt_zero] at hFirst
    rw [cellAt_one] at hLast
    omega
  · rw [cellAt_of_same hr (congrArg _ heq) h0 h1]
    exact hStart
  · have hFirst := heads_mono hr (Or.inr ⟨rfl, hgt⟩) h0
    have hLast := heads_mono hr (Or.inr ⟨rfl, hgt⟩) h1
    rw [cellAt_zero] at hFirst
    rw [cellAt_one] at hLast
    omega

def boundary (resolution : K) (direction c : Int) : K :=
  (c + 1 / 2) * resolution + direction * resolution * (1 / 2)

def crossing (resolution start finish : K) (direction c : Int) : K :=
  |boundary resolution direction c - start| / |finish - start|

section
variable (hr : 0 < resolution) {c : Int} (h : Heads start finish direction)
  (hc : 0 ≤ direction * (c - cell resolution start))
include hr h hc

theorem crossing_add : crossing resolution start finish direction (c + direction) =
      crossing resolution start finish direction c + resolution / |finish - start| := by
  obtain ⟨hLow, hHigh⟩ := (cell_eq_iff hr).mp (rfl : cell resolution start = _)
  unfold crossing boundary
  rw [← add_div]
  congr 1
  rcases h with ⟨rfl, -⟩ | ⟨rfl, -⟩
  · have hle : cell resolution start ≤ c := by omega
    have hle' : (cell resolution start : K) ≤ c := Int.cast_le.mpr hle
    have hScaled := mul_le_mul_of_nonneg_right hle' hr.le
    push_cast
    rw [abs_of_nonneg (by linarith), abs_of_nonneg (by linarith)]
    ring
  · have hle : c ≤ cell resolution start := by omega
    have hle' : (c : K) ≤ cell resolution start := Int.cast_le.mpr hle
    have hScaled := mul_le_mul_of_nonneg_right hle' hr.le
    push_cast
    rw [abs_of_nonpos (by linarith), abs_of_nonpos (by linarith)]
    ring

theorem crossing_cases (t : K) : (t < crossing resolution start finish direction c →
      direction * (cellAt resolution start finish t - c) ≤ 0) ∧
    (t = crossing resolution start finish direction c →
      cellAt resolution start finish t = c ∨ cellAt resolution start finish t = c + direction) ∧
    (crossing resolution start finish direction c < t →
      1 ≤ direction * (cellAt resolution start finish t - c)) := by
  obtain ⟨hLow, hHigh⟩ := (cell_eq_iff hr).mp (rfl : cell resolution start = _)
  rcases h with ⟨rfl, hlt⟩ | ⟨rfl, hlt⟩
  · have hPos : 0 < finish - start := sub_pos.mpr hlt
    have hle' : (cell resolution start : K) ≤ c := Int.cast_le.mpr (by omega)
    have hScaled := mul_le_mul_of_nonneg_right hle' hr.le
    have hSide : boundary resolution 1 c = (c + 1) * resolution := by
      unfold boundary
      ring
    have hCross : crossing resolution start finish 1 c =
        ((c + 1) * resolution - start) / (finish - start) := by
      rw [crossing, hSide, abs_of_pos hPos, abs_of_nonneg (by linarith)]
    rw [hCross]
    refine ⟨fun ht => ?_, fun ht => ?_, fun ht => ?_⟩
    · rw [lt_div_iff₀ hPos] at ht
      have hBefore : cellAt resolution start finish t < c + 1 := by
        rw [cellAt, cell_lt_iff hr, position]
        push_cast
        linarith
      omega
    · rw [eq_div_iff hPos.ne'] at ht
      right
      rw [cellAt, cell_eq_iff hr, position]
      push_cast
      constructor <;> linarith
    · rw [div_lt_iff₀ hPos] at ht
      have hAfter : c + 1 ≤ cellAt resolution start finish t := by
        rw [cellAt, le_cell_iff hr, position]
        push_cast
        linarith
      omega
  · have hNeg : finish - start < 0 := sub_neg.mpr hlt
    have hPos : 0 < start - finish := sub_pos.mpr hlt
    have hle' : (c : K) ≤ cell resolution start := Int.cast_le.mpr (by omega)
    have hScaled := mul_le_mul_of_nonneg_right hle' hr.le
    have hSide : boundary resolution (-1) c = c * resolution := by
      unfold boundary
      ring
    have hCross : crossing resolution start finish (-1) c =
        (start - c * resolution) / (start - finish) := by
      rw [crossing, hSide, abs_of_neg hNeg, abs_of_nonpos (by linarith), neg_sub, neg_sub]
    rw [hCross]
    refine ⟨fun ht => ?_, fun ht => ?_, fun ht => ?_⟩
    · rw [lt_div_iff₀ hPos] at ht
      have hBefore : c ≤ cellAt resolution start finish t := by
        rw [cellAt, le_cell_iff hr, position]
        linarith
      omega
    · rw [eq_div_iff hPos.ne'] at ht
      left
      rw [cellAt, cell_eq_iff hr, position]
      constructor <;> linarith
    · rw [div_lt_iff₀ hPos] at ht
      have hAfter : cellAt resolution start finish t < c := by
        rw [cellAt, cell_lt_iff hr, position]
        linarith
      omega

end

end Motion

end GridRay
