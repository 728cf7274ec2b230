import Mathlib.Analysis.Calculus.Deriv.Polynomial
import Mathlib.Analysis.Calculus.LocalExtr.Basic
import Mathlib.Topology.Algebra.Polynomial

/-!
# Extrema of a real polynomial over an interval

A polynomial takes its largest and smallest values over an interval at an end or at a
root of its derivative inside.
-/

namespace UavNavigation.PolynomialExtrema

set_option autoImplicit false

open Polynomial Set

def Critical (p : ℝ[X]) (a b x : ℝ) : Prop :=
  x = a ∨ x = b ∨ (x ∈ Ioo a b ∧ (derivative p).eval x = 0)

theorem critical_of_isMaxOn {p : ℝ[X]} {a b x : ℝ} (hInside : x ∈ Icc a b)
    (hMax : IsMaxOn (fun y => p.eval y) (Icc a b) x) : Critical p a b x := by
  rcases eq_or_lt_of_le hInside.1 with hLeft | hLeft
  · exact Or.inl hLeft.symm
  · rcases eq_or_lt_of_le hInside.2 with hRight | hRight
    · exact Or.inr (Or.inl hRight)
    · refine Or.inr (Or.inr ⟨⟨hLeft, hRight⟩, ?_⟩)
      have hLocal := hMax.isLocalMax (Icc_mem_nhds hLeft hRight)
      exact hLocal.hasDerivAt_eq_zero (p.hasDerivAt x)

theorem exists_critical_max (p : ℝ[X]) {a b : ℝ} (hab : a ≤ b) :
    ∃ x ∈ Icc a b, Critical p a b x ∧ ∀ y ∈ Icc a b, p.eval y ≤ p.eval x := by
  obtain ⟨x, hx, hMax⟩ :=
    isCompact_Icc.exists_isMaxOn (nonempty_Icc.mpr hab) p.continuous.continuousOn
  exact ⟨x, hx, critical_of_isMaxOn hx hMax, fun y hy => hMax hy⟩

theorem lt_of_no_root {p : ℝ[X]} {a b c : ℝ} (hLeft : p.eval a < c) (hRight : p.eval b < c)
    (hNone : ∀ x ∈ Ioo a b, p.eval x ≠ c) : ∀ x ∈ Icc a b, p.eval x < c := by
  intro x hx
  by_contra hAbove
  obtain ⟨y, hy, hValue⟩ := intermediate_value_Icc hx.1 p.continuous.continuousOn
    (show c ∈ Icc (p.eval a) (p.eval x) from ⟨hLeft.le, not_lt.mp hAbove⟩)
  have hNotLeft : a ≠ y := by
    rintro rfl
    exact hLeft.ne hValue
  have hNotRight : y ≠ b := by
    rintro rfl
    exact hRight.ne hValue
  exact hNone y ⟨lt_of_le_of_ne hy.1 hNotLeft, lt_of_le_of_ne (hy.2.trans hx.2) hNotRight⟩ hValue

end UavNavigation.PolynomialExtrema
