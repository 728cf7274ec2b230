import Mathlib.Data.List.GetD
import Mathlib.Algebra.BigOperators.Intervals
import Mathlib.Algebra.Polynomial.Derivative
import Mathlib.Algebra.Polynomial.Reverse

/-!
# Polynomials from lists of coefficients

A list is read from the constant coefficient on or from the highest power on. The
two readings are reflections of one another. A list is the square or the derivative
of another one when its entries are the convolutions or the weighted entries.
-/

namespace UavNavigation.CoefficientLists

open Polynomial Finset List

set_option autoImplicit false

variable {R : Type} [CommSemiring R]

noncomputable def ascending : List R → R[X]
  | [] => 0
  | c :: rest => C c + X * ascending rest

noncomputable def descending (l : List R) : R[X] := ascending l.reverse

@[simp] theorem ascending_nil : ascending ([] : List R) = 0 := rfl

@[simp] theorem ascending_cons (c : R) (l : List R) :
    ascending (c :: l) = C c + X * ascending l := rfl

@[simp] theorem descending_nil : descending ([] : List R) = 0 := rfl

section
variable {a b : List R} (l : List R)

theorem coeff_ascending (i : ℕ) : (ascending l).coeff i = l.getD i 0 := by
  induction l generalizing i with
  | nil => simp
  | cons c l ih =>
    cases i with
    | zero => simp
    | succ i => simp [coeff_X_mul, ih]

theorem natDegree_ascending_le : (ascending l).natDegree ≤ l.length - 1 := by
  rw [natDegree_le_iff_coeff_eq_zero]
  intro i hi
  rw [coeff_ascending, getD_eq_default _ _ (by omega)]

theorem getD_reverse {l : List R} {i : ℕ} (h : i < l.length) :
    l.reverse.getD i 0 = l.getD (l.length - 1 - i) 0 := by
  rw [getD_eq_getElem _ _ (by simpa using h), getElem_reverse, getD_eq_getElem _ _ (by omega)]

theorem descending_eq_reflect : descending l = reflect (l.length - 1) (ascending l) := by
  ext i
  rw [descending, coeff_ascending, coeff_reflect, coeff_ascending]
  by_cases hInside : i ≤ l.length - 1
  · rw [revAt_le hInside]
    cases l with
    | nil => simp
    | cons c l =>
      apply getD_reverse
      rw [length_cons] at hInside ⊢
      omega
  · rw [revAt_eq_self_of_lt (by omega), getD_eq_default _ _ (by simp; omega),
      getD_eq_default _ _ (by omega)]

theorem eval_ascending_cons (x c : R) (l : List R) :
    (ascending (c :: l)).eval x = c + x * (ascending l).eval x := by simp

theorem eval_one_ascending : (ascending l).eval 1 = l.sum := by
  induction l with
  | nil => simp
  | cons c l ih => simp [ih]

theorem eval_one_descending : (descending l).eval 1 = l.sum := by
  rw [descending, eval_one_ascending, sum_reverse]

theorem ascending_zipWith (h : a.length = b.length) :
    ascending (List.zipWith (· + ·) a b) = ascending a + ascending b := by
  induction a generalizing b with
  | nil =>
    cases b with
    | nil => simp
    | cons d b => simp at h
  | cons c a ih =>
    cases b with
    | nil => simp at h
    | cons d b =>
      have hTail : a.length = b.length := by simpa using h
      rw [zipWith_cons_cons, ascending_cons, ascending_cons, ascending_cons, ih hTail, C_add]
      ring

theorem descending_zipWith (h : a.length = b.length) :
    descending (List.zipWith (· + ·) a b) = descending a + descending b := by
  unfold descending
  rw [reverse_zipWith h]
  exact ascending_zipWith (by simpa using h)

end

theorem descending_square {l r : List R} (hLength : r.length = 2 * l.length - 1)
    (hEntries : ∀ i < r.length,
      r.getD i 0 = ∑ x ∈ HasAntidiagonal.antidiagonal i, l.getD x.1 0 * l.getD x.2 0) :
    descending r = descending l * descending l := by
  have hProduct : ascending r = ascending l * ascending l := by
    ext i
    rw [coeff_ascending, coeff_mul]
    simp only [coeff_ascending]
    by_cases hi : i < r.length
    · exact hEntries i hi
    · rw [getD_eq_default _ _ (by omega)]
      symm
      apply Finset.sum_eq_zero
      rintro ⟨a, b⟩ hx
      rw [HasAntidiagonal.mem_antidiagonal] at hx
      by_cases ha : a < l.length
      · rw [getD_eq_default l (n := b) _ (by omega), mul_zero]
      · rw [getD_eq_default l (n := a) _ (by omega), zero_mul]
  have hDegree := natDegree_ascending_le l
  rw [descending_eq_reflect, descending_eq_reflect l, hProduct, ← reflect_mul _ _ hDegree hDegree]
  congr 1
  omega

theorem descending_derivative {l d : List R} (hLength : d.length = l.length - 1)
    (hEntries : ∀ i < d.length, d.getD i 0 = l.getD i 0 * ((l.length - 1 - i : ℕ) : R)) :
    descending d = derivative (descending l) := by
  ext k
  rw [coeff_derivative, descending, descending, coeff_ascending, coeff_ascending]
  by_cases hk : k < d.length
  · rw [getD_reverse hk, hEntries _ (by omega), getD_reverse (by omega)]
    congr 1
    · congr 1
      omega
    · rw [show l.length - 1 - (d.length - 1 - k) = k + 1 by omega]
      push_cast
      ring
  · rw [getD_eq_default d.reverse _ (by simp; omega),
      getD_eq_default l.reverse _ (by simp; omega), zero_mul]

/-- Every entry times its weight and the power of a common factor. -/
def scaled (factor : R) (weight : ℕ → R) : ℕ → R → List R → List R
  | _, _, [] => []
  | i, power, c :: rest => power * (weight i * c) :: scaled factor weight (i + 1) (power * factor) rest

section
variable (factor : R) (weight : ℕ → R)

@[simp] theorem length_scaled (i : ℕ) (power : R) (l : List R) :
    (scaled factor weight i power l).length = l.length := by
  induction l generalizing i power with
  | nil => rfl
  | cons c l ih => simp [scaled, ih]

theorem eval_scaled (x : R) (i : ℕ) (power : R) (l : List R) :
    (ascending (scaled factor weight i power l)).eval x =
      power * (ascending (scaled 1 weight i 1 l)).eval (factor * x) := by
  induction l generalizing i power with
  | nil => simp [scaled]
  | cons c l ih =>
    simp only [scaled, eval_ascending_cons, one_mul]
    rw [ih (i + 1) (power * factor)]
    ring

theorem getD_scaled_one (i j : ℕ) (l : List R) :
    (scaled 1 weight i 1 l).getD j 0 = weight (i + j) * l.getD j 0 := by
  induction l generalizing i j with
  | nil => simp [scaled]
  | cons c l ih =>
    cases j with
    | zero => simp [scaled]
    | succ j =>
      simp only [scaled, mul_one, getD_cons_succ, ih]
      rw [Nat.add_right_comm, Nat.add_assoc]

end

theorem ascending_iterate_derivative (k : ℕ) (l : List R) : derivative^[k] (ascending l) =
      ascending (scaled 1 (fun i => ((i + k).descFactorial k : R)) 0 1 (l.drop k)) := by
  ext i
  rw [coeff_iterate_derivative, coeff_ascending, coeff_ascending, getD_scaled_one, nsmul_eq_mul,
    Nat.zero_add]
  congr 1
  rw [getD_eq_getElem?_getD, getD_eq_getElem?_getD, List.getElem?_drop, Nat.add_comm]

theorem sum_symmetric (f : ℕ → R) (a n : ℕ)
    (hSymmetric : ∀ j, a ≤ j → j < a + n → f (a + (a + n) - 1 - j) = f j) :
    ∑ j ∈ Ico a (a + n), f j = (if (a + (a + n)) % 2 = 1 then f ((a + (a + n)) / 2) else 0) +
        2 * ∑ j ∈ Ico a ((a + (a + n)) / 2), f j := by
  induction n using Nat.twoStepInduction generalizing a with
  | zero =>
    rw [show (a + (a + 0)) % 2 = 0 by omega, show (a + (a + 0)) / 2 = a by omega]
    simp
  | one =>
    rw [show (a + (a + 1)) % 2 = 1 by omega, show (a + (a + 1)) / 2 = a by omega]
    simp
  | more n ih _ =>
    have hEnds : f (a + n + 1) = f a := by
      rw [← hSymmetric a (by omega) (by omega)]
      congr 1
      omega
    have hInner := ih (a + 1) fun j hLow hHigh => by
      rw [← hSymmetric j (by omega) (by omega)]
      congr 1
      omega
    rw [show a + 1 + (a + 1 + n) = a + (a + (n + 2)) by omega,
      show a + 1 + n = a + n + 1 by omega] at hInner
    rw [show a + (n + 2) = a + n + 1 + 1 by omega, sum_Ico_succ_top (by omega),
      sum_eq_sum_Ico_succ_bot (by omega)]
    rw [hInner, sum_eq_sum_Ico_succ_bot (show a < (a + (a + n + 1 + 1)) / 2 by omega), hEnds]
    ring_nf

end UavNavigation.CoefficientLists
