import Mathlib.Data.List.Basic

/-!
# Folds over neighbours

One step for every two neighbours of a list, in order. A fold over a list that
is extended at its end goes on from where the fold over the list stopped.
-/

namespace UavNavigation.PairFolds

set_option autoImplicit false

variable {S A : Type}

def foldPairs (f : S → A → A → S) : S → List A → S
  | s, x :: y :: rest => foldPairs f (f s x y) (y :: rest)
  | s, _ => s

variable {f : S → A → A → S}

@[simp] theorem foldPairs_cons_cons (s : S) (x y : A) (rest : List A) :
    foldPairs f s (x :: y :: rest) = foldPairs f (f s x y) (y :: rest) := rfl

theorem foldPairs_append (s : S) (xs : List A) (x : A) (ys : List A) :
    foldPairs f s (xs ++ x :: ys) = foldPairs f (foldPairs f s (xs ++ [x])) (x :: ys) := by
  induction xs generalizing s with
  | nil => rfl
  | cons y xs ih =>
    cases xs with
    | nil => rfl
    | cons z xs => exact ih (f s y z)

theorem foldPairs_extend {xs : List A} {x : A} (hLast : x ∈ xs.getLast?) (s : S) (ys : List A) :
    foldPairs f s (xs ++ ys) = foldPairs f (foldPairs f s xs) (x :: ys) := by
  obtain ⟨front, rfl⟩ := List.getLast?_eq_some_iff.mp hLast
  rw [List.append_assoc]
  exact foldPairs_append s front x ys

end UavNavigation.PairFolds
