import Mathlib.Algebra.Group.Nat.Defs

/-!
# What the source language gives

A wrapping 64-bit counter, a shared pointer to an immutable object, and the
outcome of a callback that may throw.
-/

namespace UavNavigation

set_option autoImplicit false

/-- `++counter` on a `std::uint64_t`. -/
def next64 (n : Nat) : Nat := (n + 1) % 2 ^ 64

theorem next64_ne (n : Nat) : next64 n ≠ n := by
  unfold next64
  omega

theorem next64_next64_ne (n : Nat) : next64 (next64 n) ≠ n := by
  unfold next64
  omega

/-- A non-null `std::shared_ptr<const T>`. The object never changes and outlives
the pointer, so two pointers have the same `get()` exactly when they agree on
both the address and the object found there. -/
structure SharedPtr (α : Type) where
  address : Nat
  object : α
deriving DecidableEq

/-- How a callback that returns a truth value ended. -/
inductive Callback where
  | returned (value : Bool)
  | threw
deriving DecidableEq

/-- The callers treat an exception as `false`. -/
def Callback.succeeded : Callback → Bool
  | .returned value => value
  | .threw => false

end UavNavigation
