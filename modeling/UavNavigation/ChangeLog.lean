import Mathlib.Data.List.Basic

/-!
# Bounded change logs

A log keeps the records of the last updates of a world, newest first, and drops
the oldest beyond a limit. A record touches some keys, and an update changes only
keys its record touches. So two worlds agree at a key that none of the records
between them touches, as long as the log still has all of these records.

What a world, a key and a record are is left open. `touches w` may depend on the
world, but not on what an agreement at a key leaves free.
-/

namespace UavNavigation.ChangeLog

set_option autoImplicit false

variable {W K R : Type}

/-- A new record in front of at most `limit - 1` old ones. -/
def retain (limit : Nat) (record : R) (log : List R) : List R :=
  record :: log.take (min (limit - 1) log.length)

theorem length_retain_le {limit : Nat} (hLimit : 0 < limit) (record : R) (log : List R) :
    (retain limit record log).length ≤ limit := by
  simp only [retain, List.length_cons, List.length_take]
  omega

section
variable {limit n : Nat} {record : R} {log : List R} (h : n + 1 ≤ (retain limit record log).length)
include h

theorem take_retain : (retain limit record log).take (n + 1) = record :: log.take n := by
  simp only [retain, List.length_cons, List.length_take] at h
  simp only [retain, List.take_succ_cons, List.take_take]
  congr 2
  omega

theorem le_length_of_retain : n ≤ log.length := by
  simp only [retain, List.length_cons, List.length_take] at h
  omega

end

section Agreement
variable (same : K → W → W → Prop) (touches : W → R → K → Prop)

/-- The last `n` records of the log account for every key at which the worlds differ. -/
def AgreeSince (log : List R) (n : Nat) (before now : W) : Prop :=
  n ≤ log.length → ∀ key, (∀ record ∈ log.take n, ¬ touches before record key) → same key before now

variable {same touches} {log : List R}

theorem AgreeSince.of_same {before now : W} (n : Nat) (h : ∀ key, same key before now) :
    AgreeSince same touches log n before now := by
  intro _ key _
  exact h key

variable (hTrans : ∀ {key u v w}, same key u v → same key v w → same key u w)
include hTrans

theorem AgreeSince.push
    (hTouches : ∀ {key u v record}, same key u v → touches v record key → touches u record key)
    {limit n : Nat} {record : R} {before now next : W}
    (h : AgreeSince same touches log n before now)
    (hUpdate : ∀ key, ¬ touches now record key → same key now next) :
    AgreeSince same touches (retain limit record log) (n + 1) before next := by
  intro hLength key hClear
  rw [take_retain hLength] at hClear
  have hNow : same key before now := by
    apply h (le_length_of_retain hLength)
    intro old hOld
    exact hClear old (List.mem_cons_of_mem _ hOld)
  apply hTrans hNow
  apply hUpdate
  intro hTouched
  exact hClear record List.mem_cons_self (hTouches hNow hTouched)

theorem AgreeSince.trans_right
    {n : Nat} {before now other : W} (h : AgreeSince same touches log n before now)
    (hSame : ∀ key, same key now other) : AgreeSince same touches log n before other := by
  intro hLength key hClear
  exact hTrans (h hLength key hClear) (hSame key)

end Agreement

end UavNavigation.ChangeLog
