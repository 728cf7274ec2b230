import Mathlib.Data.List.Induction

/-!
# Runs of a deterministic machine

`step s op` is the state after one operation and what the operation returned.
A run is a finite list of operations. Its events keep the states around every
operation, so that a law about "every step of every run" is a law about the
events. Two points of one run are a state `s` and `run step s ops`.

Nothing here says what a state, an operation or a result is.
-/

namespace UavNavigation.Runs

set_option autoImplicit false

open List

variable {S O R : Type}

/-- One executed operation with the states around it. -/
structure Event (S O R : Type) where
  before : S
  op : O
  result : R
  after : S

section Definitions
variable (step : S → O → S × R)

def run (s : S) : List O → S
  | [] => s
  | op :: ops => run (step s op).1 ops

def eventAt (s : S) (op : O) : Event S O R := ⟨s, op, (step s op).2, (step s op).1⟩

def events (s : S) : List O → List (Event S O R)
  | [] => []
  | op :: ops => eventAt step s op :: events (step s op).1 ops

end Definitions

variable {step : S → O → S × R} {ops : List O} {s : S} {e : Event S O R}

section
variable (s : S) (xs ys : List O) (op : O) (ops : List O)

@[simp] theorem run_nil : run step s [] = s := rfl

@[simp] theorem run_cons : run step s (op :: ops) = run step (step s op).1 ops := rfl

theorem run_append : run step s (xs ++ ys) = run step (run step s xs) ys := by
  induction xs generalizing s with
  | nil => rfl
  | cons op xs ih => exact ih (step s op).1

@[simp] theorem events_nil : events step s [] = [] := rfl

@[simp] theorem events_cons :
    events step s (op :: ops) = eventAt step s op :: events step (step s op).1 ops := rfl

@[simp] theorem eventAt_before : (eventAt step s op).before = s := rfl

@[simp] theorem eventAt_op : (eventAt step s op).op = op := rfl

@[simp] theorem eventAt_result : (eventAt step s op).result = (step s op).2 := rfl

@[simp] theorem eventAt_after : (eventAt step s op).after = (step s op).1 := rfl

theorem events_append :
    events step s (xs ++ ys) = events step s xs ++ events step (run step s xs) ys := by
  induction xs generalizing s with
  | nil => rfl
  | cons op xs ih => simp [ih]

end

theorem exists_split_of_mem_events (he : e ∈ events step s ops) :
    ∃ xs op ys, ops = xs ++ op :: ys ∧ e = eventAt step (run step s xs) op := by
  induction ops generalizing s with
  | nil => simp at he
  | cons op ops ih =>
    rcases mem_cons.mp he with rfl | he
    · exact ⟨[], op, ops, rfl, rfl⟩
    · obtain ⟨xs, op', ys, rfl, rfl⟩ := ih he
      exact ⟨op :: xs, op', ys, rfl, rfl⟩

theorem exists_split_of_events {xs ys : List (Event S O R)} (h : events step s ops = xs ++ ys) :
    ∃ before after, ops = before ++ after ∧ events step s before = xs ∧
      events step (run step s before) after = ys := by
  induction xs generalizing s ops with
  | nil => exact ⟨[], ops, rfl, rfl, h⟩
  | cons e xs ih =>
    cases ops with
    | nil => cases h
    | cons op ops =>
      obtain ⟨hFirst, hRest⟩ := List.cons.inj h
      obtain ⟨before, after, rfl, hBefore, hAfter⟩ := ih hRest
      exact ⟨op :: before, after, rfl, by rw [events_cons, hFirst, hBefore], hAfter⟩

theorem run_concat (s : S) (ops : List O) (op : O) :
    run step s (ops ++ [op]) = (step (run step s ops) op).1 := run_append s ops [op]

theorem events_concat (s : S) (ops : List O) (op : O) :
    events step s (ops ++ [op]) = events step s ops ++ [eventAt step (run step s ops) op] :=
  events_append s ops [op]

theorem after_getLast (he : e ∈ (events step s ops).getLast?) : e.after = run step s ops := by
  induction ops using List.reverseRecOn with
  | nil => cases he
  | append_singleton ops op ih =>
    rw [events_concat, List.getLast?_concat] at he
    cases he
    rw [run_concat]
    rfl

theorem run_history (step : S → O → S × R) {P : List O → S → Prop} (hStart : P [] s)
    (hStep : ∀ ops op, P ops (run step s ops) → P (ops ++ [op]) (step (run step s ops) op).1)
    (ops : List O) : P ops (run step s ops) := by
  induction ops using List.reverseRecOn with
  | nil => exact hStart
  | append_singleton ops op ih =>
    rw [run_concat]
    exact hStep ops op ih

theorem events_history (step : S → O → S × R) {P : List (Event S O R) → S → Prop}
    (hStart : P [] s) (hStep : ∀ es s op, P es s → P (es ++ [eventAt step s op]) (step s op).1)
    {earlier later : List (Event S O R)} (hSplit : events step s ops = earlier ++ e :: later) :
    P earlier e.before ∧ e = eventAt step e.before e.op := by
  obtain ⟨before, rest, rfl, rfl, hRest⟩ := exists_split_of_events hSplit
  cases rest with
  | nil => cases hRest
  | cons op after =>
    obtain ⟨rfl, -⟩ := List.cons.inj hRest
    refine ⟨run_history step (P := fun ops t => P (events step s ops) t) hStart ?_ before, rfl⟩
    intro ops op hOps
    rw [events_concat]
    exact hStep _ _ op hOps

theorem exists_loss {P : S → Prop} (hStart : P s) (hEnd : ¬P (run step s ops)) :
    ∃ before e after, events step s ops = before ++ e :: after ∧ P e.before ∧ ¬P e.after := by
  induction ops generalizing s with
  | nil => exact absurd hStart hEnd
  | cons op ops ih =>
    by_cases hNext : P (step s op).1
    · obtain ⟨before, e, after, hSplit, hBefore, hAfter⟩ := ih hNext hEnd
      exact ⟨eventAt step s op :: before, e, after, by rw [events_cons, hSplit]; rfl, hBefore, hAfter⟩
    · exact ⟨[], eventAt step s op, events step (step s op).1 ops, rfl, hStart, hNext⟩

section Invariants
variable {P : S → Prop} {Q : Event S O R → Prop} {ops : List O}

theorem run_guarded (hStep : ∀ s op, P s → Q (eventAt step s op) → P (step s op).1) {s : S}
    (hs : P s) (hOps : ∀ e ∈ events step s ops, Q e) : P (run step s ops) := by
  induction ops generalizing s with
  | nil => exact hs
  | cons op ops ih =>
    have hFirst : Q (eventAt step s op) := hOps _ mem_cons_self
    apply ih (hStep s op hs hFirst)
    intro e he
    exact hOps e (mem_cons_of_mem _ he)

theorem run_invariant (hStep : ∀ s op, P s → P (step s op).1) {s : S} (hs : P s)
    (ops : List O) : P (run step s ops) := by
  apply run_guarded (Q := fun _ => True) _ hs
  · intro e _
    trivial
  · intro s op hs _
    exact hStep s op hs

theorem events_guarded (hStep : ∀ s op, P s → Q (eventAt step s op) → P (step s op).1) {s : S}
    (hs : P s) (hOps : ∀ e ∈ events step s ops, Q e) {e : Event S O R}
    (he : e ∈ events step s ops) : P e.before ∧ Q e ∧ e = eventAt step e.before e.op := by
  obtain ⟨xs, op, ys, rfl, rfl⟩ := exists_split_of_mem_events he
  have hPrefix : ∀ e ∈ events step s xs, Q e := by
    intro e he
    apply hOps
    rw [events_append]
    exact mem_append_left _ he
  exact ⟨run_guarded hStep hs hPrefix, hOps _ he, rfl⟩

theorem events_invariant (hStep : ∀ s op, P s → P (step s op).1) {s : S} (hs : P s)
    {e : Event S O R} (he : e ∈ events step s ops) :
    P e.before ∧ e = eventAt step e.before e.op := by
  obtain ⟨hBefore, _, hEvent⟩ := events_guarded (Q := fun _ => True)
    (fun s op hs _ => hStep s op hs) hs (fun _ _ => trivial) he
  exact ⟨hBefore, hEvent⟩

end Invariants

/-!
## Counters

A counter that no step of a run lowers and that has the same value at both
ends has not moved at all, so a law about the steps that leave it alone is a
law about the whole run.
-/

section Counters
variable {c : S → Nat} {ops : List O}

section
variable {s : S} (hMono : ∀ e ∈ events step s ops, c e.before ≤ c e.after)
include hMono

theorem le_counter_run : c s ≤ c (run step s ops) := by
  induction ops generalizing s with
  | nil => exact Nat.le_refl _
  | cons op ops ih =>
    have hFirst : c s ≤ c (step s op).1 := hMono _ mem_cons_self
    apply Nat.le_trans hFirst
    apply ih
    intro e he
    exact hMono e (mem_cons_of_mem _ he)

theorem counter_fixed
    (hEnds : c (run step s ops) = c s) : ∀ e ∈ events step s ops, c e.after = c e.before := by
  induction ops generalizing s with
  | nil => simp
  | cons op ops ih =>
    have hTail : ∀ e ∈ events step (step s op).1 ops, c e.before ≤ c e.after := by
      intro e he
      exact hMono e (mem_cons_of_mem _ he)
    have hFirst : c s ≤ c (step s op).1 := hMono _ mem_cons_self
    have hRest : c (step s op).1 ≤ c (run step (step s op).1 ops) := le_counter_run hTail
    have hEnds' : c (run step (step s op).1 ops) = c s := hEnds
    have hStay : c (step s op).1 = c s := by omega
    intro e he
    rcases mem_cons.mp he with rfl | he
    · exact hStay
    · exact ih hTail (hEnds'.trans hStay.symm) e he

end

/-- A reflexive and transitive relation across the steps that leave the counter
alone holds between two points with equal counters. -/
theorem rel_of_counter_eq {P : S → Prop} {E : S → S → Prop} (hRefl : ∀ s, P s → E s s)
    (hTrans : ∀ {s t u}, E s t → E t u → E s u) (hInv : ∀ s op, P s → P (step s op).1)
    (hStep : ∀ s op, P s → c (step s op).1 = c s → E s (step s op).1) {s : S} (hs : P s)
    (hMono : ∀ e ∈ events step s ops, c e.before ≤ c e.after) (hEnds : c (run step s ops) = c s) :
    E s (run step s ops) := by
  have hFixed := counter_fixed hMono hEnds
  clear hMono hEnds
  induction ops generalizing s with
  | nil => exact hRefl s hs
  | cons op ops ih =>
    have hFirst : c (step s op).1 = c s := hFixed _ mem_cons_self
    apply hTrans (hStep s op hs hFirst)
    apply ih (hInv s op hs)
    intro e he
    exact hFixed e (mem_cons_of_mem _ he)

end Counters

/-!
## Emitted values

`emit` reads a value off an event when the event produces one. If every emitted
value lies strictly above a watermark of the state before it and at or below
that watermark afterwards, the values of a run are strictly increasing.
-/

section Emitted
variable {emit : Event S O R → Option Nat} {m : S → Nat} {P : S → Prop}

def emitted (emit : Event S O R → Option Nat) (es : List (Event S O R)) : List Nat :=
  es.filterMap emit

section
variable (emit : Event S O R → Option Nat)

@[simp] theorem emitted_nil : emitted emit [] = [] := rfl

theorem emitted_cons (e : Event S O R) (es : List (Event S O R)) :
    emitted emit (e :: es) = (emit e).toList ++ emitted emit es := by
  cases h : emit e <;> simp [emitted, h]

theorem emitted_concat (es : List (Event S O R))
    (e : Event S O R) : emitted emit (es ++ [e]) = emitted emit es ++ (emit e).toList := by
  cases h : emit e <;> simp [emitted, h]

end

theorem emitted_increasing {Q : Event S O R → Prop}
    (hInv : ∀ s op, P s → Q (eventAt step s op) → P (step s op).1)
    (hMark : ∀ s op, P s → Q (eventAt step s op) → m s ≤ m (step s op).1)
    (hEmit : ∀ s op v, P s → Q (eventAt step s op) → emit (eventAt step s op) = some v →
      m s < v ∧ v ≤ m (step s op).1)
    {s : S} (hs : P s) {ops : List O} (hOps : ∀ e ∈ events step s ops, Q e) :
    (emitted emit (events step s ops)).Pairwise (· < ·) ∧
      ∀ v ∈ emitted emit (events step s ops), m s < v := by
  induction ops generalizing s with
  | nil => simp
  | cons op ops ih =>
    have hFirst : Q (eventAt step s op) := hOps _ mem_cons_self
    have hTail := ih (hInv s op hs hFirst) fun e he => hOps e (mem_cons_of_mem _ he)
    have hLe := hMark s op hs hFirst
    rw [events_cons, emitted_cons]
    cases hv : emit (eventAt step s op) with
    | none =>
      refine ⟨by simpa using hTail.1, ?_⟩
      intro v hMem
      exact Nat.lt_of_le_of_lt hLe (hTail.2 v (by simpa using hMem))
    | some v =>
      obtain ⟨hAbove, hBelow⟩ := hEmit s op v hs hFirst hv
      simp only [Option.toList_some, singleton_append, pairwise_cons, mem_cons]
      refine ⟨⟨?_, hTail.1⟩, ?_⟩
      · intro w hw
        exact Nat.lt_of_le_of_lt hBelow (hTail.2 w hw)
      · rintro w (rfl | hw)
        · exact hAbove
        · exact Nat.lt_of_le_of_lt hLe (hTail.2 w hw)

end Emitted

/-!
## Values in order

`B v s` says that at `s` the value `v` has been emitted and everything still to
come stands in the relation `r` to it. Emitting a value establishes it, and every
guarded step keeps it.
-/

section Ordered
variable {V : Type} {emit : Event S O R → Option V} {B : V → S → Prop} {r : V → V → Prop}
  {P : S → Prop} {Q : Event S O R → Prop}

variable (hInv : ∀ s op, P s → Q (eventAt step s op) → P (step s op).1)
include hInv

theorem barrier_emitted (hKeep : ∀ s op v, P s → Q (eventAt step s op) → B v s → B v (step s op).1)
    (hNext : ∀ s op v w, P s → B v s → emit (eventAt step s op) = some w → r v w)
    {s : S} (hs : P s) {v : V} (hv : B v s) {ops : List O}
    (hOps : ∀ e ∈ events step s ops, Q e) : ∀ w ∈ (events step s ops).filterMap emit, r v w := by
  induction ops generalizing s with
  | nil => simp
  | cons op ops ih =>
    have hFirst : Q (eventAt step s op) := hOps _ mem_cons_self
    have hRest := ih (hInv s op hs hFirst) (hKeep s op v hs hFirst hv)
      fun e he => hOps e (mem_cons_of_mem _ he)
    intro w hw
    rw [events_cons, filterMap_cons] at hw
    cases hEmit : emit (eventAt step s op) with
    | none =>
      rw [hEmit] at hw
      exact hRest w hw
    | some u =>
      rw [hEmit] at hw
      rcases mem_cons.mp hw with rfl | hw
      · exact hNext s op v w hs hv hEmit
      · exact hRest w hw

theorem emitted_pairwise
    (hEmit : ∀ s op v, P s → Q (eventAt step s op) → emit (eventAt step s op) = some v →
      B v (step s op).1)
    (hKeep : ∀ s op v, P s → Q (eventAt step s op) → B v s → B v (step s op).1)
    (hNext : ∀ s op v w, P s → B v s → emit (eventAt step s op) = some w → r v w)
    {s : S} (hs : P s) {ops : List O} (hOps : ∀ e ∈ events step s ops, Q e) :
    ((events step s ops).filterMap emit).Pairwise r := by
  induction ops generalizing s with
  | nil => simp
  | cons op ops ih =>
    have hFirst : Q (eventAt step s op) := hOps _ mem_cons_self
    have hRest : ∀ e ∈ events step (step s op).1 ops, Q e :=
      fun e he => hOps e (mem_cons_of_mem _ he)
    have hTail := ih (hInv s op hs hFirst) hRest
    rw [events_cons, filterMap_cons]
    cases hv : emit (eventAt step s op) with
    | none => exact hTail
    | some v =>
      refine pairwise_cons.mpr ⟨?_, hTail⟩
      exact barrier_emitted hInv hKeep hNext (hInv s op hs hFirst) (hEmit s op v hs hFirst hv) hRest

end Ordered

/-!
## Two runs side by side

Two machines that take the same operations. A relation that every common step
keeps, and under which the steps look the same, makes whole runs look the same.
-/

section Lockstep
variable {T A V : Type} {other : T → O → T × A} {E : S → T → Prop}
  {f : Event S O R → V} {g : Event T O A → V}

theorem lockstep (hStep : ∀ s t op, E s t →
      E (step s op).1 (other t op).1 ∧ g (eventAt other t op) = f (eventAt step s op))
    {s : S} {t : T} (h : E s t) (ops : List O) :
    (events other t ops).map g = (events step s ops).map f := by
  induction ops generalizing s t with
  | nil => rfl
  | cons op ops ih =>
    obtain ⟨hNext, hSame⟩ := hStep s t op h
    rw [events_cons, events_cons, map_cons, map_cons, hSame, ih hNext]

end Lockstep

end UavNavigation.Runs
