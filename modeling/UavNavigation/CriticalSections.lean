import UavNavigation.Runs

/-!
# Programs of critical sections

One thread runs callbacks, one after the other, and gets the lock for one section at
a time. Inputs that another thread handles in one section each come in between. A
section is a label; what it does to the shared state is a function of the label. What
a callback emits between two sections is counted with the first of them.

Nothing here says what a state, a label or an input is.
-/

namespace UavNavigation.Sections

set_option autoImplicit false

open Runs

/-- What is left of a callback. What follows a section may depend on the state that the
section has found and on the moment `I` at which it ran. -/
inductive Program (S I L O : Type) where
  | done
  | emit (output : O) (rest : Program S I L O)
  | lock (label : L) (rest : S → I → Program S I L O)

variable {S I L O C E : Type}

namespace Program

def outputs : Program S I L O → List O
  | done => []
  | emit output rest => output :: rest.outputs
  | lock _ _ => []

def settle : Program S I L O → Program S I L O
  | done => done
  | emit _ rest => rest.settle
  | lock label rest => lock label rest

end Program

structure System (S I L O C E : Type) where
  effect : L → S → I → S
  callback : C → I → Program S I L O
  input : S → E → S

structure Threads (S I L O : Type) where
  shared : S
  program : Program S I L O

inductive Operation (C E I : Type) where
  | call (callback : C) (moment : I)
  | advance (moment : I)
  | input (event : E)

/-- The section that was run, if one was, and what was emitted. -/
structure Outcome (L O : Type) where
  label : Option L
  outputs : List O

namespace System

def step (y : System S I L O C E) (s : Threads S I L O) :
    Operation C E I → Threads S I L O × Outcome L O
  | .call callback moment =>
    match s.program with
    | .done =>
      (⟨s.shared, (y.callback callback moment).settle⟩,
        ⟨none, (y.callback callback moment).outputs⟩)
    | _ => (s, ⟨none, []⟩)
  | .advance moment =>
    match s.program with
    | .lock label rest =>
      (⟨y.effect label s.shared moment, (rest s.shared moment).settle⟩,
        ⟨some label, (rest s.shared moment).outputs⟩)
    | _ => (s, ⟨none, []⟩)
  | .input event => (⟨y.input s.shared event, s.program⟩, ⟨none, []⟩)

abbrev Step (S I L O C E : Type) := Event (Threads S I L O) (Operation C E I) (Outcome L O)

end System

inductive Effect (y : System S I L O C E) (e : System.Step S I L O C E) : Prop where
  | silent (label : e.result.label = none) (shared : e.after.shared = e.before.shared)
  | locked (l : L) (moment : I) (op : e.op = .advance moment) (label : e.result.label = some l)
      (shared : e.after.shared = y.effect l e.before.shared moment)
  | external (event : E) (op : e.op = .input event) (label : e.result.label = none)
      (outputs : e.result.outputs = []) (shared : e.after.shared = y.input e.before.shared event)

theorem step_effect (y : System S I L O C E) (s : Threads S I L O) (op : Operation C E I) :
    Effect y (eventAt y.step s op) := by
  obtain ⟨shared, program⟩ := s
  cases op with
  | call c moment => cases program <;> exact .silent rfl rfl
  | advance moment =>
    cases program with
    | done => exact .silent rfl rfl
    | emit output rest => exact .silent rfl rfl
    | lock label rest => exact .locked label moment rfl rfl rfl
  | input event => exact .external event rfl rfl rfl rfl

/-! ## Assertions -/

/-- What the other thread may do, what is assumed where a section begins, what holds
there, and what holds where something is emitted. -/
structure Contract (S L O : Type) where
  rely : S → S → Prop
  assume : L → S → Prop
  enter : L → S → Prop
  out : S → O → Prop

def Program.Meets (y : System S I L O C E) (k : Contract S L O) : Program S I L O → S → Prop
  | .done, _ => True
  | .emit output rest, s => k.out s output ∧ rest.Meets y k s
  | .lock label rest, s => ∀ t moment, k.rely s t → k.assume label t →
      k.enter label t ∧ (rest t moment).Meets y k (y.effect label t moment)

namespace Program
variable {y : System S I L O C E} {k : Contract S L O}

theorem meets_outputs {p : Program S I L O} {s : S} (h : p.Meets y k s) :
    ∀ o ∈ p.outputs, k.out s o := by
  induction p with
  | done =>
    intro o ho
    cases ho
  | emit output rest ih =>
    intro o ho
    rcases List.mem_cons.mp ho with rfl | ho
    · exact h.1
    · exact ih h.2 o ho
  | lock label rest ih =>
    intro o ho
    cases ho

theorem meets_settle {p : Program S I L O} {s : S} (h : p.Meets y k s) : p.settle.Meets y k s := by
  induction p with
  | done => exact h
  | emit output rest ih => exact ih h.2
  | lock label rest ih => exact h

theorem settle_meets_of_rely (hTrans : ∀ {s t u}, k.rely s t → k.rely t u → k.rely s u)
    {p : Program S I L O} {s t : S} (hst : k.rely s t) (h : p.settle.Meets y k s) :
    p.settle.Meets y k t := by
  induction p with
  | done => exact h
  | emit output rest ih => exact ih h
  | lock label rest ih =>
    intro u moment htu hAssume
    exact h u moment (hTrans hst htu) hAssume

theorem settle_settle (p : Program S I L O) : p.settle.settle = p.settle := by
  induction p with
  | done => rfl
  | emit output rest ih => exact ih
  | lock label rest ih => rfl

end Program

def Assumed (k : Contract S L O) (e : System.Step S I L O C E) : Prop :=
  ∀ label, e.result.label = some label → k.assume label e.before.shared

structure Kept (k : Contract S L O) (e : System.Step S I L O C E) : Prop where
  enter : ∀ label, e.result.label = some label → k.enter label e.before.shared
  out : ∀ o ∈ e.result.outputs, k.out e.after.shared o

variable {e : System.Step S I L O C E}

theorem kept_of_silent {k : Contract S L O} (hLabel : e.result.label = none)
    (hOutputs : e.result.outputs = []) : Kept k e where
  enter label h := by
    rw [hLabel] at h
    cases h
  out o ho := by
    rw [hOutputs] at ho
    cases ho

/-- What every state of a run has: the thread keeps the contract from here on. -/
structure Keeping (y : System S I L O C E) (k : Contract S L O) (s : Threads S I L O) : Prop where
  settled : s.program.settle = s.program
  meets : s.program.Meets y k s.shared

section Runs
variable {y : System S I L O C E} {k : Contract S L O}
variable (hRefl : ∀ s, k.rely s s) (hTrans : ∀ {s t u}, k.rely s t → k.rely t u → k.rely s u)
variable (hInput : ∀ s e, k.rely s (y.input s e))
variable (hCallback : ∀ c moment s, (y.callback c moment).Meets y k s)
include hRefl hTrans hInput hCallback

theorem step_keeping {s : Threads S I L O} (op : Operation C E I) (hs : Keeping y k s)
    (hAssumed : Assumed k (eventAt y.step s op)) :
    Keeping y k (y.step s op).1 ∧ Kept k (eventAt y.step s op) := by
  obtain ⟨shared, program⟩ := s
  cases op with
  | call c moment =>
    cases program with
    | done =>
      have hMeets := hCallback c moment shared
      refine ⟨⟨Program.settle_settle _, Program.meets_settle hMeets⟩, ?_,
        Program.meets_outputs hMeets⟩
      intro label hLabel
      cases hLabel
    | emit output rest => exact ⟨hs, kept_of_silent rfl rfl⟩
    | lock label rest => exact ⟨hs, kept_of_silent rfl rfl⟩
  | advance moment =>
    cases program with
    | done => exact ⟨hs, kept_of_silent rfl rfl⟩
    | emit output rest => exact ⟨hs, kept_of_silent rfl rfl⟩
    | lock label rest =>
      obtain ⟨hEnter, hRest⟩ := hs.meets shared moment (hRefl shared) (hAssumed label rfl)
      refine ⟨⟨Program.settle_settle _, Program.meets_settle hRest⟩, ?_,
        Program.meets_outputs hRest⟩
      intro l hl
      cases hl
      exact hEnter
  | input event =>
    refine ⟨⟨hs.settled, ?_⟩, kept_of_silent rfl rfl⟩
    have hMeets := hs.meets
    rw [← hs.settled] at hMeets
    have hNext := Program.settle_meets_of_rely hTrans (hInput shared event) hMeets
    rw [hs.settled] at hNext
    exact hNext

theorem events_kept {s : S} {ops : List (Operation C E I)}
    (hAssumed : ∀ e ∈ events y.step ⟨s, .done⟩ ops, Assumed k e) :
    ∀ e ∈ events y.step ⟨s, .done⟩ ops, Kept k e := by
  intro e he
  have hStart : Keeping y k ⟨s, .done⟩ := ⟨rfl, trivial⟩
  obtain ⟨hBefore, hThis, hEvent⟩ := events_guarded (P := Keeping y k) (Q := Assumed k)
    (fun t op ht hOp => (step_keeping hRefl hTrans hInput hCallback op ht hOp).1) hStart hAssumed he
  rw [hEvent] at hThis ⊢
  exact (step_keeping hRefl hTrans hInput hCallback e.op hBefore hThis).2

end Runs

namespace Program

/-- Every section of the program and everything it emits have the properties. -/
def Always (enter : L → Prop) (h : O → Prop) : Program S I L O → Prop
  | done => True
  | emit output rest => h output ∧ rest.Always enter h
  | lock label rest => enter label ∧ ∀ s moment, (rest s moment).Always enter h

/-- What is emitted first has the property, and what is emitted behind a section stands in
the relation to it. -/
def Speaks (r : L → S → I → O → Prop) : Program S I L O → (O → Prop) → Prop
  | done, _ => True
  | emit output rest, first => first output ∧ rest.Speaks r first
  | lock label rest, _ => ∀ s moment, (rest s moment).Speaks r (r label s moment)

variable {r : L → S → I → O → Prop} {enter : L → Prop} {h first : O → Prop} {p : Program S I L O}

section
variable (hp : p.Always enter h)
include hp

theorem Always.mono {more : L → Prop} {k : O → Prop}
    (hEnter : ∀ label, enter label → more label) (hOutput : ∀ o, h o → k o) : p.Always more k := by
  induction p with
  | done => trivial
  | emit output rest ih => exact ⟨hOutput output hp.1, ih hp.2⟩
  | lock label rest ih => exact ⟨hEnter label hp.1, fun s moment => ih s moment (hp.2 s moment)⟩

theorem Always.any : p.Always (fun _ => True) h :=
  hp.mono (fun _ _ => trivial) fun _ => id

theorem Always.speaks (hFirst : ∀ o, h o → first o)
    (hRelation : ∀ label s moment o, h o → r label s moment o) : p.Speaks r first := by
  induction p generalizing first with
  | done => trivial
  | emit output rest ih => exact ⟨hFirst output hp.1, ih hp.2 hFirst⟩
  | lock label rest ih =>
    intro s moment
    exact ih s moment (hp.2 s moment) (hRelation label s moment)

theorem Always.speaks_silent (hOutputs : p.outputs = [])
    (hRelation : ∀ label s moment o, h o → r label s moment o) : p.Speaks r first := by
  cases p with
  | done => trivial
  | emit output rest => cases hOutputs
  | lock label rest =>
    intro s moment
    exact (hp.2 s moment).speaks (hRelation label s moment) hRelation

end

theorem speaks_outputs (hp : p.Speaks r first) : ∀ o ∈ p.outputs, first o := by
  induction p with
  | done =>
    intro o ho
    cases ho
  | emit output rest ih =>
    intro o ho
    rcases List.mem_cons.mp ho with rfl | ho
    · exact hp.1
    · exact ih hp.2 o ho
  | lock label rest ih =>
    intro o ho
    cases ho

theorem speaks_settle (hp : p.Speaks r first) (other : O → Prop) : p.settle.Speaks r other := by
  induction p with
  | done => trivial
  | emit output rest ih => exact ih hp.2
  | lock label rest ih => exact hp

end Program

/-- The step ran a section, and what it emitted stands in the relation to it. -/
def Spoken (y : System S I L O C E) (r : L → S → I → O → Prop) (e : System.Step S I L O C E)
    (o : O) : Prop :=
  ∃ label moment, e.op = .advance moment ∧ e.result.label = some label ∧
    e.after.shared = y.effect label e.before.shared moment ∧ r label e.before.shared moment o

section Spoken
variable {y : System S I L O C E} {r : L → S → I → O → Prop}
variable (hCallback : ∀ c moment, (y.callback c moment).Speaks r fun _ => False)
include hCallback

theorem step_spoken {s : Threads S I L O} (op : Operation C E I)
    (hs : s.program.Speaks r fun _ => False) :
    ((y.step s op).1.program.Speaks r fun _ => False) ∧
      ∀ o ∈ (y.step s op).2.outputs, Spoken y r (eventAt y.step s op) o := by
  obtain ⟨shared, program⟩ := s
  cases op with
  | call c moment =>
    cases program with
    | done =>
      refine ⟨Program.speaks_settle (hCallback c moment) _, fun o ho => ?_⟩
      exact (Program.speaks_outputs (hCallback c moment) o ho).elim
    | emit output rest => exact ⟨hs, fun o ho => nomatch ho⟩
    | lock label rest => exact ⟨hs, fun o ho => nomatch ho⟩
  | advance moment =>
    cases program with
    | done => exact ⟨hs, fun o ho => nomatch ho⟩
    | emit output rest => exact ⟨hs, fun o ho => nomatch ho⟩
    | lock label rest =>
      have hRest := hs shared moment
      refine ⟨Program.speaks_settle hRest _, fun o ho => ?_⟩
      exact ⟨label, moment, rfl, rfl, rfl, Program.speaks_outputs hRest o ho⟩
  | input event => exact ⟨hs, fun o ho => nomatch ho⟩

theorem events_spoken {s : S} {ops : List (Operation C E I)} :
    ∀ e ∈ events y.step ⟨s, .done⟩ ops, ∀ o ∈ e.result.outputs, Spoken y r e o := by
  intro e he o ho
  obtain ⟨hBefore, hEvent⟩ := events_invariant (P := fun t => t.program.Speaks r fun _ => False)
    (fun t op ht => (step_spoken hCallback op ht).1)
    (show Program.Speaks r .done fun _ => False from trivial) he
  rw [hEvent] at ho ⊢
  exact (step_spoken hCallback e.op hBefore).2 o ho

end Spoken

/-- No section of `B` comes before a section of `A`. -/
def Program.Precedes (A B : L → Prop) : Program S I L O → Prop
  | .done => True
  | .emit _ rest => rest.Precedes A B
  | .lock label rest => ¬ B label ∧ (A label ∨ ∀ s moment, (rest s moment).Precedes A B)

variable {A B : L → Prop}

theorem Program.precedes_settle {p : Program S I L O} (h : p.Precedes A B) :
    p.settle.Precedes A B := by
  induction p with
  | done => exact h
  | emit output rest ih => exact ih h
  | lock label rest ih => exact h

theorem Program.Always.precedes {enter : L → Prop} {h : O → Prop} {p : Program S I L O}
    (hp : p.Always enter h) (hEnter : ∀ label, enter label → ¬ B label) : p.Precedes A B := by
  induction p with
  | done => trivial
  | emit output rest ih => exact ih hp.2
  | lock label rest ih =>
    exact ⟨hEnter label hp.1, .inr fun s moment => ih s moment (hp.2 s moment)⟩

theorem Program.Precedes.label {y : System S I L O C E} {s : Threads S I L O}
    (h : s.program.Precedes A B) {op : Operation C E I} {l : L}
    (hLabel : (y.step s op).2.label = some l) : ¬ B l := by
  obtain ⟨shared, program⟩ := s
  cases op with
  | call c moment => cases program <;> cases hLabel
  | advance moment =>
    cases program with
    | done => cases hLabel
    | emit output rest => cases hLabel
    | lock label rest =>
      cases hLabel
      exact h.1
  | input event => cases hLabel

/-- The last section of `A` in a list of events. -/
def Since (A : L → Prop) (es : List (System.Step S I L O C E)) : Prop :=
  ∃ before e after, es = before ++ e :: after ∧ (∃ label, e.result.label = some label ∧ A label) ∧
    ∀ f ∈ after, ∀ label, f.result.label = some label → ¬ A label

theorem Since.extend {es : List (System.Step S I L O C E)} (h : Since A es)
    (he : ∀ label, e.result.label = some label → ¬ A label) : Since A (es ++ [e]) := by
  obtain ⟨before, f, after, rfl, hLabel, hAfter⟩ := h
  refine ⟨before, f, after ++ [e], by simp, hLabel, ?_⟩
  intro g hg
  rcases List.mem_append.mp hg with hg | hg
  · exact hAfter g hg
  · rw [List.mem_singleton.mp hg]
    exact he

/-- Where a section of `B` may come next, one of `A` has been run in the same callback. -/
theorem run_since {y : System S I L O C E}
    (hCallback : ∀ c moment, (y.callback c moment).Precedes A B) (s : S)
    (ops : List (Operation C E I)) :
    (run y.step ⟨s, .done⟩ ops).program.Precedes A B ∨ Since A (events y.step ⟨s, .done⟩ ops) := by
  apply run_history y.step
    (P := fun ops t => t.program.Precedes A B ∨ Since A (events y.step ⟨s, .done⟩ ops))
  · exact .inl trivial
  · intro ops op ih
    rw [events_concat]
    generalize run y.step ⟨s, .done⟩ ops = t at ih ⊢
    obtain ⟨shared, program⟩ := t
    have hSilent (hLabel : (y.step ⟨shared, program⟩ op).2.label = none) :
        ∀ label, (eventAt y.step ⟨shared, program⟩ op).result.label = some label → ¬ A label := by
      intro label hSome
      rw [eventAt_result, hLabel] at hSome
      cases hSome
    cases op with
    | call c moment =>
      cases program with
      | done => exact .inl (Program.precedes_settle (hCallback c moment))
      | emit output rest => exact ih.imp id fun h => h.extend (hSilent rfl)
      | lock label rest => exact ih.imp id fun h => h.extend (hSilent rfl)
    | advance moment =>
      cases program with
      | done => exact .inl trivial
      | emit output rest => exact ih.imp id fun h => h.extend (hSilent rfl)
      | lock label rest =>
        by_cases hA : A label
        · refine .inr ⟨_, _, [], rfl, ⟨label, rfl, hA⟩, ?_⟩
          intro e he
          cases he
        · rcases ih with hPrecedes | hSince
          · exact .inl (Program.precedes_settle (hPrecedes.2.resolve_left hA shared moment))
          · refine .inr (hSince.extend ?_)
            intro l hl
            cases hl
            exact hA
    | input event => exact ih.imp id fun h => h.extend (hSilent rfl)

/-- Wherever the program comes to a section, the section begins in a state and is followed
by outputs as `enter` says. -/
def Program.Ensures (y : System S I L O C E) (rely : S → S → Prop)
    (enter : L → S → List O → Prop) : Program S I L O → S → Prop
  | .done, _ => True
  | .emit _ rest, s => rest.Ensures y rely enter s
  | .lock label rest, s => ∀ t moment, rely s t → enter label t (rest t moment).outputs ∧
        (rest t moment).Ensures y rely enter (y.effect label t moment)

section Ensures
variable {y : System S I L O C E} {rely : S → S → Prop} {enter : L → S → List O → Prop}

namespace Program

theorem Always.ensures {plain : L → Prop} {h : O → Prop} {p : Program S I L O}
    (hp : p.Always plain h) (hEnter : ∀ label s outputs, plain label → enter label s outputs)
    (s : S) : p.Ensures y rely enter s := by
  induction p generalizing s with
  | done => trivial
  | emit output rest ih => exact ih hp.2 s
  | lock label rest ih =>
    intro t moment _
    exact ⟨hEnter label t _ hp.1, ih t moment (hp.2 t moment) _⟩

theorem ensures_settle {p : Program S I L O} {s : S} (h : p.Ensures y rely enter s) :
    p.settle.Ensures y rely enter s := by
  induction p with
  | done => exact h
  | emit output rest ih => exact ih h
  | lock label rest ih => exact h

theorem ensures_of_rely (hTrans : ∀ s t u, rely s t → rely t u → rely s u)
    {p : Program S I L O} {s t : S} (hst : rely s t) (h : p.Ensures y rely enter s) :
    p.Ensures y rely enter t := by
  induction p with
  | done => trivial
  | emit output rest ih => exact ih h
  | lock label rest ih =>
    intro u moment htu
    exact h u moment (hTrans s t u hst htu)

end Program

variable (hRefl : ∀ s, rely s s) (hTrans : ∀ s t u, rely s t → rely t u → rely s u)
variable (hInput : ∀ s e, rely s (y.input s e))
variable (hCallback : ∀ c moment s, (y.callback c moment).Ensures y rely enter s)
include hRefl hTrans hInput hCallback

theorem step_ensures {s : Threads S I L O} (op : Operation C E I)
    (hs : s.program.Ensures y rely enter s.shared) :
    (y.step s op).1.program.Ensures y rely enter (y.step s op).1.shared ∧
      ∀ label, (y.step s op).2.label = some label →
        enter label s.shared (y.step s op).2.outputs := by
  obtain ⟨shared, program⟩ := s
  cases op with
  | call c moment =>
    cases program with
    | done => exact ⟨Program.ensures_settle (hCallback c moment shared), fun _ hl => nomatch hl⟩
    | emit output rest => exact ⟨hs, fun _ hl => nomatch hl⟩
    | lock label rest => exact ⟨hs, fun _ hl => nomatch hl⟩
  | advance moment =>
    cases program with
    | done => exact ⟨hs, fun _ hl => nomatch hl⟩
    | emit output rest => exact ⟨hs, fun _ hl => nomatch hl⟩
    | lock label rest =>
      obtain ⟨hEnter, hRest⟩ := hs shared moment (hRefl shared)
      refine ⟨Program.ensures_settle hRest, ?_⟩
      intro l hl
      cases hl
      exact hEnter
  | input event =>
    have hNext : program.Ensures y rely enter (y.input shared event) :=
      Program.ensures_of_rely hTrans (hInput shared event) hs
    exact ⟨hNext, fun _ hl => nomatch hl⟩

theorem run_ensures (s : S) (ops : List (Operation C E I)) :
    (run y.step ⟨s, .done⟩ ops).program.Ensures y rely enter (run y.step ⟨s, .done⟩ ops).shared :=
  run_invariant (P := fun t : Threads S I L O => t.program.Ensures y rely enter t.shared)
    (fun _ op ht => (step_ensures hRefl hTrans hInput hCallback op ht).1)
    (show Program.Ensures y rely enter .done s from trivial) ops

end Ensures

/-! ## Preconditions and postconditions of callbacks -/

open Runs List

variable {S I L O C E : Type}

structure Discipline (S L O : Type) where
  rely : S → S → Prop
  between : List O → S → Prop
  enter : L → S → Prop
  out : List O → S → O → Prop

/-- The program keeps the discipline from a state on, after the outputs so far. -/
def Program.Secures (y : System S I L O C E) (k : Discipline S L O) :
    Program S I L O → List O → S → Prop
  | .done, sofar, s => k.between sofar s
  | .emit output rest, sofar, s => k.out sofar s output ∧ rest.Secures y k (sofar ++ [output]) s
  | .lock label rest, sofar, s => ∀ t moment, k.rely s t →
      k.enter label t ∧ (rest t moment).Secures y k sofar (y.effect label t moment)

structure Discipline.Stable (y : System S I L O C E) (k : Discipline S L O) : Prop where
  refl : ∀ s, k.rely s s
  trans : ∀ {s t u}, k.rely s t → k.rely t u → k.rely s u
  input : ∀ s event, k.rely s (y.input s event)
  between : ∀ {sofar s t}, k.between sofar s → k.rely s t → k.between sofar t

namespace Program
variable {y : System S I L O C E} {k : Discipline S L O} {p : Program S I L O} {sofar : List O}

theorem secures_settle {s : S} (h : p.Secures y k sofar s) :
    p.settle.Secures y k (sofar ++ p.outputs) s := by
  induction p generalizing sofar with
  | done =>
    rw [outputs, append_nil]
    exact h
  | emit output rest ih =>
    have hRest := ih h.2
    rw [append_assoc] at hRest
    exact hRest
  | lock label rest ih =>
    rw [outputs, append_nil]
    exact h

theorem secures_outputs {s : S} (h : p.Secures y k sofar s) {earlier later : List O} {o : O}
    (hSplit : p.outputs = earlier ++ o :: later) : k.out (sofar ++ earlier) s o := by
  induction p generalizing sofar earlier with
  | done =>
    have hLength := congrArg List.length hSplit
    simp [outputs] at hLength
  | emit output rest ih =>
    cases earlier with
    | nil =>
      obtain ⟨rfl, -⟩ := List.cons.inj hSplit
      rw [append_nil]
      exact h.1
    | cons first earlier =>
      obtain ⟨rfl, hRest⟩ := List.cons.inj hSplit
      have hOut := ih h.2 hRest
      rw [append_assoc] at hOut
      exact hOut
  | lock label rest ih =>
    have hLength := congrArg List.length hSplit
    simp [outputs] at hLength

theorem settle_ne_emit (p : Program S I L O) (output : O) (rest : Program S I L O) :
    p.settle ≠ .emit output rest := by
  induction p with
  | done => exact nofun
  | emit first next ih => exact ih
  | lock label next => exact nofun

theorem secures_of_rely (hk : k.Stable y) {s t : S} (hst : k.rely s t)
    (h : p.settle.Secures y k sofar s) : p.settle.Secures y k sofar t := by
  induction p generalizing sofar with
  | done => exact hk.between h hst
  | emit output rest ih => exact ih h
  | lock label rest ih =>
    intro u moment htu
    exact h u moment (hk.trans hst htu)

end Program

def emittedIn (es : List (System.Step S I L O C E)) : List O := es.flatMap (·.result.outputs)

theorem emittedIn_append (xs ys : List (System.Step S I L O C E)) :
    emittedIn (xs ++ ys) = emittedIn xs ++ emittedIn ys := flatMap_append

/-- What every state of a run has: the thread keeps the discipline from here on. -/
structure Secured (y : System S I L O C E) (k : Discipline S L O) (sofar : List O)
    (s : Threads S I L O) : Prop where
  settled : s.program.settle = s.program
  secures : s.program.Secures y k sofar s.shared

section Runs
variable {y : System S I L O C E} {k : Discipline S L O} (hk : k.Stable y)
variable (hCallback : ∀ c moment sofar s, k.between sofar s →
  (y.callback c moment).Secures y k sofar s)
include hk hCallback

theorem step_secured {sofar : List O} {s : Threads S I L O} (op : Operation C E I)
    (hs : Secured y k sofar s) :
    Secured y k (sofar ++ (y.step s op).2.outputs) (y.step s op).1 ∧
      (∀ label, (y.step s op).2.label = some label → k.enter label s.shared) ∧
      ∀ earlier o later, (y.step s op).2.outputs = earlier ++ o :: later →
        k.out (sofar ++ earlier) (y.step s op).1.shared o := by
  obtain ⟨shared, program⟩ := s
  have hSilent {t : Threads S I L O} (ht : Secured y k sofar t) :
      Secured y k (sofar ++ []) t ∧ (∀ label, none = some label → k.enter label shared) ∧
        ∀ (earlier : List O) o later, [] = earlier ++ o :: later →
          k.out (sofar ++ earlier) t.shared o := by
    refine ⟨?_, nofun, ?_⟩
    · rw [append_nil]
      exact ht
    · intro earlier o later hNone
      have hLength := congrArg List.length hNone
      simp at hLength
  cases op with
  | call c moment =>
    cases program with
    | done =>
      have hSecures := hCallback c moment sofar shared hs.secures
      refine ⟨⟨Program.settle_settle _, Program.secures_settle hSecures⟩, nofun, ?_⟩
      exact fun _ _ _ hSplit => Program.secures_outputs hSecures hSplit
    | emit output rest => exact hSilent hs
    | lock label rest => exact hSilent hs
  | advance moment =>
    cases program with
    | done => exact hSilent hs
    | emit output rest => exact hSilent hs
    | lock label rest =>
      obtain ⟨hEnter, hRest⟩ := hs.secures shared moment (hk.refl shared)
      refine ⟨⟨Program.settle_settle _, Program.secures_settle hRest⟩, ?_, ?_⟩
      · intro l hl
        cases hl
        exact hEnter
      · exact fun _ _ _ hSplit => Program.secures_outputs hRest hSplit
  | input event =>
    have hMeets := hs.secures
    rw [← hs.settled] at hMeets
    have hNext := Program.secures_of_rely hk (hk.input shared event) hMeets
    rw [hs.settled] at hNext
    exact hSilent ⟨hs.settled, hNext⟩

variable {s : S} (hStart : k.between [] s)
include hStart

variable {ops : List (Operation C E I)}

theorem run_secured (ops : List (Operation C E I)) :
    Secured y k (emittedIn (events y.step ⟨s, .done⟩ ops)) (run y.step ⟨s, .done⟩ ops) := by
  apply run_history y.step
    (P := fun ops t => Secured y k (emittedIn (events y.step ⟨s, .done⟩ ops)) t)
  · exact ⟨rfl, hStart⟩
  · intro ops op ih
    have hNext := (step_secured hk hCallback op ih).1
    rw [events_concat, emittedIn_append]
    simpa [emittedIn] using hNext

theorem run_holds {P : S → Prop} (moment : I) (hEnter : ∀ label s, k.enter label s → P s)
    (hBetween : ∀ sofar s, k.between sofar s → P s) (ops : List (Operation C E I)) :
    P (run y.step ⟨s, .done⟩ ops).shared := by
  obtain ⟨hSettled, hSecures⟩ := run_secured hk hCallback hStart ops
  generalize run y.step ⟨s, .done⟩ ops = t at hSettled hSecures
  obtain ⟨shared, program⟩ := t
  cases program with
  | done => exact hBetween _ _ hSecures
  | emit output rest => exact absurd hSettled (Program.settle_ne_emit rest output rest)
  | lock label rest => exact hEnter label _ (hSecures shared moment (hk.refl shared)).1

theorem events_enter : ∀ e ∈ events y.step ⟨s, .done⟩ ops, ∀ label, e.result.label = some label →
      k.enter label e.before.shared := by
  intro e he
  obtain ⟨xs, op, ys, rfl, rfl⟩ := exists_split_of_mem_events he
  exact (step_secured hk hCallback op (run_secured hk hCallback hStart xs)).2.1

theorem emitted_out : ∀ e ∈ events y.step ⟨s, .done⟩ ops, ∀ o ∈ e.result.outputs,
      ∃ sofar, k.out sofar e.after.shared o := by
  intro e he o ho
  obtain ⟨xs, op, ys, rfl, rfl⟩ := exists_split_of_mem_events he
  obtain ⟨earlier, later, hSplit⟩ := append_of_mem ho
  exact ⟨_, (step_secured hk hCallback op (run_secured hk hCallback hStart xs)).2.2 _ _ _ hSplit⟩

theorem emitted_pairwise_of_out {r : O → O → Prop}
    (hOut : ∀ sofar s o, k.out sofar s o → ∀ p ∈ sofar, r p o) (ops : List (Operation C E I)) :
    (emittedIn (events y.step ⟨s, .done⟩ ops)).Pairwise r := by
  induction ops using List.reverseRecOn with
  | nil => exact List.Pairwise.nil
  | append_singleton ops op ih =>
    have hStep := step_secured hk hCallback op (run_secured hk hCallback hStart ops)
    rw [events_concat, emittedIn_append]
    have hNew : emittedIn [eventAt y.step (run y.step ⟨s, .done⟩ ops) op] =
        (y.step (run y.step ⟨s, .done⟩ ops) op).2.outputs := by simp [emittedIn]
    rw [hNew]
    have hOuts := hStep.2.2
    generalize (y.step (run y.step ⟨s, .done⟩ ops) op).2.outputs = news at hOuts
    generalize emittedIn (events y.step ⟨s, .done⟩ ops) = olds at ih hOuts
    induction news using List.reverseRecOn with
    | nil =>
      rw [append_nil]
      exact ih
    | append_singleton news o ihNews =>
      rw [← append_assoc]
      refine pairwise_append.mpr ⟨?_, pairwise_singleton _ _, ?_⟩
      · apply ihNews
        intro earlier p later hSplit
        apply hOuts earlier p (later ++ [o])
        rw [hSplit]
        simp
      · intro p hp q hq
        rw [mem_singleton.mp hq]
        exact hOut _ _ _ (hOuts news o [] rfl) p hp

end Runs

/-! ## What a callback remembers -/

namespace Program

/-- Wherever the program comes to a section, the label, the state and the rest of the program
are as `enter` says. -/
def Continues (y : System S I L O C E) (rely : S → S → Prop)
    (enter : L → S → Program S I L O → Prop) : Program S I L O → S → Prop
  | .done, _ => True
  | .emit _ rest, s => rest.Continues y rely enter s
  | .lock label rest, s => ∀ t moment, rely s t →
      enter label t (rest t moment) ∧ (rest t moment).Continues y rely enter (y.effect label t moment)

/-- No section of `B` comes before one of `A`, and behind a section of `A` the program goes on
as `enter` says of it. -/
def Phases (y : System S I L O C E) (rely : S → S → Prop) (A : L → S → I → Prop) (B : L → Prop)
    (enter : L → S → I → L → S → Program S I L O → Prop) : Program S I L O → Prop
  | .done => True
  | .emit _ rest => rest.Phases y rely A B enter
  | .lock label rest => ¬ B label ∧ ∀ s moment, (A label s moment ∧
        (rest s moment).Continues y rely (enter label s moment) (y.effect label s moment)) ∨
      (rest s moment).Phases y rely A B enter

variable {y : System S I L O C E} {rely : S → S → Prop} {enter : L → S → Program S I L O → Prop}
  {A : L → S → I → Prop} {B : L → Prop}
  {remembers : L → S → I → L → S → Program S I L O → Prop} {p : Program S I L O}
  {plain : L → Prop} {h : O → Prop}

section
variable (hp : p.Always plain h)
include hp

theorem Always.continues (hEnter : ∀ label s rest, plain label → enter label s rest) (s : S) :
    p.Continues y rely enter s := by
  induction p generalizing s with
  | done => trivial
  | emit output rest ih => exact ih hp.2 s
  | lock label rest ih =>
    intro t moment _
    exact ⟨hEnter label t _ hp.1, ih t moment (hp.2 t moment) _⟩

theorem Always.phases (hPlain : ∀ label, plain label → ¬ B label) :
    p.Phases y rely A B remembers := by
  induction p with
  | done => trivial
  | emit output rest ih => exact ih hp.2
  | lock label rest ih =>
    exact ⟨hPlain label hp.1, fun s moment => .inr (ih s moment (hp.2 s moment))⟩

theorem Always.outputs : ∀ o ∈ p.outputs, h o := by
  induction p with
  | done =>
    intro o ho
    cases ho
  | emit output rest ih =>
    intro o ho
    rcases mem_cons.mp ho with rfl | ho
    · exact hp.1
    · exact ih hp.2 o ho
  | lock label rest ih =>
    intro o ho
    cases ho

theorem Always.settle : p.settle.Always plain h := by
  induction p with
  | done => exact hp
  | emit output rest ih => exact ih hp.2
  | lock label rest ih => exact hp

end

theorem continues_settle {s : S} (h : p.Continues y rely enter s) :
    p.settle.Continues y rely enter s := by
  induction p with
  | done => exact h
  | emit output rest ih => exact ih h
  | lock label rest ih => exact h

theorem phases_settle (h : p.Phases y rely A B remembers) :
    p.settle.Phases y rely A B remembers := by
  induction p with
  | done => exact h
  | emit output rest ih => exact ih h
  | lock label rest ih => exact h

theorem continues_of_rely (hTrans : ∀ s t u, rely s t → rely t u → rely s u) {s t : S}
    (hst : rely s t) (h : p.Continues y rely enter s) : p.Continues y rely enter t := by
  induction p with
  | done => trivial
  | emit output rest ih => exact ih h
  | lock label rest ih =>
    intro u moment htu
    exact h u moment (hTrans s t u hst htu)

end Program

/-! ## The callback of a point of a run -/

theorem step_label {y : System S I L O C E} {s : Threads S I L O} {op : Operation C E I} {label : L}
    (h : (y.step s op).2.label = some label) :
    ∃ moment rest, op = .advance moment ∧ s.program = .lock label rest ∧
      y.step s op = (⟨y.effect label s.shared moment, (rest s.shared moment).settle⟩,
        ⟨some label, (rest s.shared moment).outputs⟩) := by
  obtain ⟨shared, program⟩ := s
  cases op with
  | call c moment => cases program <;> cases h
  | advance moment =>
    cases program with
    | done => cases h
    | emit output rest => cases h
    | lock l rest =>
      cases h
      exact ⟨moment, rest, rfl, rfl, rfl⟩
  | input event => cases h

/-- These events are the call of a callback and what has come since. -/
structure Within (es : List (System.Step S I L O C E)) (c : C) (moment : I)
    (since : List (System.Step S I L O C E)) : Prop where
  call : ∃ before e, es = before ++ e :: since ∧ e.op = .call c moment ∧ e.before.program = .done
  busy : ∀ e ∈ since, e.before.program ≠ .done

/-- A section of `A` among the events of a callback. -/
structure Ran (A : L → S → I → Prop) (since : List (System.Step S I L O C E)) (label : L)
    (e : System.Step S I L O C E) (moment : I) : Prop where
  mem : e ∈ since
  op : e.op = .advance moment
  ran : e.result.label = some label
  seen : A label e.before.shared moment

variable {since : List (System.Step S I L O C E)} {e : System.Step S I L O C E}

theorem Within.extend {es : List (System.Step S I L O C E)} {c : C} {moment : I}
    (h : Within es c moment since) (he : e.before.program ≠ .done) :
    Within (es ++ [e]) c moment (since ++ [e]) := by
  obtain ⟨⟨before, call, rfl, hCall⟩, hBusy⟩ := h
  refine ⟨⟨before, call, by simp, hCall⟩, ?_⟩
  intro f hf
  rcases mem_append.mp hf with hf | hf
  · exact hBusy f hf
  · rwa [mem_singleton.mp hf]

theorem Ran.extend {A : L → S → I → Prop} {label : L} {moment : I}
    (h : Ran A since label e moment) (more : List (System.Step S I L O C E)) :
    Ran A (since ++ more) label e moment :=
  ⟨mem_append_left more h.mem, h.op, h.ran, h.seen⟩

section Runs
variable {y : System S I L O C E} {rely : S → S → Prop} {A : L → S → I → Prop} {B : L → Prop}
  {enter : C → I → L → S → I → L → S → Program S I L O → Prop}

/-- Where a point of a run stands in its callback. -/
inductive Stands (y : System S I L O C E) (rely : S → S → Prop) (A : L → S → I → Prop) (B : L → Prop)
    (enter : C → I → L → S → I → L → S → Program S I L O → Prop)
    (es : List (System.Step S I L O C E)) (t : Threads S I L O) : Prop where
  | idle (program : t.program = .done)
  | before (c : C) (moment : I) (since : List (System.Step S I L O C E))
      (within : Within es c moment since) (phases : t.program.Phases y rely A B (enter c moment))
  | behind (c : C) (moment : I) (since : List (System.Step S I L O C E))
      (within : Within es c moment since) (label : L) (e : System.Step S I L O C E) (copied : I)
      (passed : Ran A since label e copied)
      (continues : t.program.Continues y rely (enter c moment label e.before.shared copied) t.shared)

variable {es : List (System.Step S I L O C E)}

theorem Stands.still {t : Threads S I L O} (h : Stands y rely A B enter es t)
    (hBusy : t.program ≠ .done) {e : System.Step S I L O C E} (he : e.before = t) :
    Stands y rely A B enter (es ++ [e]) t := by
  have hBefore : e.before.program ≠ .done := he ▸ hBusy
  cases h with
  | idle hDone => exact absurd hDone hBusy
  | before c moment since hWithin hPhases =>
    exact .before c moment _ (hWithin.extend hBefore) hPhases
  | behind c moment since hWithin label f copied hPassed hContinues =>
    exact .behind c moment _ (hWithin.extend hBefore) label f copied (hPassed.extend _) hContinues

variable (hRefl : ∀ s, rely s s) (hTrans : ∀ s t u, rely s t → rely t u → rely s u)
variable (hInput : ∀ s e, rely s (y.input s e))
variable (hCallback : ∀ c moment, (y.callback c moment).Phases y rely A B (enter c moment))
include hRefl hTrans hInput hCallback

theorem step_stands {t : Threads S I L O} (h : Stands y rely A B enter es t)
    (op : Operation C E I) :
    Stands y rely A B enter (es ++ [eventAt y.step t op]) (y.step t op).1 := by
  obtain ⟨shared, program⟩ := t
  cases op with
  | call c moment =>
    cases program with
    | done =>
      refine .before c moment [] ⟨⟨es, _, rfl, rfl, rfl⟩, fun e he => nomatch he⟩ ?_
      exact Program.phases_settle (hCallback c moment)
    | emit output rest => exact h.still (fun hDone => nomatch hDone) rfl
    | lock l rest => exact h.still (fun hDone => nomatch hDone) rfl
  | advance moment =>
    cases program with
    | done => exact .idle rfl
    | emit output rest => exact h.still (fun hDone => nomatch hDone) rfl
    | lock l rest =>
      cases h with
      | idle hDone => cases hDone
      | before c' moment' since hWithin hPhases =>
        have hNext := hWithin.extend (e := eventAt y.step ⟨shared, .lock l rest⟩ (.advance moment))
          fun hDone => nomatch hDone
        rcases hPhases.2 shared moment with ⟨hA, hContinues⟩ | hPhases
        · refine .behind c' moment' _ hNext l _ moment
            ⟨mem_append_right since mem_cons_self, rfl, rfl, hA⟩ ?_
          exact Program.continues_settle hContinues
        · exact .before c' moment' _ hNext (Program.phases_settle hPhases)
      | behind c' moment' since hWithin label e copied hPassed hContinues =>
        refine .behind c' moment' _ (hWithin.extend fun hDone => nomatch hDone) label e copied
          (hPassed.extend _) ?_
        exact Program.continues_settle (hContinues shared moment (hRefl shared)).2
  | input event =>
    cases h with
    | idle hDone => exact .idle hDone
    | before c' moment' since hWithin hPhases =>
      by_cases hDone : program = .done
      · exact .idle hDone
      · exact .before c' moment' _ (hWithin.extend hDone) hPhases
    | behind c' moment' since hWithin label e copied hPassed hContinues =>
      by_cases hDone : program = .done
      · exact .idle hDone
      · refine .behind c' moment' _ (hWithin.extend hDone) label e copied (hPassed.extend _) ?_
        exact Program.continues_of_rely hTrans (hInput shared event) hContinues

theorem run_stands (s : S) (ops : List (Operation C E I)) :
    Stands y rely A B enter (events y.step ⟨s, .done⟩ ops) (run y.step ⟨s, .done⟩ ops) := by
  induction ops using List.reverseRecOn with
  | nil => exact .idle rfl
  | append_singleton ops op ih =>
    rw [events_concat, run_concat]
    exact step_stands hRefl hTrans hInput hCallback ih op

/-- A section of `B` is run behind a section of `A` of the same callback, as `enter` says. -/
theorem run_remembers {s : S} {ops : List (Operation C E I)} {op : Operation C E I} {label : L}
    (hLabel : (y.step (run y.step ⟨s, .done⟩ ops) op).2.label = some label) (hB : B label) :
    ∃ c moment since l e copied,
      Within (events y.step ⟨s, .done⟩ ops) c moment since ∧ Ran A since l e copied ∧
      ∃ now rest, op = .advance now ∧
        (y.step (run y.step ⟨s, .done⟩ ops) op).1.program = Program.settle rest ∧
        (y.step (run y.step ⟨s, .done⟩ ops) op).2.outputs = Program.outputs rest ∧
        enter c moment l e.before.shared copied label (run y.step ⟨s, .done⟩ ops).shared rest := by
  have hStands := run_stands hRefl hTrans hInput hCallback s ops
  obtain ⟨now, rest, hOp, hProgram, hStep⟩ := step_label hLabel
  generalize run y.step ⟨s, .done⟩ ops = t at hStands hProgram hStep ⊢
  rw [hStep]
  cases hStands with
  | idle hDone =>
    rw [hDone] at hProgram
    cases hProgram
  | before c moment since hWithin hPhases =>
    rw [hProgram] at hPhases
    exact absurd hB hPhases.1
  | behind c moment since hWithin l e copied hPassed hContinues =>
    rw [hProgram] at hContinues
    exact ⟨c, moment, since, l, e, copied, hWithin, hPassed, now, rest t.shared now, hOp, rfl, rfl,
      (hContinues t.shared now (hRefl t.shared)).1⟩

end Runs

end UavNavigation.Sections
