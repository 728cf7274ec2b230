import UavNavigation.ModeContract
import UavNavigation.CriticalSections

/-!
# The velocity-only predecessor and a localization reset

One section writes the predecessor of the limiter back, with what an earlier section has
copied out. A health message that enters another epoch drops the predecessor; where it
comes in between the two sections, the predecessor of the old frame is back.
-/

namespace UavNavigation.NavigationMode

set_option autoImplicit false

open FloatOps Runs Sections

/-! ## What sections and inputs do to the predecessor -/

/-- The predecessor and its flag are kept or dropped. -/
structure Forgets {D : Type} (m n : Mode D) : Prop where
  previous : n.velocityOnlyPrevious = m.velocityOnlyPrevious ∨ n.velocityOnlyPrevious = none
  seen : n.velocityOnlyResetCountersSeen = m.velocityOnlyResetCountersSeen ∨
    n.velocityOnlyResetCountersSeen = false

def KeepsEpoch {D : Type} (m n : Mode D) : Prop :=
  m.lioLocalizationEpoch ≠ 0 → n.lioLocalizationEpoch ≠ 0

/-- The message is taken and names another epoch than the one in use, be it the first. -/
def Mode.entersEpoch {D : Type} (m : Mode D) (message : Option EstimatorHealth) : Bool :=
  message.any fun health =>
    health.localizationEpoch != 0 && m.healthIsNewer health &&
      m.lioLocalizationEpoch != health.localizationEpoch

section Members
variable {D : Type} {m n : Mode D}

theorem Forgets.refl (m : Mode D) : Forgets m m := ⟨.inl rfl, .inl rfl⟩

theorem Untouched.forgets (h : Untouched m n) : Forgets m n :=
  ⟨.inl h.velocityOnlyPrevious, .inl h.velocityOnlyResetCountersSeen⟩

theorem Untouched.keepsEpoch (h : Untouched m n) : KeepsEpoch m n := by
  intro hm
  rw [h.lioLocalizationEpoch]
  exact hm

theorem announcesEpoch_of_entersEpoch {message : Option EstimatorHealth}
    (h : m.entersEpoch message = true) (hEpoch : m.lioLocalizationEpoch ≠ 0) :
    m.announcesEpoch message = true := by
  cases message with
  | none => cases h
  | some health =>
    simp only [Mode.entersEpoch, Option.any_some, Bool.and_eq_true] at h
    simp only [Mode.announcesEpoch, Mode.changesEpoch, Option.any_some, Bool.and_eq_true]
    exact ⟨h.1, bne_iff_ne.mpr hEpoch, h.2⟩

section
variable (cfg : Config D) (command : NavigationCommand D) (nowNs : Int) (m : Mode D)
  (message : Option EstimatorHealth) (moment : Moment)

theorem health_forgets : Forgets m (m.onEstimatorHealth message moment) := by
  cases h : m.announcesEpoch message with
  | false =>
    have hQuiet := health_quiet moment h
    exact ⟨.inl hQuiet.velocityOnlyPrevious, .inl hQuiet.velocityOnlyResetCountersSeen⟩
  | true =>
    have hAnnounced := health_announced moment h
    exact ⟨.inr hAnnounced.velocityOnlyPrevious, .inr hAnnounced.velocityOnlyResetCountersSeen⟩

theorem health_keepsEpoch : KeepsEpoch m (m.onEstimatorHealth message moment) := by
  intro hm
  unfold Mode.onEstimatorHealth
  dsimp only
  split
  · exact hm
  split
  · exact hm
  rename_i hEpoch
  split
  · exact hm
  split
  · exact hm
  · simpa using hEpoch

theorem beginRecovery_forgets : Forgets m (beginRecovery cfg command nowNs m) := by
  fun_cases beginRecovery
  case case3 => exact ⟨.inl rfl, .inl rfl⟩
  all_goals exact .refl m

theorem beginRecovery_epoch :
    (beginRecovery cfg command nowNs m).lioLocalizationEpoch = m.lioLocalizationEpoch := by
  unfold beginRecovery
  split
  · rfl
  split <;> rfl

end

variable [Floating D]

theorem stop_forgets (m : Mode D) : Forgets m m.stop := by
  unfold Mode.stop
  split
  · exact .refl m
  · exact ⟨.inl rfl, .inl rfl⟩

theorem stop_epoch (m : Mode D) : m.stop.lioLocalizationEpoch = m.lioLocalizationEpoch := by
  unfold Mode.stop
  split <;> rfl

variable [MathLibrary D] {cfg : Config D}

theorem effect_forgets {l : Section D} (hl : l.plain) (m : Mode D) (moment : Moment) :
    Forgets m (Section.effect cfg l m moment) := by
  cases l with
  | writeBack previous counters reason => exact hl.elim
  | activate => exact ⟨.inr rfl, .inr rfl⟩
  | deactivate => exact ⟨.inr rfl, .inr rfl⟩
  | velocityOnlyHold reason => exact ⟨.inr rfl, .inr rfl⟩
  | failNavigation => exact stop_forgets m
  | safetyStop => exact stop_forgets m
  | acceptedRecovery command => exact beginRecovery_forgets cfg command _ m
  | heldRecovery command nowNs => exact beginRecovery_forgets cfg command nowNs m
  | boundary =>
    unfold Section.effect
    dsimp only
    split <;> exact ⟨.inl rfl, .inl rfl⟩
  | receipt message =>
    unfold Section.effect
    dsimp only
    split <;> exact ⟨.inl rfl, .inl rfl⟩
  | admission message =>
    unfold Section.effect
    dsimp only
    split <;> exact ⟨.inl rfl, .inl rfl⟩
  | airborneStart nowNs =>
    unfold Section.effect
    dsimp only
    split <;> exact ⟨.inl rfl, .inl rfl⟩
  | _ => exact ⟨.inl rfl, .inl rfl⟩

theorem effect_epoch (l : Section D) (m : Mode D) (moment : Moment) :
    (Section.effect cfg l m moment).lioLocalizationEpoch = m.lioLocalizationEpoch := by
  cases l with
  | failNavigation => exact stop_epoch m
  | safetyStop => exact stop_epoch m
  | acceptedRecovery command => exact beginRecovery_epoch cfg command _ m
  | heldRecovery command nowNs => exact beginRecovery_epoch cfg command nowNs m
  | boundary =>
    unfold Section.effect
    dsimp only
    split <;> rfl
  | receipt message =>
    unfold Section.effect
    dsimp only
    split <;> rfl
  | admission message =>
    unfold Section.effect
    dsimp only
    split <;> rfl
  | airborneStart nowNs =>
    unfold Section.effect
    dsimp only
    split <;> rfl
  | _ => rfl

theorem input_forgets (m : Mode D) (e : StateInput D) : Forgets m (m.input cfg e) := by
  cases e with
  | odometry message moment => exact (untouched_onOdometry cfg m message moment).forgets
  | localPosition message moment => exact (untouched_onPx4LocalPosition m message moment).forgets
  | health message moment => exact health_forgets m message moment

theorem input_keepsEpoch (m : Mode D) (e : StateInput D) : KeepsEpoch m (m.input cfg e) := by
  cases e with
  | odometry message moment => exact (untouched_onOdometry cfg m message moment).keepsEpoch
  | localPosition message moment => exact (untouched_onPx4LocalPosition m message moment).keepsEpoch
  | health message moment => exact health_keepsEpoch m message moment

end Members

section Callbacks
variable {D : Type} [Floating D] [MathLibrary D] {cfg : Config D}

/-! ## The sections of one update -/

theorem callback_precedes (c : Callback D) (moment : Moment) :
    ((system cfg).callback c moment).Precedes (· = Section.snapshot) fun l => ¬ l.plain := by
  have hPlain (p : ModeProgram D) (hp : WritesNothingBack p) :
      p.Precedes (· = Section.snapshot) fun l => ¬ l.plain :=
    hp.precedes fun _ hl hNot => hNot hl
  cases c with
  | activate => exact hPlain _ (writesNothingBack onActivate_closes.plain)
  | deactivate => exact hPlain _ (writesNothingBack onDeactivate_closes.plain)
  | navigationCommand message =>
    exact hPlain _ (onNavigationCommand_writesNothingBack message moment)
  | missionProgress message => exact hPlain _ (writesNothingBack (onMissionProgress_closes message).plain)
  | boundary => exact hPlain _ (writesNothingBack updateBoundary_closes.plain)
  | setpoint => exact ⟨fun h => h trivial, .inl rfl⟩

theorem velocityOnlySetpoint_epoch {command : NavigationCommand D} {s : VelocityOnlySnapshot D}
    {nowNs nowSteadyNs : Int} {r : VelocityOnlySetpoint D}
    (h : velocityOnlySetpoint cfg command s nowNs nowSteadyNs = .ok r) :
    s.lioLocalizationEpoch ≠ 0 := by
  unfold velocityOnlySetpoint at h
  split at h
  · cases h
  split at h
  · cases h
  rename_i adapted hAdapted
  unfold Adapter.adapt at hAdapted
  split at hAdapted
  · rename_i hInputs
    have hLio : Adapter.validLioState (lioStateOf s) (referenceOf command) (adapterPolicy cfg s) =
        true := by
      by_contra hInvalid
      rw [Bool.not_eq_true] at hInvalid
      unfold Adapter.checkInputs at hInputs
      simp only [hInvalid, Bool.not_false, if_true] at hInputs
      repeat'
        split at hInputs
        · cases hInputs
      cases hInputs
    simp only [Adapter.validLioState, Bool.and_eq_true, bne_iff_ne] at hLio
    tauto
  · cases hAdapted

/-- A write-back happens in an epoch, and its setpoint is published. -/
def writesBackInEpoch (l : Section D) (m : Mode D) (outputs : List (Output D)) : Prop :=
  match l with
  | .writeBack _ _ _ =>
    m.lioLocalizationEpoch ≠ 0 ∧ ∃ setpoint, Output.setpoint setpoint ∈ outputs
  | _ => True

abbrev WritesBackInEpoch (cfg : Config D) (p : ModeProgram D) (m : Mode D) : Prop :=
  p.Ensures (system cfg) KeepsEpoch writesBackInEpoch m

theorem writesBackInEpoch_of_plain {p : ModeProgram D} (h : WritesNothingBack p) (m : Mode D) :
    WritesBackInEpoch cfg p m := by
  refine h.ensures ?_ m
  intro l n outputs hl
  cases l with
  | writeBack previous counters reason => exact hl.elim
  | _ => trivial

def Locals.epochKnown (x : Locals D) (m : Mode D) : Prop :=
  ∀ s, x.velocityOnlySnapshot = some s → s.lioLocalizationEpoch ≠ 0 → m.lioLocalizationEpoch ≠ 0

variable {x : Locals D}

omit [Floating D] [MathLibrary D] in
theorem Locals.epochKnown.keep {x : Locals D} {m n : Mode D} (h : x.epochKnown m)
    (hKeeps : KeepsEpoch m n) : x.epochKnown n :=
  fun s hs hEpoch => hKeeps (h s hs hEpoch)

section
variable {m : Mode D} (hx : x.epochKnown m)
include hx

theorem updateVelocityOnly_inEpoch (command : NavigationCommand D) (nowSteadyNs : Int) :
    WritesBackInEpoch cfg (updateVelocityOnly cfg x command nowSteadyNs) m := by
  have hRefused : WritesNothingBack (refuseVelocityOnly cfg) :=
    writesNothingBack refuseVelocityOnly_plain
  unfold updateVelocityOnly
  split
  · exact writesBackInEpoch_of_plain hRefused m
  split
  · exact fun n moment hRely => ⟨trivial, writesBackInEpoch_of_plain hRefused _⟩
  · rename_i s hSnapshot _ r hSetpoint
    intro n moment hRely
    have hEpoch := velocityOnlySetpoint_epoch hSetpoint
    exact ⟨⟨hRely (hx s hSnapshot hEpoch), r.setpoint, List.mem_cons_self⟩, trivial⟩

theorem updateCommand_inEpoch (command : NavigationCommand D) :
    WritesBackInEpoch cfg (updateCommand cfg x command) m := by
  intro n moment hRely
  refine ⟨trivial, fun o later hNext => ⟨trivial, ?_⟩⟩
  have hKnown : x.epochKnown o := (hx.keep hRely).keep hNext
  dsimp only
  split
  · exact writesBackInEpoch_of_plain (writesNothingBack (safetyStopNavigation_closes _).plain) _
  split
  · exact writesBackInEpoch_of_plain (writesNothingBack (updateCompleted_plain x command _)) _
  split
  · exact updateVelocityOnly_inEpoch hKnown command _
  · exact writesBackInEpoch_of_plain (writesNothingBack (updateTracking_plain x command)) _

theorem updateHealthy_inEpoch (sinceActivationS : D) :
    WritesBackInEpoch cfg (updateHealthy cfg x sinceActivationS) m := by
  intro n moment hRely
  refine ⟨trivial, ?_⟩
  have hKnown : x.epochKnown n := hx.keep hRely
  dsimp only
  split
  · trivial
  · exact writesBackInEpoch_of_plain (writesNothingBack (failNavigation_closes _).plain) _
  split
  · exact updateCommand_inEpoch hKnown _
  · exact writesBackInEpoch_of_plain (writesNothingBack (updateAcquisition_plain x)) _

theorem updateAirborne_inEpoch (armed : Bool) (sinceActivationS : D) :
    WritesBackInEpoch cfg (updateAirborne cfg x armed sinceActivationS) m := by
  unfold updateAirborne
  split
  · trivial
  split
  · trivial
  intro n moment hRely
  refine ⟨trivial, ?_⟩
  have hKnown : x.epochKnown (Section.effect cfg (.airborneStart x.nowNs) n moment) := by
    refine (hx.keep hRely).keep fun hEpoch => ?_
    rw [effect_epoch]
    exact hEpoch
  dsimp only
  split
  · exact writesBackInEpoch_of_plain (writesNothingBack (failNavigation_closes _).plain) _
  · exact updateHealthy_inEpoch hKnown sinceActivationS

theorem updateTerminal_inEpoch : WritesBackInEpoch cfg (updateTerminal cfg x) m := by
  intro n moment hRely
  refine ⟨trivial, ?_⟩
  have hKnown : x.epochKnown n := hx.keep hRely
  dsimp only
  split
  · change WritesBackInEpoch cfg (if _ then _ else _) n
    split
    · exact writesBackInEpoch_of_plain (writesNothingBack (safetyStopNavigation_closes _).plain) _
    · trivial
  · exact updateAirborne_inEpoch hKnown _ _

end

omit [MathLibrary D] in
theorem copyLocals_epochKnown (m : Mode D) (nowNs : Int) (moment : Moment) :
    (m.copyLocals cfg nowNs moment).epochKnown m := by
  intro s hs hEpoch
  unfold Mode.copyLocals at hs
  split at hs
  · rw [Option.map_eq_some_iff] at hs
    obtain ⟨odometry, -, rfl⟩ := hs
    exact hEpoch
  · cases hs

theorem withHeading_snapshot (x : Locals D) (m : Mode D) :
    (x.withHeading cfg m).velocityOnlySnapshot = x.velocityOnlySnapshot := by
  unfold Locals.withHeading
  split <;> rfl

theorem updateSetpoint_inEpoch (moment : Moment) (m : Mode D) :
    WritesBackInEpoch cfg (updateSetpoint cfg moment) m := by
  intro n copied _
  refine ⟨trivial, fun o later hNext => ⟨trivial, updateTerminal_inEpoch ?_⟩⟩
  intro s hs
  rw [withHeading_snapshot] at hs
  exact (copyLocals_epochKnown n moment.rosNs copied).keep hNext s hs

theorem callback_inEpoch (c : Callback D) (moment : Moment) (m : Mode D) :
    WritesBackInEpoch cfg ((system cfg).callback c moment) m := by
  cases c with
  | activate => exact writesBackInEpoch_of_plain (writesNothingBack onActivate_closes.plain) m
  | deactivate => exact writesBackInEpoch_of_plain (writesNothingBack onDeactivate_closes.plain) m
  | navigationCommand message =>
    exact writesBackInEpoch_of_plain (onNavigationCommand_writesNothingBack message moment) m
  | missionProgress message =>
    exact writesBackInEpoch_of_plain (writesNothingBack (onMissionProgress_closes message).plain) m
  | boundary => exact writesBackInEpoch_of_plain (writesNothingBack updateBoundary_closes.plain) m
  | setpoint => exact updateSetpoint_inEpoch moment m

def Mode.fresh (m : Mode D) : Prop :=
  m.lioLocalizationEpoch = 0 →
    m.velocityOnlyPrevious = none ∧ m.velocityOnlyResetCountersSeen = false

section
omit [Floating D] [MathLibrary D]

theorem Forgets.cleared {m n : Mode D} (h : Forgets m n)
    (hm : m.velocityOnlyPrevious = none ∧ m.velocityOnlyResetCountersSeen = false) :
    n.velocityOnlyPrevious = none ∧ n.velocityOnlyResetCountersSeen = false := by
  obtain ⟨hPrevious, hSeen⟩ := hm
  refine ⟨?_, ?_⟩
  · rcases h.previous with hSame | hNone
    · rw [hSame]
      exact hPrevious
    · exact hNone
  · rcases h.seen with hSame | hFalse
    · rw [hSame]
      exact hSeen
    · exact hFalse

theorem Forgets.fresh {m n : Mode D} (h : Forgets m n) (hEpoch : KeepsEpoch m n) (hm : m.fresh) :
    n.fresh := by
  intro hn
  apply h.cleared
  apply hm
  by_contra hKnown
  exact hEpoch hKnown hn

end

/-- What a step does to the predecessor: it forgets, or it is a write-back. -/
inductive PredecessorChange (cfg : Config D) (e : ModeStep D) : Prop where
  | forgets (forgets : Forgets e.before.shared e.after.shared)
  | writesBack (previous : VelocityOnly.Previous D) (counters : Adapter.ResetCounters)
      (reason : String) (label : e.result.label = some (.writeBack previous counters reason))
      (shared : e.after.shared.velocityOnlyPrevious = some previous)

variable (cfg) in
theorem step_predecessor (s : ModeThreads D) (op : ModeOperation D) :
    PredecessorChange cfg (eventAt (system cfg).step s op) := by
  rcases step_effect (system cfg) s op with ⟨-, hShared⟩ | ⟨l, moment, -, hLabel, hShared⟩ |
    ⟨input, -, -, -, hShared⟩
  · refine .forgets ?_
    rw [hShared]
    exact .refl s.shared
  · by_cases hl : l.plain
    · refine .forgets ?_
      rw [hShared]
      exact effect_forgets hl s.shared moment
    · cases l with
      | writeBack previous counters reason =>
        refine .writesBack previous counters reason hLabel ?_
        rw [hShared]
        rfl
      | _ => exact absurd trivial hl
  · refine .forgets ?_
    rw [hShared]
    exact input_forgets s.shared input

variable (cfg) in
theorem step_keepsEpoch (s : ModeThreads D) (op : ModeOperation D) :
    KeepsEpoch s.shared ((system cfg).step s op).1.shared := by
  change KeepsEpoch s.shared (eventAt (system cfg).step s op).after.shared
  rcases step_effect (system cfg) s op with ⟨-, hShared⟩ | ⟨l, moment, -, -, hShared⟩ |
    ⟨input, -, -, -, hShared⟩
  · rw [hShared]
    exact id
  · intro hEpoch
    rw [hShared]
    change (Section.effect cfg l s.shared moment).lioLocalizationEpoch ≠ 0
    rw [effect_epoch]
    exact hEpoch
  · rw [hShared]
    exact input_keepsEpoch s.shared input

theorem run_inEpoch (ops : List (ModeOperation D)) :
    WritesBackInEpoch cfg (run (system cfg).step initialThreads ops).program
      (run (system cfg).step initialThreads ops).shared :=
  run_ensures (fun _ h => h) (fun _ _ _ h₁ h₂ h => h₂ (h₁ h)) input_keepsEpoch callback_inEpoch
    .initial ops

theorem run_writeBack {ops : List (ModeOperation D)} {op : ModeOperation D}
    {previous : VelocityOnly.Previous D} {counters : Adapter.ResetCounters} {reason : String}
    (hLabel : ((system cfg).step (run (system cfg).step initialThreads ops) op).2.label =
      some (.writeBack previous counters reason)) :
    (run (system cfg).step initialThreads ops).shared.lioLocalizationEpoch ≠ 0 ∧
      ∃ setpoint, Output.setpoint setpoint ∈
        ((system cfg).step (run (system cfg).step initialThreads ops) op).2.outputs :=
  (step_ensures (fun _ h => h) (fun _ _ _ h₁ h₂ h => h₂ (h₁ h)) input_keepsEpoch callback_inEpoch op
    (run_inEpoch ops)).2 _ hLabel

variable (cfg) in
theorem run_fresh (ops : List (ModeOperation D)) :
    (run (system cfg).step initialThreads ops).shared.fresh := by
  apply run_history (system cfg).step (P := fun _ t => t.shared.fresh)
  · exact fun _ => ⟨rfl, rfl⟩
  · intro ops op ih
    have hKeeps := step_keepsEpoch cfg (run (system cfg).step initialThreads ops) op
    rcases step_predecessor cfg (run (system cfg).step initialThreads ops) op with
      hForgets | ⟨previous, counters, reason, hLabel, -⟩
    · exact hForgets.fresh hKeeps ih
    · exact fun hEpoch => absurd hEpoch (hKeeps (run_writeBack hLabel).1)

/-! ## Updates and resets of a run -/

def TakesSnapshot (e : ModeStep D) : Prop := e.result.label = some .snapshot

/-- A health message of the state input thread enters another epoch. -/
def EntersEpoch (e : ModeStep D) : Prop :=
  ∃ message moment, e.op = .input (.health message moment) ∧
    e.before.shared.entersEpoch message = true

/-- One update from its snapshot to the write-back of `previous`, with what has come in
between. -/
structure Update (s : ModeStep D) (between : List (ModeStep D)) (w : ModeStep D)
    (previous : VelocityOnly.Previous D) : Prop where
  snapshot : TakesSnapshot s
  same : ∀ e ∈ between, ¬ TakesSnapshot e
  writesBack : ∃ counters reason, w.result.label = some (.writeBack previous counters reason)
  published : ∃ setpoint, Output.setpoint setpoint ∈ w.result.outputs

/-- All of an update that has written `previous` back lies in these events. -/
def WrittenIn (es : List (ModeStep D)) (previous : VelocityOnly.Previous D) : Prop :=
  ∃ before s between w rest, es = before ++ s :: (between ++ w :: rest) ∧
    Update s between w previous

/-- No message enters another epoch between a snapshot and its write-back. -/
def Uncrossed (es : List (ModeStep D)) : Prop :=
  ∀ before s between w rest previous, es = before ++ s :: (between ++ w :: rest) →
    Update s between w previous → ∀ e ∈ between, ¬ EntersEpoch e

section
omit [Floating D] [MathLibrary D]

theorem WrittenIn.extend {es : List (ModeStep D)} {previous : VelocityOnly.Previous D}
    (h : WrittenIn es previous) (e : ModeStep D) : WrittenIn (es ++ [e]) previous := by
  obtain ⟨before, s, between, w, rest, rfl, hUpdate⟩ := h
  exact ⟨before, s, between, w, rest ++ [e], by simp, hUpdate⟩

theorem Uncrossed.of_append {es more : List (ModeStep D)} (h : Uncrossed (es ++ more)) :
    Uncrossed es := by
  rintro before s between w rest previous rfl hUpdate
  exact h before s between w (rest ++ more) previous (by simp) hUpdate

end

/-- Where no message crosses an update, a write-back behind a message that enters an epoch
has its snapshot behind the message, too. -/
theorem writtenIn_of_writeBack {xs ys : List (ModeOperation D)} {crossing op : ModeOperation D}
    {previous : VelocityOnly.Previous D} {counters : Adapter.ResetCounters} {reason : String}
    (hUncrossed : Uncrossed (events (system cfg).step initialThreads (xs ++ crossing :: (ys ++ [op]))))
    (hCrossing : EntersEpoch
      (eventAt (system cfg).step (run (system cfg).step initialThreads xs) crossing))
    (hLabel : ((system cfg).step (run (system cfg).step initialThreads (xs ++ crossing :: ys)) op).2.label =
      some (.writeBack previous counters reason)) :
    WrittenIn (events (system cfg).step (run (system cfg).step initialThreads (xs ++ [crossing])) ys ++
      [eventAt (system cfg).step (run (system cfg).step initialThreads (xs ++ crossing :: ys)) op])
      previous := by
  have hPublished := (run_writeBack hLabel).2
  have hOps : xs ++ crossing :: (ys ++ [op]) = (xs ++ crossing :: ys) ++ [op] := by simp
  have hEvents : events (system cfg).step initialThreads (xs ++ crossing :: ys) =
      events (system cfg).step initialThreads xs ++
        eventAt (system cfg).step (run (system cfg).step initialThreads xs) crossing ::
        events (system cfg).step (run (system cfg).step initialThreads (xs ++ [crossing])) ys := by
    rw [events_append, events_cons, run_concat]
  rw [hOps, events_concat] at hUncrossed
  rcases run_since (y := system cfg) callback_precedes .initial (xs ++ crossing :: ys) with
    hPrecedes | ⟨before, s, after, hSplit, ⟨label, hSnapshot, rfl⟩, hSame⟩
  · exact (hPrecedes.label hLabel id).elim
  · change events (system cfg).step initialThreads (xs ++ crossing :: ys) = _ at hSplit
    have hUpdate : Update s after
        (eventAt (system cfg).step (run (system cfg).step initialThreads (xs ++ crossing :: ys)) op)
        previous :=
      ⟨hSnapshot, fun e he hTakes => hSame e he _ hTakes rfl, ⟨counters, reason, hLabel⟩, hPublished⟩
    have hNotCrossed := hUncrossed before s after _ [] previous (by rw [hSplit]; simp) hUpdate
    rw [hEvents, List.append_eq_append_iff] at hSplit
    rcases hSplit with ⟨more, rfl, hTail⟩ | ⟨more, hHead, hTail⟩
    · cases more with
      | nil =>
        -- the message itself takes no snapshot
        obtain ⟨message, moment, hOp, -⟩ := hCrossing
        cases hOp
        cases hTail
        cases hSnapshot
      | cons e more =>
        rw [List.cons_append, List.cons.injEq] at hTail
        exact ⟨more, s, after, _, [], by rw [hTail.2]; simp, hUpdate⟩
    · cases more with
      | nil =>
        obtain ⟨message, moment, hOp, -⟩ := hCrossing
        cases hOp
        cases hTail
        cases hSnapshot
      | cons e more =>
        cases hTail
        exact absurd hCrossing (hNotCrossed _ (by simp))

theorem entered_cleared {ops : List (ModeOperation D)} {crossing : ModeOperation D}
    (h : EntersEpoch (eventAt (system cfg).step (run (system cfg).step initialThreads ops) crossing)) :
    (run (system cfg).step initialThreads (ops ++ [crossing])).shared.velocityOnlyPrevious = none ∧
      (run (system cfg).step initialThreads (ops ++ [crossing])).shared.velocityOnlyResetCountersSeen =
        false := by
  obtain ⟨message, moment, hOp, hEnters⟩ := h
  cases hOp
  rw [run_concat]
  generalize hState : run (system cfg).step initialThreads ops = s at hEnters ⊢
  by_cases hEpoch : s.shared.lioLocalizationEpoch = 0
  · have hFresh := run_fresh cfg ops
    rw [hState] at hFresh
    exact (health_forgets s.shared message moment).cleared (hFresh hEpoch)
  · have hAnnounced := health_announced moment (announcesEpoch_of_entersEpoch hEnters hEpoch)
    exact ⟨hAnnounced.velocityOnlyPrevious, hAnnounced.velocityOnlyResetCountersSeen⟩

/-- Where no message that enters an epoch comes in between a snapshot and its write-back,
all that the mode has of a predecessor behind such a message comes from an update that
lies behind it in full and has published its setpoint. -/
theorem no_continuity_across_reset {xs ys : List (ModeOperation D)} {crossing : ModeOperation D}
    (hUncrossed : Uncrossed (events (system cfg).step initialThreads (xs ++ crossing :: ys)))
    (hCrossing : EntersEpoch
      (eventAt (system cfg).step (run (system cfg).step initialThreads xs) crossing)) :
    (∀ previous, (run (system cfg).step initialThreads
        (xs ++ crossing :: ys)).shared.velocityOnlyPrevious = some previous →
      WrittenIn (events (system cfg).step
        (run (system cfg).step initialThreads (xs ++ [crossing])) ys) previous) ∧
    ((run (system cfg).step initialThreads
        (xs ++ crossing :: ys)).shared.velocityOnlyResetCountersSeen = true →
      ∃ previous, WrittenIn (events (system cfg).step
        (run (system cfg).step initialThreads (xs ++ [crossing])) ys) previous) := by
  induction ys using List.reverseRecOn with
  | nil =>
    obtain ⟨hPrevious, hSeen⟩ := entered_cleared hCrossing
    refine ⟨fun previous h => ?_, fun h => ?_⟩
    · rw [hPrevious] at h
      cases h
    · rw [hSeen] at h
      cases h
  | append_singleton ys op ih =>
    have hOps : xs ++ crossing :: (ys ++ [op]) = (xs ++ crossing :: ys) ++ [op] := by simp
    have hRun : run (system cfg).step (run (system cfg).step initialThreads (xs ++ [crossing])) ys =
        run (system cfg).step initialThreads (xs ++ crossing :: ys) := by
      rw [← run_append, List.append_assoc, List.singleton_append]
    have hBefore : Uncrossed (events (system cfg).step initialThreads (xs ++ crossing :: ys)) := by
      rw [hOps, events_concat] at hUncrossed
      exact hUncrossed.of_append
    obtain ⟨ihPrevious, ihSeen⟩ := ih hBefore
    rw [hOps, run_concat, events_concat, hRun]
    rcases step_predecessor cfg
        (run (system cfg).step initialThreads (xs ++ crossing :: ys)) op with
      hForgets | ⟨written, counters, reason, hLabel, hShared⟩
    · refine ⟨fun previous h => ?_, fun h => ?_⟩
      · rcases hForgets.previous with hSame | hNone
        · exact (ihPrevious previous (hSame.symm.trans h)).extend _
        · rw [eventAt_after, h] at hNone
          cases hNone
      · rcases hForgets.seen with hSame | hFalse
        · obtain ⟨previous, hWritten⟩ := ihSeen (hSame.symm.trans h)
          exact ⟨previous, hWritten.extend _⟩
        · rw [eventAt_after, h] at hFalse
          cases hFalse
    · have hWritten := writtenIn_of_writeBack hUncrossed hCrossing hLabel
      refine ⟨fun previous h => ?_, fun _ => ⟨written, hWritten⟩⟩
      rw [eventAt_after, h] at hShared
      cases hShared
      exact hWritten

omit [Floating D] [MathLibrary D] in
theorem uncrossed_of_quiet {es more : List (ModeStep D)} (hes : ∀ e ∈ es, ¬ TakesSnapshot e)
    (hMore : ∀ e ∈ more, ¬ EntersEpoch e) : Uncrossed (es ++ more) := by
  intro before s between w rest previous hSplit hUpdate e he
  rw [List.append_eq_append_iff] at hSplit
  rcases hSplit with ⟨first, -, rfl⟩ | ⟨first, rfl, hTail⟩
  · apply hMore e
    simp [he]
  · cases first with
    | nil =>
      apply hMore e
      rw [← List.nil_append more, ← hTail]
      simp [he]
    | cons f first =>
      rw [List.cons_append, List.cons.injEq] at hTail
      obtain ⟨rfl, -⟩ := hTail
      exact absurd hUpdate.snapshot (hes s (by simp))

end Callbacks

section Run

instance {D : Type} [DecidableEq D] (e : ModeStep D) : Decidable (TakesSnapshot e) :=
  inferInstanceAs (Decidable (e.result.label = some .snapshot))

theorem entersEpoch_iff {D : Type} (e : ModeStep D) : EntersEpoch e ↔ (match e.op with
      | .input (.health message _) => e.before.shared.entersEpoch message
      | _ => false) = true := by
  constructor
  · rintro ⟨message, moment, hOp, hEnters⟩
    rw [hOp]
    exact hEnters
  · intro h
    split at h
    · rename_i message moment hOp
      exact ⟨message, moment, hOp, h⟩
    · cases h

instance {D : Type} (e : ModeStep D) : Decidable (EntersEpoch e) :=
  decidable_of_iff _ (entersEpoch_iff e).symm

attribute [local instance] mathLibraryAtZero

def relocalized : ModeOperation (ExactReal ℚ) :=
  .input (.health (some (trackingHealth ⟨1, 1⟩ 2)) noon)

def following (localizationEpoch : Nat) : List (ModeOperation (ExactReal ℚ)) :=
  commanding localizationEpoch 1 ++ List.replicate 3 (.advance noon) ++ updating

/-- The first update of the new epoch, from its first odometry on. -/
def updatingAnew : List (ModeOperation (ExactReal ℚ)) :=
  .input (.odometry (some (hoveringOdometry 2)) noon) :: (following 2 ++ [.advance noon])

theorem updatingAnew_uncrossed : Uncrossed (events (system velocityOnlyConfig).step initialThreads
    ((sensing ++ activation noon) ++ relocalized :: updatingAnew)) := by
  have hSplit : (sensing ++ activation noon) ++ relocalized :: updatingAnew =
      ((sensing ++ activation noon) ++ [relocalized]) ++ updatingAnew := by simp
  rw [hSplit, events_append]
  exact uncrossed_of_quiet (by decide +kernel) (by decide +kernel)

/-- An update that begins behind the message writes back. -/
theorem no_continuity_across_reset_updatedAnew :
    ∃ previous, WrittenIn (events (system velocityOnlyConfig).step
      (run (system velocityOnlyConfig).step initialThreads
        (sensing ++ activation noon ++ [relocalized])) updatingAnew) previous :=
  (no_continuity_across_reset updatingAnew_uncrossed (by decide +kernel)).2 (by decide +kernel)

/-- The message comes in while the update of the old epoch is computed. -/
theorem old_epoch_written_back :
    let xs := sensing ++ activation noon ++ following 1
    let s := run (system velocityOnlyConfig).step initialThreads
      (xs ++ [relocalized, .advance noon])
    EntersEpoch (eventAt (system velocityOnlyConfig).step
      (run (system velocityOnlyConfig).step initialThreads xs) relocalized) ∧
    s.shared.lioLocalizationEpoch = 2 ∧ s.shared.velocityOnlyResetCountersSeen = true ∧
    s.shared.velocityOnlyPrevious.isSome = true ∧
    ∀ previous, ¬ WrittenIn (events (system velocityOnlyConfig).step
      (run (system velocityOnlyConfig).step initialThreads (xs ++ [relocalized]))
      [.advance noon]) previous := by
  refine ⟨by decide +kernel, by decide +kernel, by decide +kernel, by decide +kernel, ?_⟩
  rintro previous ⟨before, s, between, w, rest, hSplit, -⟩
  -- one step is no snapshot and no write-back behind it
  have hLength := congrArg List.length hSplit
  simp only [events_cons, events_nil, List.length_append, List.length_cons, List.length_nil]
    at hLength
  omega

end Run

end UavNavigation.NavigationMode
