import UavNavigation.ModeContract

/-!
# The chain of admitted commands

Which sections change the command, what the admission has compared, and what follows
for two commands of one session that lie any number of steps apart.
-/

namespace UavNavigation.NavigationMode

set_option autoImplicit false

open FloatOps Runs Sections

/-- What the admission of `d` behind `c` establishes. -/
structure Follows {D : Type} (c d : NavigationCommand D) : Prop where
  missionId : d.missionId = c.missionId
  sampleId : c.sampleId < d.sampleId
  requestId : c.requestId ≤ d.requestId
  localizationEpoch : c.localizationEpoch ≤ d.localizationEpoch
  goalEpoch : c.goalEpoch ≤ d.goalEpoch
  goal : d.goalEpoch = c.goalEpoch → d.waypointIndex = c.waypointIndex ∧ d.requestId = c.requestId
  worldGeneration : c.worldGeneration ≤ d.worldGeneration
  world : d.worldGeneration = c.worldGeneration → c.worldRevision ≤ d.worldRevision ∧
    c.worldObservationStamp.nanoseconds ≤ d.worldObservationStamp.nanoseconds
  stateSource : d.localizationEpoch = c.localizationEpoch →
    c.stateSourceStamp.nanoseconds ≤ d.stateSourceStamp.nanoseconds

section Order
variable {D : Type} {b c d : NavigationCommand D}

theorem Follows.trans (hbc : Follows b c) (hcd : Follows c d) : Follows b d where
  missionId := hcd.missionId.trans hbc.missionId
  sampleId := Nat.lt_trans hbc.sampleId hcd.sampleId
  requestId := Nat.le_trans hbc.requestId hcd.requestId
  localizationEpoch := Nat.le_trans hbc.localizationEpoch hcd.localizationEpoch
  goalEpoch := Nat.le_trans hbc.goalEpoch hcd.goalEpoch
  goal h := by
    have hMiddle : c.goalEpoch = b.goalEpoch :=
      Nat.le_antisymm (h ▸ hcd.goalEpoch) hbc.goalEpoch
    obtain ⟨hWaypoint, hRequest⟩ := hbc.goal hMiddle
    obtain ⟨hWaypoint', hRequest'⟩ := hcd.goal (h.trans hMiddle.symm)
    exact ⟨hWaypoint'.trans hWaypoint, hRequest'.trans hRequest⟩
  worldGeneration := Nat.le_trans hbc.worldGeneration hcd.worldGeneration
  world h := by
    have hMiddle : c.worldGeneration = b.worldGeneration :=
      Nat.le_antisymm (h ▸ hcd.worldGeneration) hbc.worldGeneration
    obtain ⟨hRevision, hStamp⟩ := hbc.world hMiddle
    obtain ⟨hRevision', hStamp'⟩ := hcd.world (h.trans hMiddle.symm)
    exact ⟨Nat.le_trans hRevision hRevision', Int.le_trans hStamp hStamp'⟩
  stateSource h := by
    have hMiddle : c.localizationEpoch = b.localizationEpoch :=
      Nat.le_antisymm (h ▸ hcd.localizationEpoch) hbc.localizationEpoch
    exact Int.le_trans (hbc.stateSource hMiddle) (hcd.stateSource (h.trans hMiddle.symm))

theorem request_of_not_regresses (h : requestRegresses d c = false) :
    (d.goalEpoch = c.goalEpoch → d.waypointIndex = c.waypointIndex ∧ d.requestId = c.requestId) ∧
      c.requestId ≤ d.requestId := by
  unfold requestRegresses at h
  split at h
  · simp only [Bool.or_eq_false_iff, bne_eq_false_iff_eq] at h
    exact ⟨fun _ => h, Nat.le_of_eq h.2.symm⟩
  · rename_i hGoal
    rw [decide_eq_false_iff_not, Nat.not_lt] at h
    exact ⟨fun hSame => absurd (beq_iff_eq.mpr hSame) hGoal, h⟩

structure WorldFollows (c d : NavigationCommand D) : Prop where
  localizationEpoch : c.localizationEpoch ≤ d.localizationEpoch
  goalEpoch : c.goalEpoch ≤ d.goalEpoch
  worldGeneration : c.worldGeneration ≤ d.worldGeneration
  world : d.worldGeneration = c.worldGeneration → c.worldRevision ≤ d.worldRevision ∧
    c.worldObservationStamp.nanoseconds ≤ d.worldObservationStamp.nanoseconds
  stateSource : d.localizationEpoch = c.localizationEpoch →
    c.stateSourceStamp.nanoseconds ≤ d.stateSourceStamp.nanoseconds

theorem worldFollows_of_nonRegressing (h : commandWorldIdentityNonRegressing d c = true) :
    WorldFollows c d := by
  revert h
  fun_cases commandWorldIdentityNonRegressing
  all_goals intro h
  case case4 hEpochs hWorld hState =>
    simp only [Bool.or_eq_true, decide_eq_true_eq, not_or, Nat.not_lt] at hEpochs
    simp only [Bool.and_eq_true, Bool.or_eq_true, beq_iff_eq, decide_eq_true_eq, not_and, not_or,
      Nat.not_lt, Int.not_lt] at hWorld
    simp only [Bool.and_eq_true, beq_iff_eq, decide_eq_true_eq, not_and, Int.not_lt] at hState
    exact ⟨hEpochs.1.1, hEpochs.1.2, hEpochs.2, hWorld, hState⟩
  all_goals cases h

end Order

section Admission
variable {D : Type} {d : NavigationCommand D}

structure SessionValid (m : Mode D) (d : NavigationCommand D) : Prop where
  localizationEpoch : d.localizationEpoch = m.lioLocalizationEpoch
  epochKnown : d.localizationEpoch ≠ 0
  modeActivationId : m.modeActivationId ≠ 0 → d.modeActivationId = m.modeActivationId
  missionId : ∀ c, m.navigationCommand = some c → d.missionId = c.missionId
  request : ∀ c, m.navigationCommand = some c → requestRegresses d c = false
  world : ∀ c, m.navigationCommand = some c → WorldFollows c d

theorem sessionValid_of_valid {m : Mode D} {healthValid : Bool}
    (h : assessCommandSessionIdentity d m.navigationCommand m.typedHealthSeen healthValid
      m.lioLocalizationEpoch m.modeActivationId = .valid) : SessionValid m d := by
  revert h
  fun_cases assessCommandSessionIdentity
  all_goals intro h
  case case6 hHealth hActivation hMission hRequest hWorld =>
    simp only [estimatorHealthAllowsCommand, Bool.not_eq_true', Bool.not_eq_false,
      Bool.and_eq_true, bne_iff_ne, beq_iff_eq] at hHealth
    simp only [Bool.and_eq_true, bne_iff_ne, not_and, not_not] at hActivation
    refine ⟨hHealth.2, hHealth.1.2, hActivation, ?_, ?_, ?_⟩
    · intro c hc
      rw [hc, Option.any_some, bne_iff_ne, not_not] at hMission
      exact hMission
    · intro c hc
      rw [hc, Option.any_some, Bool.not_eq_true] at hRequest
      exact hRequest
    · intro c hc
      rw [hc, Option.any_some, Bool.not_eq_true, Bool.not_eq_false'] at hWorld
      exact worldFollows_of_nonRegressing hWorld
  all_goals cases h

theorem sampleId_of_accept {freshness : ExecutionStateFreshnessReason} {incoming previous : Nat}
    (h : classifyCommandAcceptance freshness incoming previous = .accept) (hPrevious : previous ≠ 0) :
    previous < incoming := by
  unfold classifyCommandAcceptance at h
  split at h
  · cases h
  split at h
  · cases h
  rename_i hNot
  simp only [Bool.and_eq_true, bne_iff_ne, decide_eq_true_eq, not_and, Nat.not_le] at hNot
  exact hNot hPrevious

variable [Floating D] [MathLibrary D] {cfg : Config D} {m : Mode D} {moment : Moment}

variable (h : (assessAdmission cfg m moment d).accepted = true)
include h

theorem session_of_accepted :
    SessionValid m d ∧ ∃ freshness, classifyCommandAcceptance freshness d.sampleId
      (m.navigationCommand.elim 0 NavigationCommand.sampleId) = .accept := by
  unfold assessAdmission at h
  split at h
  · rename_i hSession
    refine ⟨sessionValid_of_valid hSession, odometryFreshness cfg m moment, ?_⟩
    unfold assessExecution at h
    split at h
    · cases h
    · cases h
    · assumption
  · cases h

theorem follows_of_accepted
    {c : NavigationCommand D} (hc : m.navigationCommand = some c) (hSample : c.sampleId ≠ 0) :
    Follows c d := by
  obtain ⟨hSession, freshness, hGate⟩ := session_of_accepted h
  obtain ⟨hGoal, hRequestId⟩ := request_of_not_regresses (hSession.request c hc)
  have hWorld := hSession.world c hc
  rw [hc] at hGate
  exact
    { missionId := hSession.missionId c hc
      sampleId := sampleId_of_accept hGate hSample
      requestId := hRequestId
      localizationEpoch := hWorld.localizationEpoch
      goalEpoch := hWorld.goalEpoch
      goal := hGoal
      worldGeneration := hWorld.worldGeneration
      world := hWorld.world
      stateSource := hWorld.stateSource }

end Admission

structure SameCommand {D : Type} (m n : Mode D) : Prop where
  navigationCommand : n.navigationCommand = m.navigationCommand
  lioLocalizationEpoch : n.lioLocalizationEpoch = m.lioLocalizationEpoch
  modeActivationId : n.modeActivationId = m.modeActivationId

/-- A section keeps the command, drops it or commits another one. -/
inductive CommandChange {D : Type} [Floating D] [MathLibrary D] (cfg : Config D) (l : Section D)
    (m : Mode D) (moment : Moment) : Mode D → Prop where
  | kept {n : Mode D} (same : SameCommand m n) : CommandChange cfg l m moment n
  | dropped {n : Mode D} (command : n.navigationCommand = none)
      (activated : m.modeActivationId ≠ 0 → n.modeActivationId ≠ 0) : CommandChange cfg l m moment n
  | committed (c : NavigationCommand D) (label : l = .admission c)
      (accepted : (assessAdmission cfg m moment c).accepted = true) :
      CommandChange cfg l m moment (m.commit c moment)

section Effects
variable {D : Type}

theorem SameCommand.refl (m : Mode D) : SameCommand m m := ⟨rfl, rfl, rfl⟩

theorem beginRecovery_sameCommand (cfg : Config D) (command : NavigationCommand D) (nowNs : Int)
    (m : Mode D) : SameCommand m (beginRecovery cfg command nowNs m) := by
  fun_cases beginRecovery
  case case3 => exact ⟨rfl, rfl, rfl⟩
  all_goals exact .refl m

variable [Floating D] [MathLibrary D] {cfg : Config D}

omit [MathLibrary D] in
theorem stop_command (m : Mode D) : SameCommand m m.stop ∨
    (m.stop.navigationCommand = none ∧ m.stop.modeActivationId = m.modeActivationId) := by
  unfold Mode.stop
  split
  · exact .inl (.refl m)
  · exact .inr ⟨rfl, rfl⟩

omit [Floating D] [MathLibrary D] in
theorem activate_modeActivationId (m : Mode D) (moment : Moment) :
    (m.activate moment).modeActivationId ≠ 0 := by
  unfold Mode.activate
  dsimp only
  split <;> omega

theorem stop_change (l : Section D) (m : Mode D) (moment : Moment) :
    CommandChange cfg l m moment m.stop := by
  rcases stop_command m with hSame | ⟨hCommand, hId⟩
  · exact .kept hSame
  · refine .dropped hCommand ?_
    rw [hId]
    exact id

variable (cfg) in
theorem effect_command (l : Section D) (m : Mode D) (moment : Moment) :
    CommandChange cfg l m moment (Section.effect cfg l m moment) := by
  cases l with
  | activate => exact .dropped rfl fun _ => activate_modeActivationId m moment
  | deactivate => exact .dropped rfl id
  | velocityOnlyHold reason => exact .dropped rfl id
  | failNavigation => exact stop_change .failNavigation m moment
  | safetyStop => exact stop_change .safetyStop m moment
  | admission message =>
    unfold Section.effect
    dsimp only
    split
    · rename_i hAccepted
      exact .committed message rfl hAccepted
    · exact .kept ⟨rfl, rfl, rfl⟩
  | acceptedRecovery command => exact .kept (beginRecovery_sameCommand cfg command _ m)
  | heldRecovery command nowNs => exact .kept (beginRecovery_sameCommand cfg command nowNs m)
  | boundary =>
    refine .kept ?_
    unfold Section.effect
    dsimp only
    split <;> exact ⟨rfl, rfl, rfl⟩
  | receipt message =>
    refine .kept ?_
    unfold Section.effect
    dsimp only
    split <;> exact ⟨rfl, rfl, rfl⟩
  | airborneStart nowNs =>
    refine .kept ?_
    unfold Section.effect
    dsimp only
    split <;> exact ⟨rfl, rfl, rfl⟩
  | _ => exact .kept ⟨rfl, rfl, rfl⟩

/-- The command belongs to the epoch and the activation of the mode. -/
structure Belongs (m : Mode D) (c : NavigationCommand D) : Prop where
  localizationEpoch : c.localizationEpoch = m.lioLocalizationEpoch
  epochKnown : c.localizationEpoch ≠ 0
  modeActivationId : m.modeActivationId ≠ 0 → c.modeActivationId = m.modeActivationId
  sampleId : c.sampleId ≠ 0

def Mode.owned (m : Mode D) : Prop := ∀ c, m.navigationCommand = some c → Belongs m c

section
omit [Floating D] [MathLibrary D]

theorem owned_of_none {m : Mode D} (h : m.navigationCommand = none) : m.owned := by
  intro c hc
  rw [h] at hc
  cases hc

theorem SameCommand.owned {m n : Mode D} (h : SameCommand m n) (hm : m.owned) : n.owned := by
  intro c hc
  rw [h.navigationCommand] at hc
  obtain ⟨hEpoch, hKnown, hActivation, hSample⟩ := hm c hc
  refine ⟨hEpoch.trans h.lioLocalizationEpoch.symm, hKnown, ?_, hSample⟩
  rw [h.modeActivationId]
  exact hActivation

end

theorem input_owned {m : Mode D} (hm : m.owned) (e : StateInput D) : (m.input cfg e).owned := by
  cases e with
  | odometry message moment =>
    have h := untouched_onOdometry cfg m message moment
    exact SameCommand.owned ⟨h.navigationCommand, h.lioLocalizationEpoch, h.modeActivationId⟩ hm
  | localPosition message moment =>
    have h := untouched_onPx4LocalPosition m message moment
    exact SameCommand.owned ⟨h.navigationCommand, h.lioLocalizationEpoch, h.modeActivationId⟩ hm
  | health message moment =>
    have hId := (sameOwnership_onEstimatorHealth m message moment).modeActivationId
    cases hAnnounces : m.announcesEpoch message with
    | true => exact owned_of_none (health_announced moment hAnnounces).navigationCommand
    | false =>
      have hQuiet := health_quiet moment hAnnounces
      intro c hc
      have hBefore : m.navigationCommand = some c := hQuiet.navigationCommand.symm.trans hc
      have hKnown := (hm c hBefore).epochKnown
      -- a mode without an epoch has no command
      have hEpoch : m.lioLocalizationEpoch ≠ 0 := by
        rw [← (hm c hBefore).localizationEpoch]
        exact hKnown
      have hSame := hQuiet.lioLocalizationEpoch.resolve_left hEpoch
      exact SameCommand.owned ⟨hQuiet.navigationCommand, hSame, hId⟩ hm c hc

theorem step_owned {s : ModeThreads D} (op : ModeOperation D) (hs : s.shared.owned)
    (hKept : Kept (ownership cfg True) (eventAt (system cfg).step s op)) :
    ((system cfg).step s op).1.shared.owned := by
  rcases step_effect (system cfg) s op with ⟨-, hShared⟩ | ⟨l, moment, -, hLabel, hShared⟩ |
    ⟨input, -, -, -, hShared⟩
  · change (eventAt (system cfg).step s op).after.shared.owned
    rw [hShared]
    exact hs
  · change (eventAt (system cfg).step s op).after.shared.owned
    rw [hShared]
    change (Section.effect cfg l s.shared moment).owned
    have hEnter := hKept.enter l hLabel
    generalize hNext : Section.effect cfg l s.shared moment = n
    have hChange := effect_command cfg l s.shared moment
    rw [hNext] at hChange
    cases hChange with
    | kept hSame => exact hSame.owned hs
    | dropped hNone _ => exact owned_of_none hNone
    | committed c hAdmission hAccepted =>
      subst hAdmission
      intro d hd
      cases hd
      have hSession := (session_of_accepted hAccepted).1
      exact ⟨hSession.localizationEpoch, hSession.epochKnown, hSession.modeActivationId,
        sampleId_ne_zero_of_contract hEnter.2⟩
  · change (eventAt (system cfg).step s op).after.shared.owned
    rw [hShared]
    exact input_owned hs input

end Effects

section Runs
variable {D : Type} [Floating D] [MathLibrary D] {cfg : Config D}

theorem contract_kept (ops : List (ModeOperation D)) :
    ∀ e ∈ events (system cfg).step initialThreads ops, Kept (ownership cfg True) e := by
  apply ownership_kept
  intro e _ label _
  cases label with
  | activate => exact .inl trivial
  | _ => trivial

variable (cfg) in
theorem run_owned (ops : List (ModeOperation D)) :
    (run (system cfg).step initialThreads ops).shared.owned :=
  run_guarded (P := fun s : ModeThreads D => s.shared.owned) (fun _ op hs hq => step_owned op hs hq)
    (owned_of_none rfl) (contract_kept ops)

section
variable {s : ModeThreads D} {op : ModeOperation D} {c : NavigationCommand D}

theorem step_activated (op : ModeOperation D) (h : s.shared.modeActivationId ≠ 0 ∨
      (eventAt (system cfg).step s op).result.label = some .activate) :
    ((system cfg).step s op).1.shared.modeActivationId ≠ 0 := by
  change (eventAt (system cfg).step s op).after.shared.modeActivationId ≠ 0
  rcases step_effect (system cfg) s op with ⟨hLabel, hShared⟩ | ⟨l, moment, -, hLabel, hShared⟩ |
    ⟨input, -, hLabel, -, hShared⟩
  · rw [hShared]
    refine h.resolve_right fun hActivate => ?_
    rw [hLabel] at hActivate
    cases hActivate
  · rw [hShared]
    rcases h with h | hActivate
    · have hChange := effect_command cfg l s.shared moment
      change (Section.effect cfg l s.shared moment).modeActivationId ≠ 0
      generalize Section.effect cfg l s.shared moment = n at hChange ⊢
      cases hChange with
      | kept hSame =>
        rw [hSame.modeActivationId]
        exact h
      | dropped _ hActivated => exact hActivated h
      | committed c _ _ => exact h
    · rw [hLabel] at hActivate
      cases hActivate
      exact activate_modeActivationId s.shared moment
  · rw [hShared]
    have hNonzero : s.shared.modeActivationId ≠ 0 := by
      refine h.resolve_right fun hActivate => ?_
      rw [hLabel] at hActivate
      cases hActivate
    change (s.shared.input cfg input).modeActivationId ≠ 0
    rw [(sameOwnership_input cfg s.shared input).modeActivationId]
    exact hNonzero

theorem run_activated (ops : List (ModeOperation D)) :
    (∃ e ∈ events (system cfg).step initialThreads ops, e.result.label = some .activate) →
      (run (system cfg).step initialThreads ops).shared.modeActivationId ≠ 0 := by
  apply run_history (system cfg).step (P := fun ops t =>
    (∃ e ∈ events (system cfg).step initialThreads ops, e.result.label = some .activate) →
      t.shared.modeActivationId ≠ 0)
  · rintro ⟨e, he, -⟩
    cases he
  · rintro ops op ih ⟨e, he, hLabel⟩
    apply step_activated op
    rw [events_concat] at he
    rcases List.mem_append.mp he with he | he
    · exact .inl (ih ⟨e, he, hLabel⟩)
    · rw [List.mem_singleton.mp he] at hLabel
      exact .inr hLabel

/-! ## Two commands of one session -/

def Commits (cfg : Config D) (e : ModeStep D) (c : NavigationCommand D) : Prop :=
  ∃ moment, e.op = .advance moment ∧ e.result.label = some (.admission c) ∧
    (assessAdmission cfg e.before.shared moment c).accepted = true

theorem commits_shared (h : Commits cfg (eventAt (system cfg).step s op) c) :
    ((system cfg).step s op).1.shared.navigationCommand = some c := by
  obtain ⟨moment, rfl, hLabel, hAccepted⟩ := h
  change (eventAt (system cfg).step s (.advance moment)).after.shared.navigationCommand = some c
  rcases step_effect (system cfg) s (.advance moment) with ⟨hNone, -⟩ |
    ⟨l, other, hOp, hLocked, hShared⟩ | ⟨input, hOp, -, -, -⟩
  · rw [hNone] at hLabel
    cases hLabel
  · rw [hLocked] at hLabel
    cases hLabel
    cases hOp
    rw [hShared]
    change (Section.effect cfg (.admission c) s.shared moment).navigationCommand = some c
    rw [show Section.effect cfg (.admission c) s.shared moment = _ from if_pos hAccepted]
    rfl
  · cases hOp

/-- The command in use is `c`, or one that has followed it. -/
def Mode.behind (m : Mode D) (c : NavigationCommand D) : Prop :=
  ∃ d, m.navigationCommand = some d ∧ (d = c ∨ Follows c d)

theorem follows_of_behind {m : Mode D} {c d : NavigationCommand D} (hBehind : m.behind c)
    (hOwned : m.owned) {moment : Moment} (h : (assessAdmission cfg m moment d).accepted = true) :
    Follows c d := by
  obtain ⟨b, hCommand, hb⟩ := hBehind
  have hNext := follows_of_accepted h hCommand (hOwned b hCommand).sampleId
  rcases hb with rfl | hFollows
  · exact hNext
  · exact hFollows.trans hNext

/-- A step that leaves a command in use leaves one behind `c` in use. -/
theorem step_behind (hBehind : s.shared.behind c) (hOwned : s.shared.owned)
    (hPresent : ((system cfg).step s op).1.shared.navigationCommand ≠ none) :
    ((system cfg).step s op).1.shared.behind c := by
  obtain ⟨d, hCommand, hd⟩ := hBehind
  change (eventAt (system cfg).step s op).after.shared.navigationCommand ≠ none at hPresent
  change (eventAt (system cfg).step s op).after.shared.behind c
  rcases step_effect (system cfg) s op with ⟨-, hShared⟩ | ⟨l, moment, -, -, hShared⟩ |
    ⟨input, -, -, -, hShared⟩
  · rw [hShared]
    exact ⟨d, hCommand, hd⟩
  · rw [hShared] at hPresent ⊢
    change (Section.effect cfg l s.shared moment).navigationCommand ≠ none at hPresent
    change (Section.effect cfg l s.shared moment).behind c
    have hChange := effect_command cfg l s.shared moment
    generalize Section.effect cfg l s.shared moment = n at hPresent hChange ⊢
    cases hChange with
    | kept hSame => exact ⟨d, hSame.navigationCommand.trans hCommand, hd⟩
    | dropped hNone _ => exact absurd hNone hPresent
    | committed b _ hAccepted =>
      exact ⟨b, rfl, .inr (follows_of_behind ⟨d, hCommand, hd⟩ hOwned hAccepted)⟩
  · rw [hShared] at hPresent ⊢
    have hSame := (input_command cfg s.shared input).resolve_right hPresent
    exact ⟨d, hSame.trans hCommand, hd⟩

theorem commits_follow (hOwned : s.shared.owned) {op last : ModeOperation D}
    {ys : List (ModeOperation D)} {c d : NavigationCommand D}
    (hKept : ∀ e ∈ events (system cfg).step s (op :: ys), Kept (ownership cfg True) e)
    (hFirst : Commits cfg (eventAt (system cfg).step s op) c)
    (hPresent : ∀ e ∈ events (system cfg).step ((system cfg).step s op).1 ys,
      e.after.shared.navigationCommand ≠ none)
    (hLast : Commits cfg (eventAt (system cfg).step (run (system cfg).step s (op :: ys)) last) d) :
    Follows c d := by
  have hStart : ((system cfg).step s op).1.shared.owned ∧
      ((system cfg).step s op).1.shared.behind c :=
    ⟨step_owned op hOwned (hKept _ List.mem_cons_self), c, commits_shared hFirst, .inl rfl⟩
  have hEnd := run_guarded (P := fun t : ModeThreads D => t.shared.owned ∧ t.shared.behind c)
    (Q := fun e => Kept (ownership cfg True) e ∧ e.after.shared.navigationCommand ≠ none)
    (fun t next ht hq => ⟨step_owned next ht.1 hq.1, step_behind ht.2 ht.1 hq.2⟩) hStart
    fun e he => ⟨hKept e (List.mem_cons_of_mem _ he), hPresent e he⟩
  obtain ⟨moment, -, -, hAccepted⟩ := hLast
  exact follows_of_behind hEnd.2 hEnd.1 hAccepted

end

variable (cfg) in
/-- The chain of admissions of a run: the command in use belongs to the epoch and to the
activation, two commits of one session are ordered, and a rejection that retains the
command has changed neither it nor a terminal flag. -/
theorem command_admission_chain (xs : List (ModeOperation D)) :
    (∀ c, (run (system cfg).step initialThreads xs).shared.navigationCommand = some c →
      c.localizationEpoch = (run (system cfg).step initialThreads xs).shared.lioLocalizationEpoch ∧
        ((∃ e ∈ events (system cfg).step initialThreads xs, e.result.label = some .activate) →
          c.modeActivationId = (run (system cfg).step initialThreads xs).shared.modeActivationId)) ∧
    (∀ op ys last c d,
      Commits cfg (eventAt (system cfg).step (run (system cfg).step initialThreads xs) op) c →
      (∀ e ∈ events (system cfg).step (run (system cfg).step initialThreads (xs ++ [op])) ys,
        e.after.shared.navigationCommand ≠ none) →
      Commits cfg (eventAt (system cfg).step
        (run (system cfg).step initialThreads (xs ++ op :: ys)) last) d →
      Follows c d) ∧
    ∀ e ∈ events (system cfg).step initialThreads xs,
      (e.result.label = some .terminalCheck ∨ ∃ assessment message,
        Output.rejection assessment message ∈ e.result.outputs ∧
          assessment.disposition = .rejectRetainPrevious) →
      Retained e.before.shared e.after.shared := by
  refine ⟨?_, ?_, ?_⟩
  · intro c hc
    have hBelongs := run_owned cfg xs c hc
    exact ⟨hBelongs.localizationEpoch, fun hActivated =>
      hBelongs.modeActivationId (run_activated xs hActivated)⟩
  · intro op ys last c d hFirst hPresent hLast
    rw [run_concat] at hPresent
    rw [run_append] at hLast
    refine commits_follow (run_owned cfg xs) ?_ hFirst hPresent hLast
    intro e he
    apply contract_kept (xs ++ op :: ys)
    rw [events_append]
    exact List.mem_append_right _ he
  · rintro e he (hLabel | ⟨assessment, message, hOutput, hDisposition⟩)
    · obtain ⟨-, hEvent⟩ := events_invariant (P := fun _ => True) (fun _ _ _ => trivial) trivial he
      rw [hEvent] at hLabel ⊢
      exact retained_of_terminalCheck hLabel
    · exact retained_of_rejection he hOutput hDisposition

end Runs

section Run

attribute [local instance] mathLibraryAtZero

/-- Two commands of one activation, with the callbacks in full between them. -/
theorem command_admission_chain_twoCommands :
    Follows (eastboundCommand 1 1) (eastboundCommand 1 2) :=
  (command_admission_chain velocityOnlyConfig
    (sensing ++ activation noon ++ commanding 1 1)).2.1 (.advance noon)
    ([.advance noon, .advance noon] ++ commanding 1 2) (.advance noon) (eastboundCommand 1 1)
    (eastboundCommand 1 2) ⟨noon, rfl, by decide +kernel, by decide +kernel⟩ (by decide +kernel)
    ⟨noon, rfl, by decide +kernel, by decide +kernel⟩

end Run

end UavNavigation.NavigationMode
