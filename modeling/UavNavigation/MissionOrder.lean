import Mathlib.Data.List.DropRight
import UavNavigation.MissionProgress

/-!
# Ordered mission progress

Between two changes of the route revision the gates are accepted one after
another, the mission completes at the last one, and request ids only grow.
-/

namespace UavNavigation.MissionProgress

set_option autoImplicit false

open Runs

variable {D : Type}

/-! ## The gate follows the accepted waypoints -/

/-- How many waypoints of the current revision have been accepted. -/
def acceptedCount (p : MissionProgress D) : Nat :=
  match p.accepted with
  | none => 0
  | some gate => gate.waypointIndex + 1

/-- The gate stands at the first waypoint that is not accepted, or at the last
one when all are. -/
structure InOrder (p : MissionProgress D) : Prop where
  bound : p.mission.waypoints.length ≤ 4096
  index : p.gate.waypointIndex < p.mission.waypoints.length
  count : p.acceptedCount = p.gate.waypointIndex ∨ p.acceptedCount = p.mission.waypoints.length

theorem complete_iff {p : MissionProgress D} (hp : InOrder p) :
    p.complete = true ↔ p.acceptedCount = p.mission.waypoints.length := by
  have hBound := hp.bound
  have hIndex := hp.index
  have hCount := hp.count
  unfold complete
  unfold acceptedCount at hCount ⊢
  cases hAccepted : p.accepted with
  | none => simp; omega
  | some gate =>
    simp only [hAccepted, Option.any_some, beq_iff_eq] at hCount ⊢
    omega

theorem InOrder.ofSame {p q : MissionProgress D} (hp : InOrder p)
    (hMission : q.mission = p.mission) (hIndex : q.gate.waypointIndex = p.gate.waypointIndex)
    (hAccepted : q.accepted = p.accepted) : InOrder q := by
  have hCount : q.acceptedCount = p.acceptedCount := by
    unfold acceptedCount
    rw [hAccepted]
  constructor
  · rw [hMission]
    exact hp.bound
  · rw [hMission, hIndex]
    exact hp.index
  · rw [hCount, hMission, hIndex]
    exact hp.count

theorem SameProgress.inOrder {p q : MissionProgress D} (hFrame : SameProgress p q)
    (hp : InOrder p) : InOrder q :=
  hp.ofSame hFrame.mission (by rw [hFrame.gate]) hFrame.accepted

theorem InOrder.gate_of_incomplete {p : MissionProgress D} (hp : InOrder p)
    (hIncomplete : p.complete = false) : p.gate.waypointIndex = p.acceptedCount := by
  have hNot : ¬ p.acceptedCount = p.mission.waypoints.length := by
    rw [← complete_iff hp, hIncomplete]
    simp
  have hCount := hp.count
  omega

section Acceptance
variable [FloatOps D]

/-- What `accept` keeps, and the gate it marks as accepted. -/
structure AcceptFrame (r q : MissionProgress D) : Prop where
  mission : q.mission = r.mission
  identity : q.identity = r.identity
  accepted : q.accepted = some r.gate
  crossing : q.crossing = none
  continuation : q.continuation = none

theorem accept_frame (r : MissionProgress D) (errorM speedMps : D) :
    AcceptFrame r (r.accept errorM speedMps).1 := by
  fun_cases accept <;> exact ⟨rfl, rfl, rfl, rfl, rfl⟩

/-- The three decisions of `accept`: the last waypoint, a next one for which no
request id is left, and a next one that is requested. -/
theorem accept_decides {r : MissionProgress D} (hr : InOrder r) (errorM speedMps : D) :
    (r.gate.waypointIndex + 1 = r.mission.waypoints.length ∧
      (r.accept errorM speedMps).1.gate = r.gate ∧
      (r.accept errorM speedMps).2 = ⟨.complete, r.gate, some r.gate, errorM, speedMps⟩) ∨
    (r.gate.waypointIndex + 1 < r.mission.waypoints.length ∧ r.gate.requestId = 2 ^ 64 - 1 ∧
      (r.accept errorM speedMps).1.gate = ⟨r.gate.waypointIndex + 1, r.gate.requestId⟩ ∧
      (r.accept errorM speedMps).2 = .nothing) ∨
    (r.gate.waypointIndex + 1 < r.mission.waypoints.length ∧ r.gate.requestId ≠ 2 ^ 64 - 1 ∧
      (r.accept errorM speedMps).1.gate = ⟨r.gate.waypointIndex + 1, r.gate.requestId + 1⟩ ∧
      (r.accept errorM speedMps).2 =
        ⟨.goal, ⟨r.gate.waypointIndex + 1, r.gate.requestId + 1⟩, some r.gate, errorM,
          speedMps⟩) := by
  have hBound := hr.bound
  have hIndex := hr.index
  have hNext : (r.gate.waypointIndex + 1) % 2 ^ 32 = r.gate.waypointIndex + 1 := by omega
  unfold accept clearEvidence
  simp only [hNext]
  split
  · exact .inl ⟨by omega, rfl, rfl⟩
  split
  · rename_i hExhausted
    exact .inr (.inl ⟨by omega, hExhausted, rfl, rfl⟩)
  · rename_i hIssuable
    exact .inr (.inr ⟨by omega, hIssuable, rfl, rfl⟩)

end Acceptance

section Steps
variable [FloatOps D] {p q : MissionProgress D} {op : Operation D} {out : Outcome D}

theorem effect_mission (hEffect : Effect p op out q) : q.mission = p.mission := by
  cases hEffect with
  | threw => rfl
  | reidentified _ _ hMission => exact hMission
  | observed _ hFrame => exact hFrame.mission
  | issued _ _ _ hMission => exact hMission
  | accepted _ _ _ hFrame => exact (accept_frame _ _ _).mission.trans hFrame.mission

theorem effect_inOrder (hEffect : Effect p op out q) (hp : InOrder p) : InOrder q := by
  have hMission := effect_mission hEffect
  have hBound := hp.bound
  have hIndex := hp.index
  cases hEffect with
  | threw => exact hp
  | reidentified revision epoch _ _ _ hSame hNew =>
    by_cases hRevision : revision = p.identity.revision
    · obtain ⟨hGate, hAccepted⟩ := hSame hRevision
      exact hp.ofSame hMission (by rw [hGate]) hAccepted
    · obtain ⟨hGate, hAccepted⟩ := hNew hRevision
      refine ⟨by rw [hMission]; exact hBound, by rw [hMission, hGate]; omega, .inl ?_⟩
      rw [hGate]
      simp [acceptedCount, hAccepted]
  | observed _ hFrame => exact hFrame.inOrder hp
  | issued _ _ _ _ _ hGate hAccepted => exact hp.ofSame hMission (by rw [hGate]) hAccepted
  | @accepted _ r _ errorM speedMps hIncomplete hFrame =>
    have hr := hFrame.inOrder hp
    have hAccept := accept_frame r errorM speedMps
    have hCount : (r.accept errorM speedMps).1.acceptedCount = r.gate.waypointIndex + 1 := by
      simp [acceptedCount, hAccept.accepted]
    rcases accept_decides hr errorM speedMps with ⟨hLast, hGate, _⟩ | ⟨hMore, _, hGate, _⟩ | ⟨hMore, _, hGate, _⟩
    · refine ⟨?_, ?_, .inr ?_⟩
      · rw [hAccept.mission]
        exact hr.bound
      · rw [hAccept.mission, hGate]
        exact hr.index
      · rw [hCount, hAccept.mission, hLast]
    all_goals
      refine ⟨?_, ?_, .inl ?_⟩
      · rw [hAccept.mission]
        exact hr.bound
      · rw [hAccept.mission, hGate]
        exact hMore
      · rw [hCount, hGate]

structure Created (mission : Mission D) (p : MissionProgress D) : Prop where
  mission : p.mission = mission
  accepted : p.accepted = none
  crossing : p.crossing = none
  continuation : p.continuation = none
  order : InOrder p

theorem create_created {mission : Mission D} (hCreate : create mission = .ok p) :
    Created mission p := by
  unfold create at hCreate
  split at hCreate
  · cases hCreate
  split at hCreate
  · cases hCreate
  rename_i hValid
  simp only [Bool.not_eq_true', Bool.not_eq_false] at hValid
  obtain ⟨hPositive, hBound⟩ := Mission.waypoints_of_valid hValid
  cases hCreate
  exact ⟨rfl, rfl, rfl, rfl, hBound, hPositive, .inl rfl⟩

theorem run_mission (p : MissionProgress D) (ops : List (Operation D)) :
    (run step p ops).mission = p.mission := by
  apply run_invariant (P := fun q : MissionProgress D => q.mission = p.mission) _ rfl
  intro q op hq
  exact (effect_mission (step_effect q op)).trans hq

theorem run_inOrder {mission : Mission D} (hCreate : create mission = .ok p)
    (ops : List (Operation D)) : InOrder (run step p ops) := by
  apply run_invariant _ (create_created hCreate).order
  intro q op hq
  exact effect_inOrder (step_effect q op) hq

end Steps

/-! ## Reported waypoints and requests -/

def Outcome.acceptedIndex : Outcome D → Option Nat
  | .decided decision => decision.accepted.map (·.waypointIndex)
  | _ => none

def Outcome.goalRequest : Outcome D → Option Nat
  | .decided decision => if decision.kind = .goal then some decision.gate.requestId else none
  | _ => none

/-- The events after the last one that changed the route revision. -/
def sinceRevision (es : List (Event (MissionProgress D) (Operation D) (Outcome D))) :
    List (Event (MissionProgress D) (Operation D) (Outcome D)) :=
  es.rtakeWhile fun e => e.after.identity.revision == e.before.identity.revision

section Reports
variable [FloatOps D] {p q : MissionProgress D} {op : Operation D} {out : Outcome D}
  {decision : MissionProgressDecision D}

theorem effect_reports (hEffect : Effect p op out q) (hp : InOrder p)
    (hRequest : p.gate.requestId < 2 ^ 64 - 1)
    (hRevision : q.identity.revision = p.identity.revision) :
    (out.acceptedIndex = none ∧ q.acceptedCount = p.acceptedCount) ∨
      (out.acceptedIndex = some p.acceptedCount ∧ q.acceptedCount = p.acceptedCount + 1) := by
  cases hEffect with
  | threw => exact .inl ⟨rfl, rfl⟩
  | reidentified revision epoch _ hIdentity _ hSame =>
    obtain ⟨_, hAccepted⟩ := hSame (hIdentity.symm.trans hRevision)
    exact .inl ⟨rfl, by simp [acceptedCount, hAccepted]⟩
  | observed hOut hFrame =>
    refine .inl ⟨?_, by simp [acceptedCount, hFrame.accepted]⟩
    rcases hOut with rfl | rfl <;> rfl
  | issued hOut _ _ _ _ _ hAccepted =>
    refine .inl ⟨?_, by simp [acceptedCount, hAccepted]⟩
    rw [hOut]
    rfl
  | @accepted _ r _ errorM speedMps hIncomplete hFrame =>
    have hr := hFrame.inOrder hp
    have hGate := hp.gate_of_incomplete hIncomplete
    have hAccept := accept_frame r errorM speedMps
    have hCount : (r.accept errorM speedMps).1.acceptedCount = p.acceptedCount + 1 := by
      simp [acceptedCount, hAccept.accepted, hFrame.gate, hGate]
    refine .inr ⟨?_, hCount⟩
    rcases accept_decides hr errorM speedMps with ⟨_, _, hOut⟩ | ⟨_, hExhausted, _⟩ | ⟨_, _, _, hOut⟩
    · simp [Outcome.acceptedIndex, hOut, hFrame.gate, hGate]
    · rw [hFrame.gate] at hExhausted
      omega
    · simp [Outcome.acceptedIndex, hOut, hFrame.gate, hGate]

theorem effect_restarts (hEffect : Effect p op out q)
    (hRevision : q.identity.revision ≠ p.identity.revision) : q.acceptedCount = 0 := by
  cases hEffect with
  | threw => exact absurd rfl hRevision
  | reidentified revision epoch _ hIdentity _ _ hNew =>
    obtain ⟨_, hAccepted⟩ := hNew fun hSame => hRevision (hIdentity.trans hSame)
    simp [acceptedCount, hAccepted]
  | observed _ hFrame => exact absurd (by rw [hFrame.identity]) hRevision
  | issued _ _ _ _ hIdentity => exact absurd (by rw [hIdentity]) hRevision
  | accepted _ _ _ hFrame =>
    exact absurd (by rw [(accept_frame _ _ _).identity, hFrame.identity]) hRevision

theorem effect_completes (hEffect : Effect p op (.decided decision) q) (hp : InOrder p) :
    decision.kind = .complete ↔ ∃ gate, decision.accepted = some gate ∧
      gate.waypointIndex + 1 = p.mission.waypoints.length := by
  cases hEffect with
  | observed hOut =>
    rcases hOut with hOut | hOut
    · cases hOut
    · cases hOut
      simp [MissionProgressDecision.nothing]
  | issued hOut =>
    cases hOut
    simp [MissionProgressDecision.issued]
  | @accepted _ r _ errorM speedMps _ hFrame =>
    have hr := hFrame.inOrder hp
    rw [← hFrame.mission]
    rcases accept_decides hr errorM speedMps with ⟨hLast, _, hOut⟩ | ⟨_, _, _, hOut⟩ | ⟨hMore, _, _, hOut⟩
    · simp [hOut, hLast]
    · simp [hOut, MissionProgressDecision.nothing]
    · simp only [hOut, reduceCtorEq, Option.some.injEq, exists_eq_left', false_iff]
      omega

theorem effect_complete_state (hEffect : Effect p op (.decided decision) q) (hp : InOrder p)
    (hKind : decision.kind = .complete) : q.complete = true := by
  have hq := effect_inOrder hEffect hp
  have hMission := effect_mission hEffect
  obtain ⟨gate, hAccepted, hLast⟩ := (effect_completes hEffect hp).mp hKind
  rw [complete_iff hq, hMission]
  cases hEffect with
  | observed hOut =>
    rcases hOut with hOut | hOut
    · cases hOut
    · cases hOut
      cases hAccepted
  | issued hOut =>
    cases hOut
    cases hAccepted
  | @accepted _ r _ errorM speedMps _ hFrame =>
    have hr := hFrame.inOrder hp
    have hAccept := accept_frame r errorM speedMps
    rw [← hFrame.mission] at hLast ⊢
    rcases accept_decides hr errorM speedMps with ⟨hEnd, _⟩ | ⟨_, _, _, hOut⟩ | ⟨_, _, _, hOut⟩
    · simp [acceptedCount, hAccept.accepted, hEnd]
    · simp [hOut, MissionProgressDecision.nothing] at hKind
    · simp [hOut] at hKind

theorem effect_of_complete (hEffect : Effect p op out q)
    (hComplete : p.complete = true) (hRevision : q.identity.revision = p.identity.revision) :
    q.complete = true ∧ ∀ decision, out = .decided decision → decision = .nothing := by
  have hMission := effect_mission hEffect
  have hStays (hAccepted : q.accepted = p.accepted) : q.complete = true := by
    unfold complete at hComplete ⊢
    rw [hAccepted, hMission]
    exact hComplete
  cases hEffect with
  | threw => exact ⟨hComplete, nofun⟩
  | reidentified _ _ _ hIdentity _ hSame =>
    obtain ⟨_, hAccepted⟩ := hSame (hIdentity.symm.trans hRevision)
    exact ⟨hStays hAccepted, nofun⟩
  | observed hOut hFrame =>
    refine ⟨hStays hFrame.accepted, ?_⟩
    rcases hOut with rfl | rfl
    · exact nofun
    · rintro _ ⟨⟩
      rfl
  | issued _ hIncomplete => simp [hComplete] at hIncomplete
  | accepted _ _ hIncomplete => simp [hComplete] at hIncomplete

theorem effect_request (hEffect : Effect p op out q) (hp : InOrder p) :
    p.gate.requestId ≤ q.gate.requestId ∧ ∀ request, out.goalRequest = some request →
        p.gate.requestId < request ∧ request ≤ q.gate.requestId := by
  cases hEffect with
  | threw => exact ⟨Nat.le_refl _, by simp [Outcome.goalRequest]⟩
  | reidentified _ _ _ _ hRequest => exact ⟨hRequest.ge, by simp [Outcome.goalRequest]⟩
  | observed hOut hFrame =>
    refine ⟨by rw [hFrame.gate], ?_⟩
    rcases hOut with rfl | rfl <;> simp [Outcome.goalRequest, MissionProgressDecision.nothing]
  | issued hOut _ _ _ _ hGate =>
    refine ⟨by rw [hGate]; simp, ?_⟩
    intro request hRequest
    rw [hOut] at hRequest
    cases hRequest
    simp [MissionProgressDecision.issued, hGate]
  | @accepted _ r _ errorM speedMps _ hFrame =>
    have hr := hFrame.inOrder hp
    rw [← hFrame.gate]
    rcases accept_decides hr errorM speedMps with ⟨_, hGate, hOut⟩ | ⟨_, _, hGate, hOut⟩ | ⟨_, _, hGate, hOut⟩
    · refine ⟨by rw [hGate], ?_⟩
      simp [Outcome.goalRequest, hOut]
    · refine ⟨by rw [hGate], ?_⟩
      simp [Outcome.goalRequest, hOut, MissionProgressDecision.nothing]
    · refine ⟨by rw [hGate]; simp, ?_⟩
      intro request hRequest
      simp only [Outcome.goalRequest, hOut, if_true, Option.some.injEq] at hRequest
      rw [hGate]
      simp only
      omega

theorem run_reports {mission : Mission D} (hCreate : create mission = .ok p)
    (ops : List (Operation D))
    (hRequests : ∀ e ∈ events step p ops, e.before.gate.requestId < 2 ^ 64 - 1) :
    emitted (fun e => e.result.acceptedIndex) (sinceRevision (events step p ops)) =
      List.range (run step p ops).acceptedCount := by
  refine run_history step
    (P := fun ops q => (∀ e ∈ events step p ops, e.before.gate.requestId < 2 ^ 64 - 1) →
      emitted (fun e => e.result.acceptedIndex) (sinceRevision (events step p ops)) =
        List.range q.acceptedCount) ?_ ?_ ops hRequests
  · intro _
    simp [sinceRevision, acceptedCount, (create_created hCreate).accepted]
  · intro ops op ih hAll
    rw [events_concat] at hAll ⊢
    have hPast := ih fun e he => hAll e (List.mem_append_left _ he)
    have hRequest := hAll (eventAt step (run step p ops) op) (by simp)
    have hEffect := step_effect (run step p ops) op
    have hOrder := run_inOrder hCreate ops
    by_cases hRevision : (step (run step p ops) op).1.identity.revision =
        (run step p ops).identity.revision
    · -- the stretch goes on: the step reports the next waypoint or nothing
      have hGrows : sinceRevision (events step p ops ++ [eventAt step (run step p ops) op]) =
          sinceRevision (events step p ops) ++ [eventAt step (run step p ops) op] :=
        List.rtakeWhile_concat_pos _ _ _ (by simpa using hRevision)
      rw [hGrows, emitted_concat, hPast]
      rcases effect_reports hEffect hOrder hRequest hRevision with ⟨hNone, hCount⟩ | ⟨hNext, hCount⟩
      · simp [hNone, hCount]
      · simp [hNext, hCount, List.range_succ]
    · -- a new revision starts over
      have hEmpty : sinceRevision (events step p ops ++ [eventAt step (run step p ops) op]) = [] :=
        List.rtakeWhile_concat_neg _ _ _ (by simpa using hRevision)
      rw [hEmpty, effect_restarts hEffect hRevision]
      rfl

/-- Since the last change of the route revision the accepted waypoints are 0, 1, 2 and
so on; the gate always names a waypoint; `Complete` reports the last waypoint, and after
it nothing is decided under that revision; every goal carries a larger request id than
the goals before it. -/
theorem mission_progress_in_order {mission : Mission D} (hCreate : create mission = .ok p)
    (ops : List (Operation D))
    (hRequests : ∀ e ∈ events step p ops, e.before.gate.requestId < 2 ^ 64 - 1) :
    (∃ n, emitted (fun e => e.result.acceptedIndex) (sinceRevision (events step p ops)) =
      List.range n) ∧
    (run step p ops).gate.waypointIndex < mission.waypoints.length ∧
    (∀ e ∈ events step p ops, ∀ decision, e.result = .decided decision →
      (decision.kind = .complete ↔ ∃ gate, decision.accepted = some gate ∧
        gate.waypointIndex + 1 = mission.waypoints.length)) ∧
    (∀ before op after rest decision, ops = before ++ op :: (after ++ rest) →
      (step (run step p before) op).2 = .decided decision → decision.kind = .complete →
      (∀ e ∈ events step (step (run step p before) op).1 after,
        e.after.identity.revision = e.before.identity.revision) →
      ∀ e ∈ events step (step (run step p before) op).1 after,
        ∀ decision, e.result = .decided decision → decision = .nothing) ∧
    (emitted (fun e => e.result.goalRequest) (events step p ops)).Pairwise (· < ·) := by
  have hMission (ops : List (Operation D)) : (run step p ops).mission = mission :=
    (run_mission p ops).trans (create_created hCreate).mission
  refine ⟨⟨_, run_reports hCreate ops hRequests⟩, ?_, ?_, ?_, ?_⟩
  · rw [← hMission ops]
    exact (run_inOrder hCreate ops).index
  · intro e he decision hDecision
    obtain ⟨xs, op, _, _, rfl⟩ := exists_split_of_mem_events he
    have hEffect := step_effect (run step p xs) op
    rw [show (step (run step p xs) op).2 = _ from hDecision] at hEffect
    rw [← hMission xs]
    exact effect_completes hEffect (run_inOrder hCreate xs)
  · intro before op after rest decision _ hDecision hKind hRevision e he
    have hEffect := step_effect (run step p before) op
    rw [hDecision] at hEffect
    have hOrder := run_inOrder hCreate before
    have hStep : ∀ (q : MissionProgress D) op, InOrder q ∧ q.complete = true →
        (step q op).1.identity.revision = q.identity.revision →
          InOrder (step q op).1 ∧ (step q op).1.complete = true := by
      intro q op ⟨hq, hComplete⟩ hSame
      constructor
      · exact effect_inOrder (step_effect q op) hq
      · exact (effect_of_complete (step_effect q op) hComplete hSame).1
    obtain ⟨⟨hBefore, hComplete⟩, hSame, hEvent⟩ := events_guarded
      (Q := fun e => e.after.identity.revision = e.before.identity.revision) hStep
      ⟨effect_inOrder hEffect hOrder, effect_complete_state hEffect hOrder hKind⟩ hRevision he
    rw [hEvent] at hSame ⊢
    exact (effect_of_complete (step_effect e.before e.op) hComplete hSame).2
  · refine (emitted_increasing (P := InOrder) (Q := fun _ => True)
      (m := fun q => q.gate.requestId) ?_ ?_ ?_ (create_created hCreate).order
      fun _ _ => trivial).1
    · intro q op hq _
      exact effect_inOrder (step_effect q op) hq
    · intro q op hq _
      exact (effect_request (step_effect q op) hq).1
    · intro q op request hq _ hRequest
      exact (effect_request (step_effect q op) hq).2 request hRequest

end Reports

theorem survey_in_order : create surveyMission = .ok surveyStart ∧
      (∀ e ∈ events step surveyStart surveyFlight, e.before.gate.requestId < 2 ^ 64 - 1) ∧
      emitted (fun e => e.result.acceptedIndex)
        (sinceRevision (events step surveyStart surveyFlight)) = [0, 1, 2] ∧
      (emitted (fun e => e.result.goalRequest)
        (events step surveyStart surveyFlight)).Pairwise (· < ·) := by
  have hCreate : create surveyMission = .ok surveyStart := by decide +kernel
  have hRequests : ∀ e ∈ events step surveyStart surveyFlight,
      e.before.gate.requestId < 2 ^ 64 - 1 := by decide +kernel
  refine ⟨hCreate, hRequests, by decide +kernel, ?_⟩
  exact (mission_progress_in_order hCreate surveyFlight hRequests).2.2.2.2

/-! ## Evidence for pass-through gates -/

/-- One of the measurements recorded the crossing, at a point of the run where the
gate had been issued and the route had its identity. -/
def RecordedFor [FloatOps D] (p : MissionProgress D) (ops : List (Operation D))
    (route : MissionRouteIdentity) (gate : MissionGateIdentity)
    (crossing : MissionCrossingWitness D) : Prop :=
  ∃ before sample nowNs after, ops = before ++ .observeMeasured sample nowNs :: after ∧
    (run step p before).identity = route ∧ (run step p before).gate = gate ∧
    (run step p before).usedCrossing (.observeMeasured sample nowNs) = some crossing ∧
    crossing.after = sample

def Supplied (ops : List (Operation D)) (witness : MissionContinuationWitness) : Prop :=
  ∃ before nowNs after, ops = before ++ .observeContinuation witness nowNs :: after

/-- The operation reports the gate as accepted, or makes it the accepted gate. -/
def Accepts [FloatOps D] (p : MissionProgress D) (op : Operation D)
    (gate : MissionGateIdentity) : Prop :=
  (∃ decision, (step p op).2 = .decided decision ∧ decision.accepted = some gate) ∨
    ((step p op).1.accepted = some gate ∧ p.accepted ≠ some gate)

variable {witness : MissionContinuationWitness}

theorem Supplied.weaken {ops : List (Operation D)} (h : Supplied ops witness) (op : Operation D) :
    Supplied (ops ++ [op]) witness := by
  obtain ⟨before, nowNs, after, rfl⟩ := h
  exact ⟨before, nowNs, after ++ [op], by simp⟩

theorem ContinuationAfter.origin {p : MissionProgress D} {op : Operation D}
    {found : Option MissionContinuationWitness} (h : ContinuationAfter p op found)
    (hFound : found = some witness) :
    p.continuation = some witness ∨ ∃ nowNs, op = .observeContinuation witness nowNs := by
  cases h with
  | dropped => cases hFound
  | kept => exact .inl hFound
  | supplied hOp =>
    cases hFound
    exact .inr ⟨_, hOp⟩

section Steps
variable [FloatOps D] {p q : MissionProgress D} {op : Operation D} {out : Outcome D}
  {crossing : MissionCrossingWitness D} {gate : MissionGateIdentity}

theorem RecordedFor.weaken {ops : List (Operation D)} {route : MissionRouteIdentity}
    (h : RecordedFor p ops route gate crossing) (op : Operation D) :
    RecordedFor p (ops ++ [op]) route gate crossing := by
  obtain ⟨before, sample, nowNs, after, rfl, hRest⟩ := h
  exact ⟨before, sample, nowNs, after ++ [op], by simp, hRest⟩

theorem effect_accepts (hEffect : Effect p op out q) (hp : InOrder p)
    (hAccepts : (∃ decision, out = .decided decision ∧ decision.accepted = some gate) ∨
      (q.accepted = some gate ∧ p.accepted ≠ some gate)) :
    gate = p.gate ∧ ∃ waypoint, Judged p op waypoint := by
  cases hEffect with
  | threw =>
    rcases hAccepts with ⟨_, hOut, _⟩ | ⟨hSame, hNew⟩
    · cases hOut
    · exact absurd hSame hNew
  | reidentified revision epoch _ _ _ hSame hNew =>
    rcases hAccepts with ⟨_, hOut, _⟩ | ⟨hAccepted, hOther⟩
    · cases hOut
    by_cases hRevision : revision = p.identity.revision
    · rw [(hSame hRevision).2] at hAccepted
      exact absurd hAccepted hOther
    · rw [(hNew hRevision).2] at hAccepted
      cases hAccepted
  | observed hOut hFrame =>
    rcases hAccepts with ⟨decision, hDecided, hAccepted⟩ | ⟨hAccepted, hOther⟩
    · rcases hOut with rfl | rfl <;> cases hDecided
      cases hAccepted
    · rw [hFrame.accepted] at hAccepted
      exact absurd hAccepted hOther
  | issued hOut _ _ _ _ _ hSame =>
    rcases hAccepts with ⟨decision, hDecided, hAccepted⟩ | ⟨hAccepted, hOther⟩
    · rw [hOut] at hDecided
      cases hDecided
      cases hAccepted
    · rw [hSame] at hAccepted
      exact absurd hAccepted hOther
  | @accepted _ r waypoint errorM speedMps _ hFrame hJudged =>
    refine ⟨?_, waypoint, hJudged⟩
    rw [← hFrame.gate]
    rcases hAccepts with ⟨decision, hDecided, hAccepted⟩ | ⟨hAccepted, _⟩
    · cases hDecided
      rcases accept_decides (hFrame.inOrder hp) errorM speedMps with
        ⟨_, _, hOut⟩ | ⟨_, _, _, hOut⟩ | ⟨_, _, _, hOut⟩
      all_goals
        rw [hOut] at hAccepted
        cases hAccepted
      · rfl
      · rfl
    · rw [(accept_frame r errorM speedMps).accepted] at hAccepted
      cases hAccepted
      rfl

theorem CrossingAfter.origin {found : Option (MissionCrossingWitness D)}
    (h : CrossingAfter p op found) (hFound : found = some crossing) : p.crossing = some crossing ∨
      ∃ sample nowNs, op = .observeMeasured sample nowNs ∧
        p.usedCrossing op = some crossing ∧ crossing.after = sample ∧
        crossing.route = p.identity ∧ crossing.gate = p.gate ∧ p.gate.requestId ≠ 0 := by
  cases h with
  | dropped => cases hFound
  | kept => exact .inl hFound
  | recorded hOp hUsed hSample hRoute hGate hIssued =>
    cases hFound
    exact .inr ⟨_, _, hOp, hUsed, hSample, hRoute, hGate, hIssued⟩

/-! ## Along a run -/

variable {witness : MissionContinuationWitness}

section
variable {mission : Mission D} (hCreate : create mission = .ok p) (ops : List (Operation D))
include hCreate

theorem run_crossing (hCrossing : (run step p ops).crossing = some crossing) :
    crossing.route = (run step p ops).identity ∧ crossing.gate = (run step p ops).gate ∧
      (run step p ops).gate.requestId ≠ 0 ∧
      RecordedFor p ops (run step p ops).identity (run step p ops).gate crossing := by
  refine run_history step (P := fun ops q => ∀ crossing, q.crossing = some crossing →
      crossing.route = q.identity ∧ crossing.gate = q.gate ∧ q.gate.requestId ≠ 0 ∧
        RecordedFor p ops q.identity q.gate crossing) ?_ ?_ ops crossing hCrossing
  · intro crossing hNone
    rw [(create_created hCreate).crossing] at hNone
    cases hNone
  · intro ops op ih crossing hStored
    have hEffect := step_effect (run step p ops) op
    generalize (step (run step p ops) op).2 = out at hEffect
    generalize (step (run step p ops) op).1 = q at hEffect hStored ⊢
    cases hEffect with
    | threw =>
      obtain ⟨hRoute, hGate, hIssued, hRecorded⟩ := ih crossing hStored
      exact ⟨hRoute, hGate, hIssued, hRecorded.weaken op⟩
    | reidentified _ _ _ _ _ _ _ hNone =>
      rw [hNone] at hStored
      cases hStored
    | observed _ hFrame hAfter =>
      rw [hFrame.identity, hFrame.gate]
      rcases hAfter.origin hStored with
        hHeld | ⟨sample, nowNs, rfl, hUsed, hSample, hRoute, hGate, hIssued⟩
      · obtain ⟨hRoute, hGate, hIssued, hRecorded⟩ := ih crossing hHeld
        exact ⟨hRoute, hGate, hIssued, hRecorded.weaken op⟩
      · exact ⟨hRoute, hGate, hIssued, ops, sample, nowNs, [], rfl, rfl, rfl, hUsed, hSample⟩
    | issued _ _ _ _ _ _ _ hKept =>
      rcases hKept with hNone | ⟨hKept, hZero⟩
      · rw [hNone] at hStored
        cases hStored
      · -- nothing was recorded while no request had been issued
        rw [hKept] at hStored
        exact absurd hZero (ih crossing hStored).2.2.1
    | accepted =>
      rw [(accept_frame _ _ _).crossing] at hStored
      cases hStored

theorem run_continuation (hHeld : (run step p ops).continuation = some witness) :
    Supplied ops witness := by
  refine run_history step
    (P := fun ops q => ∀ witness, q.continuation = some witness → Supplied ops witness)
    ?_ ?_ ops witness hHeld
  · intro witness hNone
    rw [(create_created hCreate).continuation] at hNone
    cases hNone
  · intro ops op ih witness hStored
    have hOrigin (h : ContinuationAfter (run step p ops) op (some witness)) :
        Supplied (ops ++ [op]) witness := by
      rcases h.origin rfl with hKept | ⟨nowNs, rfl⟩
      · exact (ih witness hKept).weaken op
      · exact ⟨ops, nowNs, [], rfl⟩
    have hEffect := step_effect (run step p ops) op
    generalize (step (run step p ops) op).2 = out at hEffect
    generalize (step (run step p ops) op).1 = q at hEffect hStored
    cases hEffect with
    | threw => exact (ih witness hStored).weaken op
    | reidentified _ _ _ _ _ _ _ _ hNone =>
      rw [hNone] at hStored
      cases hStored
    | observed _ _ _ hAfter =>
      rw [hStored] at hAfter
      exact hOrigin hAfter
    | issued _ _ _ _ _ _ _ _ hAfter =>
      rw [hStored] at hAfter
      exact hOrigin hAfter
    | accepted =>
      rw [(accept_frame _ _ _).continuation] at hStored
      cases hStored

end

theorem observeContinuation_foreign (p : MissionProgress D)
    (hForeign : witness.route ≠ p.identity ∨ witness.gate ≠ p.gate) (nowNs : Int) :
    p.observeContinuation witness nowNs = (p, .nothing) := by
  have hRefused : p.witnessRefused witness nowNs = true := by
    rcases hForeign with hRoute | hGate
    · have hOther : sameRoute witness.route p.identity = false := by
        rw [← Bool.not_eq_true, sameRoute_iff]
        exact hRoute
      simp [witnessRefused, hOther]
    · have hOther : sameGate witness.gate p.gate = false := by
        rw [← Bool.not_eq_true, sameGate_iff]
        exact hGate
      simp [witnessRefused, hOther]
  unfold observeContinuation
  rw [if_pos hRefused]

def Operation.nowNs : Operation D → Option Int
  | .observeContinuation _ nowNs => some nowNs
  | .observeMeasured _ nowNs => some nowNs
  | _ => none

/-- In every run an accepted pass-through gate was crossed after its request was issued
and under its route identity, and either a live continuation of that gate was supplied
or it is the first request of the first gate with the vehicle slow inside it. Evidence
that names another gate or route changes nothing. -/
theorem pass_through_on_fresh_evidence {mission : Mission D} (hCreate : create mission = .ok p) :
    (∀ ops op gate waypoint, Accepts (run step p ops) op gate →
      mission.waypoints[gate.waypointIndex]? = some waypoint →
      waypoint.behavior = .passThrough →
      gate = (run step p ops).gate ∧ gate.requestId ≠ 0 ∧
      (∃ crossing, (run step p ops).usedCrossing op = some crossing ∧
        crossing.route = (run step p ops).identity ∧ crossing.gate = gate ∧
        RecordedFor p (ops ++ [op]) (run step p ops).identity gate crossing) ∧
      ((∃ witness nowNs, op.nowNs = some nowNs ∧ Supplied (ops ++ [op]) witness ∧
          Carries (run step p ops) witness nowNs) ∨
        (∃ sample nowNs, op = .observeMeasured sample nowNs ∧ gate.waypointIndex = 0 ∧
          gate.requestId = 1 ∧
          (sample.position - waypoint.positionEnu).norm ≤ waypoint.acceptanceRadiusM ∧
          sample.velocity.norm ≤ mission.control.acceptanceSpeedMps))) ∧
    (∀ (q : MissionProgress D) witness nowNs, witness.route ≠ q.identity ∨ witness.gate ≠ q.gate →
      step q (.observeContinuation witness nowNs) = (q, .decided .nothing)) := by
  refine ⟨?_, ?_⟩
  · intro ops op gate waypoint hAccepts hWaypoint hPass
    have hMission : (run step p ops).mission = mission :=
      (run_mission p ops).trans (create_created hCreate).mission
    obtain ⟨rfl, judged, hJudged⟩ :=
      effect_accepts (step_effect (run step p ops) op) (run_inOrder hCreate ops) hAccepts
    have hFound := hJudged.found
    rw [hMission, hWaypoint] at hFound
    cases hFound
    obtain ⟨⟨crossing, hUsed, hAfter⟩, hEvidence⟩ := hJudged.passThrough hPass
    -- the crossing was held for this gate, or this very sample is it
    have hFresh : crossing.route = (run step p ops).identity ∧
        crossing.gate = (run step p ops).gate ∧ (run step p ops).gate.requestId ≠ 0 ∧
        RecordedFor p (ops ++ [op]) (run step p ops).identity (run step p ops).gate crossing := by
      rcases hAfter.origin rfl with
        hHeld | ⟨sample, nowNs, rfl, _, hSample, hRoute, hGate, hIssued⟩
      · obtain ⟨hRoute, hGate, hIssued, hRecorded⟩ := run_crossing hCreate ops hHeld
        exact ⟨hRoute, hGate, hIssued, hRecorded.weaken op⟩
      · exact ⟨hRoute, hGate, hIssued, ops, sample, nowNs, [], rfl, rfl, rfl, hUsed, hSample⟩
    obtain ⟨hRoute, hGate, hIssued, hRecorded⟩ := hFresh
    refine ⟨rfl, hIssued, ⟨crossing, hUsed, hRoute, hGate, hRecorded⟩, ?_⟩
    cases hEvidence with
    | @supplied witness nowNs hCarries =>
      exact .inl ⟨witness, nowNs, rfl, ⟨ops, nowNs, [], rfl⟩, hCarries⟩
    | @held sample nowNs witness hHeld hCarries =>
      exact .inl ⟨witness, nowNs, rfl, (run_continuation hCreate ops hHeld).weaken _, hCarries⟩
    | @initial sample nowNs hFirst hRequest hInside hSlow =>
      rw [hMission] at hSlow
      exact .inr ⟨sample, nowNs, rfl, hFirst, hRequest, hInside, hSlow⟩
  · intro q witness nowNs hForeign
    simp only [step, observeContinuation_foreign q hForeign]
    rfl

end Steps

/-- The second gate of the survey is accepted on a continuation that arrives after its crossing. -/
theorem survey_second_gate : create surveyMission = .ok surveyStart ∧
      Accepts (run step surveyStart (surveyFlight.take 5))
        (.observeContinuation (surveyContinuation 1 2) 400) ⟨1, 2⟩ ∧
      ∃ crossing, (run step surveyStart (surveyFlight.take 5)).usedCrossing
          (.observeContinuation (surveyContinuation 1 2) 400) = some crossing ∧
        crossing.route = (run step surveyStart (surveyFlight.take 5)).identity ∧
        crossing.gate = ⟨1, 2⟩ := by
  have hCreate : create surveyMission = .ok surveyStart := by decide +kernel
  have hAccepts : Accepts (run step surveyStart (surveyFlight.take 5))
      (.observeContinuation (surveyContinuation 1 2) 400) ⟨1, 2⟩ :=
    .inr ⟨by decide +kernel, by decide +kernel⟩
  obtain ⟨_, _, ⟨crossing, hUsed, hRoute, hGate, _⟩, _⟩ :=
    (pass_through_on_fresh_evidence hCreate).1 _ _ _ (surveyWaypoint "second" 10 .passThrough)
      hAccepts (by decide +kernel) rfl
  exact ⟨hCreate, hAccepts, crossing, hUsed, hRoute, hGate⟩

/-! ## The hold before a stop is accepted -/

open FloatOps Runs List

structure Timed (p : MissionProgress D) : Prop where
  route : p.measuredRoute.waypoints = p.mission.waypoints
  hold : p.stopConfirmationStartNs = none → p.stopHoldStartNs = none
  gate : p.stopConfirmationStartNs ≠ none → p.active = true ∧ p.gate.requestId ≠ 0 ∧
    ∃ waypoint, p.mission.waypoints[p.gate.waypointIndex]? = some waypoint ∧
      waypoint.behavior = .stop

structure SameStop (p q : MissionProgress D) : Prop where
  mission : q.mission = p.mission
  waypoints : q.measuredRoute.waypoints = p.measuredRoute.waypoints
  gate : q.gate = p.gate
  active : q.active = p.active
  confirmation : q.stopConfirmationStartNs = p.stopConfirmationStartNs
  hold : q.stopHoldStartNs = p.stopHoldStartNs

variable {p q : MissionProgress D}

theorem SameStop.refl (p : MissionProgress D) : SameStop p p := ⟨rfl, rfl, rfl, rfl, rfl, rfl⟩

theorem SameStop.trans {r : MissionProgress D} (h : SameStop p q) (h' : SameStop q r) :
    SameStop p r :=
  ⟨h'.mission.trans h.mission, h'.waypoints.trans h.waypoints, h'.gate.trans h.gate,
    h'.active.trans h.active, h'.confirmation.trans h.confirmation, h'.hold.trans h.hold⟩

theorem SameStop.timed (h : SameStop p q) (hp : Timed p) : Timed q := by
  constructor
  · rw [h.waypoints, h.mission]
    exact hp.route
  · rw [h.confirmation, h.hold]
    exact hp.hold
  · rw [h.confirmation, h.active, h.gate, h.mission]
    exact hp.gate

/-- No timer runs, and the route is still the one of the mission. -/
structure Unstarted (p q : MissionProgress D) : Prop where
  mission : q.mission = p.mission
  waypoints : q.measuredRoute.waypoints = p.measuredRoute.waypoints
  confirmation : q.stopConfirmationStartNs = none
  hold : q.stopHoldStartNs = none

theorem Unstarted.timed (h : Unstarted p q) (hp : Timed p) : Timed q := by
  constructor
  · rw [h.waypoints, h.mission]
    exact hp.route
  · intro _
    exact h.hold
  · intro hStarted
    exact absurd h.confirmation hStarted

theorem SameStop.unstarted (h : SameStop p q) (hp : Timed p)
    (hNone : p.stopConfirmationStartNs = none) : Unstarted p q :=
  ⟨h.mission, h.waypoints, h.confirmation.trans hNone, h.hold.trans (hp.hold hNone)⟩

theorem SameStop.then_unstarted {r : MissionProgress D} (h : SameStop p q) (h' : Unstarted q r) :
    Unstarted p r :=
  ⟨h'.mission.trans h.mission, h'.waypoints.trans h.waypoints, h'.confirmation, h'.hold⟩

variable [FloatOps D]

/-- The sample is measured at the current identity, new and in order. -/
def adopts (p : MissionProgress D) (sample : MissionMeasuredSample D) (nowNs : Int) : Bool :=
  !p.sampleRefused sample nowNs && !p.repeats sample && !p.unorderable sample

/-- Inside and slow, while the command beyond the gate is covered. -/
structure Qualifies (waypoint : MissionWaypoint D) (p : MissionProgress D)
    (sample : MissionMeasuredSample D) (nowNs : Int) : Prop where
  inside : (sample.position - waypoint.positionEnu).norm ≤ waypoint.acceptanceRadiusM
  slow : sample.velocity.norm ≤ p.mission.control.acceptanceSpeedMps
  covered : ∃ witness ∈ p.continuation, witness.route = p.identity ∧ witness.gate = p.gate ∧
    nowNs ≤ witness.validUntilNs

/-! ## What a call does to the timers -/

section
variable (p : MissionProgress D)

theorem accept_unstarted (errorM speedMps : D) : Unstarted p (p.accept errorM speedMps).1 := by
  fun_cases accept <;> exact ⟨rfl, rfl, rfl, rfl⟩

theorem sight_stop (sample : MissionMeasuredSample D) : SameStop p (p.sight sample).progress := by
  have hFrame := sight_frame p sample
  obtain ⟨hActive, hConfirmation, hHold⟩ : (p.sight sample).progress.active = p.active ∧
      (p.sight sample).progress.stopConfirmationStartNs = p.stopConfirmationStartNs ∧
      (p.sight sample).progress.stopHoldStartNs = p.stopHoldStartNs := by
    unfold sight breakSegment
    split <;> exact ⟨rfl, rfl, rfl⟩
  exact ⟨hFrame.mission, hFrame.waypoints, hFrame.gate, hActive, hConfirmation, hHold⟩

theorem recordCrossing_stop (sighting : Sighting D) (sample : MissionMeasuredSample D) :
    SameStop sighting.progress (recordCrossing sighting sample) := by
  fun_cases recordCrossing
  case case3 => exact ⟨rfl, rfl, rfl, rfl, rfl, rfl⟩
  all_goals exact .refl _

theorem judgePassThrough_stop (waypoint : MissionWaypoint D)
    (sample : MissionMeasuredSample D) (nowNs : Int) :
    SameStop p (p.judgePassThrough waypoint sample nowNs).1 ∨
      Unstarted p (p.judgePassThrough waypoint sample nowNs).1 := by
  fun_cases judgePassThrough
  case case5 => exact .inr (accept_unstarted _ _ _)
  all_goals exact .inl (.refl p)

theorem observeContinuation_stop (witness : MissionContinuationWitness) (nowNs : Int) :
    SameStop p (p.observeContinuation witness nowNs).1 ∨
      Unstarted p (p.observeContinuation witness nowNs).1 := by
  have hHeld : SameStop p { p with continuation := some witness } := ⟨rfl, rfl, rfl, rfl, rfl, rfl⟩
  fun_cases observeContinuation
  case case1 => exact .inl (.refl p)
  case case2 => exact .inl (.refl p)
  case case7 => exact .inr (hHeld.then_unstarted (accept_unstarted _ _ _))
  all_goals exact .inl hHeld

end

def Confirmed (p : MissionProgress D) (start stampNs : Int) : Prop :=
  ∃ confirmationNs, secondsToNs p.mission.control.acceptanceConfirmationS = some confirmationNs ∧
    confirmationNs ≤ stampNs - start

/-- How a stop gate is judged: the timers stop, they go on, the hold begins or goes on, or the
gate is accepted. -/
inductive StopJudgement (p : MissionProgress D) (waypoint : MissionWaypoint D)
    (sample : MissionMeasuredSample D) (nowNs : Int) :
    MissionProgress D × MissionProgressDecision D → Prop where
  | stopped : StopJudgement p waypoint sample nowNs
      ({ p with stopConfirmationStartNs := none, stopHoldStartNs := none }, .nothing)
  | confirming (hQualifies : Qualifies waypoint p sample nowNs) :
      StopJudgement p waypoint sample nowNs ({ p with
        stopConfirmationStartNs :=
          some (p.stopConfirmationStartNs.getD sample.sourceStampNs) }, .nothing)
  | holding (hQualifies : Qualifies waypoint p sample nowNs)
      (hConfirmed : Confirmed p (p.stopConfirmationStartNs.getD sample.sourceStampNs)
        sample.sourceStampNs) :
      StopJudgement p waypoint sample nowNs ({ p with
        stopConfirmationStartNs := some (p.stopConfirmationStartNs.getD sample.sourceStampNs)
        stopHoldStartNs := some (p.stopHoldStartNs.getD sample.sourceStampNs) }, .nothing)
  | accepted (r : MissionProgress D) (errorM speedMps : D) (holdNs : Int)
      (hFrame : SameProgress p r) (hQualifies : Qualifies waypoint p sample nowNs)
      (hConfirmed : Confirmed p (p.stopConfirmationStartNs.getD sample.sourceStampNs)
        sample.sourceStampNs)
      (hHoldNs : secondsToNs waypoint.holdS = some holdNs)
      (hHeld : holdNs ≤ sample.sourceStampNs - p.stopHoldStartNs.getD sample.sourceStampNs) :
      StopJudgement p waypoint sample nowNs (r.accept errorM speedMps)

theorem judgeStop_judgement (p : MissionProgress D) (waypoint : MissionWaypoint D)
    (sample : MissionMeasuredSample D) (nowNs : Int)
    (hFound : p.measuredRoute.waypoints[p.gate.waypointIndex]? = some waypoint) :
    StopJudgement p waypoint sample nowNs (p.judgeStop waypoint sample nowNs) := by
  unfold judgeStop
  dsimp only
  split
  · exact .stopped
  rename_i hCovered
  simp only [Bool.or_eq_true, Bool.not_eq_true', not_or, Bool.not_eq_false, Bool.and_eq_true]
    at hCovered
  obtain ⟨⟨hInside, hSlow⟩, hMatches, hLease⟩ := hCovered
  have hQualifies : Qualifies waypoint p sample nowNs := by
    refine ⟨?_, of_decide_eq_true hSlow, ?_⟩
    · unfold RouteProgress.insideAcceptance at hInside
      rw [hFound] at hInside
      simp only [Bool.and_eq_true, decide_eq_true_eq] at hInside
      exact hInside.2
    · unfold continuationMatches at hMatches
      cases hWitness : p.continuation with
      | none => simp [hWitness] at hMatches
      | some witness =>
        simp only [hWitness, Option.any_some, Bool.and_eq_true, sameRoute_iff, sameGate_iff,
          decide_eq_true_eq] at hMatches hLease
        exact ⟨witness, rfl, hMatches.1.1.1.1, hMatches.1.1.1.2, hLease⟩
  split
  · rename_i confirmationNs holdNs hConfirmationNs hHoldNs
    split
    · exact .confirming hQualifies
    have hConfirmed : Confirmed p (p.stopConfirmationStartNs.getD sample.sourceStampNs)
        sample.sourceStampNs := ⟨confirmationNs, hConfirmationNs, by omega⟩
    split
    · exact .holding hQualifies hConfirmed
    exact .accepted _ _ _ holdNs ⟨rfl, rfl, rfl, rfl, rfl⟩ hQualifies hConfirmed hHoldNs (by omega)
  · exact .confirming hQualifies

/-- What an operation does to the timers: it stops them, it leaves them and adopts no sample,
or the sample it adopts qualifies and they go on. -/
inductive TimerMove (p : MissionProgress D) (op : Operation D) (q : MissionProgress D) : Prop where
  | stopped (hStopped : Unstarted p q)
  | kept (hFrame : SameStop p q) (hUnadopted : ∀ sample nowNs, op = .observeMeasured sample nowNs →
        p.adopts sample nowNs = false)
  | carried {sample : MissionMeasuredSample D} {nowNs : Int} {waypoint : MissionWaypoint D}
      (hOp : op = .observeMeasured sample nowNs)
      (hAdopts : p.adopts sample nowNs = true)
      (hFound : p.mission.waypoints[p.gate.waypointIndex]? = some waypoint)
      (hStop : waypoint.behavior = .stop) (hQualifies : Qualifies waypoint p sample nowNs)
      (hTimed : Timed q) (hMission : q.mission = p.mission) (hGate : q.gate = p.gate)
      (hConfirmation : q.stopConfirmationStartNs =
        some (p.stopConfirmationStartNs.getD sample.sourceStampNs))
      (hHold : q.stopHoldStartNs = p.stopHoldStartNs ∨
        (q.stopHoldStartNs = some (p.stopHoldStartNs.getD sample.sourceStampNs) ∧
          Confirmed p (p.stopConfirmationStartNs.getD sample.sourceStampNs)
            sample.sourceStampNs)) : TimerMove p op q

variable {waypoint : MissionWaypoint D} {sample : MissionMeasuredSample D} {nowNs : Int}

theorem Qualifies.of_sight (h : Qualifies waypoint (p.sight sample).progress sample nowNs) :
    Qualifies waypoint p sample nowNs := by
  have hFrame := sight_frame p sample
  refine ⟨h.inside, ?_, ?_⟩
  · rw [← hFrame.mission]
    exact h.slow
  · rw [← sight_continuation p sample, ← hFrame.identity, ← hFrame.gate]
    exact h.covered

/-- The gate at which an adopted sample is judged for a stop. -/
structure AtStop (p : MissionProgress D) (waypoint : MissionWaypoint D) : Prop where
  active : p.active = true
  requested : p.gate.requestId ≠ 0
  found : p.mission.waypoints[p.gate.waypointIndex]? = some waypoint
  stop : waypoint.behavior = .stop

variable {op : Operation D}

theorem judge_atStop (h : AtStop p waypoint) (sample : MissionMeasuredSample D) (nowNs : Int) :
    judge (p.sight sample) sample nowNs =
      (p.sight sample).progress.judgeStop waypoint sample nowNs := by
  have hStop := sight_stop p sample
  have hFound : (p.sight sample).progress.mission.waypoints[
      (p.sight sample).progress.gate.waypointIndex]? = some waypoint := by
    rw [hStop.mission, hStop.gate]
    exact h.found
  unfold judge
  rw [if_neg (by rw [hStop.active, h.active]; simp), if_neg (by rw [hStop.gate]; exact h.requested),
    hFound]
  simp only [h.stop]

theorem judge_unstarted (hp : Timed p) (hNone : p.stopConfirmationStartNs = none)
    (hAway : ∀ waypoint, ¬ AtStop p waypoint) (sample : MissionMeasuredSample D) (nowNs : Int) :
    Unstarted p (judge (p.sight sample) sample nowNs).1 := by
  have hStop := sight_stop p sample
  have hSeen := hStop.unstarted hp hNone
  fun_cases judge
  case case2 => exact ⟨hSeen.mission, hSeen.waypoints, hSeen.confirmation, hSeen.hold⟩
  case case4 hActive hRequested waypoint hFound _ =>
    have hRecorded := recordCrossing_stop (p.sight sample) sample
    rcases judgePassThrough_stop (recordCrossing (p.sight sample) sample) waypoint sample nowNs
      with hSame | hUnstarted
    · exact (hStop.trans (hRecorded.trans hSame)).unstarted hp hNone
    · exact (hStop.trans hRecorded).then_unstarted hUnstarted
  case case5 hActive hRequested waypoint hFound hBehavior =>
    rw [hStop.active, Bool.not_eq_true', Bool.not_eq_false] at hActive
    rw [hStop.gate] at hRequested hFound
    rw [hStop.mission] at hFound
    exact absurd ⟨hActive, hRequested, hFound, hBehavior⟩ (hAway waypoint)
  all_goals exact hSeen

theorem judge_atStop_move (hp : Timed p) (h : AtStop p waypoint)
    (hAdopts : p.adopts sample nowNs = true) :
    TimerMove p (.observeMeasured sample nowNs) (judge (p.sight sample) sample nowNs).1 := by
  have hStop := sight_stop p sample
  have hFound : (p.sight sample).progress.measuredRoute.waypoints[
      (p.sight sample).progress.gate.waypointIndex]? = some waypoint := by
    rw [hStop.waypoints, hStop.gate, hp.route]
    exact h.found
  have hSeen := hStop.timed hp
  have hGated : (p.sight sample).progress.active = true ∧
      (p.sight sample).progress.gate.requestId ≠ 0 ∧ ∃ waypoint,
        (p.sight sample).progress.mission.waypoints[
          (p.sight sample).progress.gate.waypointIndex]? = some waypoint ∧
        waypoint.behavior = .stop := by
    rw [hStop.active, hStop.gate, hStop.mission]
    exact ⟨h.active, h.requested, waypoint, h.found, h.stop⟩
  rw [judge_atStop h]
  have hJudgement := judgeStop_judgement (p.sight sample).progress waypoint sample nowNs hFound
  generalize (p.sight sample).progress.judgeStop waypoint sample nowNs = result at hJudgement ⊢
  cases hJudgement with
  | stopped => exact .stopped ⟨hStop.mission, hStop.waypoints, rfl, rfl⟩
  | confirming hQualifies =>
    refine .carried rfl hAdopts h.found h.stop hQualifies.of_sight
      ⟨hSeen.route, (fun hNone => nomatch hNone), fun _ => hGated⟩ hStop.mission hStop.gate ?_
      (.inl hStop.hold)
    rw [hStop.confirmation]
  | holding hQualifies hConfirmed =>
    refine .carried rfl hAdopts h.found h.stop hQualifies.of_sight
      ⟨hSeen.route, (fun hNone => nomatch hNone), fun _ => hGated⟩ hStop.mission hStop.gate ?_
      (.inr ⟨?_, ?_⟩)
    · dsimp only
      rw [hStop.confirmation]
    · dsimp only
      rw [hStop.hold]
    · rw [hStop.confirmation] at hConfirmed
      unfold Confirmed at hConfirmed ⊢
      rwa [hStop.mission] at hConfirmed
  | accepted r errorM speedMps holdNs hFrame =>
    refine .stopped ?_
    have hAccepted := accept_unstarted r errorM speedMps
    exact ⟨hAccepted.mission.trans (hFrame.mission.trans hStop.mission),
      hAccepted.waypoints.trans (hFrame.waypoints.trans hStop.waypoints),
      hAccepted.confirmation, hAccepted.hold⟩

theorem observeMeasured_move (hp : Timed p) (sample : MissionMeasuredSample D) (nowNs : Int) :
    TimerMove p (.observeMeasured sample nowNs) (p.observeMeasured sample nowNs).1 := by
  cases hAdopts : p.adopts sample nowNs with
  | false =>
    have hUnadopted (other : MissionMeasuredSample D) (now : Int)
        (hOp : Operation.observeMeasured sample nowNs = .observeMeasured other now) :
        p.adopts other now = false := by
      cases hOp
      exact hAdopts
    fun_cases observeMeasured
    case case3 => exact .kept ⟨rfl, rfl, rfl, rfl, rfl, rfl⟩ hUnadopted
    case case4 hRefused hRepeats hUnorderable =>
      simp [adopts, hRefused, hRepeats, hUnorderable] at hAdopts
    all_goals exact .kept (.refl p) hUnadopted
  | true =>
    have hJudged : p.observeMeasured sample nowNs = judge (p.sight sample) sample nowNs := by
      simp only [adopts, Bool.and_eq_true, Bool.not_eq_true'] at hAdopts
      unfold observeMeasured
      rw [hAdopts.1.1, hAdopts.1.2, hAdopts.2]
      rfl
    rw [hJudged]
    by_cases hAt : ∃ waypoint, AtStop p waypoint
    · obtain ⟨waypoint, hAt⟩ := hAt
      exact judge_atStop_move hp hAt hAdopts
    · have hNone : p.stopConfirmationStartNs = none := by
        by_contra hStarted
        obtain ⟨hActive, hRequested, waypoint, hFound, hStop⟩ := hp.gate hStarted
        exact hAt ⟨waypoint, hActive, hRequested, hFound, hStop⟩
      exact .stopped (judge_unstarted hp hNone (fun waypoint h => hAt ⟨waypoint, h⟩) sample nowNs)

theorem activate_move (p : MissionProgress D) : TimerMove p .activate p.activate.1 := by
  have hUnadopted (sample : MissionMeasuredSample D) (nowNs : Int)
      (hOp : Operation.activate = .observeMeasured sample nowNs) : p.adopts sample nowNs = false :=
    nomatch hOp
  fun_cases activate
  case case1 => exact .kept (.refl p) hUnadopted
  all_goals exact .stopped ⟨rfl, rfl, rfl, rfl⟩

theorem resetIdentity_move (p : MissionProgress D) (revision epoch : Nat) :
    TimerMove p (.resetIdentity revision epoch) (step p (.resetIdentity revision epoch)).1 := by
  unfold step resetIdentity
  dsimp only
  split
  · rename_i q hReset
    split at hReset
    · cases hReset
    split at hReset
    · cases hReset
      exact .stopped ⟨rfl, rfl, rfl, rfl⟩
    · cases hReset
      exact .stopped ⟨rfl, rfl, rfl, rfl⟩
  · exact .kept (.refl p) fun sample nowNs hOp => nomatch hOp

theorem step_move (hp : Timed p) (op : Operation D) : TimerMove p op (step p op).1 := by
  cases op with
  | resetIdentity revision epoch => exact resetIdentity_move p revision epoch
  | activate => exact activate_move p
  | deactivate => exact .stopped ⟨rfl, rfl, rfl, rfl⟩
  | observeContinuation witness nowNs =>
    rcases observeContinuation_stop p witness nowNs with hSame | hUnstarted
    · exact .kept hSame fun sample nowNs hOp => nomatch hOp
    · exact .stopped hUnstarted
  | observeMeasured sample nowNs => exact observeMeasured_move hp sample nowNs

theorem TimerMove.timed (h : TimerMove p op q) (hp : Timed p) : Timed q := by
  cases h with
  | stopped hStopped => exact hStopped.timed hp
  | kept hFrame => exact hFrame.timed hp
  | carried _ _ _ _ _ hTimed => exact hTimed

/-! ## The acceptance of a stop -/

/-- The operation reports no acceptance and marks no gate as accepted. -/
structure Quiet (p : MissionProgress D) (out : Outcome D) (q : MissionProgress D) : Prop where
  reports : ∀ decision, out = .decided decision → decision.accepted = none
  marks : q.accepted = p.accepted ∨ q.accepted = none

theorem Quiet.nothing (h : q.accepted = p.accepted) : Quiet p (.decided .nothing) q := by
  refine ⟨?_, .inl h⟩
  rintro decision ⟨⟩
  rfl

theorem Quiet.not_accepts (h : Quiet p (step p op).2 (step p op).1) (gate : MissionGateIdentity) :
    ¬ Accepts p op gate := by
  rintro (⟨decision, hOut, hAccepted⟩ | ⟨hAccepted, hOther⟩)
  · rw [h.reports decision hOut] at hAccepted
    cases hAccepted
  · rcases h.marks with hSame | hNone
    · exact hOther (hSame ▸ hAccepted)
    · rw [hNone] at hAccepted
      cases hAccepted

theorem resetIdentity_quiet (p : MissionProgress D) (revision epoch : Nat) :
    Quiet p (step p (.resetIdentity revision epoch)).2
      (step p (.resetIdentity revision epoch)).1 := by
  unfold step resetIdentity
  dsimp only
  split
  · rename_i q hReset
    split at hReset
    · cases hReset
    split at hReset
    · cases hReset
      exact ⟨by rintro decision ⟨⟩, .inr rfl⟩
    · cases hReset
      exact ⟨by rintro decision ⟨⟩, .inl rfl⟩
  · exact ⟨by rintro decision ⟨⟩, .inl rfl⟩

theorem activate_quiet (p : MissionProgress D) : Quiet p (.decided p.activate.2) p.activate.1 := by
  fun_cases activate
  case case4 =>
    refine ⟨?_, .inl rfl⟩
    rintro decision ⟨⟩
    rfl
  all_goals exact .nothing rfl

theorem observeContinuation_quiet
    (hFound : p.mission.waypoints[p.gate.waypointIndex]? = some waypoint)
    (hStop : waypoint.behavior = .stop) (witness : MissionContinuationWitness) (nowNs : Int) :
    Quiet p (.decided (p.observeContinuation witness nowNs).2)
      (p.observeContinuation witness nowNs).1 := by
  unfold observeContinuation
  split
  · exact .nothing rfl
  split
  · exact .nothing rfl
  dsimp only
  rw [hFound]
  dsimp only
  split
  · have hOther : waypoint.behavior ≠ .passThrough := by
      rw [hStop]
      simp
    simp only [hOther, ne_eq, not_false_eq_true, decide_true, Bool.true_or, if_true]
    exact .nothing rfl
  · exact .nothing rfl

/-- What an accepted stop rests on at the moment of its acceptance. -/
structure StopAccepted (p : MissionProgress D) (waypoint : MissionWaypoint D)
    (sample : MissionMeasuredSample D) (nowNs : Int) : Prop where
  adopts : p.adopts sample nowNs = true
  qualifies : Qualifies waypoint p sample nowNs
  confirmed : Confirmed p (p.stopConfirmationStartNs.getD sample.sourceStampNs) sample.sourceStampNs
  held : ∃ holdNs, secondsToNs waypoint.holdS = some holdNs ∧
    holdNs ≤ sample.sourceStampNs - p.stopHoldStartNs.getD sample.sourceStampNs

variable {gate : MissionGateIdentity}

theorem observeMeasured_accepts (hp : Timed p)
    (hFound : p.mission.waypoints[p.gate.waypointIndex]? = some waypoint)
    (hStop : waypoint.behavior = .stop) (hAdopts : p.adopts sample nowNs = true) :
    Quiet p (.decided (judge (p.sight sample) sample nowNs).2)
        (judge (p.sight sample) sample nowNs).1 ∨ StopAccepted p waypoint sample nowNs := by
  have hFrame := sight_frame p sample
  have hSame := sight_stop p sample
  by_cases hAt : AtStop p waypoint
  · have hRoute : (p.sight sample).progress.measuredRoute.waypoints[
        (p.sight sample).progress.gate.waypointIndex]? = some waypoint := by
      rw [hSame.waypoints, hSame.gate, hp.route]
      exact hFound
    rw [judge_atStop hAt]
    have hJudgement := judgeStop_judgement (p.sight sample).progress waypoint sample nowNs hRoute
    generalize (p.sight sample).progress.judgeStop waypoint sample nowNs = result at hJudgement ⊢
    cases hJudgement with
    | stopped => exact .inl (.nothing hFrame.accepted)
    | confirming => exact .inl (.nothing hFrame.accepted)
    | holding => exact .inl (.nothing hFrame.accepted)
    | accepted r errorM speedMps holdNs _ hQualifies hConfirmed hHoldNs hHeld =>
      rw [hSame.hold] at hHeld
      unfold Confirmed at hConfirmed
      rw [hSame.confirmation, hSame.mission] at hConfirmed
      exact .inr ⟨hAdopts, hQualifies.of_sight, hConfirmed, holdNs, hHoldNs, hHeld⟩
  · -- the gate is inactive or not requested yet
    refine .inl ?_
    unfold judge
    dsimp only
    split
    · exact .nothing hFrame.accepted
    rename_i hActive
    split
    · refine ⟨?_, .inl hFrame.accepted⟩
      rintro decision ⟨⟩
      rfl
    rename_i hRequested
    rw [hSame.active, Bool.not_eq_true', Bool.not_eq_false] at hActive
    rw [hSame.gate] at hRequested
    exact absurd ⟨hActive, hRequested, hFound, hStop⟩ hAt

theorem accepts_stop (hp : Timed p) (hOrder : InOrder p) (hAccepts : Accepts p op gate)
    (hFound : p.mission.waypoints[gate.waypointIndex]? = some waypoint)
    (hStop : waypoint.behavior = .stop) :
    gate = p.gate ∧ ∃ sample nowNs, op = .observeMeasured sample nowNs ∧
      StopAccepted p waypoint sample nowNs := by
  obtain ⟨rfl, -⟩ := effect_accepts (step_effect p op) hOrder hAccepts
  refine ⟨rfl, ?_⟩
  cases op with
  | resetIdentity revision epoch =>
    exact absurd hAccepts ((resetIdentity_quiet p revision epoch).not_accepts _)
  | activate => exact absurd hAccepts (Quiet.not_accepts (activate_quiet p) _)
  | deactivate =>
    have hQuiet : Quiet p .done p.deactivate := ⟨by rintro decision ⟨⟩, .inl rfl⟩
    exact absurd hAccepts (Quiet.not_accepts hQuiet _)
  | observeContinuation witness nowNs =>
    exact absurd hAccepts
      (Quiet.not_accepts (observeContinuation_quiet hFound hStop witness nowNs) _)
  | observeMeasured sample nowNs =>
    refine ⟨sample, nowNs, rfl, ?_⟩
    have hCases : Quiet p (.decided (p.observeMeasured sample nowNs).2)
        (p.observeMeasured sample nowNs).1 ∨ StopAccepted p waypoint sample nowNs := by
      fun_cases observeMeasured
      case case4 hRefused hRepeats hUnorderable =>
        refine observeMeasured_accepts hp hFound hStop ?_
        simp [adopts, hRefused, hRepeats, hUnorderable]
      all_goals exact .inl (.nothing rfl)
    rcases hCases with hQuiet | hAccepted
    · exact absurd hAccepts (Quiet.not_accepts hQuiet _)
    · exact hAccepted

/-! ## Along a run -/

def AdoptsAt (e : Event (MissionProgress D) (Operation D) (Outcome D))
    (sample : MissionMeasuredSample D) (nowNs : Int) : Prop :=
  e.op = .observeMeasured sample nowNs ∧ e.before.adopts sample nowNs = true

/-- The event finds the gate, and a sample it adopts qualifies. -/
structure HeldAt (gate : MissionGateIdentity) (waypoint : MissionWaypoint D)
    (e : Event (MissionProgress D) (Operation D) (Outcome D)) : Prop where
  gate : e.before.gate = gate
  qualifies : ∀ sample nowNs, AdoptsAt e sample nowNs → Qualifies waypoint e.before sample nowNs

/-- The events begin with a sample taken at `start`, and all of them hold the gate. -/
structure Confirming (gate : MissionGateIdentity) (waypoint : MissionWaypoint D) (start : Int)
    (window : List (Event (MissionProgress D) (Operation D) (Outcome D))) : Prop where
  first : ∃ e sample nowNs, window.head? = some e ∧ AdoptsAt e sample nowNs ∧
    sample.sourceStampNs = start
  held : ∀ e ∈ window, HeldAt gate waypoint e

variable {e : Event (MissionProgress D) (Operation D) (Outcome D)}

theorem Confirming.concat {start : Int}
    {window : List (Event (MissionProgress D) (Operation D) (Outcome D))}
    (h : Confirming gate waypoint start window) (he : HeldAt gate waypoint e) :
    Confirming gate waypoint start (window ++ [e]) := by
  obtain ⟨first, sample, nowNs, hHead, hAdopts, hStart⟩ := h.first
  refine ⟨⟨first, sample, nowNs, ?_, hAdopts, hStart⟩, ?_⟩
  · rw [List.head?_append, hHead]
    rfl
  · intro other hOther
    rcases mem_append.mp hOther with hOther | hOther
    · exact h.held other hOther
    · rw [mem_singleton.mp hOther]
      exact he

theorem Confirming.single (he : HeldAt gate waypoint e) (hAdopts : AdoptsAt e sample nowNs) :
    Confirming gate waypoint sample.sourceStampNs [e] := by
  refine ⟨⟨e, sample, nowNs, rfl, hAdopts, rfl⟩, ?_⟩
  intro other hOther
  rw [mem_singleton.mp hOther]
  exact he

/-- The running timers of a state are those of samples at the end of the run. -/
structure Rests (p : MissionProgress D) (ops : List (Operation D)) (q : MissionProgress D) :
    Prop where
  timed : Timed q
  started : ∀ start waypoint, q.stopConfirmationStartNs = some start →
    q.mission.waypoints[q.gate.waypointIndex]? = some waypoint →
    ∃ window, window <:+ events step p ops ∧ Confirming q.gate waypoint start window ∧
      ∀ hold, q.stopHoldStartNs = some hold → Confirmed q start hold ∧
        ∃ e ∈ window, ∃ sample nowNs, AdoptsAt e sample nowNs ∧ sample.sourceStampNs = hold

theorem heldAt_of_unadopted
    (hUnadopted : ∀ sample nowNs, op = .observeMeasured sample nowNs → p.adopts sample nowNs = false)
    (waypoint : MissionWaypoint D) : HeldAt p.gate waypoint (eventAt step p op) := by
  refine ⟨rfl, ?_⟩
  rintro sample nowNs ⟨hOp, hAdopts⟩
  have hNot := hUnadopted sample nowNs hOp
  rw [eventAt_before] at hAdopts
  rw [hAdopts] at hNot
  cases hNot

theorem heldAt_of_adopted (hQualifies : Qualifies waypoint p sample nowNs) :
    HeldAt p.gate waypoint (eventAt step p (.observeMeasured sample nowNs)) := by
  refine ⟨rfl, ?_⟩
  rintro other now ⟨hOp, -⟩
  cases hOp
  exact hQualifies

theorem Rests.step {ops : List (Operation D)} (h : Rests p ops (run step p ops))
    (op : Operation D) : Rests p (ops ++ [op]) (step (run step p ops) op).1 := by
  have hMove := step_move h.timed op
  have hConcat : events MissionProgress.step p (ops ++ [op]) = events MissionProgress.step p ops ++
        [eventAt MissionProgress.step (run MissionProgress.step p ops) op] :=
    events_concat p ops op
  refine ⟨hMove.timed h.timed, ?_⟩
  intro start waypoint hStart hFound
  rw [hConcat]
  generalize run MissionProgress.step p ops = q at *
  generalize hAfter : (MissionProgress.step q op).1 = r at *
  cases hMove with
  | stopped hStopped =>
    rw [hStopped.confirmation] at hStart
    cases hStart
  | kept hFrame hUnadopted =>
    rw [hFrame.confirmation] at hStart
    rw [hFrame.mission, hFrame.gate] at hFound
    obtain ⟨window, hSuffix, hConfirming, hHold⟩ := h.started start waypoint hStart hFound
    have hHeld := heldAt_of_unadopted hUnadopted waypoint
    refine ⟨window ++ [eventAt MissionProgress.step q op], ?_, ?_, ?_⟩
    · obtain ⟨front, hFront⟩ := hSuffix
      exact ⟨front, by rw [← hFront, append_assoc]⟩
    · rw [hFrame.gate]
      exact hConfirming.concat hHeld
    · intro hold hHolds
      rw [hFrame.hold] at hHolds
      obtain ⟨hConfirmed, e, he, hAdopted⟩ := hHold hold hHolds
      unfold Confirmed at hConfirmed ⊢
      rw [hFrame.mission]
      exact ⟨hConfirmed, e, mem_append_left _ he, hAdopted⟩
  | @carried sample nowNs judged hOp hAdopts hJudged _ hQualifies _ hMission hGate hConfirmation
      hHolding =>
    subst hOp
    rw [hMission, hGate, hJudged] at hFound
    obtain rfl : judged = waypoint := Option.some.inj hFound
    have hHeld := heldAt_of_adopted hQualifies
    have hAdoptsAt : AdoptsAt (eventAt MissionProgress.step q (.observeMeasured sample nowNs))
        sample nowNs := ⟨rfl, hAdopts⟩
    -- the window that the sample closes
    obtain ⟨window, hSuffix, hConfirming, hOld⟩ : ∃ window,
        window <:+ events MissionProgress.step p ops ++
          [eventAt MissionProgress.step q (.observeMeasured sample nowNs)] ∧
        Confirming q.gate judged start window ∧
        (eventAt MissionProgress.step q (.observeMeasured sample nowNs) ∈ window) ∧
        ∀ hold, q.stopHoldStartNs = some hold → Confirmed q start hold ∧
          ∃ e ∈ window, ∃ sample nowNs, AdoptsAt e sample nowNs ∧ sample.sourceStampNs = hold := by
      cases hRunning : q.stopConfirmationStartNs with
      | none =>
        rw [hConfirmation, hRunning] at hStart
        cases hStart
        refine ⟨_, suffix_append _ _, .single hHeld hAdoptsAt, mem_singleton_self _, ?_⟩
        intro hold hHolds
        rw [h.timed.hold hRunning] at hHolds
        cases hHolds
      | some running =>
        rw [hConfirmation, hRunning] at hStart
        obtain rfl : start = running := (Option.some.inj hStart).symm
        obtain ⟨window, ⟨front, hFront⟩, hConfirming, hHold⟩ :=
          h.started start judged hRunning hJudged
        refine ⟨window ++ [eventAt MissionProgress.step q (.observeMeasured sample nowNs)],
          ⟨front, by rw [← hFront, append_assoc]⟩, hConfirming.concat hHeld,
          mem_append_right _ (mem_singleton_self _), ?_⟩
        intro hold hHolds
        obtain ⟨hConfirmed, e, he, hAdopted⟩ := hHold hold hHolds
        exact ⟨hConfirmed, e, mem_append_left _ he, hAdopted⟩
    refine ⟨window, hSuffix, ?_, ?_⟩
    · rw [hGate]
      exact hConfirming
    · intro hold hHolds
      have hConfirmedAt (stampNs : Int) (hAt : Confirmed q start stampNs) :
          Confirmed r start stampNs := by
        unfold Confirmed at hAt ⊢
        rwa [hMission]
      rcases hHolding with hSame | ⟨hHold, hNow⟩
      · rw [hSame] at hHolds
        obtain ⟨hConfirmed, hWitness⟩ := hOld.2 hold hHolds
        exact ⟨hConfirmedAt hold hConfirmed, hWitness⟩
      · cases hRunning : q.stopHoldStartNs with
        | none =>
          rw [hHold, hRunning] at hHolds
          cases hHolds
          have hStarted : q.stopConfirmationStartNs.getD sample.sourceStampNs = start := by
            rw [hConfirmation] at hStart
            exact Option.some.inj hStart
          rw [hStarted] at hNow
          exact ⟨hConfirmedAt _ hNow, _, hOld.1, sample, nowNs, hAdoptsAt, rfl⟩
        | some running =>
          rw [hHold, hRunning] at hHolds
          obtain rfl : hold = running := (Option.some.inj hHolds).symm
          obtain ⟨hConfirmed, hWitness⟩ := hOld.2 hold hRunning
          exact ⟨hConfirmedAt hold hConfirmed, hWitness⟩

theorem run_rests {mission : Mission D} (hCreate : create mission = .ok p)
    (ops : List (Operation D)) : Rests p ops (run step p ops) := by
  refine run_history step (P := fun ops q => q = run step p ops → Rests p ops q) ?_ ?_ ops rfl
  · intro _
    have hFresh : p.measuredRoute.waypoints = p.mission.waypoints ∧
        p.stopConfirmationStartNs = none ∧ p.stopHoldStartNs = none := by
      unfold create at hCreate
      split at hCreate
      · cases hCreate
      rename_i route hRoute
      split at hCreate
      · cases hCreate
      cases hCreate
      refine ⟨?_, rfl, rfl⟩
      unfold RouteProgress.create at hRoute
      split at hRoute
      · cases hRoute
      split at hRoute
      · cases hRoute
      split at hRoute
      · cases hRoute
      · cases hRoute
        rfl
    obtain ⟨hRoute, hConfirmation, hHold⟩ := hFresh
    refine ⟨⟨hRoute, fun _ => hHold, fun hStarted => absurd hConfirmation hStarted⟩, ?_⟩
    intro start waypoint hStart
    rw [hConfirmation] at hStart
    cases hStart
  · intro ops op ih _
    exact (ih rfl).step op

/-- In every run an accepted stop gate was confirmed and then held: two samples of the same
gate lie as far apart and as far before the accepted one as the mission asks for, and every
sample adopted since the first of them was inside, slow and covered. -/
theorem stop_accepted_after_hold {mission : Mission D} {p : MissionProgress D}
    (hCreate : create mission = .ok p) {ops : List (Operation D)} {op : Operation D}
    {gate : MissionGateIdentity} {waypoint : MissionWaypoint D}
    (hAccepts : Accepts (run step p ops) op gate)
    (hWaypoint : mission.waypoints[gate.waypointIndex]? = some waypoint)
    (hStop : waypoint.behavior = .stop) :
    ∃ window confirmationNs holdNs e₀ s₀ now₀ e₁ s₁ now₁ e s now,
      window <:+ events step p (ops ++ [op]) ∧
      secondsToNs mission.control.acceptanceConfirmationS = some confirmationNs ∧
      secondsToNs waypoint.holdS = some holdNs ∧
      window.head? = some e₀ ∧ AdoptsAt e₀ s₀ now₀ ∧
      e₁ ∈ window ∧ AdoptsAt e₁ s₁ now₁ ∧
      window.getLast? = some e ∧ AdoptsAt e s now ∧
      confirmationNs ≤ s₁.sourceStampNs - s₀.sourceStampNs ∧
      holdNs ≤ s.sourceStampNs - s₁.sourceStampNs ∧
      ∀ e ∈ window, HeldAt gate waypoint e := by
  have hRests := run_rests hCreate ops
  have hMission : (run step p ops).mission = mission :=
    (run_mission p ops).trans (create_created hCreate).mission
  have hOrder := run_inOrder hCreate ops
  have hConcat : events step p (ops ++ [op]) =
      events step p ops ++ [eventAt step (run step p ops) op] := events_concat p ops op
  rw [hConcat]
  generalize run step p ops = q at *
  obtain ⟨rfl, sample, nowNs, rfl, hAccepted⟩ :=
    accepts_stop hRests.timed hOrder hAccepts (by rw [hMission]; exact hWaypoint) hStop
  obtain ⟨hAdopts, hQualifies, hConfirmed, holdNs, hHoldNs, hHeld⟩ := hAccepted
  have hHeldAt := heldAt_of_adopted hQualifies
  have hAdoptsAt : AdoptsAt (eventAt step q (.observeMeasured sample nowNs)) sample nowNs :=
    ⟨rfl, hAdopts⟩
  cases hStart : q.stopConfirmationStartNs with
  | none =>
    -- the sample is confirmed and held at once
    rw [hStart] at hConfirmed
    rw [hRests.timed.hold hStart] at hHeld
    obtain ⟨confirmationNs, hConfirmationNs, hElapsed⟩ := hConfirmed
    rw [hMission] at hConfirmationNs
    refine ⟨_, confirmationNs, holdNs, _, sample, nowNs, _, sample, nowNs, _, sample, nowNs,
      suffix_append _ _, hConfirmationNs, hHoldNs, rfl, hAdoptsAt, mem_singleton_self _,
      hAdoptsAt, rfl, hAdoptsAt, hElapsed, hHeld, ?_⟩
    intro e he
    rw [mem_singleton.mp he]
    exact hHeldAt
  | some start =>
    obtain ⟨window, ⟨front, hFront⟩, hConfirming, hHold⟩ :=
      hRests.started start waypoint hStart (by rw [hMission]; exact hWaypoint)
    rw [hStart] at hConfirmed
    have hWindow := hConfirming.concat hHeldAt
    obtain ⟨e₀, s₀, now₀, hHead, hFirst, rfl⟩ := hWindow.first
    have hSuffix : window ++ [eventAt step q (.observeMeasured sample nowNs)] <:+
        events step p ops ++ [eventAt step q (.observeMeasured sample nowNs)] :=
      ⟨front, by rw [← hFront, append_assoc]⟩
    have hLast : (window ++ [eventAt step q (.observeMeasured sample nowNs)]).getLast? =
        some (eventAt step q (.observeMeasured sample nowNs)) := List.getLast?_concat
    cases hRunning : q.stopHoldStartNs with
    | none =>
      rw [hRunning] at hHeld
      obtain ⟨confirmationNs, hConfirmationNs, hElapsed⟩ := hConfirmed
      rw [hMission] at hConfirmationNs
      exact ⟨_, confirmationNs, holdNs, e₀, s₀, now₀, _, sample, nowNs, _, sample, nowNs, hSuffix,
        hConfirmationNs, hHoldNs, hHead, hFirst, mem_append_right _ (mem_singleton_self _),
        hAdoptsAt, hLast, hAdoptsAt, hElapsed, hHeld, hWindow.held⟩
    | some hold =>
      rw [hRunning] at hHeld
      obtain ⟨⟨confirmationNs, hConfirmationNs, hElapsed⟩, e₁, he₁, s₁, now₁, hSecond, rfl⟩ :=
        hHold hold hRunning
      rw [hMission] at hConfirmationNs
      exact ⟨_, confirmationNs, holdNs, e₀, s₀, now₀, e₁, s₁, now₁, _, sample, nowNs, hSuffix,
        hConfirmationNs, hHoldNs, hHead, hFirst, mem_append_left _ he₁, hSecond, hLast,
        hAdoptsAt, hElapsed, hHeld, hWindow.held⟩

def dockWaypoint : MissionWaypoint (ExactReal ℚ) :=
  ⟨"dock", ⟨lit 0, lit 0, lit 0⟩, lit 0.5, lit 2e-7, .stop⟩

def dockMission : Mission (ExactReal ℚ) :=
  { schemaVersion := 1
    id := "dock"
    frame := "map"
    waypoints := [dockWaypoint]
    planning := ⟨lit 1, .requireKnownFree⟩
    control := ⟨lit 0.15, lit 1e-7⟩ }

def dockStart : MissionProgress (ExactReal ℚ) :=
  (create dockMission).toOption.get (by decide +kernel)

def dockFlight : List (Operation (ExactReal ℚ)) :=
  [.resetIdentity 1 1, .activate, .observeMeasured (surveySample 0 0 100) 100,
    .observeContinuation ⟨⟨"dock", 1, 1⟩, ⟨0, 1⟩, .terminalHold, 1, 900, 1000⟩ 150,
    .observeMeasured (surveySample 0 0.1 200) 200, .observeMeasured (surveySample 0 0.1 200) 250,
    .observeMeasured (surveySample 0.1 0.1 300) 300]

theorem dock_held : create dockMission = .ok dockStart ∧
      Accepts (run step dockStart dockFlight) (.observeMeasured (surveySample 0.1 0 500) 500)
        ⟨0, 1⟩ ∧
      ∃ window e₀ s₀ now₀, window <:+ events step dockStart
          (dockFlight ++ [.observeMeasured (surveySample 0.1 0 500) 500]) ∧
        window.head? = some e₀ ∧ AdoptsAt e₀ s₀ now₀ ∧ ∀ e ∈ window, HeldAt ⟨0, 1⟩ dockWaypoint e := by
  have hCreate : create dockMission = .ok dockStart := by decide +kernel
  have hAccepts : Accepts (run step dockStart dockFlight)
      (.observeMeasured (surveySample 0.1 0 500) 500) ⟨0, 1⟩ :=
    .inr ⟨by decide +kernel, by decide +kernel⟩
  have hWaypoint : dockMission.waypoints[0]? = some dockWaypoint := rfl
  obtain ⟨window, -, -, e₀, s₀, now₀, -, -, -, -, -, -, hSuffix, -, -, hHead, hFirst, -, -, -, -, -,
    -, hHeld⟩ := stop_accepted_after_hold hCreate hAccepts hWaypoint rfl
  exact ⟨hCreate, hAccepts, window, e₀, s₀, now₀, hSuffix, hHead, hFirst, hHeld⟩

end UavNavigation.MissionProgress
