import UavNavigation.Machine
import UavNavigation.RouteProgress
import UavNavigation.Runs

/-!
# Mission progress

`mission_progress.hpp` and `mission_progress.cpp`: the single writer of the
mission policy. It issues one gate after another and accepts a gate on measured
evidence. A pass-through gate needs a crossing witness and a continuation of
the command beyond it; a stop gate needs a confirmed hold.
-/

namespace UavNavigation

set_option autoImplicit false

open FloatOps

structure MissionRouteIdentity where
  missionId : String
  revision : Nat := 1
  localizationEpoch : Nat := 0
deriving DecidableEq

structure MissionGateIdentity where
  waypointIndex : Nat := 0
  requestId : Nat := 0
deriving DecidableEq

structure MissionMeasuredSample (D : Type) where
  position : Vec3 D
  velocity : Vec3 D
  sourceStampNs : Int
  sequence : Nat
  localizationEpoch : Nat
deriving DecidableEq

structure MissionCrossingWitness (D : Type) where
  route : MissionRouteIdentity
  gate : MissionGateIdentity
  before : MissionMeasuredSample D
  after : MissionMeasuredSample D
  beforeCursor : RouteProjection D
  afterCursor : RouteProjection D
  crossingErrorM : D
deriving DecidableEq

inductive MissionContinuationKind where
  | main
  | terminalHold
  | safetySuffixStop
deriving DecidableEq

structure MissionContinuationWitness where
  route : MissionRouteIdentity
  gate : MissionGateIdentity
  kind : MissionContinuationKind
  bundleGeneration : Nat
  boundaryStampNs : Int
  validUntilNs : Int
deriving DecidableEq

inductive MissionProgressKind where
  | none
  | goal
  | complete
deriving DecidableEq

structure MissionProgressDecision (D : Type) where
  kind : MissionProgressKind
  gate : MissionGateIdentity
  accepted : Option MissionGateIdentity
  acceptanceErrorM : D
  acceptanceSpeedMps : D
deriving DecidableEq

structure MissionProgress (D : Type) where
  mission : Mission D
  measuredRoute : RouteProgress D
  identity : MissionRouteIdentity
  gate : MissionGateIdentity
  accepted : Option MissionGateIdentity
  previous : Option (MissionMeasuredSample D)
  crossing : Option (MissionCrossingWitness D)
  continuation : Option MissionContinuationWitness
  latest : Option (MissionMeasuredSample D)
  stopConfirmationStartNs : Option Int
  stopHoldStartNs : Option Int
  active : Bool
deriving DecidableEq

def maximumCrossingSampleGapNs : Int := 250000000

def sameRoute (a b : MissionRouteIdentity) : Bool :=
  a.missionId == b.missionId && a.revision == b.revision &&
    a.localizationEpoch == b.localizationEpoch

def sameGate (a b : MissionGateIdentity) : Bool :=
  a.waypointIndex == b.waypointIndex && a.requestId == b.requestId

@[simp] theorem sameRoute_iff (a b : MissionRouteIdentity) : sameRoute a b = true ↔ a = b := by
  cases a
  cases b
  simp [sameRoute, and_assoc]

@[simp] theorem sameGate_iff (a b : MissionGateIdentity) : sameGate a b = true ↔ a = b := by
  cases a
  cases b
  simp [sameGate]

section Operations
variable {D : Type} [FloatOps D]

def secondsToNs (seconds : D) : Option Int :=
  if !isFinite seconds || seconds < lit 0 || ofInt (2 ^ 63 - 1) / lit 1e9 < seconds then none
  else some (toInt (ceil (seconds * lit 1e9)))

def MissionMeasuredSample.valid (sample : MissionMeasuredSample D) : Bool :=
  sample.position.allFinite && sample.velocity.allFinite && 0 < sample.sourceStampNs &&
    0 < sample.sequence && 0 < sample.localizationEpoch

/-- `return {}`. -/
def MissionProgressDecision.nothing : MissionProgressDecision D := ⟨.none, {}, none, lit 0, lit 0⟩

def MissionProgressDecision.issued (gate : MissionGateIdentity) : MissionProgressDecision D :=
  ⟨.goal, gate, none, lit 0, lit 0⟩

namespace MissionProgress

def create (mission : Mission D) : Except String (MissionProgress D) :=
  match RouteProgress.create mission defaultBacktrackToleranceM with
  | .error message => .error message
  | .ok route =>
    if !mission.valid then .error "Core mission progress requires valid mission"
    else .ok
      { mission := mission
        measuredRoute := route
        identity := { missionId := mission.id }
        gate := {}
        accepted := none
        previous := none
        crossing := none
        continuation := none
        latest := none
        stopConfirmationStartNs := none
        stopHoldStartNs := none
        active := false }

def complete (p : MissionProgress D) : Bool :=
  p.accepted.any fun gate => (gate.waypointIndex + 1) % 2 ^ 32 == p.mission.waypoints.length

/-- The witnesses and stop timers, which every operation that moves on clears together. -/
def clearEvidence (p : MissionProgress D) : MissionProgress D :=
  { p with
    crossing := none
    continuation := none
    stopConfirmationStartNs := none
    stopHoldStartNs := none }

def resetIdentity (p : MissionProgress D) (routeRevision localizationEpoch : Nat) :
    Except String (MissionProgress D) :=
  if routeRevision = 0 || localizationEpoch = 0 then
    .error "mission identity requires nonzero route and localization"
  else
    let p := if p.identity.revision ≠ routeRevision then
        { p with gate := { p.gate with waypointIndex := 0 }, accepted := none }
      else p
    .ok { p.clearEvidence with
      identity := { p.identity with
        revision := routeRevision, localizationEpoch := localizationEpoch }
      measuredRoute := p.measuredRoute.reset
      previous := none
      latest := none
      active := false }

def activate (p : MissionProgress D) : MissionProgress D × MissionProgressDecision D :=
  if p.identity.localizationEpoch = 0 || p.complete then (p, .nothing)
  else
    let p := { p with active := true }.clearEvidence
    if p.latest.isNone || !p.measuredRoute.state.valid then (p, .nothing)
    else if p.gate.requestId = 2 ^ 64 - 1 then (p, .nothing)
    else
      let gate := { p.gate with requestId := p.gate.requestId + 1 }
      ({ p with gate := gate }, .issued gate)

def deactivate (p : MissionProgress D) : MissionProgress D :=
  { p.clearEvidence with active := false, previous := none }

def accept (p : MissionProgress D) (errorM speedMps : D) :
    MissionProgress D × MissionProgressDecision D :=
  let justAccepted := p.gate
  let p : MissionProgress D := { p.clearEvidence with accepted := some justAccepted }
  let nextIndex := (p.gate.waypointIndex + 1) % 2 ^ 32
  if p.mission.waypoints.length ≤ nextIndex then
    ({ p with active := false }, ⟨.complete, p.gate, some justAccepted, errorM, speedMps⟩)
  else
    let p : MissionProgress D := { p with gate := { p.gate with waypointIndex := nextIndex } }
    if p.gate.requestId = 2 ^ 64 - 1 then (p, .nothing)
    else
      let gate := { p.gate with requestId := p.gate.requestId + 1 }
      ({ p with gate := gate }, ⟨.goal, gate, some justAccepted, errorM, speedMps⟩)

def continuationMatches (p : MissionProgress D) : Bool :=
  p.continuation.any fun continuation =>
    sameRoute continuation.route p.identity && sameGate continuation.gate p.gate &&
      0 < continuation.bundleGeneration && 0 < continuation.boundaryStampNs &&
      continuation.boundaryStampNs ≤ continuation.validUntilNs

def routeSnapshot (p : MissionProgress D) : ImmutableRouteSnapshot D :=
  p.measuredRoute.snapshot p.mission.id p.mission.frame p.identity.revision p.gate.requestId
    p.gate.waypointIndex

def isCoincidentTerminalStop (p : MissionProgress D) : Bool :=
  passThroughNextWaypointIsCoincidentStop p.routeSnapshot

/-- The kinds of continuation that may carry the command through the gate. -/
def kindCarries (p : MissionProgress D) (kind : MissionContinuationKind) : Bool :=
  kind == .main || kind == .safetySuffixStop ||
    (kind == .terminalHold && p.isCoincidentTerminalStop)

def witnessRefused (p : MissionProgress D) (witness : MissionContinuationWitness) (nowNs : Int) :
    Bool :=
  !p.active || p.complete || nowNs ≤ 0 || witness.validUntilNs < nowNs ||
    !sameRoute witness.route p.identity || !sameGate witness.gate p.gate ||
    witness.bundleGeneration == 0 || witness.boundaryStampNs ≤ 0 ||
    witness.validUntilNs < witness.boundaryStampNs

def observeContinuation (p : MissionProgress D) (witness : MissionContinuationWitness)
    (nowNs : Int) : MissionProgress D × MissionProgressDecision D :=
  if p.witnessRefused witness nowNs then (p, .nothing)
  else if p.continuation.any (fun held => witness.bundleGeneration < held.bundleGeneration) then
    (p, .nothing)
  else
    let p := { p with continuation := some witness }
    match p.mission.waypoints[p.gate.waypointIndex]? with
    | none => (p, .nothing)
    | some waypoint =>
      match p.crossing, p.latest with
      | some crossing, some latest =>
        if waypoint.behavior ≠ .passThrough || !p.kindCarries witness.kind then (p, .nothing)
        else if (p.isCoincidentTerminalStop || witness.kind == .safetySuffixStop) &&
            p.mission.control.acceptanceSpeedMps < latest.velocity.norm then (p, .nothing)
        else if witness.kind == .safetySuffixStop &&
            !p.measuredRoute.insideAcceptance p.gate.waypointIndex latest.position then
          (p, .nothing)
        else p.accept crossing.crossingErrorM crossing.after.velocity.norm
      | _, _ => (p, .nothing)

/-! ## Measurements -/

def sampleRefused (p : MissionProgress D) (sample : MissionMeasuredSample D) (nowNs : Int) :
    Bool :=
  !sample.valid || nowNs < sample.sourceStampNs ||
    sample.localizationEpoch != p.identity.localizationEpoch || p.complete

def repeats (p : MissionProgress D) (sample : MissionMeasuredSample D) : Bool :=
  p.previous.any fun previous =>
    sample.sourceStampNs == previous.sourceStampNs && sample.sequence == previous.sequence

def unorderable (p : MissionProgress D) (sample : MissionMeasuredSample D) : Bool :=
  p.previous.any fun previous =>
    sample.sourceStampNs ≤ previous.sourceStampNs || sample.sequence ≤ previous.sequence

def gapExceeded (p : MissionProgress D) (sample : MissionMeasuredSample D) : Bool :=
  p.previous.any fun previous =>
    maximumCrossingSampleGapNs < sample.sourceStampNs - previous.sourceStampNs

def breakSegment (p : MissionProgress D) : MissionProgress D :=
  { p with crossing := none, previous := none }

/-- What an ordered sample leaves before the gate is looked at. -/
structure Sighting (D : Type) where
  progress : MissionProgress D
  prior : Option (MissionMeasuredSample D)
  beforeCursor : RouteProjection D
  /-- The sample backtracks on the route or crosses the gate in reverse. -/
  reversed : Bool

def gateTangent (p : MissionProgress D) : Vec3 D :=
  (p.measuredRoute.incomingTangent p.gate.waypointIndex).getD
    ((p.measuredRoute.outgoingTangent p.gate.waypointIndex).getD Vec3.zero)

def reverseCrossing (p : MissionProgress D) (sample : MissionMeasuredSample D) : Bool :=
  let tangent := p.gateTangent
  p.crossing.isSome && p.previous.any fun prior =>
    tangent.allFinite && lit 0 < tangent.norm &&
      (sample.position - prior.position).dot tangent < -defaultBacktrackToleranceM

def sight (p : MissionProgress D) (sample : MissionMeasuredSample D) : Sighting D :=
  let p := if p.gapExceeded sample then p.breakSegment else p
  let route := p.measuredRoute.update sample.position
  let reversed := route.state.backtrackingExceeded ||
    { p with measuredRoute := route }.reverseCrossing sample
  { progress := { p with
      measuredRoute := route
      previous := some sample
      latest := some sample
      crossing := if reversed then none else p.crossing }
    prior := p.previous
    beforeCursor := p.measuredRoute.state.projection
    reversed := reversed }

def recordCrossing (sighting : Sighting D) (sample : MissionMeasuredSample D) : MissionProgress D :=
  let p := sighting.progress
  if sighting.reversed then p
  else
    let near := sighting.prior.filter fun prior =>
      sample.sourceStampNs - prior.sourceStampNs ≤ maximumCrossingSampleGapNs
    let gapS := match near with
      | some prior => ofInt (sample.sourceStampNs - prior.sourceStampNs) / lit 1e9
      | none => nan
    match p.measuredRoute.measuredWaypointCrossingError p.gate.waypointIndex sample.position
        (near.map (·.position)) gapS (ofInt maximumCrossingSampleGapNs / lit 1e9) with
    | none => p
    | some crossingError =>
      { p with
        crossing := some
          { route := p.identity
            gate := p.gate
            before := sighting.prior.getD sample
            after := sample
            beforeCursor := sighting.beforeCursor
            afterCursor := p.measuredRoute.state.projection
            crossingErrorM := crossingError } }

/-- The first gate of a mission may be accepted without a continuation. -/
def initialInside (p : MissionProgress D) (waypoint : MissionWaypoint D)
    (sample : MissionMeasuredSample D) : Bool :=
  p.gate.waypointIndex == 0 && p.gate.requestId == 1 &&
    (sample.position - waypoint.positionEnu).norm ≤ waypoint.acceptanceRadiusM &&
    sample.velocity.norm ≤ p.mission.control.acceptanceSpeedMps

def continuationReady (p : MissionProgress D) (nowNs : Int) : Bool :=
  p.continuationMatches && p.continuation.any fun continuation =>
    nowNs ≤ continuation.validUntilNs && p.kindCarries continuation.kind

def judgePassThrough (p : MissionProgress D) (waypoint : MissionWaypoint D)
    (sample : MissionMeasuredSample D) (nowNs : Int) :
    MissionProgress D × MissionProgressDecision D :=
  match p.crossing with
  | none => (p, .nothing)
  | some crossing =>
    let ready := p.continuationReady nowNs
    let suffixStop := ready && p.continuation.any (·.kind == .safetySuffixStop)
    if !ready && !p.initialInside waypoint sample then (p, .nothing)
    else if (p.isCoincidentTerminalStop || suffixStop) &&
        p.mission.control.acceptanceSpeedMps < sample.velocity.norm then (p, .nothing)
    else if suffixStop &&
        !p.measuredRoute.insideAcceptance p.gate.waypointIndex sample.position then (p, .nothing)
    else p.accept crossing.crossingErrorM sample.velocity.norm

def judgeStop (p : MissionProgress D) (waypoint : MissionWaypoint D)
    (sample : MissionMeasuredSample D) (nowNs : Int) :
    MissionProgress D × MissionProgressDecision D :=
  let inside := p.measuredRoute.insideAcceptance p.gate.waypointIndex sample.position
  let slow : Bool := sample.velocity.norm ≤ p.mission.control.acceptanceSpeedMps
  let hasExecutionHold := p.continuationMatches && p.continuation.any (nowNs ≤ ·.validUntilNs)
  if !inside || !slow || !hasExecutionHold then
    ({ p with stopConfirmationStartNs := none, stopHoldStartNs := none }, .nothing)
  else
    let confirmationStartNs := p.stopConfirmationStartNs.getD sample.sourceStampNs
    let p := { p with stopConfirmationStartNs := some confirmationStartNs }
    match secondsToNs p.mission.control.acceptanceConfirmationS, secondsToNs waypoint.holdS with
    | some confirmationNs, some holdNs =>
      if sample.sourceStampNs - confirmationStartNs < confirmationNs then (p, .nothing)
      else
        let holdStartNs := p.stopHoldStartNs.getD sample.sourceStampNs
        let p := { p with stopHoldStartNs := some holdStartNs }
        if sample.sourceStampNs - holdStartNs < holdNs then (p, .nothing)
        else p.accept (sample.position - waypoint.positionEnu).norm sample.velocity.norm
    | _, _ => (p, .nothing)

/-- The gate part of `observeMeasured`. -/
def judge (sighting : Sighting D) (sample : MissionMeasuredSample D) (nowNs : Int) :
    MissionProgress D × MissionProgressDecision D :=
  let p := sighting.progress
  if !p.active then (p, .nothing)
  else if p.gate.requestId = 0 then
    let gate := { p.gate with requestId := 1 }
    ({ p with gate := gate }, .issued gate)
  else
    match p.mission.waypoints[p.gate.waypointIndex]? with
    | none => (p, .nothing)
    | some waypoint =>
      match waypoint.behavior with
      | .passThrough => (recordCrossing sighting sample).judgePassThrough waypoint sample nowNs
      | .stop => p.judgeStop waypoint sample nowNs

def observeMeasured (p : MissionProgress D) (sample : MissionMeasuredSample D) (nowNs : Int) :
    MissionProgress D × MissionProgressDecision D :=
  if p.sampleRefused sample nowNs then (p, .nothing)
  else if p.repeats sample then (p, .nothing)
  else if p.unorderable sample then (p.breakSegment, .nothing)
  else judge (p.sight sample) sample nowNs

end MissionProgress

end Operations

/-! ## Operations of the mission progress -/

namespace MissionProgress
variable {D : Type}

inductive Operation (D : Type) where
  | resetIdentity (routeRevision localizationEpoch : Nat)
  | activate
  | deactivate
  | observeContinuation (witness : MissionContinuationWitness) (nowNs : Int)
  | observeMeasured (sample : MissionMeasuredSample D) (nowNs : Int)

inductive Outcome (D : Type) where
  | done
  | threw (message : String)
  | decided (decision : MissionProgressDecision D)
deriving DecidableEq

def step [FloatOps D] (p : MissionProgress D) : Operation D → MissionProgress D × Outcome D
  | .resetIdentity routeRevision localizationEpoch =>
    match p.resetIdentity routeRevision localizationEpoch with
    | .ok q => (q, .done)
    | .error message => (p, .threw message)
  | .activate => Prod.map id .decided p.activate
  | .deactivate => (p.deactivate, .done)
  | .observeContinuation witness nowNs =>
    Prod.map id .decided (p.observeContinuation witness nowNs)
  | .observeMeasured sample nowNs => Prod.map id .decided (p.observeMeasured sample nowNs)

/-- The mission, the route, its identity, the gate and the accepted gate are untouched. -/
structure SameProgress (p q : MissionProgress D) : Prop where
  mission : q.mission = p.mission
  waypoints : q.measuredRoute.waypoints = p.measuredRoute.waypoints
  identity : q.identity = p.identity
  gate : q.gate = p.gate
  accepted : q.accepted = p.accepted

theorem SameProgress.refl (p : MissionProgress D) : SameProgress p p := ⟨rfl, rfl, rfl, rfl, rfl⟩

section Evidence
variable [FloatOps D]

/-- The crossing witness on which an operation may accept a pass-through gate. -/
def usedCrossing (p : MissionProgress D) : Operation D → Option (MissionCrossingWitness D)
  | .observeContinuation _ _ => p.crossing
  | .observeMeasured sample _ => (recordCrossing (p.sight sample) sample).crossing
  | _ => none

/-- Where the crossing witness of the state after an operation comes from. -/
inductive CrossingAfter (p : MissionProgress D) (op : Operation D) :
    Option (MissionCrossingWitness D) → Prop where
  | dropped : CrossingAfter p op none
  | kept : CrossingAfter p op p.crossing
  | recorded {crossing : MissionCrossingWitness D} {sample : MissionMeasuredSample D} {nowNs : Int}
      (hOp : op = .observeMeasured sample nowNs) (hUsed : p.usedCrossing op = some crossing)
      (hSample : crossing.after = sample) (hRoute : crossing.route = p.identity)
      (hGate : crossing.gate = p.gate) (hIssued : p.gate.requestId ≠ 0) : CrossingAfter p op (some crossing)

inductive ContinuationAfter (p : MissionProgress D) (op : Operation D) :
    Option MissionContinuationWitness → Prop where
  | dropped : ContinuationAfter p op none
  | kept : ContinuationAfter p op p.continuation
  | supplied {witness : MissionContinuationWitness} {nowNs : Int}
      (hOp : op = .observeContinuation witness nowNs) : ContinuationAfter p op (some witness)

/-- A live continuation of the current gate on the current route. -/
structure Carries (p : MissionProgress D) (witness : MissionContinuationWitness) (nowNs : Int) :
    Prop where
  route : witness.route = p.identity
  gate : witness.gate = p.gate
  generation : 0 < witness.bundleGeneration
  lease : nowNs ≤ witness.validUntilNs
  kind : witness.kind = .main ∨ witness.kind = .safetySuffixStop ∨
    (witness.kind = .terminalHold ∧ p.isCoincidentTerminalStop = true)

/-- What lets a crossed pass-through gate be accepted. -/
inductive PassEvidence (p : MissionProgress D) (waypoint : MissionWaypoint D) :
    Operation D → Prop where
  | supplied {witness : MissionContinuationWitness} {nowNs : Int}
      (hCarries : Carries p witness nowNs) :
      PassEvidence p waypoint (.observeContinuation witness nowNs)
  | held {sample : MissionMeasuredSample D} {nowNs : Int} {witness : MissionContinuationWitness}
      (hHeld : p.continuation = some witness) (hCarries : Carries p witness nowNs) :
      PassEvidence p waypoint (.observeMeasured sample nowNs)
  | initial {sample : MissionMeasuredSample D} {nowNs : Int}
      (hFirst : p.gate.waypointIndex = 0) (hRequest : p.gate.requestId = 1)
      (hInside : (sample.position - waypoint.positionEnu).norm ≤ waypoint.acceptanceRadiusM)
      (hSlow : sample.velocity.norm ≤ p.mission.control.acceptanceSpeedMps) :
      PassEvidence p waypoint (.observeMeasured sample nowNs)

/-- The gate's waypoint exists; a pass-through one was crossed and may be left. -/
structure Judged (p : MissionProgress D) (op : Operation D) (waypoint : MissionWaypoint D) :
    Prop where
  found : p.mission.waypoints[p.gate.waypointIndex]? = some waypoint
  passThrough : waypoint.behavior = .passThrough →
    (∃ crossing, p.usedCrossing op = some crossing ∧ CrossingAfter p op (some crossing)) ∧
      PassEvidence p waypoint op

inductive Effect (p : MissionProgress D) : Operation D → Outcome D → MissionProgress D → Prop where
  | threw {op : Operation D} (message : String) : Effect p op (.threw message) p
  | reidentified {q : MissionProgress D} (revision epoch : Nat)
      (hMission : q.mission = p.mission) (hRevision : q.identity.revision = revision)
      (hRequest : q.gate.requestId = p.gate.requestId)
      (hSame : revision = p.identity.revision → q.gate = p.gate ∧ q.accepted = p.accepted)
      (hNew : revision ≠ p.identity.revision → q.gate.waypointIndex = 0 ∧ q.accepted = none)
      (hCrossing : q.crossing = none) (hContinuation : q.continuation = none) :
      Effect p (.resetIdentity revision epoch) .done q
  | observed {op : Operation D} {out : Outcome D} {q : MissionProgress D}
      (hOut : out = .done ∨ out = .decided .nothing) (hFrame : SameProgress p q)
      (hCrossing : CrossingAfter p op q.crossing)
      (hContinuation : ContinuationAfter p op q.continuation) : Effect p op out q
  | issued {op : Operation D} {out : Outcome D} {q : MissionProgress D}
      (hOut : out = .decided (.issued q.gate)) (hIncomplete : p.complete = false)
      (hBound : p.gate.requestId ≠ 2 ^ 64 - 1) (hMission : q.mission = p.mission)
      (hIdentity : q.identity = p.identity)
      (hGate : q.gate = { p.gate with requestId := p.gate.requestId + 1 })
      (hAccepted : q.accepted = p.accepted)
      (hCrossing : q.crossing = none ∨ (q.crossing = p.crossing ∧ p.gate.requestId = 0))
      (hContinuation : ContinuationAfter p op q.continuation) : Effect p op out q
  | accepted {op : Operation D} {r : MissionProgress D} {waypoint : MissionWaypoint D}
      (errorM speedMps : D) (hIncomplete : p.complete = false) (hFrame : SameProgress p r)
      (hJudged : Judged p op waypoint) :
      Effect p op (.decided (r.accept errorM speedMps).2) (r.accept errorM speedMps).1

variable {p : MissionProgress D}

theorem Effect.refused {op : Operation D} : Effect p op (.decided .nothing) p :=
  .observed (.inr rfl) (.refl p) .kept .kept

section
variable (p : MissionProgress D)

theorem resetIdentity_effect (revision epoch : Nat) :
    Effect p (.resetIdentity revision epoch) (step p (.resetIdentity revision epoch)).2
      (step p (.resetIdentity revision epoch)).1 := by
  unfold step resetIdentity
  dsimp only
  by_cases hZero : (decide (revision = 0) || decide (epoch = 0)) = true
  · rw [if_pos hZero]
    exact .threw _
  rw [if_neg hZero]
  by_cases hNew : p.identity.revision ≠ revision
  · simp only [hNew, if_true, ne_eq, not_false_eq_true]
    refine .reidentified revision epoch rfl rfl rfl ?_ ?_ rfl rfl
    · intro hSame
      exact absurd hSame.symm hNew
    · intro _
      exact ⟨rfl, rfl⟩
  · simp only [hNew, if_false]
    refine .reidentified revision epoch rfl rfl rfl ?_ ?_ rfl rfl
    · intro _
      exact ⟨rfl, rfl⟩
    · intro hOther
      exact absurd (Ne.symm hOther) hNew

theorem activate_effect : Effect p .activate (.decided p.activate.2) p.activate.1 := by
  unfold activate
  split
  · exact .refused
  rename_i hGuard
  simp only [Bool.or_eq_true, decide_eq_true_eq, not_or, Bool.not_eq_true] at hGuard
  dsimp only
  split
  · exact .observed (.inr rfl) ⟨rfl, rfl, rfl, rfl, rfl⟩ .dropped .dropped
  split
  · exact .observed (.inr rfl) ⟨rfl, rfl, rfl, rfl, rfl⟩ .dropped .dropped
  · rename_i hBound
    exact .issued rfl hGuard.2 hBound rfl rfl rfl rfl (.inl rfl) .dropped

theorem deactivate_effect : Effect p .deactivate .done p.deactivate :=
  .observed (.inl rfl) ⟨rfl, rfl, rfl, rfl, rfl⟩ .dropped .dropped

theorem kindCarries_iff (kind : MissionContinuationKind) :
    p.kindCarries kind = true ↔ kind = .main ∨ kind = .safetySuffixStop ∨
      (kind = .terminalHold ∧ p.isCoincidentTerminalStop = true) := by
  simp [kindCarries, or_assoc]

end

theorem SameProgress.coincident {q : MissionProgress D} (h : SameProgress p q) :
    q.isCoincidentTerminalStop = p.isCoincidentTerminalStop := by
  simp only [isCoincidentTerminalStop, passThroughNextWaypointIsCoincidentStop, routeSnapshot,
    RouteProgress.snapshot, h.gate, h.waypoints]

theorem SameProgress.carries {q : MissionProgress D} (h : SameProgress p q)
    {witness : MissionContinuationWitness} {nowNs : Int} (hCarries : Carries q witness nowNs) :
    Carries p witness nowNs := by
  obtain ⟨hRoute, hGate, hGeneration, hLease, hKind⟩ := hCarries
  rw [h.identity] at hRoute
  rw [h.gate] at hGate
  rw [h.coincident] at hKind
  exact ⟨hRoute, hGate, hGeneration, hLease, hKind⟩

theorem observeContinuation_effect (p : MissionProgress D) (witness : MissionContinuationWitness)
    (nowNs : Int) :
    Effect p (.observeContinuation witness nowNs) (.decided (p.observeContinuation witness nowNs).2)
      (p.observeContinuation witness nowNs).1 := by
  have hFrame : SameProgress p { p with continuation := some witness } :=
    ⟨rfl, rfl, rfl, rfl, rfl⟩
  have hStored : Effect p (.observeContinuation witness nowNs) (.decided .nothing)
      { p with continuation := some witness } :=
    .observed (.inr rfl) hFrame .kept (.supplied rfl)
  unfold observeContinuation
  split
  · exact .refused
  rename_i hAdmitted
  simp only [witnessRefused, Bool.or_eq_true, not_or, Bool.not_eq_true', Bool.not_eq_false,
    decide_eq_true_eq, sameRoute_iff, sameGate_iff, beq_iff_eq, Bool.not_eq_true] at hAdmitted
  obtain ⟨⟨⟨⟨⟨⟨⟨⟨_, hIncomplete⟩, _⟩, hLease⟩, hRoute⟩, hGate⟩, hGeneration⟩, _⟩, _⟩ := hAdmitted
  split
  · exact .refused
  dsimp only
  split
  · exact hStored
  rename_i waypoint hWaypoint
  split
  · rename_i crossing latest hCrossing _
    split
    · exact hStored
    rename_i hKind
    split
    · exact hStored
    split
    · exact hStored
    simp only [Bool.or_eq_true, decide_eq_true_eq, not_or, Bool.not_eq_true', Bool.not_eq_false,
      kindCarries_iff] at hKind
    refine .accepted _ _ hIncomplete hFrame ⟨hWaypoint, fun _ => ⟨⟨crossing, hCrossing, ?_⟩, ?_⟩⟩
    · rw [← show p.crossing = some crossing from hCrossing]
      exact .kept
    · exact .supplied ⟨hRoute, hGate, by omega, by omega, hKind.2⟩
  · exact hStored

/-! ### Measurements -/

section
variable (p : MissionProgress D) (sample : MissionMeasuredSample D)

theorem sight_frame : SameProgress p (p.sight sample).progress := by
  have hRoute : (p.measuredRoute.update sample.position).waypoints = p.measuredRoute.waypoints := by
    unfold RouteProgress.update
    dsimp only
    split <;> rfl
  unfold sight
  split <;> exact ⟨rfl, hRoute, rfl, rfl, rfl⟩

theorem sight_keeps : (p.sight sample).progress.crossing = none ∨
      (p.sight sample).progress.crossing = p.crossing := by
  unfold sight breakSegment
  dsimp only
  split_ifs <;> simp

theorem sight_crossing (nowNs : Int) :
    CrossingAfter p (.observeMeasured sample nowNs) (p.sight sample).progress.crossing := by
  rcases sight_keeps p sample with hNone | hKept
  · exact hNone ▸ .dropped
  · exact hKept ▸ .kept

theorem sight_continuation : (p.sight sample).progress.continuation = p.continuation := by
  unfold sight breakSegment
  split <;> rfl

theorem recordCrossing_frame : SameProgress p (recordCrossing (p.sight sample) sample) ∧
      (recordCrossing (p.sight sample) sample).continuation = p.continuation := by
  have hFrame := sight_frame p sample
  have hContinuation := sight_continuation p sample
  fun_cases recordCrossing
  case case3 =>
    exact ⟨⟨hFrame.mission, hFrame.waypoints, hFrame.identity, hFrame.gate, hFrame.accepted⟩,
      hContinuation⟩
  all_goals exact ⟨hFrame, hContinuation⟩

end

theorem recordCrossing_recorded (sighting : Sighting D) (sample : MissionMeasuredSample D) :
    (recordCrossing sighting sample).crossing = sighting.progress.crossing ∨
      ∃ crossing, (recordCrossing sighting sample).crossing = some crossing ∧
        crossing.after = sample ∧ crossing.route = sighting.progress.identity ∧
        crossing.gate = sighting.progress.gate := by
  fun_cases recordCrossing
  case case3 => exact .inr ⟨_, rfl, rfl, rfl, rfl⟩
  all_goals exact .inl rfl

theorem recordCrossing_crossing (p : MissionProgress D) (sample : MissionMeasuredSample D)
    (nowNs : Int) (hIssued : p.gate.requestId ≠ 0) :
    CrossingAfter p (.observeMeasured sample nowNs)
      (recordCrossing (p.sight sample) sample).crossing := by
  have hFrame := sight_frame p sample
  rcases recordCrossing_recorded (p.sight sample) sample with
    hKept | ⟨crossing, hUsed, hSample, hRoute, hGate⟩
  · rw [hKept]
    exact sight_crossing p sample nowNs
  · rw [hUsed]
    exact .recorded rfl hUsed hSample (hRoute.trans hFrame.identity) (hGate.trans hFrame.gate)
      hIssued

theorem carries_of_ready {nowNs : Int} (h : p.continuationReady nowNs = true) :
    ∃ witness, p.continuation = some witness ∧ Carries p witness nowNs := by
  unfold continuationReady continuationMatches at h
  cases hHeld : p.continuation with
  | none => simp [hHeld] at h
  | some witness =>
    simp only [hHeld, Option.any_some, Bool.and_eq_true, decide_eq_true_eq, sameRoute_iff,
      sameGate_iff, kindCarries_iff] at h
    obtain ⟨⟨⟨⟨⟨hRoute, hGate⟩, hGeneration⟩, _⟩, _⟩, hLease, hKind⟩ := h
    exact ⟨witness, rfl, hRoute, hGate, hGeneration, hLease, hKind⟩

section
variable (p : MissionProgress D) (sample : MissionMeasuredSample D) (nowNs : Int)

section
variable (waypoint : MissionWaypoint D) (hIncomplete : p.complete = false)
include hIncomplete

theorem judgePassThrough_effect (hIssued : p.gate.requestId ≠ 0)
    (hWaypoint : p.mission.waypoints[p.gate.waypointIndex]? = some waypoint) :
    Effect p (.observeMeasured sample nowNs)
      (.decided ((recordCrossing (p.sight sample) sample).judgePassThrough waypoint sample nowNs).2)
      ((recordCrossing (p.sight sample) sample).judgePassThrough waypoint sample nowNs).1 := by
  obtain ⟨hFrame, hContinuation⟩ := recordCrossing_frame p sample
  have hCrossing := recordCrossing_crossing p sample nowNs hIssued
  have hUsed : p.usedCrossing (.observeMeasured sample nowNs) =
      (recordCrossing (p.sight sample) sample).crossing := rfl
  generalize recordCrossing (p.sight sample) sample = r at *
  have hSeen : Effect p (.observeMeasured sample nowNs) (.decided .nothing) r := by
    refine .observed (.inr rfl) hFrame hCrossing ?_
    rw [hContinuation]
    exact .kept
  unfold judgePassThrough
  split
  · exact hSeen
  rename_i crossing hSome
  dsimp only
  split
  · exact hSeen
  rename_i hReady
  split
  · exact hSeen
  split
  · exact hSeen
  refine .accepted _ _ hIncomplete hFrame ⟨hWaypoint, fun _ => ⟨⟨crossing, ?_, ?_⟩, ?_⟩⟩
  · rw [hUsed, hSome]
  · rw [← hSome]
    exact hCrossing
  · cases hNow : r.continuationReady nowNs with
    | true =>
      obtain ⟨witness, hHeld, hCarries⟩ := carries_of_ready hNow
      rw [hContinuation] at hHeld
      exact .held hHeld (hFrame.carries hCarries)
    | false =>
      simp only [hNow, Bool.not_false, Bool.true_and, Bool.not_eq_true', Bool.not_eq_false,
        initialInside, Bool.and_eq_true, beq_iff_eq, decide_eq_true_eq, hFrame.gate,
        hFrame.mission] at hReady
      exact .initial hReady.1.1.1 hReady.1.1.2 hReady.1.2 hReady.2

theorem judgeStop_effect (hWaypoint : p.mission.waypoints[p.gate.waypointIndex]? = some waypoint)
    (hStop : waypoint.behavior = .stop) :
    Effect p (.observeMeasured sample nowNs)
      (.decided ((p.sight sample).progress.judgeStop waypoint sample nowNs).2)
      ((p.sight sample).progress.judgeStop waypoint sample nowNs).1 := by
  have hFrame := sight_frame p sample
  have hContinuation := sight_continuation p sample
  have hCrossing := sight_crossing p sample nowNs
  have hJudged : Judged p (.observeMeasured sample nowNs) waypoint := by
    refine ⟨hWaypoint, ?_⟩
    intro hPass
    rw [hStop] at hPass
    cases hPass
  generalize (p.sight sample).progress = r at *
  -- the stop timers are the only fields of `r` that the judgement may edit
  have hTimed (confirmation hold : Option Int) :
      Effect p (.observeMeasured sample nowNs) (.decided .nothing)
        { r with stopConfirmationStartNs := confirmation, stopHoldStartNs := hold } := by
    exact .observed (.inr rfl)
      ⟨hFrame.mission, hFrame.waypoints, hFrame.identity, hFrame.gate, hFrame.accepted⟩
      hCrossing (hContinuation ▸ .kept)
  fun_cases judgeStop
  case case1 => exact hTimed none none
  case case4 =>
    exact .accepted _ _ hIncomplete
      ⟨hFrame.mission, hFrame.waypoints, hFrame.identity, hFrame.gate, hFrame.accepted⟩ hJudged
  all_goals exact hTimed _ _

theorem judge_effect :
    Effect p (.observeMeasured sample nowNs) (.decided (judge (p.sight sample) sample nowNs).2)
      (judge (p.sight sample) sample nowNs).1 := by
  have hFrame := sight_frame p sample
  have hContinuation := sight_continuation p sample
  have hSeen : Effect p (.observeMeasured sample nowNs) (.decided .nothing)
      (p.sight sample).progress :=
    .observed (.inr rfl) hFrame (sight_crossing p sample nowNs) (hContinuation ▸ .kept)
  unfold judge
  dsimp only
  split
  · exact hSeen
  split
  · rename_i hZero
    have hFirst : p.gate.requestId = 0 := by rw [← hFrame.gate, hZero]
    refine .issued rfl hIncomplete (by omega) hFrame.mission hFrame.identity ?_ hFrame.accepted
      ?_ (hContinuation ▸ .kept)
    · rw [hFrame.gate, hFirst]
    · rcases sight_keeps p sample with hNone | hKept
      · exact .inl hNone
      · exact .inr ⟨hKept, hFirst⟩
  rename_i hIssued
  rw [hFrame.gate] at hIssued
  split
  · exact hSeen
  rename_i waypoint hFound
  rw [hFrame.mission, hFrame.gate] at hFound
  cases hBehavior : waypoint.behavior with
  | passThrough =>
    exact judgePassThrough_effect p sample nowNs waypoint hIncomplete hIssued hFound
  | stop => exact judgeStop_effect p sample nowNs waypoint hIncomplete hFound hBehavior

end

theorem observeMeasured_effect :
    Effect p (.observeMeasured sample nowNs) (.decided (p.observeMeasured sample nowNs).2)
      (p.observeMeasured sample nowNs).1 := by
  unfold observeMeasured
  split
  · exact .refused
  rename_i hAdmitted
  simp only [sampleRefused, Bool.or_eq_true, not_or, Bool.not_eq_true] at hAdmitted
  split
  · exact .refused
  split
  · exact .observed (.inr rfl) ⟨rfl, rfl, rfl, rfl, rfl⟩ .dropped .kept
  · exact judge_effect p sample nowNs hAdmitted.2

end

theorem step_effect (p : MissionProgress D) (op : Operation D) :
    Effect p op (step p op).2 (step p op).1 := by
  cases op with
  | resetIdentity revision epoch => exact resetIdentity_effect p revision epoch
  | activate => exact activate_effect p
  | deactivate => exact deactivate_effect p
  | observeContinuation witness nowNs => exact observeContinuation_effect p witness nowNs
  | observeMeasured sample nowNs => exact observeMeasured_effect p sample nowNs

end Evidence

/-! ## A concrete mission

Two pass-through waypoints and a stop on a line, flown in exact arithmetic.
-/

def surveyWaypoint (id : String) (x : ℚ) (behavior : WaypointBehavior) :
    MissionWaypoint (ExactReal ℚ) :=
  ⟨id, ⟨lit x, lit 0, lit 0⟩, lit 0.5, lit 0, behavior⟩

def surveyMission : Mission (ExactReal ℚ) :=
  { schemaVersion := 1
    id := "survey"
    frame := "map"
    waypoints := [surveyWaypoint "first" 0 .passThrough, surveyWaypoint "second" 10 .passThrough,
      surveyWaypoint "last" 20 .stop]
    planning := ⟨lit 1, .requireKnownFree⟩
    control := ⟨lit 0.15, lit 0⟩ }

def surveyStart : MissionProgress (ExactReal ℚ) :=
  (create surveyMission).toOption.get (by decide +kernel)

def surveySample (x speed : ℚ) (stampNs : Nat) : MissionMeasuredSample (ExactReal ℚ) :=
  ⟨⟨lit x, lit 0, lit 0⟩, ⟨lit speed, lit 0, lit 0⟩, stampNs, stampNs, 1⟩

def surveyContinuation (waypointIndex requestId : Nat) : MissionContinuationWitness :=
  ⟨⟨"survey", 1, 1⟩, ⟨waypointIndex, requestId⟩, .main, 1, 900, 1000⟩

/-- The first gate is accepted where the vehicle stands, the second on a supplied
continuation after its crossing, the last one on a confirmed stop. -/
def surveyFlight : List (Operation (ExactReal ℚ)) :=
  [.resetIdentity 1 1, .activate, .observeMeasured (surveySample 0 0 100) 100,
    .observeMeasured (surveySample 0.1 0.1 200) 200, .observeMeasured (surveySample 9.9 1 300) 300,
    .observeContinuation (surveyContinuation 1 2) 400,
    .observeContinuation (surveyContinuation 2 3) 500,
    .observeMeasured (surveySample 20 0.1 600) 600]

end MissionProgress

end UavNavigation
