import UavNavigation.World
import UavNavigation.ExactReals

/-!
# Route geometry and measured progress

`route_progress.hpp` and `route_progress.cpp`: the polyline through the
waypoints, the projection of a measured position onto it, and the monotonic
progress along it. A route never accepts a waypoint by itself.
-/

namespace UavNavigation

set_option autoImplicit false

open FloatOps

structure RouteSegment (D : Type) where
  startWaypointIndex : Nat
  endWaypointIndex : Nat
  startArcM : D
  endArcM : D
  lengthM : D
  start : Vec3 D
  stop : Vec3 D
  tangent : Vec3 D
deriving DecidableEq

structure RouteProjection (D : Type) where
  valid : Bool
  segmentIndex : Nat
  arcLengthM : D
  lateralErrorM : D
  segmentFraction : D
  point : Vec3 D
  tangent : Vec3 D
deriving DecidableEq

structure RouteProgressState (D : Type) where
  valid : Bool
  backtrackingExceeded : Bool
  projection : RouteProjection D
  progressArcM : D
deriving DecidableEq

structure RouteProgress (D : Type) where
  waypoints : List (MissionWaypoint D)
  segments : List (RouteSegment D)
  waypointArcLengths : List D
  backtrackToleranceM : D
  state : RouteProgressState D
  totalLengthM : D
deriving DecidableEq

structure ImmutableRouteSnapshot (D : Type) where
  missionId : String
  frame : String
  routeRevision : Nat
  requestId : Nat
  activeWaypointIndex : Nat
  waypoints : List (MissionWaypoint D)
  segments : List (RouteSegment D)
  waypointArcLengthsM : List D
  measuredProgress : RouteProgressState D
  totalLengthM : D
deriving DecidableEq

section Definitions
variable {D : Type} [FloatOps D]

def RouteProjection.initial : RouteProjection D :=
  ⟨false, 2 ^ 64 - 1, lit 0, lit 0, lit 0, Vec3.zero, Vec3.zero⟩

def RouteProgressState.initial : RouteProgressState D :=
  ⟨false, false, RouteProjection.initial, lit 0⟩

/-- `RouteProgressConfig{}.backtrack_tolerance_m`. -/
def defaultBacktrackToleranceM : D := lit 0.5

def minimumSegmentLengthM : D := lit 1e-9

def projectionDistanceTieSquaredM2 : D := lit 1e-12

/-- What the constructor has built after a prefix of the waypoints. -/
structure RouteBuild (D : Type) where
  segments : List (RouteSegment D)
  waypointArcLengths : List D
  totalLengthM : D

/-- One turn of the constructor's loop over the waypoint at `index`. -/
def RouteBuild.extend (build : RouteBuild D) (index : Nat)
    (previous : Option (MissionWaypoint D)) (waypoint : MissionWaypoint D) :
    Except String (RouteBuild D) :=
  if !waypoint.geometryValid then .error "route waypoint geometry is invalid"
  else
    match previous with
    | none => .ok { build with waypointArcLengths := build.waypointArcLengths ++ [lit 0] }
    | some previous =>
      let delta := waypoint.positionEnu - previous.positionEnu
      let lengthM := delta.norm
      if !isFinite lengthM then .error "route waypoint segment is non-finite"
      else if minimumSegmentLengthM < lengthM then
        let endArcM := build.totalLengthM + lengthM
        if !isFinite endArcM || endArcM ≤ build.totalLengthM then
          .error "route arc length is not representable"
        else
          let segment : RouteSegment D :=
            { startWaypointIndex := index - 1
              endWaypointIndex := index
              startArcM := build.totalLengthM
              endArcM := endArcM
              lengthM := lengthM
              start := previous.positionEnu
              stop := waypoint.positionEnu
              tangent := delta.divide lengthM }
          .ok ⟨build.segments ++ [segment], build.waypointArcLengths ++ [endArcM], endArcM⟩
      else
        .ok { build with
          waypointArcLengths := build.waypointArcLengths ++ [build.totalLengthM] }

def RouteBuild.extendAll (build : RouteBuild D) (index : Nat)
    (previous : Option (MissionWaypoint D)) :
    List (MissionWaypoint D) → Except String (RouteBuild D)
  | [] => .ok build
  | waypoint :: rest =>
    match build.extend index previous waypoint with
    | .error message => .error message
    | .ok build => build.extendAll (index + 1) (some waypoint) rest

def RouteProgress.create (mission : Mission D) (backtrackToleranceM : D) :
    Except String (RouteProgress D) :=
  if !mission.valid then .error "route progress requires a valid mission contract"
  else if !isFinite backtrackToleranceM || backtrackToleranceM < lit 0 then
    .error "route backtrack tolerance must be finite and non-negative"
  else
    match RouteBuild.extendAll ⟨[], [], lit 0⟩ 0 none mission.waypoints with
    | .error message => .error message
    | .ok build => .ok
        { waypoints := mission.waypoints
          segments := build.segments
          waypointArcLengths := build.waypointArcLengths
          backtrackToleranceM := backtrackToleranceM
          state := RouteProgressState.initial
          totalLengthM := build.totalLengthM }

/-! ## Projection -/

structure SegmentFoot (D : Type) where
  fraction : D
  point : Vec3 D
  distanceSquared : D

def RouteSegment.pointAt (segment : RouteSegment D) (fraction : D) : Vec3 D :=
  segment.start + Vec3.scale fraction (segment.stop - segment.start)

def RouteSegment.rawFraction (segment : RouteSegment D) (position : Vec3 D) : D :=
  (position - segment.start).dot segment.tangent / segment.lengthM

/-- The two loops over the segments skip one whose fraction is not finite. -/
def RouteSegment.foot (segment : RouteSegment D) (position : Vec3 D) : Option (SegmentFoot D) :=
  let rawFraction := segment.rawFraction position
  if !isFinite rawFraction then none
  else
    let fraction := clamp rawFraction (lit 0) (lit 1)
    let point := segment.pointAt fraction
    some ⟨fraction, point, (position - point).squaredNorm⟩

/-- The projection onto a foot of the segment at `index`. -/
def RouteProjection.onto (segment : RouteSegment D) (index : Nat) (fraction : D) (point : Vec3 D)
    (lateralErrorM : D) : RouteProjection D :=
  ⟨true, index, segment.startArcM + fraction * segment.lengthM, lateralErrorM, fraction, point,
    segment.tangent⟩

/-- The loop of `project` with the best squared distance so far. -/
def nearestFrom (position : Vec3 D) (best : D) (result : RouteProjection D) (index : Nat) :
    List (RouteSegment D) → RouteProjection D
  | [] => result
  | segment :: rest =>
    match segment.foot position with
    | none => nearestFrom position best result (index + 1) rest
    | some foot =>
      if !isFinite foot.distanceSquared || best ≤ foot.distanceSquared then
        nearestFrom position best result (index + 1) rest
      else
        nearestFrom position foot.distanceSquared
          (.onto segment index foot.fraction foot.point (sqrt foot.distanceSquared))
          (index + 1) rest

/-- The loop of `update` over geometrically tied branches, with the distance of
the chosen arc from the previous progress. -/
def tiedBranchFrom (position : Vec3 D) (bestDistanceSquared previousProgress : D)
    (bestArcDistance : D) (projection : RouteProjection D) (index : Nat) :
    List (RouteSegment D) → RouteProjection D
  | [] => projection
  | segment :: rest =>
    let skip := tiedBranchFrom position bestDistanceSquared previousProgress bestArcDistance
      projection (index + 1) rest
    match segment.foot position with
    | none => skip
    | some foot =>
      if !isFinite foot.distanceSquared ||
          projectionDistanceTieSquaredM2 < abs (foot.distanceSquared - bestDistanceSquared) then
        skip
      else
        let arc := segment.startArcM + foot.fraction * segment.lengthM
        let arcDistance := abs (arc - previousProgress)
        let closerToProgress : Bool := arcDistance + lit 1e-12 < bestArcDistance
        let forwardOnTie : Bool :=
          abs (arcDistance - bestArcDistance) ≤ lit 1e-12 && projection.arcLengthM < arc
        if !closerToProgress && !forwardOnTie then skip
        else
          tiedBranchFrom position bestDistanceSquared previousProgress arcDistance
            (.onto segment index foot.fraction foot.point (sqrt foot.distanceSquared))
            (index + 1) rest

end Definitions

namespace RouteProgress
variable {D : Type} [FloatOps D]

def reset (route : RouteProgress D) : RouteProgress D :=
  { route with state := RouteProgressState.initial }

def project (route : RouteProgress D) (position : Vec3 D) : RouteProjection D :=
  match route.waypoints.head? with
  | none => .initial
  | some first =>
    if !position.allFinite then .initial
    else if route.segments.isEmpty then
      let distanceM := (position - first.positionEnu).norm
      if !isFinite distanceM then .initial
      else
        { RouteProjection.initial with
          valid := true, lateralErrorM := distanceM, point := first.positionEnu }
    else nearestFrom position infinity .initial 0 route.segments

/-- A later leg may be nearer than the active one before the connecting turn;
within the tolerance the active leg is kept. -/
def keepActiveLeg (route : RouteProgress D) (position : Vec3 D)
    (projection : RouteProjection D) : RouteProjection D :=
  match route.segments[route.state.projection.segmentIndex]? with
  | none => projection
  | some segment =>
    if route.state.valid && route.state.projection.valid &&
        route.state.projection.segmentIndex + 1 < projection.segmentIndex then
      let fraction := clamp (segment.rawFraction position) (lit 0) (lit 1)
      let point := segment.pointAt fraction
      let distance := (position - point).norm
      if isFinite distance && distance ≤ projection.lateralErrorM + route.backtrackToleranceM then
        { RouteProjection.onto segment route.state.projection.segmentIndex fraction point
            distance with valid := projection.valid }
      else projection
    else projection

/-- Among tied branches, the arc closest to the previous progress. -/
def resolveTies (route : RouteProgress D) (position : Vec3 D) (projection : RouteProjection D) :
    RouteProjection D :=
  if route.state.valid && !route.segments.isEmpty then
    tiedBranchFrom position (projection.lateralErrorM * projection.lateralErrorM)
      route.state.progressArcM (abs (projection.arcLengthM - route.state.progressArcM))
      projection 0 route.segments
  else projection

def update (route : RouteProgress D) (position : Vec3 D) : RouteProgress D :=
  let projection := route.project position
  if !projection.valid then route
  else
    let projection := route.resolveTies position (route.keepActiveLeg position projection)
    { route with
      state :=
        { valid := true
          backtrackingExceeded := route.state.valid &&
            projection.arcLengthM + route.backtrackToleranceM < route.state.progressArcM
          projection := projection
          progressArcM := if route.state.valid then
              max route.state.progressArcM projection.arcLengthM
            else projection.arcLengthM } }

def incomingTangent (route : RouteProgress D) (waypointIndex : Nat) : Option (Vec3 D) :=
  if route.waypoints.length ≤ waypointIndex then none
  else (route.segments.reverse.find? (·.endWaypointIndex ≤ waypointIndex)).map (·.tangent)

def outgoingTangent (route : RouteProgress D) (waypointIndex : Nat) : Option (Vec3 D) :=
  if route.waypoints.length ≤ waypointIndex then none
  else (route.segments.find? (waypointIndex ≤ ·.startWaypointIndex)).map (·.tangent)

def insideAcceptance (route : RouteProgress D) (waypointIndex : Nat) (position : Vec3 D) : Bool :=
  match route.waypoints[waypointIndex]? with
  | none => false
  | some waypoint =>
    let distanceM := (position - waypoint.positionEnu).norm
    position.allFinite && isFinite distanceM && distanceM ≤ waypoint.acceptanceRadiusM

def segmentDistanceToPoint (start stop point : Vec3 D) : Option D :=
  if !start.allFinite || !stop.allFinite || !point.allFinite then none
  else
    let delta := stop - start
    let lengthSquared := delta.squaredNorm
    if !isFinite lengthSquared then none
    else
      let fraction := if lit 1e-12 < lengthSquared then
          clamp ((point - start).dot delta / lengthSquared) (lit 0) (lit 1)
        else lit 0
      let distance := (start + Vec3.scale fraction delta - point).norm
      if isFinite distance then some distance else none

/-- The projection of a crossing, kept on the branch `update` chose, must lie on
a segment that touches the waypoint. -/
def orderedProjection (route : RouteProgress D) (waypointIndex : Nat) (position : Vec3 D) :
    Option (RouteProjection D) :=
  let projection := route.project position
  if !projection.valid then none
  else
    let statePointDistanceM := (route.state.projection.point - position).norm
    let projection := if route.state.valid && route.state.projection.valid &&
        isFinite statePointDistanceM &&
        statePointDistanceM ≤ projection.lateralErrorM + lit 1e-6 &&
        route.state.projection.lateralErrorM ≤ projection.lateralErrorM + lit 1e-6 then
        route.state.projection
      else projection
    if route.segments.isEmpty then some projection
    else
      match route.segments[projection.segmentIndex]?, route.waypointArcLengths[waypointIndex]? with
      | some segment, some waypointArcM =>
        if lit 1e-6 < abs (segment.startArcM - waypointArcM) &&
            lit 1e-6 < abs (segment.endArcM - waypointArcM) then none
        else some projection
      | _, _ => none

def measuredWaypointCrossingError (route : RouteProgress D) (waypointIndex : Nat)
    (current : Vec3 D) (previous : Option (Vec3 D)) (sampleGapS maximumSampleGapS : D) :
    Option D :=
  match route.waypoints[waypointIndex]? with
  | none => none
  | some waypoint =>
    if !current.allFinite then none
    else
      let currentError := (current - waypoint.positionEnu).norm
      if isFinite currentError && currentError ≤ waypoint.acceptanceRadiusM then
        (route.orderedProjection waypointIndex current).map fun _ => currentError
      else
        match previous, route.incomingTangent waypointIndex with
        | some previous, some incoming =>
          if !previous.allFinite || !isFinite sampleGapS || !isFinite maximumSampleGapS ||
              sampleGapS < lit 0 || maximumSampleGapS < lit 0 ||
              maximumSampleGapS < sampleGapS then none
          else
            let measuredMotion := current - previous
            if !measuredMotion.allFinite || measuredMotion.dot incoming ≤ lit 1e-6 then none
            else
              match segmentDistanceToPoint previous current waypoint.positionEnu with
              | none => none
              | some error =>
                if waypoint.acceptanceRadiusM + lit 1e-6 < error then none
                else (route.orderedProjection waypointIndex current).map fun _ => error
        | _, _ => none

def snapshot (route : RouteProgress D) (missionId frame : String) (routeRevision requestId : Nat)
    (activeWaypointIndex : Nat) : ImmutableRouteSnapshot D :=
  ⟨missionId, frame, routeRevision, requestId, activeWaypointIndex, route.waypoints,
    route.segments, route.waypointArcLengths, route.state, route.totalLengthM⟩

end RouteProgress

/-- A pass-through checkpoint followed by a stop at the same place. -/
def passThroughNextWaypointIsCoincidentStop {D : Type} [FloatOps D]
    (route : ImmutableRouteSnapshot D) : Bool :=
  match route.waypoints[route.activeWaypointIndex]?,
      route.waypoints[route.activeWaypointIndex + 1]? with
  | some active, some next =>
    active.behavior == .passThrough && next.behavior == .stop &&
      active.positionEnu.allFinite && next.positionEnu.allFinite &&
      (next.positionEnu - active.positionEnu).norm ≤ goalConnectionToleranceM + lit 1e-6
  | _, _ => false

/-! ## The validator of route snapshots -/

open FloatOps ExactReal

namespace ImmutableRouteSnapshot
variable {D : Type} [FloatOps D]

/-- The first test: identity, sizes and ranges of the measured progress. -/
def headerValid (route : ImmutableRouteSnapshot D) : Bool :=
  let progress := route.measuredProgress
  let projection := progress.projection
  if route.missionId.isEmpty || route.frame.isEmpty || route.routeRevision == 0 ||
      route.requestId == 0 || route.waypoints.isEmpty ||
      route.waypoints.length ≤ route.activeWaypointIndex ||
      route.waypointArcLengthsM.length != route.waypoints.length ||
      !isFinite route.totalLengthM || route.totalLengthM < lit 0 ||
      !progress.valid || !projection.valid || !isFinite progress.progressArcM ||
      !isFinite projection.arcLengthM || !isFinite projection.lateralErrorM ||
      !isFinite projection.segmentFraction || !projection.point.allFinite ||
      !projection.tangent.allFinite || progress.progressArcM < lit 0 ||
      route.totalLengthM + lit 1e-6 < progress.progressArcM || projection.arcLengthM < lit 0 ||
      route.totalLengthM + lit 1e-6 < projection.arcLengthM || projection.lateralErrorM < lit 0 ||
      projection.segmentFraction < lit 0 || lit 1 < projection.segmentFraction then false
  else true

/-- The loop over waypoints and arcs, with the ids seen, the expected arc and the
previous pair. -/
def waypointsConsistent (seen : List String) (expectedWaypointArcM : D)
    (previous : Option (MissionWaypoint D × D)) : List (MissionWaypoint D × D) → Bool
  | [] => true
  | (waypoint, arc) :: rest =>
    if waypoint.id.isEmpty || !waypoint.geometryValid || !isFinite arc then false
    else if seen.contains waypoint.id then false
    else if arc < lit 0 || previous.any (fun previous => arc + lit 1e-9 < previous.2) then false
    else
      match previous with
      | none =>
        waypointsConsistent (waypoint.id :: seen) expectedWaypointArcM (some (waypoint, arc)) rest
      | some previous =>
        let lengthM := (waypoint.positionEnu - previous.1.positionEnu).norm
        if !isFinite lengthM then false
        else
          let expectedWaypointArcM := if minimumSegmentLengthM < lengthM then
              expectedWaypointArcM + lengthM
            else expectedWaypointArcM
          if !isFinite expectedWaypointArcM || lit 1e-6 < abs (arc - expectedWaypointArcM) then false
          else
            waypointsConsistent (waypoint.id :: seen) expectedWaypointArcM (some (waypoint, arc)) rest

/-- The number of legs that deserve a segment; `none` when a leg is not finite. -/
def expectedSegmentCount (previous : MissionWaypoint D) : List (MissionWaypoint D) → Option Nat
  | [] => some 0
  | waypoint :: rest =>
    let lengthM := (waypoint.positionEnu - previous.positionEnu).norm
    if !isFinite lengthM then none
    else
      (expectedSegmentCount waypoint rest).map fun count =>
        if minimumSegmentLengthM < lengthM then count + 1 else count

/-- The segments against the legs they stand for; the counts are known to agree. -/
def legsMatch (index : Nat) (previous : MissionWaypoint D) :
    List (MissionWaypoint D) → List (RouteSegment D) → Bool
  | [], _ => true
  | waypoint :: rest, segments =>
    let delta := waypoint.positionEnu - previous.positionEnu
    let lengthM := delta.norm
    if lengthM ≤ minimumSegmentLengthM then legsMatch (index + 1) waypoint rest segments
    else
      match segments with
      | [] => false
      | segment :: segments =>
        if segment.startWaypointIndex != index - 1 || segment.endWaypointIndex != index ||
            lit 1e-6 < abs (segment.lengthM - lengthM) ||
            lit 1e-6 < abs (segment.tangent.norm - lit 1) ||
            lit 1e-6 < (segment.tangent - delta.divide lengthM).norm then false
        else legsMatch (index + 1) waypoint rest segments

def segmentConsistent (route : ImmutableRouteSnapshot D) (segment : RouteSegment D) : Bool :=
  match route.waypoints[segment.startWaypointIndex]?, route.waypoints[segment.endWaypointIndex]?,
      route.waypointArcLengthsM[segment.startWaypointIndex]?,
      route.waypointArcLengthsM[segment.endWaypointIndex]? with
  | some first, some last, some firstArc, some lastArc =>
    if segment.endWaypointIndex ≤ segment.startWaypointIndex || !segment.start.allFinite ||
        !segment.stop.allFinite || !segment.tangent.allFinite || !isFinite segment.startArcM ||
        !isFinite segment.endArcM || !isFinite segment.lengthM || segment.lengthM ≤ lit 0 ||
        segment.endArcM ≤ segment.startArcM then false
    else if lit 1e-6 < abs (segment.endArcM - segment.startArcM - segment.lengthM) then false
    else if lit 1e-6 < (segment.start - first.positionEnu).norm ||
        lit 1e-6 < (segment.stop - last.positionEnu).norm ||
        lit 1e-6 < abs (segment.startArcM - firstArc) ||
        lit 1e-6 < abs (segment.endArcM - lastArc) then false
    else true
  | _, _, _, _ => false

def segmentsConsistent (route : ImmutableRouteSnapshot D) (previousEndArcM : Option D) :
    List (RouteSegment D) → Bool
  | [] => true
  | segment :: rest =>
    if !route.segmentConsistent segment then false
    else if previousEndArcM.any (fun end_ => lit 1e-6 < abs (segment.startArcM - end_)) then false
    else route.segmentsConsistent (some segment.endArcM) rest

def projectionConsistent (route : ImmutableRouteSnapshot D) : Bool :=
  let projection := route.measuredProgress.projection
  if route.segments.isEmpty then projection.segmentIndex == 2 ^ 64 - 1
  else
    match route.segments[projection.segmentIndex]? with
    | none => false
    | some segment =>
      if projection.arcLengthM + lit 1e-6 < segment.startArcM ||
          segment.endArcM + lit 1e-6 < projection.arcLengthM then false
      else
        let expectedProjection := segment.pointAt projection.segmentFraction
        if !expectedProjection.allFinite ||
            lit 1e-6 < (expectedProjection - projection.point).norm ||
            lit 1e-6 < (projection.tangent - segment.tangent).norm ||
            lit 1e-6 < abs (projection.arcLengthM -
              (segment.startArcM + projection.segmentFraction * segment.lengthM)) then false
        else true

def valid (route : ImmutableRouteSnapshot D) : Bool :=
  if !route.headerValid then false
  else if !waypointsConsistent [] (lit 0) none (route.waypoints.zip route.waypointArcLengthsM) then
    false
  else
    match route.waypoints, route.waypointArcLengthsM.head?, route.waypointArcLengthsM.getLast? with
    | first :: rest, some front, some back =>
      -- `front() != 0.0`
      if !(front ≤ lit 0 && lit 0 ≤ front : Bool) then false
      else if expectedSegmentCount first rest ≠ some route.segments.length then false
      else if !legsMatch 1 first rest route.segments then false
      else if !route.segmentsConsistent none route.segments then false
      else if lit 1e-6 < abs (back - route.totalLengthM) then false
      else route.projectionConsistent
    | _, _, _ => false

end ImmutableRouteSnapshot

/-! ## The layout of a route in exact arithmetic -/

abbrev Waypoint := MissionWaypoint (ExactReal ℝ)

noncomputable def gap (p w : Vec3 ℝ) : ℝ := Vec3.length ⟨w.x - p.x, w.y - p.y, w.z - p.z⟩

theorem gap_nonneg (p w : Vec3 ℝ) : 0 ≤ gap p w := Vec3.length_nonneg _

theorem norm_gap (p w : Vec3 ℝ) : (Vec3.lift w - Vec3.lift p).norm = .finite (gap p w) := by
  rw [Vec3.lift_sub, Vec3.norm_real]
  rfl

/-- The segment of the leg from `p` to `w` that ends at the waypoint `index`. -/
noncomputable def legBetween (index : Nat) (total : ℝ) (p w : Vec3 ℝ) :
    RouteSegment (ExactReal ℝ) where
  startWaypointIndex := index - 1
  endWaypointIndex := index
  startArcM := .finite total
  endArcM := .finite (total + gap p w)
  lengthM := .finite (gap p w)
  start := .lift p
  stop := .lift w
  tangent := .lift ⟨(w.x - p.x) / gap p w, (w.y - p.y) / gap p w, (w.z - p.z) / gap p w⟩

/-- `Laid index previous total rest segments arcs final`: from the waypoint before
`index`, at arc `total`, the remaining waypoints get these segments and arcs. -/
inductive Laid : Nat → Vec3 ℝ → ℝ → List Waypoint → List (RouteSegment (ExactReal ℝ)) →
    List ℝ → ℝ → Prop
  | done (index : Nat) (p : Vec3 ℝ) (total : ℝ) : Laid index p total [] [] [] total
  | stay {index : Nat} {p w : Vec3 ℝ} {total final : ℝ} {waypoint : Waypoint}
      {rest : List Waypoint} {segments : List (RouteSegment (ExactReal ℝ))} {arcs : List ℝ}
      (position : waypoint.positionEnu = .lift w) (short : gap p w ≤ 1e-9)
      (tail : Laid (index + 1) w total rest segments arcs final) :
      Laid index p total (waypoint :: rest) segments (total :: arcs) final
  | leg {index : Nat} {p w : Vec3 ℝ} {total final : ℝ} {waypoint : Waypoint}
      {rest : List Waypoint} {segments : List (RouteSegment (ExactReal ℝ))} {arcs : List ℝ}
      (position : waypoint.positionEnu = .lift w) (long : 1e-9 < gap p w)
      (tail : Laid (index + 1) w (total + gap p w) rest segments arcs final) :
      Laid index p total (waypoint :: rest) (legBetween index total p w :: segments)
        ((total + gap p w) :: arcs) final

theorem minimumSegmentLength_exact : (minimumSegmentLengthM : ExactReal ℝ) = .finite 1e-9 := by
  simp only [minimumSegmentLengthM, lit_finite]
  norm_num

theorem lit_zero : (lit 0 : ExactReal ℝ) = .finite 0 := by
  simp [lit_finite]

theorem lit_one : (lit 1 : ExactReal ℝ) = .finite 1 := by
  simp [lit_finite]

theorem lit_micro : (lit 1e-6 : ExactReal ℝ) = .finite 1e-6 := by
  simp only [lit_finite]
  norm_num

theorem lit_nano : (lit 1e-9 : ExactReal ℝ) = .finite 1e-9 := by
  simp only [lit_finite]
  norm_num

theorem geometryValid_position {waypoint : Waypoint} (h : waypoint.geometryValid = true) :
    ∃ w, waypoint.positionEnu = .lift w := by
  simp only [MissionWaypoint.geometryValid, Bool.and_eq_true] at h
  exact Vec3.allFinite_iff.mp h.1.1.1.1.1.1

theorem tangent_legBetween (index : Nat) (total : ℝ) (p w : Vec3 ℝ) (h : 0 < gap p w) :
    (Vec3.lift w - Vec3.lift p).divide (.finite (gap p w)) = (legBetween index total p w).tangent := by
  rw [Vec3.lift_sub, Vec3.divide_lift _ h.ne']
  rfl

/-- The constructor appends what `Laid` describes. -/
theorem extendAll_laid {rest : List Waypoint} :
    ∀ {build built : RouteBuild (ExactReal ℝ)} {index : Nat} {previous : Waypoint} {p : Vec3 ℝ}
      {total : ℝ}, build.totalLengthM = .finite total → previous.positionEnu = .lift p →
      build.extendAll index (some previous) rest = .ok built →
      ∃ segments arcs final, built.segments = build.segments ++ segments ∧
        built.waypointArcLengths = build.waypointArcLengths ++ arcs.map .finite ∧
        built.totalLengthM = .finite final ∧ Laid index p total rest segments arcs final := by
  induction rest with
  | nil =>
    intro build built index previous p total hTotal _ hBuilt
    simp only [RouteBuild.extendAll, Except.ok.injEq] at hBuilt
    subst hBuilt
    exact ⟨[], [], total, by simp, by simp, hTotal, .done index p total⟩
  | cons waypoint rest ih =>
    intro build built index previous p total hTotal hPrevious hBuilt
    simp only [RouteBuild.extendAll] at hBuilt
    cases hStep : build.extend index (some previous) waypoint with
    | error message =>
      rw [hStep] at hBuilt
      cases hBuilt
    | ok next =>
      rw [hStep] at hBuilt
      unfold RouteBuild.extend at hStep
      split at hStep
      · cases hStep
      rename_i hGeometry
      obtain ⟨w, hPosition⟩ := geometryValid_position (by simpa using hGeometry)
      simp only [hPosition, hPrevious, norm_gap, isFinite_finite, Bool.not_true,
        Bool.false_eq_true, if_false, minimumSegmentLength_exact, lt_finite] at hStep
      by_cases hLong : 1e-9 < gap p w
      · have hPos : 0 < gap p w := lt_trans (by norm_num) hLong
        simp only [if_pos hLong, hTotal, add_finite, isFinite_finite,
          le_finite, Bool.not_true, Bool.false_or, decide_eq_true_eq] at hStep
        rw [if_neg (by linarith)] at hStep
        cases hStep
        obtain ⟨segments, arcs, final, hSegments, hArcs, hFinal, hLaid⟩ :=
          @ih _ built (index + 1) waypoint w (total + gap p w) rfl hPosition hBuilt
        refine ⟨legBetween index total p w :: segments, (total + gap p w) :: arcs, final, ?_, ?_,
          hFinal, .leg hPosition hLong hLaid⟩
        · rw [hSegments, tangent_legBetween index total p w hPos]
          simp [legBetween]
        · simp [hArcs]
      · rw [if_neg hLong] at hStep
        cases hStep
        obtain ⟨segments, arcs, final, hSegments, hArcs, hFinal, hLaid⟩ :=
          @ih { build with waypointArcLengths := build.waypointArcLengths ++ [build.totalLengthM] }
            built (index + 1) waypoint w total hTotal hPosition hBuilt
        refine ⟨segments, total :: arcs, final, hSegments, ?_, hFinal,
          .stay hPosition (not_lt.mp hLong) hLaid⟩
        simp [hArcs, hTotal]

/-! ## The loops of the validator on a laid route -/

section Loops
variable {index : Nat} {p : Vec3 ℝ} {total final : ℝ} {rest : List Waypoint}
  {segments : List (RouteSegment (ExactReal ℝ))} {arcs : List ℝ}

section
variable (h : Laid index p total rest segments arcs final)
include h

theorem Laid.total_le : total ≤ final := by
  induction h with
  | done => exact le_rfl
  | stay _ _ _ ih => exact ih
  | @leg _ p w total _ _ _ _ _ _ _ _ ih =>
    linarith

theorem Laid.length_eq : arcs.length = rest.length := by
  induction h with
  | done => rfl
  | stay _ _ _ ih => simp [ih]
  | leg _ _ _ ih => simp [ih]

theorem Laid.getLast : (total :: arcs).getLast? = some final := by
  induction h with
  | done => rfl
  | stay _ _ _ ih => rw [List.getLast?_cons_cons]; exact ih
  | leg _ _ _ ih => rw [List.getLast?_cons_cons]; exact ih

end

theorem waypointsValid_head {seen : List String} {waypoint : Waypoint} {rest : List Waypoint}
    (h : waypointsValid seen (waypoint :: rest) = true) :
    waypoint.id.isEmpty = false ∧ waypoint.geometryValid = true ∧
      seen.contains waypoint.id = false ∧ waypointsValid (waypoint.id :: seen) rest = true := by
  unfold waypointsValid at h
  split at h
  · cases h
  · rename_i hGuard
    simp only [Bool.or_eq_true, Bool.not_eq_true', not_or, Bool.not_eq_true,
      Bool.not_eq_false] at hGuard
    exact ⟨hGuard.1.1.1, hGuard.1.2, hGuard.2, h⟩

theorem Laid.waypointsConsistent (h : Laid index p total rest segments arcs final) :
    ∀ {seen : List String} {previous : Waypoint}, 0 ≤ total → previous.positionEnu = .lift p →
      waypointsValid seen rest = true →
      ImmutableRouteSnapshot.waypointsConsistent seen (.finite total)
        (some (previous, .finite total)) (rest.zip (arcs.map .finite)) = true := by
  induction h with
  | done =>
    intro seen previous _ _ _
    rfl
  | @stay index p w total final waypoint rest segments arcs position short tail ih =>
    intro seen previous hTotal hPrevious hValid
    obtain ⟨hId, hGeometry, hFresh, hRest⟩ := waypointsValid_head hValid
    have hTail := @ih (waypoint.id :: seen) waypoint hTotal position hRest
    simp only [List.map_cons, List.zip_cons_cons, ImmutableRouteSnapshot.waypointsConsistent, hId,
      hGeometry, hFresh, position, hPrevious, norm_gap, minimumSegmentLength_exact, lit_zero,
      lit_nano, lit_micro, isFinite_finite, lt_finite, add_finite,
      sub_finite, abs_finite, Option.any_some, Bool.not_true, Bool.or_self,
      Bool.false_eq_true, if_false, if_neg (not_lt.mpr short), sub_self, abs_zero, hTail]
    rw [if_neg (by simp; constructor <;> linarith), if_neg (by norm_num)]
  | @leg index p w total final waypoint rest segments arcs position long tail ih =>
    intro seen previous hTotal hPrevious hValid
    obtain ⟨hId, hGeometry, hFresh, hRest⟩ := waypointsValid_head hValid
    have hTail := @ih (waypoint.id :: seen) waypoint (by linarith) position hRest
    simp only [List.map_cons, List.zip_cons_cons, ImmutableRouteSnapshot.waypointsConsistent, hId,
      hGeometry, hFresh, position, hPrevious, norm_gap, minimumSegmentLength_exact, lit_zero,
      lit_nano, lit_micro, isFinite_finite, lt_finite, add_finite,
      sub_finite, abs_finite, Option.any_some, Bool.not_true, Bool.or_self,
      Bool.false_eq_true, if_false, if_pos long, sub_self, abs_zero, hTail]
    rw [if_neg (by simp; constructor <;> linarith), if_neg (by norm_num)]

theorem Laid.expectedSegmentCount (h : Laid index p total rest segments arcs final) :
    ∀ {previous : Waypoint}, previous.positionEnu = .lift p →
      ImmutableRouteSnapshot.expectedSegmentCount previous rest = some segments.length := by
  induction h with
  | done =>
    intro previous _
    rfl
  | @stay index p w total final waypoint rest segments arcs position short tail ih =>
    intro previous hPrevious
    simp only [ImmutableRouteSnapshot.expectedSegmentCount, position, hPrevious, norm_gap,
      isFinite_finite, Bool.not_true, Bool.false_eq_true, if_false, ih position,
      Option.map_some, minimumSegmentLength_exact, lt_finite, if_neg (not_lt.mpr short)]
  | @leg index p w total final waypoint rest segments arcs position long tail ih =>
    intro previous hPrevious
    simp only [ImmutableRouteSnapshot.expectedSegmentCount, position, hPrevious, norm_gap,
      isFinite_finite, Bool.not_true, Bool.false_eq_true, if_false, ih position, Option.map_some,
      minimumSegmentLength_exact, lt_finite, if_pos long, List.length_cons]

theorem tangent_norm (index : Nat) (total : ℝ) {p w : Vec3 ℝ} (h : 0 < gap p w) :
    (legBetween index total p w).tangent.norm = .finite 1 := by
  have hUnit := Vec3.length_divide ⟨w.x - p.x, w.y - p.y, w.z - p.z⟩ h
  simp only [legBetween, Vec3.norm_real]
  exact congrArg _ hUnit

theorem Laid.legsMatch (h : Laid index p total rest segments arcs final) :
    ∀ {previous : Waypoint}, previous.positionEnu = .lift p →
      ImmutableRouteSnapshot.legsMatch index previous rest segments = true := by
  induction h with
  | done =>
    intro previous _
    rfl
  | @stay index p w total final waypoint rest segments arcs position short tail ih =>
    intro previous hPrevious
    simp only [ImmutableRouteSnapshot.legsMatch, position, hPrevious, norm_gap,
      minimumSegmentLength_exact, le_finite, if_pos short, ih position]
  | @leg index p w total final waypoint rest segments arcs position long tail ih =>
    intro previous hPrevious
    have hPos : 0 < gap p w := lt_trans (by norm_num) long
    simp only [ImmutableRouteSnapshot.legsMatch, position, hPrevious, norm_gap,
      minimumSegmentLength_exact, le_finite, if_neg (not_le.mpr long), ih position,
      tangent_legBetween index total p w hPos, tangent_norm index total hPos, lit_one, lit_micro,
      sub_finite, abs_finite, sub_self, abs_zero, lt_finite]
    simp only [legBetween, Vec3.norm_sub_self, sub_finite, abs_finite, sub_self,
      abs_zero, lt_finite, bne_self_eq_false, Bool.false_or, Bool.or_false]
    rw [if_neg (by norm_num)]

theorem getElem?_last_append {α : Type} {front : List α} {last next : α} {rest : List α}
    {index : Nat} (hLength : front.length = index) (hLast : front.getLast? = some last) :
    (front ++ next :: rest)[index - 1]? = some last ∧ (front ++ next :: rest)[index]? = some next := by
  obtain ⟨init, rfl⟩ := List.getLast?_eq_some_iff.mp hLast
  subst hLength
  constructor
  · simp
  · rw [List.getElem?_append_right (by simp)]
    simp

theorem segmentConsistent_legBetween {route : ImmutableRouteSnapshot (ExactReal ℝ)}
    {previous waypoint : Waypoint} {w : Vec3 ℝ} (hIndex : 0 < index) (hPos : 0 < gap p w)
    (hPrevious : previous.positionEnu = .lift p) (hPosition : waypoint.positionEnu = .lift w)
    (hFirst : route.waypoints[index - 1]? = some previous)
    (hLast : route.waypoints[index]? = some waypoint)
    (hFirstArc : route.waypointArcLengthsM[index - 1]? = some (.finite total))
    (hLastArc : route.waypointArcLengthsM[index]? = some (.finite (total + gap p w))) :
    route.segmentConsistent (legBetween index total p w) = true := by
  have hOrder : ¬ index ≤ index - 1 := by omega
  simp only [ImmutableRouteSnapshot.segmentConsistent, legBetween, hFirst, hLast, hFirstArc,
    hLastArc, hPrevious, hPosition, Vec3.allFinite_lift, isFinite_finite, lit_zero, lit_micro,
    le_finite, sub_finite, abs_finite, lt_finite, Vec3.norm_sub_self, sub_self, abs_zero, hOrder,
    decide_false, Bool.not_true, Bool.or_self, Bool.false_or]
  rw [if_neg (by simp [hPos]), if_neg (by norm_num), if_neg (by norm_num)]

variable (h : Laid index p total rest segments arcs final)
include h

theorem Laid.segmentsConsistent (route : ImmutableRouteSnapshot (ExactReal ℝ)) :
    ∀ {front : List Waypoint} {frontArcs : List ℝ} {previous : Waypoint}
      {previousEnd : Option (ExactReal ℝ)}, 0 < index → front.length = index →
      frontArcs.length = index → front.getLast? = some previous → previous.positionEnu = .lift p →
      frontArcs.getLast? = some total → route.waypoints = front ++ rest →
      route.waypointArcLengthsM = (frontArcs ++ arcs).map .finite →
      (∀ end_, previousEnd = some end_ → end_ = .finite total) →
      route.segmentsConsistent previousEnd segments = true := by
  induction h with
  | done =>
    intros
    rfl
  | @stay index p w total final waypoint rest segments arcs position short tail ih =>
    intro front frontArcs previous previousEnd hIndex hLength hArcs hLast hPrevious hLastArc
      hWaypoints hAllArcs hEnd
    exact @ih (front ++ [waypoint]) (frontArcs ++ [total]) waypoint previousEnd (Nat.succ_pos _)
      (by simp [hLength]) (by simp [hArcs]) (by simp) position (by simp) (by simp [hWaypoints])
      (by simp [hAllArcs]) hEnd
  | @leg index p w total final waypoint rest segments arcs position long tail ih =>
    intro front frontArcs previous previousEnd hIndex hLength hArcs hLast hPrevious hLastArc
      hWaypoints hAllArcs hEnd
    have hPos : 0 < gap p w := lt_trans (by norm_num) long
    obtain ⟨hFirst, hNext⟩ := @getElem?_last_append _ _ _ waypoint rest _ hLength hLast
    obtain ⟨hFirstArc, hNextArc⟩ :=
      @getElem?_last_append _ _ _ (total + gap p w) arcs _ hArcs hLastArc
    have hSegment : route.segmentConsistent (legBetween index total p w) = true := by
      apply segmentConsistent_legBetween hIndex hPos hPrevious position
      · rw [hWaypoints, hFirst]
      · rw [hWaypoints, hNext]
      · rw [hAllArcs, List.getElem?_map, hFirstArc]
        rfl
      · rw [hAllArcs, List.getElem?_map, hNextArc]
        rfl
    have hTail := @ih (front ++ [waypoint]) (frontArcs ++ [total + gap p w]) waypoint
      (some (.finite (total + gap p w))) (Nat.succ_pos _) (by simp [hLength]) (by simp [hArcs])
      (by simp) position (by simp) (by simp [hWaypoints]) (by simp [hAllArcs])
      (by intro end_ h; exact (Option.some.inj h).symm)
    have hChain : (previousEnd.any fun end_ =>
        decide ((lit 1e-6 : ExactReal ℝ) < abs ((legBetween index total p w).startArcM - end_))) =
          false := by
      cases hPrev : previousEnd with
      | none => rfl
      | some end_ =>
        rw [hEnd end_ hPrev]
        simp only [Option.any_some, legBetween, lit_micro, sub_finite,
          abs_finite, sub_self, abs_zero, lt_finite]
        norm_num
    simp only [ImmutableRouteSnapshot.segmentsConsistent, hSegment, hChain, Bool.not_true,
      Bool.false_eq_true, if_false]
    exact hTail

theorem Laid.mem_segments (hTotal : 0 ≤ total) :
    ∀ segment ∈ segments, ∃ index' total' p' w', segment = legBetween index' total' p' w' ∧
      0 < gap p' w' ∧ 0 ≤ total' ∧ total' + gap p' w' ≤ final := by
  induction h with
  | done =>
    intro segment hMem
    cases hMem
  | stay _ _ _ ih => exact ih hTotal
  | @leg index p w total final waypoint rest segments arcs position long tail ih =>
    have hPos : 0 < gap p w := lt_trans (by norm_num) long
    intro segment hMem
    rcases List.mem_cons.mp hMem with rfl | hMem
    · exact ⟨index, total, p, w, rfl, hPos, hTotal, tail.total_le⟩
    · exact ih (by linarith) segment hMem

end Loops

end UavNavigation
