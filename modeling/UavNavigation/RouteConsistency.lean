import UavNavigation.RouteProgress

/-!
# Route snapshots are self-consistent

In exact arithmetic the projection that `update` keeps always belongs to one foot
point of the segment it names, so every snapshot of a route that has been updated
since its last reset passes the validator.
-/

namespace UavNavigation

set_option autoImplicit false

open FloatOps ExactReal ImmutableRouteSnapshot List Vec3

/-- A leg of positive length that ends by `final`. -/
def IsLeg (final : ℝ) (segment : RouteSegment (ExactReal ℝ)) : Prop :=
  ∃ index total p w, segment = legBetween index total p w ∧ 0 < gap p w ∧ 0 ≤ total ∧
    total + gap p w ≤ final

/-- The six fields of the projection belong to one foot point of the segment it names. -/
inductive OnRoute (segments : List (RouteSegment (ExactReal ℝ))) :
    RouteProjection (ExactReal ℝ) → Prop
  | onto {index : Nat} {segment : RouteSegment (ExactReal ℝ)} {fraction lateral : ℝ}
      (named : segments[index]? = some segment) (low : 0 ≤ fraction) (high : fraction ≤ 1)
      (nonneg : 0 ≤ lateral) :
      OnRoute segments (.onto segment index (.finite fraction)
        (segment.pointAt (.finite fraction)) (.finite lateral))

section Projections
variable {final : ℝ} {segments : List (RouteSegment (ExactReal ℝ))}
  {segment : RouteSegment (ExactReal ℝ)}

theorem rawFraction_finite (h : IsLeg final segment) (x : Vec3 ℝ) :
    ∃ r, segment.rawFraction (.lift x) = .finite r := by
  obtain ⟨index, total, p, w, rfl, hPos, _, _⟩ := h
  simp only [RouteSegment.rawFraction, legBetween, lift_sub]
  exact ⟨_, div_finite _ hPos.ne'⟩

theorem pointAt_finite (h : IsLeg final segment) (fraction : ℝ) :
    ∃ q, segment.pointAt (.finite fraction) = .lift q := by
  obtain ⟨index, total, p, w, rfl, _, _, _⟩ := h
  simp only [RouteSegment.pointAt, legBetween, lift_sub, scale_lift, lift_add]
  exact ⟨_, rfl⟩

theorem clamp_fraction (r : ℝ) :
    ∃ f, clamp (finite r) (lit 0) (lit 1) = .finite f ∧ 0 ≤ f ∧ f ≤ 1 := by
  rw [lit_zero, lit_one]
  exact clamp_finite r zero_le_one

theorem foot_finite (h : IsLeg final segment) (x : Vec3 ℝ) : ∃ f d, segment.foot (.lift x) =
      some ⟨.finite f, segment.pointAt (.finite f), .finite d⟩ ∧ 0 ≤ f ∧ f ≤ 1 ∧ 0 ≤ d := by
  obtain ⟨r, hRaw⟩ := rawFraction_finite h x
  obtain ⟨f, hClamp, hLow, hHigh⟩ := clamp_fraction r
  obtain ⟨q, hPoint⟩ := pointAt_finite h f
  refine ⟨f, Vec3.normSquared ⟨x.x - q.x, x.y - q.y, x.z - q.z⟩, ?_, hLow, hHigh,
    normSquared_nonneg _⟩
  simp only [RouteSegment.foot, hRaw, isFinite_finite, Bool.not_true, Bool.false_eq_true,
    if_false, hClamp, hPoint, lift_sub, squaredNorm_lift]

theorem sqrt_distance {d : ℝ} (hd : 0 ≤ d) :
    ∃ lateral, FloatOps.sqrt (finite d) = .finite lateral ∧ 0 ≤ lateral :=
  ⟨Real.sqrt d, sqrt_finite hd, Real.sqrt_nonneg d⟩

theorem split_next {α : Type} {xs front rest : List α} {x : α} (h : xs = front ++ x :: rest) :
    xs[front.length]? = some x ∧ x ∈ xs ∧ xs = (front ++ [x]) ++ rest ∧
      (front ++ [x]).length = front.length + 1 := by
  subst h
  simp

variable (hLegs : ∀ segment ∈ segments, IsLeg final segment) (x : Vec3 ℝ)
include hLegs

/-- The loop of `project`: once a segment is seen the result lies on the route. -/
theorem nearestFrom_onRoute :
    ∀ (front : List (RouteSegment (ExactReal ℝ))) {rest : List (RouteSegment (ExactReal ℝ))}
      {best : ExactReal ℝ} {result : RouteProjection (ExactReal ℝ)}, segments = front ++ rest →
      OnRoute segments result ∨ (best = .nonFinite ∧ rest ≠ []) →
      OnRoute segments (nearestFrom (.lift x) best result front.length rest) := by
  intro front rest
  induction rest generalizing front with
  | nil =>
    intro best result _ h
    rcases h with h | h
    · exact h
    · exact absurd rfl h.2
  | cons segment rest ih =>
    intro best result hSplit h
    obtain ⟨hNamed, hMember, hNext, hLength⟩ := split_next hSplit
    obtain ⟨f, d, hFoot, hLow, hHigh, hNonneg⟩ := foot_finite (hLegs segment hMember) x
    obtain ⟨lateral, hSqrt, hLateral⟩ := sqrt_distance hNonneg
    simp only [nearestFrom, hFoot, isFinite_finite, Bool.not_true, Bool.false_or, decide_eq_true_eq]
    by_cases hBest : best ≤ .finite d
    · rw [if_pos hBest, ← hLength]
      apply ih _ hNext
      rcases h with h | ⟨rfl, _⟩
      · exact .inl h
      · exact absurd hBest (by intro h; exact h)
    · rw [if_neg hBest, ← hLength, hSqrt]
      apply ih _ hNext
      exact .inl (.onto hNamed hLow hHigh hLateral)

theorem tiedBranchFrom_onRoute (best previousProgress : ExactReal ℝ) :
    ∀ (front : List (RouteSegment (ExactReal ℝ))) {rest : List (RouteSegment (ExactReal ℝ))}
      {bestArc : ExactReal ℝ} {projection : RouteProjection (ExactReal ℝ)}, segments = front ++ rest →
      OnRoute segments projection →
      OnRoute segments (tiedBranchFrom (.lift x) best previousProgress bestArc projection
        front.length rest) := by
  intro front rest
  induction rest generalizing front with
  | nil =>
    intro bestArc projection _ h
    exact h
  | cons segment rest ih =>
    intro bestArc projection hSplit h
    obtain ⟨hNamed, hMember, hNext, hLength⟩ := split_next hSplit
    obtain ⟨f, d, hFoot, hLow, hHigh, hNonneg⟩ := foot_finite (hLegs segment hMember) x
    obtain ⟨lateral, hSqrt, hLateral⟩ := sqrt_distance hNonneg
    have hSkip := @ih (front ++ [segment]) bestArc projection hNext h
    rw [hLength] at hSkip
    simp only [tiedBranchFrom, hFoot]
    split
    · exact hSkip
    · split
      · exact hSkip
      · rw [← hLength, hSqrt]
        exact ih _ hNext (.onto hNamed hLow hHigh hLateral)

end Projections

/-! ## The progress of a route -/

/-- A route as the constructor leaves it, with any state. -/
structure LaidRoute (route : RouteProgress (ExactReal ℝ)) (first : Waypoint)
    (rest : List Waypoint) (p : Vec3 ℝ) (arcs : List ℝ) (final : ℝ) : Prop where
  waypoints : route.waypoints = first :: rest
  position : first.positionEnu = .lift p
  valid : waypointsValid [] (first :: rest) = true
  arcLengths : route.waypointArcLengths = (0 :: arcs).map .finite
  total : route.totalLengthM = .finite final
  laid : Laid 1 p 0 rest route.segments arcs final
  tolerance : ∃ t, route.backtrackToleranceM = .finite t

/-- A measured state whose projection is on the route and whose arcs lie in the route. -/
structure Measured (segments : List (RouteSegment (ExactReal ℝ))) (final : ℝ)
    (state : RouteProgressState (ExactReal ℝ)) : Prop where
  valid : state.valid = true
  progress : ∃ a, state.progressArcM = .finite a ∧ 0 ≤ a ∧ a ≤ final
  projection : if segments = [] then ∃ q d, 0 ≤ d ∧ state.projection =
      ⟨true, 2 ^ 64 - 1, .finite 0, .finite d, .finite 0, .lift q, .lift ⟨0, 0, 0⟩⟩
    else OnRoute segments state.projection

theorem OnRoute.arc {final : ℝ} {segments : List (RouteSegment (ExactReal ℝ))}
    {projection : RouteProjection (ExactReal ℝ)}
    (hLegs : ∀ segment ∈ segments, IsLeg final segment) (h : OnRoute segments projection) :
    projection.valid = true ∧ ∃ a, projection.arcLengthM = .finite a ∧ 0 ≤ a ∧ a ≤ final := by
  obtain @⟨index, segment, fraction, lateral, named, low, high, _⟩ := h
  obtain ⟨_, total, p, w, rfl, hPos, hTotal, hFinal⟩ := hLegs segment (mem_of_getElem? named)
  refine ⟨rfl, total + fraction * gap p w, rfl, ?_, ?_⟩
  · have := mul_nonneg low hPos.le
    linarith
  · have := mul_le_of_le_one_left hPos.le high
    linarith

section Progress
variable {route : RouteProgress (ExactReal ℝ)} {first : Waypoint} {rest : List Waypoint}
  {p : Vec3 ℝ} {arcs : List ℝ} {final : ℝ} {projection : RouteProjection (ExactReal ℝ)}

section
variable (h : LaidRoute route first rest p arcs final)
include h

theorem LaidRoute.legs :
    ∀ segment ∈ route.segments, IsLeg final segment := h.laid.mem_segments le_rfl

variable (x : Vec3 ℝ)

theorem keepActiveLeg_onRoute (hProjection : OnRoute route.segments projection) :
    OnRoute route.segments (route.keepActiveLeg (.lift x) projection) := by
  unfold RouteProgress.keepActiveLeg
  split
  · exact hProjection
  · rename_i segment hNamed
    split
    · have hLeg := h.legs segment (mem_of_getElem? hNamed)
      obtain ⟨r, hRaw⟩ := rawFraction_finite hLeg x
      obtain ⟨f, hClamp, hLow, hHigh⟩ := clamp_fraction r
      obtain ⟨q, hPoint⟩ := pointAt_finite hLeg f
      have hNorm : (Vec3.lift x - segment.pointAt (.finite f)).norm = .finite (gap q x) := by
        rw [hPoint, norm_gap]
      simp only [hRaw, hClamp, hNorm, (hProjection.arc h.legs).1]
      split
      · exact .onto hNamed hLow hHigh (gap_nonneg q x)
      · exact hProjection
    · exact hProjection

theorem resolveTies_onRoute (hProjection : OnRoute route.segments projection) :
    OnRoute route.segments (route.resolveTies (.lift x) projection) := by
  unfold RouteProgress.resolveTies
  split
  · exact tiedBranchFrom_onRoute h.legs x _ _ [] rfl hProjection
  · exact hProjection

theorem project_onRoute
    (hSegments : route.segments ≠ []) : OnRoute route.segments (route.project (.lift x)) := by
  have hEmpty : route.segments.isEmpty = false := by simpa using hSegments
  simp only [RouteProgress.project, h.waypoints, List.head?_cons, allFinite_lift, hEmpty,
    Bool.not_true, Bool.false_eq_true, if_false]
  exact nearestFrom_onRoute h.legs x [] rfl (.inr ⟨rfl, hSegments⟩)

theorem project_single (hSegments : route.segments = []) : route.project (.lift x) =
      ⟨true, 2 ^ 64 - 1, .finite 0, .finite (gap p x), .finite 0, .lift p, .lift ⟨0, 0, 0⟩⟩ := by
  simp only [RouteProgress.project, h.waypoints, List.head?_cons, allFinite_lift, hSegments,
    isEmpty_nil, Bool.not_true, Bool.false_eq_true, if_false, if_true, h.position, norm_gap,
    isFinite_finite, RouteProjection.initial, lit_zero, zero_lift]

end

theorem progress_after {final a : ℝ} (was : Bool) {old : ExactReal ℝ} (ha : 0 ≤ a ∧ a ≤ final)
    (hOld : was = true → ∃ b, old = .finite b ∧ 0 ≤ b ∧ b ≤ final) :
    ∃ c, (if was then FloatOps.max old (.finite a) else .finite a) = .finite c ∧
      0 ≤ c ∧ c ≤ final := by
  cases was with
  | false => exact ⟨a, rfl, ha⟩
  | true =>
    obtain ⟨b, rfl, hb⟩ := hOld rfl
    exact ⟨b ⊔ a, by simp, le_sup_of_le_left hb.1, sup_le hb.2 ha.2⟩

theorem LaidRoute.of_state (h : LaidRoute route first rest p arcs final)
    (state : RouteProgressState (ExactReal ℝ)) :
    LaidRoute { route with state := state } first rest p arcs final :=
  ⟨h.waypoints, h.position, h.valid, h.arcLengths, h.total, h.laid, h.tolerance⟩

def Tracked (final : ℝ) (route : RouteProgress (ExactReal ℝ)) : Prop :=
  route.state = .initial ∨ Measured route.segments final route.state

theorem Tracked.progress {route : RouteProgress (ExactReal ℝ)} (h : Tracked final route)
    (hValid : route.state.valid = true) :
    ∃ b, route.state.progressArcM = .finite b ∧ 0 ≤ b ∧ b ≤ final := by
  rcases h with h | h
  · rw [h] at hValid
    cases hValid
  · exact h.progress

theorem kept_of_no_segments {route : RouteProgress (ExactReal ℝ)} (h : route.segments = [])
    (x : Vec3 ℝ) (projection : RouteProjection (ExactReal ℝ)) :
    route.keepActiveLeg (.lift x) projection = projection ∧
      route.resolveTies (.lift x) projection = projection := by
  simp [RouteProgress.keepActiveLeg, RouteProgress.resolveTies, h]

theorem update_measured (h : LaidRoute route first rest p arcs final) (hState : Tracked final route)
    (x : Vec3 ℝ) : LaidRoute (route.update (.lift x)) first rest p arcs final ∧
      (route.update (.lift x)).segments = route.segments ∧
      Measured route.segments final (route.update (.lift x)).state := by
  by_cases hSegments : route.segments = []
  · have hKeep := fun projection => kept_of_no_segments hSegments x projection
    have hFinal : 0 ≤ final := h.laid.total_le
    simp only [RouteProgress.update, project_single h x hSegments, hKeep, Bool.not_true,
      Bool.false_eq_true, if_false]
    refine ⟨h.of_state _, trivial, rfl, ?_, ?_⟩
    · exact progress_after _ ⟨le_rfl, hFinal⟩ hState.progress
    · rw [if_pos hSegments]
      exact ⟨p, gap p x, gap_nonneg p x, rfl⟩
  · have hProject := project_onRoute h x hSegments
    have hResult := resolveTies_onRoute h x (keepActiveLeg_onRoute h x hProject)
    obtain ⟨a, hArc, hRange⟩ := (hResult.arc h.legs).2
    simp only [RouteProgress.update, (hProject.arc h.legs).1, Bool.not_true, Bool.false_eq_true,
      if_false]
    refine ⟨h.of_state _, trivial, rfl, ?_, ?_⟩
    · rw [hArc]
      exact progress_after _ hRange hState.progress
    · rw [if_neg hSegments]
      exact hResult

end Progress

/-! ## Every snapshot -/

inductive RouteCall where
  | update (position : Vec3 (ExactReal ℝ))
  | reset

noncomputable def RouteCall.apply (route : RouteProgress (ExactReal ℝ)) :
    RouteCall → RouteProgress (ExactReal ℝ)
  | .update position => route.update position
  | .reset => route.reset

noncomputable def runCalls (route : RouteProgress (ExactReal ℝ)) (calls : List RouteCall) :
    RouteProgress (ExactReal ℝ) := calls.foldl RouteCall.apply route

def FinitePositions (calls : List RouteCall) : Prop :=
  ∀ position, RouteCall.update position ∈ calls → position.allFinite = true

section Snapshots
variable {route : RouteProgress (ExactReal ℝ)} {first : Waypoint} {rest : List Waypoint}
  {p : Vec3 ℝ} {arcs : List ℝ} {final : ℝ} {mission : Mission (ExactReal ℝ)}

theorem create_laid {tolerance : ExactReal ℝ}
    (h : RouteProgress.create mission tolerance = .ok route) :
    ∃ first rest p arcs final, LaidRoute route first rest p arcs final ∧
      route.state = .initial ∧ route.waypoints = mission.waypoints := by
  unfold RouteProgress.create at h
  split at h
  · cases h
  rename_i hValid
  split at h
  · cases h
  rename_i hTolerance
  simp only [Bool.not_eq_true, Bool.not_eq_false'] at hValid
  simp only [Bool.or_eq_true, Bool.not_eq_true', not_or, Bool.not_eq_false] at hTolerance
  obtain ⟨t, hT⟩ := isFinite_iff.mp hTolerance.1
  have hNonempty := (Mission.waypoints_of_valid hValid).1
  have hWaypoints : waypointsValid [] mission.waypoints = true := by
    have hAll := hValid
    unfold Mission.valid at hAll
    split at hAll
    · cases hAll
    · exact hAll
  cases hList : mission.waypoints with
  | nil =>
    rw [hList] at hNonempty
    cases hNonempty
  | cons first rest =>
    rw [hList] at hWaypoints
    obtain ⟨_, hGeometry, _, _⟩ := waypointsValid_head hWaypoints
    obtain ⟨p, hPosition⟩ := geometryValid_position hGeometry
    simp only [hList, RouteBuild.extendAll, RouteBuild.extend, hGeometry, Bool.not_true,
      Bool.false_eq_true, if_false] at h
    split at h
    · cases h
    · rename_i built hBuilt
      cases h
      obtain ⟨segments, arcs, final, hSegments, hArcs, hFinal, hLaid⟩ :=
        extendAll_laid (show (lit 0 : ExactReal ℝ) = .finite 0 from lit_zero) hPosition hBuilt
      refine ⟨first, rest, p, arcs, final, ⟨rfl, hPosition, hWaypoints, ?_, hFinal, ?_, t, hT⟩,
        rfl, rfl⟩
      · simp [hArcs, lit_zero]
      · simp only [hSegments, nil_append]
        exact hLaid

theorem apply_tracked (h : LaidRoute route first rest p arcs final) (hState : Tracked final route)
    {call : RouteCall} (hFinite : FinitePositions [call]) :
    LaidRoute (call.apply route) first rest p arcs final ∧ Tracked final (call.apply route) := by
  cases call with
  | reset => exact ⟨h.of_state _, .inl rfl⟩
  | update position =>
    obtain ⟨x, rfl⟩ := allFinite_iff.mp (hFinite position (by simp))
    obtain ⟨hLaid, hSegments, hMeasured⟩ := update_measured h hState x
    refine ⟨hLaid, .inr ?_⟩
    rw [RouteCall.apply, hSegments]
    exact hMeasured

theorem runCalls_tracked {calls : List RouteCall} :
    ∀ {route : RouteProgress (ExactReal ℝ)}, LaidRoute route first rest p arcs final →
      Tracked final route → FinitePositions calls →
      LaidRoute (runCalls route calls) first rest p arcs final ∧
        Tracked final (runCalls route calls) := by
  induction calls with
  | nil =>
    intro route h hState _
    exact ⟨h, hState⟩
  | cons call calls ih =>
    intro route h hState hFinite
    have hHead : FinitePositions [call] := by
      intro position hMem
      rw [mem_singleton] at hMem
      exact hFinite position (by simp [hMem])
    obtain ⟨hLaid, hTracked⟩ := apply_tracked h hState hHead
    exact ih hLaid hTracked fun position hMem => hFinite position (mem_cons_of_mem _ hMem)

theorem runCalls_measured {calls : List RouteCall} :
    ∀ {route : RouteProgress (ExactReal ℝ)}, LaidRoute route first rest p arcs final →
      Measured route.segments final route.state → FinitePositions calls → .reset ∉ calls →
      LaidRoute (runCalls route calls) first rest p arcs final ∧
        Measured (runCalls route calls).segments final (runCalls route calls).state := by
  induction calls with
  | nil =>
    intro route h hState _ _
    exact ⟨h, hState⟩
  | cons call calls ih =>
    intro route h hState hFinite hReset
    cases call with
    | reset => exact absurd (by simp) hReset
    | update position =>
      obtain ⟨x, rfl⟩ := allFinite_iff.mp (hFinite position (by simp))
      obtain ⟨hLaid, hSegments, hMeasured⟩ := update_measured h (.inr hState) x
      rw [← hSegments] at hMeasured
      exact ih hLaid hMeasured (fun position hMem => hFinite position (mem_cons_of_mem _ hMem))
        (fun hMem => hReset (mem_cons_of_mem _ hMem))

theorem Measured.ranges {state : RouteProgressState (ExactReal ℝ)}
    {segments : List (RouteSegment (ExactReal ℝ))} (h : Measured segments final state)
    (hLegs : ∀ segment ∈ segments, IsLeg final segment) (hFinal : 0 ≤ final) :
    ∃ a b d f q t, state.projection.valid = true ∧ state.progressArcM = .finite a ∧ 0 ≤ a ∧
      a ≤ final ∧ state.projection.arcLengthM = .finite b ∧ 0 ≤ b ∧ b ≤ final ∧
      state.projection.lateralErrorM = .finite d ∧ 0 ≤ d ∧
      state.projection.segmentFraction = .finite f ∧ 0 ≤ f ∧ f ≤ 1 ∧
      state.projection.point = .lift q ∧ state.projection.tangent = .lift t := by
  obtain ⟨a, hProgress, hLow, hHigh⟩ := h.progress
  have hProjection := h.projection
  split at hProjection
  · obtain ⟨q, d, hd, hState⟩ := hProjection
    rw [hState]
    exact ⟨a, 0, d, 0, q, ⟨0, 0, 0⟩, rfl, hProgress, hLow, hHigh, rfl, le_rfl, hFinal, rfl, hd, rfl,
      le_rfl, zero_le_one, rfl, rfl⟩
  · obtain ⟨hValid, b, hArc, hArcLow, hArcHigh⟩ := hProjection.arc hLegs
    generalize state.projection = projection at hProjection hValid hArc ⊢
    obtain @⟨index, segment, fraction, lateral, named, low, high, nonneg⟩ := hProjection
    have hLeg := hLegs segment (mem_of_getElem? named)
    obtain ⟨q, hPoint⟩ := pointAt_finite hLeg fraction
    obtain ⟨index', total, p', w', rfl, _, _, _⟩ := hLeg
    exact ⟨a, b, lateral, fraction, q, _, hValid, hProgress, hLow, hHigh, hArc, hArcLow, hArcHigh,
      rfl, nonneg, rfl, low, high, hPoint, rfl⟩

theorem projectionConsistent_of_measured {snapshot : ImmutableRouteSnapshot (ExactReal ℝ)}
    (h : Measured snapshot.segments final snapshot.measuredProgress)
    (hLegs : ∀ segment ∈ snapshot.segments, IsLeg final segment) :
    snapshot.projectionConsistent = true := by
  have hProjection := h.projection
  unfold projectionConsistent
  split at hProjection
  · rename_i hEmpty
    obtain ⟨q, d, _, hState⟩ := hProjection
    simp [hEmpty, hState]
  · rename_i hSegments
    have hEmpty : snapshot.segments.isEmpty = false := by simpa using hSegments
    generalize hState : snapshot.measuredProgress.projection = projection at hProjection
    obtain @⟨index, segment, fraction, lateral, named, low, high, nonneg⟩ := hProjection
    obtain ⟨index', total, p', w', rfl, hPos, _, _⟩ := hLegs segment (mem_of_getElem? named)
    have hStart := mul_nonneg low hPos.le
    have hEnd := mul_le_of_le_one_left hPos.le high
    obtain ⟨q, hPoint⟩ := pointAt_finite ⟨index', total, p', w', rfl, hPos, ‹_›, ‹_›⟩ fraction
    simp only [hEmpty, Bool.false_eq_true, if_false, RouteProjection.onto, named, hPoint]
    simp only [legBetween, allFinite_lift, norm_sub_self, mul_finite, add_finite, sub_finite,
      abs_finite, lt_finite, lit_micro, sub_self, abs_zero, Bool.not_true, Bool.false_or]
    rw [if_neg (by simp; constructor <;> linarith), if_neg (by norm_num)]

theorem snapshot_valid_of_measured (h : LaidRoute route first rest p arcs final)
    (hMeasured : Measured route.segments final route.state) {missionId frame : String}
    {routeRevision requestId activeWaypointIndex : Nat} (hId : missionId ≠ "") (hFrame : frame ≠ "")
    (hRevision : routeRevision ≠ 0) (hRequest : requestId ≠ 0)
    (hActive : activeWaypointIndex < route.waypoints.length) :
    (route.snapshot missionId frame routeRevision requestId activeWaypointIndex).valid = true := by
  have hFinal : 0 ≤ final := h.laid.total_le
  obtain ⟨a, b, d, f, q, t, hValid, hProgress, ha, ha', hArc, hb, hb', hLateral, hd, hFraction, hf,
    hf', hPoint, hTangent⟩ := hMeasured.ranges h.legs hFinal
  have hLength : route.waypointArcLengths.length = route.waypoints.length := by
    rw [h.arcLengths, h.waypoints]
    simp [h.laid.length_eq]
  have hHeader : (route.snapshot missionId frame routeRevision requestId
      activeWaypointIndex).headerValid = true := by
    have hIdEmpty : missionId.isEmpty = false := by simpa [String.isEmpty_iff] using hId
    have hFrameEmpty : frame.isEmpty = false := by simpa [String.isEmpty_iff] using hFrame
    have hWaypoints : route.waypoints.isEmpty = false := by simp [h.waypoints]
    have hIndex : ¬ route.waypoints.length ≤ activeWaypointIndex := not_le.mpr hActive
    simp only [headerValid, RouteProgress.snapshot, hIdEmpty, hFrameEmpty,
      hWaypoints, hIndex, hLength, h.total, hMeasured.valid, hValid, hProgress, hArc, hLateral,
      hFraction, hPoint, hTangent, isFinite_finite, allFinite_lift, lit_zero,
      lit_one, lit_micro, lt_finite, add_finite]
    have hArcBound : ¬ final + 1e-6 < a := by linarith
    have hProjectionBound : ¬ final + 1e-6 < b := by linarith
    simp [hRevision, hRequest, not_lt.mpr hFinal, not_lt.mpr ha, not_lt.mpr hb, not_lt.mpr hd,
      not_lt.mpr hf, not_lt.mpr hf', hArcBound, hProjectionBound]
  have hWaypoints : waypointsConsistent [] (lit 0) none
      ((first :: rest).zip ((0 :: arcs).map .finite)) = true := by
    obtain ⟨hFirstId, hGeometry, hFresh, hRest⟩ := waypointsValid_head h.valid
    have hLoop := h.laid.waypointsConsistent le_rfl h.position hRest
    simp only [map_cons, zip_cons_cons, waypointsConsistent, hFirstId, hGeometry, hFresh, lit_zero,
      isFinite_finite, lt_finite, lt_self_iff_false, decide_false, Option.any_none, Bool.not_true,
      Bool.or_self, Bool.false_eq_true, if_false]
    exact hLoop
  have hSegments : (route.snapshot missionId frame routeRevision requestId
      activeWaypointIndex).segmentsConsistent none route.segments = true :=
    @Laid.segmentsConsistent _ _ _ _ _ _ _ h.laid _ [first] [0] first none Nat.one_pos rfl rfl rfl
      h.position rfl h.waypoints h.arcLengths (by intro end_ h; cases h)
  have hProjection : (route.snapshot missionId frame routeRevision requestId
      activeWaypointIndex).projectionConsistent = true :=
    projectionConsistent_of_measured hMeasured h.legs
  have hBack : route.waypointArcLengths.getLast? = some (.finite final) := by
    rw [h.arcLengths, List.getLast?_map, h.laid.getLast]
    rfl
  have hFront : route.waypointArcLengths.head? = some (.finite 0) := by
    rw [h.arcLengths]
    rfl
  have hNear : ¬ ((1e-6 : ℝ) < |final - final|) := by norm_num
  have hFields : (route.snapshot missionId frame routeRevision requestId
      activeWaypointIndex).waypoints = first :: rest := h.waypoints
  have hTotal : (route.snapshot missionId frame routeRevision requestId
      activeWaypointIndex).totalLengthM = .finite final := h.total
  have hArcs : (route.snapshot missionId frame routeRevision requestId
      activeWaypointIndex).waypointArcLengthsM = (0 :: arcs).map .finite := h.arcLengths
  have hSame : (route.snapshot missionId frame routeRevision requestId
      activeWaypointIndex).segments = route.segments := rfl
  rw [h.arcLengths] at hFront hBack
  generalize route.snapshot missionId frame routeRevision requestId activeWaypointIndex = snapshot
    at *
  unfold valid
  rw [hFields, hArcs, hWaypoints]
  simp only [hHeader, hFront, hBack, hSame, hSegments, hProjection, hTotal,
    h.laid.expectedSegmentCount h.position, h.laid.legsMatch h.position, lit_zero,
    lit_micro, le_finite, sub_finite, abs_finite,
    lt_finite, hNear]
  simp

/-- The calls end with updates: the last reset is followed by an update. -/
def UpdatedSinceReset (calls : List RouteCall) : Prop :=
  ∃ earlier position later, calls = earlier ++ .update position :: later ∧ .reset ∉ later

theorem snapshot_always_valid {mission : Mission (ExactReal ℝ)} {tolerance : ExactReal ℝ}
    (hCreate : RouteProgress.create mission tolerance = .ok route) {calls : List RouteCall}
    (hFinite : FinitePositions calls) (hUpdated : UpdatedSinceReset calls)
    {missionId frame : String} {routeRevision requestId activeWaypointIndex : Nat}
    (hId : missionId ≠ "") (hFrame : frame ≠ "") (hRevision : routeRevision ≠ 0)
    (hRequest : requestId ≠ 0) (hActive : activeWaypointIndex < mission.waypoints.length) :
    ((runCalls route calls).snapshot missionId frame routeRevision requestId
      activeWaypointIndex).valid = true := by
  obtain ⟨first, rest, p, arcs, final, hLaid, hInitial, hWaypoints⟩ := create_laid hCreate
  obtain ⟨earlier, position, later, rfl, hReset⟩ := hUpdated
  have hEarlier : FinitePositions earlier := by
    intro position hMem
    exact hFinite position (mem_append_left _ hMem)
  have hLater : FinitePositions later := by
    intro position hMem
    exact hFinite position (mem_append_right _ (mem_cons_of_mem _ hMem))
  obtain ⟨hBefore, hTracked⟩ := runCalls_tracked hLaid (.inl hInitial) hEarlier
  obtain ⟨x, rfl⟩ := allFinite_iff.mp (hFinite position (by simp))
  obtain ⟨hUpdate, hSegments, hMeasured⟩ := update_measured hBefore hTracked x
  rw [← hSegments] at hMeasured
  obtain ⟨hAfter, hState⟩ := runCalls_measured hUpdate hMeasured hLater hReset
  have hRun : runCalls route (earlier ++ .update (.lift x) :: later) =
      runCalls ((runCalls route earlier).update (.lift x)) later := by
    simp [runCalls, RouteCall.apply]
  rw [hRun]
  apply snapshot_valid_of_measured hAfter hState hId hFrame hRevision hRequest
  rw [hAfter.waypoints, ← hLaid.waypoints, hWaypoints]
  exact hActive

theorem extendAll_ok {rest : List Waypoint} :
    ∀ {build : RouteBuild (ExactReal ℝ)} {index : Nat} {previous : Waypoint} {p : Vec3 ℝ} {t : ℝ}
      {seen : List String}, build.totalLengthM = .finite t → previous.positionEnu = .lift p →
      waypointsValid seen rest = true →
      ∃ built, build.extendAll index (some previous) rest = .ok built := by
  induction rest with
  | nil =>
    intro build index previous p t seen _ _ _
    exact ⟨build, rfl⟩
  | cons waypoint rest ih =>
    intro build index previous p t seen hTotal hPrevious hValid
    obtain ⟨_, hGeometry, _, hRest⟩ := waypointsValid_head hValid
    obtain ⟨w, hPosition⟩ := geometryValid_position hGeometry
    simp only [RouteBuild.extendAll, RouteBuild.extend, hGeometry, hPosition, hPrevious, norm_gap,
      isFinite_finite, Bool.not_true, Bool.false_eq_true, if_false, minimumSegmentLength_exact,
      lt_finite, hTotal, add_finite, le_finite, Bool.false_or, decide_eq_true_eq]
    by_cases hLong : 1e-9 < gap p w
    · have hPos : 0 < gap p w := lt_trans (by norm_num) hLong
      rw [if_pos hLong, if_neg (by linarith)]
      exact ih rfl hPosition hRest
    · rw [if_neg hLong]
      exact ih rfl hPosition hRest

theorem create_ok (hValid : mission.valid = true) {t : ℝ} (ht : 0 ≤ t) :
    ∃ route, RouteProgress.create mission (.finite t) = .ok route := by
  have hWaypoints : waypointsValid [] mission.waypoints = true := by
    have hAll := hValid
    unfold Mission.valid at hAll
    split at hAll
    · cases hAll
    · exact hAll
  have hBuilt : ∃ built, RouteBuild.extendAll (⟨[], [], lit 0⟩ : RouteBuild (ExactReal ℝ)) 0 none
      mission.waypoints = .ok built := by
    cases hList : mission.waypoints with
    | nil => exact ⟨_, rfl⟩
    | cons first rest =>
      rw [hList] at hWaypoints
      obtain ⟨_, hGeometry, _, hRest⟩ := waypointsValid_head hWaypoints
      obtain ⟨p, hPosition⟩ := geometryValid_position hGeometry
      simp only [RouteBuild.extendAll, RouteBuild.extend, hGeometry, Bool.not_true,
        Bool.false_eq_true, if_false]
      exact extendAll_ok lit_zero hPosition hRest
  obtain ⟨built, hBuilt⟩ := hBuilt
  rw [lit_zero] at hBuilt
  simp only [RouteProgress.create, hValid, hBuilt, Bool.not_true, Bool.false_eq_true, if_false,
    isFinite_finite, lit_zero, lt_finite, not_lt.mpr ht, Bool.false_or, decide_false]
  exact ⟨_, rfl⟩

noncomputable def stopAt (id : String) (x y : ℝ) : Waypoint :=
  ⟨id, .lift ⟨x, y, 2⟩, .finite 1, .finite 0, .stop⟩

/-- Out, a second checkpoint at the same place, and back along the same leg. -/
noncomputable def shuttle : Mission (ExactReal ℝ) :=
  { schemaVersion := 1, id := "shuttle", frame := "map"
    waypoints := [stopAt "home" 0 0, stopAt "out" 3 4, stopAt "turn" 3 4, stopAt "back" 0 0]
    planning := ⟨.finite 1, .allowUnknown⟩
    control := ⟨.finite 0, .finite 0⟩ }

theorem stopAt_geometryValid (id : String) (x y : ℝ) : (stopAt id x y).geometryValid = true := by
  simp [stopAt, MissionWaypoint.geometryValid, lit_zero]

theorem shuttle_valid : shuttle.valid = true := by
  have hIds : (stopAt "home" 0 0).id = "home" ∧ (stopAt "out" 3 4).id = "out" ∧
    (stopAt "turn" 3 4).id = "turn" ∧ (stopAt "back" 0 0).id = "back" := ⟨rfl, rfl, rfl, rfl⟩
  unfold Mission.valid
  rw [if_neg]
  · simp only [shuttle, waypointsValid, stopAt_geometryValid, hIds]
    decide
  · simp only [shuttle, lit_zero, isFinite_finite, le_finite, lt_finite]
    norm_num
    decide

theorem snapshot_shuttle_valid : ∃ route, RouteProgress.create shuttle (.finite 0.5) = .ok route ∧
      ((runCalls route [.update (.lift ⟨1, 1, 2⟩), .reset, .update (.lift ⟨3, 3, 2⟩),
        .update (.lift ⟨1, 2, 2⟩)]).snapshot "shuttle" "map" 1 1 3).valid = true := by
  obtain ⟨route, hCreate⟩ := create_ok shuttle_valid (show (0 : ℝ) ≤ 0.5 by norm_num)
  refine ⟨route, hCreate, ?_⟩
  apply snapshot_always_valid hCreate
  · intro position hMem
    simp only [mem_cons, RouteCall.update.injEq, reduceCtorEq, not_mem_nil, false_or,
      or_false] at hMem
    rcases hMem with rfl | rfl | rfl <;> rfl
  · exact ⟨[.update (.lift ⟨1, 1, 2⟩), .reset], .lift ⟨3, 3, 2⟩, [.update (.lift ⟨1, 2, 2⟩)], rfl,
      by simp⟩
  · decide
  · decide
  · decide
  · decide
  · simp [shuttle]

end Snapshots

/-! ## Monotone progress along the branches of a route -/

open FloatOps ExactReal

def alongLeg (p w : Vec3 ℝ) (f : ℝ) : Vec3 ℝ :=
  ⟨p.x + f * (w.x - p.x), p.y + f * (w.y - p.y), p.z + f * (w.z - p.z)⟩

def OnSegment (segment : RouteSegment (ExactReal ℝ)) (q : Vec3 ℝ) : Prop :=
  ∃ f, 0 ≤ f ∧ f ≤ 1 ∧ segment.pointAt (.finite f) = .lift q

theorem gap_squared (p w : Vec3 ℝ) :
    gap p w * gap p w = (w.x - p.x) * (w.x - p.x) + (w.y - p.y) * (w.y - p.y) +
      (w.z - p.z) * (w.z - p.z) :=
  Real.mul_self_sqrt (Vec3.normSquared_nonneg _)

theorem gap_le_of_squared {p q x : Vec3 ℝ} (h : gap p x * gap p x ≤ gap q x * gap q x) :
    gap p x ≤ gap q x :=
  abs_le_of_sq_le_sq' (by nlinarith) (gap_nonneg q x) |>.2

theorem pointAt_legBetween (index : Nat) (total : ℝ) (p w : Vec3 ℝ) (f : ℝ) :
    (legBetween index total p w).pointAt (.finite f) = .lift (alongLeg p w f) := by
  rfl

theorem Vec3.lift_injective {a b : Vec3 ℝ} (h : Vec3.lift a = Vec3.lift b) : a = b := by
  cases a
  cases b
  simpa [Vec3.lift] using h

theorem gap_alongLeg {p w x : Vec3 ℝ} (hPos : 0 < gap p w) (f g r : ℝ)
    (hr : r = ((x.x - p.x) * ((w.x - p.x) / gap p w) + (x.y - p.y) * ((w.y - p.y) / gap p w) +
      (x.z - p.z) * ((w.z - p.z) / gap p w)) / gap p w) :
    gap (alongLeg p w g) x * gap (alongLeg p w g) x =
      gap (alongLeg p w f) x * gap (alongLeg p w f) x +
        gap p w * gap p w * ((g - r) * (g - r) - (f - r) * (f - r)) := by
  have hDot : r * (gap p w * gap p w) = (x.x - p.x) * (w.x - p.x) + (x.y - p.y) * (w.y - p.y) +
      (x.z - p.z) * (w.z - p.z) := by
    rw [hr]
    field_simp
  have hSquare := gap_squared p w
  have hLeft := gap_squared (alongLeg p w g) x
  have hRight := gap_squared (alongLeg p w f) x
  rw [hLeft, hRight]
  have hExpand : gap p w * gap p w * ((g - r) * (g - r) - (f - r) * (f - r)) =
      gap p w * gap p w * (g * g - f * f) - 2 * (g - f) * (r * (gap p w * gap p w)) := by ring
  rw [hExpand, hDot, hSquare]
  simp only [alongLeg]
  ring

theorem clamp_nearest (r : ℝ) : ∃ f, clamp (finite r) (lit 0) (lit 1) = .finite f ∧
    0 ≤ f ∧ f ≤ 1 ∧ ∀ g, 0 ≤ g → g ≤ 1 → (f - r) * (f - r) ≤ (g - r) * (g - r) := by
  rw [lit_zero, lit_one, clamp_eq r zero_le_one]
  refine ⟨_, rfl, le_sup_left, sup_le zero_le_one inf_le_right, ?_⟩
  intro g hLow hHigh
  rcases le_total r 0 with hBelow | hAbove
  · rw [inf_eq_left.mpr (hBelow.trans zero_le_one), sup_eq_left.mpr hBelow]
    nlinarith
  rcases le_total r 1 with hInside | hBeyond
  · rw [inf_eq_left.mpr hInside, sup_eq_right.mpr hAbove]
    nlinarith [mul_self_nonneg (g - r)]
  · rw [inf_eq_right.mpr hBeyond, sup_eq_right.mpr zero_le_one]
    nlinarith

section Projections
variable {final : ℝ} {segments : List (RouteSegment (ExactReal ℝ))}
  {segment : RouteSegment (ExactReal ℝ)}

theorem foot_nearest (h : IsLeg final segment) (x : Vec3 ℝ) :
    ∃ r f q, segment.rawFraction (.lift x) = .finite r ∧
      clamp (finite r) (lit 0) (lit 1) = .finite f ∧ 0 ≤ f ∧ f ≤ 1 ∧
      segment.pointAt (.finite f) = .lift q ∧
      ∀ other, OnSegment segment other → gap q x ≤ gap other x := by
  obtain ⟨index, total, p, w, rfl, hPos, _, _⟩ := h
  obtain ⟨f, hClamp, hLow, hHigh, hNearest⟩ := clamp_nearest
    (((x.x - p.x) * ((w.x - p.x) / gap p w) + (x.y - p.y) * ((w.y - p.y) / gap p w) +
      (x.z - p.z) * ((w.z - p.z) / gap p w)) / gap p w)
  refine ⟨_, f, alongLeg p w f, ?_, hClamp, hLow, hHigh, pointAt_legBetween index total p w f, ?_⟩
  · simp only [RouteSegment.rawFraction, legBetween, Vec3.lift_sub]
    exact div_finite _ hPos.ne'
  · rintro other ⟨g, hgLow, hgHigh, hPoint⟩
    rw [pointAt_legBetween] at hPoint
    obtain rfl := Vec3.lift_injective hPoint
    apply gap_le_of_squared
    rw [gap_alongLeg hPos f g _ rfl]
    have hSquare := mul_self_nonneg (gap p w)
    have hLess := hNearest g hgLow hgHigh
    nlinarith [mul_nonneg hSquare (sub_nonneg.mpr hLess)]

/-- The projection is a point of the route at the distance `l` from the position. -/
structure Beside (segments : List (RouteSegment (ExactReal ℝ))) (x : Vec3 ℝ)
    (projection : RouteProjection (ExactReal ℝ)) (l : ℝ) : Prop where
  onRoute : OnRoute segments projection
  lateral : projection.lateralErrorM = .finite l
  point : ∃ q, projection.point = .lift q ∧ l = gap q x

theorem Beside.nonneg {x : Vec3 ℝ} {projection : RouteProjection (ExactReal ℝ)} {l : ℝ}
    (h : Beside segments x projection l) : 0 ≤ l := by
  obtain ⟨q, -, rfl⟩ := h.point
  exact gap_nonneg q x

theorem Beside.onto {index : Nat} {f : ℝ} {q x : Vec3 ℝ} (hNamed : segments[index]? = some segment)
    (hLow : 0 ≤ f) (hHigh : f ≤ 1) (hPoint : segment.pointAt (.finite f) = .lift q) :
    Beside segments x (.onto segment index (.finite f) (segment.pointAt (.finite f))
      (.finite (gap q x))) (gap q x) :=
  ⟨.onto hNamed hLow hHigh (gap_nonneg q x), rfl, q, hPoint, rfl⟩

theorem squaredNorm_gap (q x : Vec3 ℝ) :
    (Vec3.lift x - Vec3.lift q).squaredNorm = .finite (gap q x * gap q x) := by
  rw [Vec3.lift_sub, Vec3.squaredNorm_lift, gap_squared]
  rfl

theorem sqrt_gap (q x : Vec3 ℝ) :
    FloatOps.sqrt (finite (gap q x * gap q x)) = .finite (gap q x) := by
  have hRoot : SquareRoot.squareRoot (gap q x * gap q x) = gap q x :=
    Real.sqrt_mul_self (gap_nonneg q x)
  rw [sqrt_finite (mul_self_nonneg _), hRoot]

theorem foot_exact (h : IsLeg final segment) (x : Vec3 ℝ) : ∃ f q, segment.foot (.lift x) =
        some ⟨.finite f, segment.pointAt (.finite f), .finite (gap q x * gap q x)⟩ ∧
      0 ≤ f ∧ f ≤ 1 ∧ segment.pointAt (.finite f) = .lift q ∧
      ∀ other, OnSegment segment other → gap q x ≤ gap other x := by
  obtain ⟨r, f, q, hRaw, hClamp, hLow, hHigh, hPoint, hNearest⟩ := foot_nearest h x
  refine ⟨f, q, ?_, hLow, hHigh, hPoint, hNearest⟩
  simp only [RouteSegment.foot, hRaw, isFinite_finite, Bool.not_true, Bool.false_eq_true,
    if_false, hClamp]
  rw [← squaredNorm_gap, ← hPoint]

/-- What the loop of `project` has found after the segments in front. -/
def Found (segments front : List (RouteSegment (ExactReal ℝ))) (x : Vec3 ℝ)
    (best : ExactReal ℝ) (result : RouteProjection (ExactReal ℝ)) : Prop :=
  (best = .nonFinite ∧ front = []) ∨ ∃ l, Beside segments x result l ∧ best = .finite (l * l) ∧
    ∀ segment ∈ front, ∀ q, OnSegment segment q → l ≤ gap q x

theorem nearestFrom_nearest (hLegs : ∀ segment ∈ segments, IsLeg final segment) (x : Vec3 ℝ)
    (hSegments : segments ≠ []) {rest : List (RouteSegment (ExactReal ℝ))} :
    ∀ (front : List (RouteSegment (ExactReal ℝ))) {best : ExactReal ℝ}
      {result : RouteProjection (ExactReal ℝ)}, segments = front ++ rest →
      Found segments front x best result →
      ∃ l, Beside segments x (nearestFrom (.lift x) best result front.length rest) l ∧
        ∀ segment ∈ segments, ∀ q, OnSegment segment q → l ≤ gap q x := by
  induction rest with
  | nil =>
    intro front best result hSplit h
    rw [List.append_nil] at hSplit
    subst hSplit
    rcases h with ⟨-, hEmpty⟩ | ⟨l, hBeside, -, hNearest⟩
    · exact absurd hEmpty hSegments
    · exact ⟨l, hBeside, hNearest⟩
  | cons segment rest ih =>
    intro front best result hSplit h
    obtain ⟨hNamed, hMember, hNext, hLength⟩ := split_next hSplit
    obtain ⟨f, q, hFoot, hLow, hHigh, hPoint, hNearest⟩ := foot_exact (hLegs segment hMember) x
    simp only [nearestFrom, hFoot, isFinite_finite, Bool.not_true, Bool.false_or,
      decide_eq_true_eq, sqrt_gap]
    rw [← hLength]
    split
    · -- the result so far is at least as near
      rename_i hBest
      apply ih _ hNext
      rcases h with ⟨rfl, -⟩ | ⟨l, hBeside, rfl, hFront⟩
      · exact absurd hBest id
      · refine .inr ⟨l, hBeside, rfl, ?_⟩
        intro other hOther point hOn
        rcases List.mem_append.mp hOther with hOther | hOther
        · exact hFront other hOther point hOn
        · rw [List.mem_singleton.mp hOther] at hOn
          refine le_trans ?_ (hNearest point hOn)
          rw [le_finite] at hBest
          exact abs_le_of_sq_le_sq' (by nlinarith) (gap_nonneg q x) |>.2
    · rename_i hBest
      apply ih _ hNext
      refine .inr ⟨gap q x, .onto hNamed hLow hHigh hPoint, rfl, ?_⟩
      intro other hOther point hOn
      rcases List.mem_append.mp hOther with hOther | hOther
      · rcases h with ⟨-, rfl⟩ | ⟨l, hBeside, rfl, hFront⟩
        · cases hOther
        · have hLess : gap q x * gap q x < l * l := by
            exact not_le.mp hBest
          refine le_trans ?_ (hFront other hOther point hOn)
          exact abs_le_of_sq_le_sq' (by nlinarith) hBeside.nonneg |>.2
      · rw [List.mem_singleton.mp hOther] at hOn
        exact hNearest point hOn

theorem tieSquared_exact : (projectionDistanceTieSquaredM2 : ExactReal ℝ) = .finite 1e-12 := by
  simp only [projectionDistanceTieSquaredM2, lit_finite]
  norm_num

theorem tiedBranchFrom_beside (hLegs : ∀ segment ∈ segments, IsLeg final segment) (x : Vec3 ℝ)
    {bestSquared : ℝ} {previousProgress : ExactReal ℝ} {rest : List (RouteSegment (ExactReal ℝ))} :
    ∀ (front : List (RouteSegment (ExactReal ℝ))) {bestArc : ExactReal ℝ}
      {projection : RouteProjection (ExactReal ℝ)}, segments = front ++ rest →
      (∃ l, Beside segments x projection l ∧ l * l ≤ bestSquared + 1e-12) →
      ∃ l, Beside segments x (tiedBranchFrom (.lift x) (.finite bestSquared) previousProgress
        bestArc projection front.length rest) l ∧ l * l ≤ bestSquared + 1e-12 := by
  induction rest with
  | nil =>
    intro front bestArc projection _ h
    exact h
  | cons segment rest ih =>
    intro front bestArc projection hSplit h
    obtain ⟨hNamed, hMember, hNext, hLength⟩ := split_next hSplit
    obtain ⟨f, q, hFoot, hLow, hHigh, hPoint, -⟩ := foot_exact (hLegs segment hMember) x
    have hSkip := @ih (front ++ [segment]) bestArc projection hNext h
    rw [hLength] at hSkip
    simp only [tiedBranchFrom, hFoot, sqrt_gap]
    split
    · exact hSkip
    rename_i hTied
    simp only [isFinite_finite, Bool.not_true, Bool.false_or, tieSquared_exact, sub_finite,
      abs_finite, lt_finite, decide_eq_true_eq, not_lt] at hTied
    split
    · exact hSkip
    · rw [← hLength]
      apply ih _ hNext
      refine ⟨gap q x, .onto hNamed hLow hHigh hPoint, ?_⟩
      have hBound := (abs_le.mp hTied).2
      linarith

end Projections

/-! ## One update -/

section Updates
variable {route : RouteProgress (ExactReal ℝ)} {first : Waypoint} {rest : List Waypoint}
  {p : Vec3 ℝ} {arcs : List ℝ} {final tolerance : ℝ} {projection : RouteProjection (ExactReal ℝ)}

theorem keepActiveLeg_beside (h : LaidRoute route first rest p arcs final)
    (hTolerance : route.backtrackToleranceM = .finite tolerance) (hNonneg : 0 ≤ tolerance)
    {x : Vec3 ℝ} {l : ℝ} (hBeside : Beside route.segments x projection l) :
    ∃ l', Beside route.segments x (route.keepActiveLeg (.lift x) projection) l' ∧
      l' ≤ l + tolerance := by
  have hSame : ∃ l', Beside route.segments x projection l' ∧ l' ≤ l + tolerance :=
    ⟨l, hBeside, by linarith⟩
  unfold RouteProgress.keepActiveLeg
  split
  · exact hSame
  rename_i segment hNamed
  split
  · have hLeg := h.legs segment (List.mem_of_getElem? hNamed)
    obtain ⟨r, f, q, hRaw, hClamp, hLow, hHigh, hPoint, -⟩ := foot_nearest hLeg x
    have hNorm : (Vec3.lift x - segment.pointAt (.finite f)).norm = .finite (gap q x) := by
      rw [hPoint, norm_gap]
    simp only [hRaw, hClamp, hNorm, hBeside.lateral, hTolerance, isFinite_finite, add_finite,
      le_finite, Bool.true_and, decide_eq_true_eq, (hBeside.onRoute.arc h.legs).1]
    split
    · rename_i hWithin
      exact ⟨gap q x, .onto hNamed hLow hHigh hPoint, hWithin⟩
    · exact hSame
  · exact hSame

theorem resolveTies_beside (h : LaidRoute route first rest p arcs final) {x : Vec3 ℝ} {l : ℝ}
    (hBeside : Beside route.segments x projection l) :
    ∃ l', Beside route.segments x (route.resolveTies (.lift x) projection) l' ∧
      l' * l' ≤ l * l + 1e-12 := by
  have hSame : ∃ l', Beside route.segments x projection l' ∧ l' * l' ≤ l * l + 1e-12 :=
    ⟨l, hBeside, by linarith [show (0 : ℝ) ≤ 1e-12 by norm_num]⟩
  unfold RouteProgress.resolveTies
  split
  · rw [hBeside.lateral, mul_finite]
    exact tiedBranchFrom_beside h.legs x [] rfl hSame
  · exact hSame

theorem le_of_tied {l l' : ℝ} (hl : 0 ≤ l) (h : l' * l' ≤ l * l + 1e-12) : l' ≤ l + 1e-6 := by
  exact abs_le_of_sq_le_sq' (by nlinarith) (by positivity) |>.2

/-- The points of the route: those of its segments, or the single place of its waypoints. -/
def OnPolyline (route : RouteProgress (ExactReal ℝ)) (q : Vec3 ℝ) : Prop :=
  (∃ segment ∈ route.segments, OnSegment segment q) ∨
    (route.segments = [] ∧ ∃ waypoint ∈ route.waypoints.head?, waypoint.positionEnu = .lift q)

/-- The distance of the position from the route, and the projection that attains it. -/
structure Nearest (route : RouteProgress (ExactReal ℝ)) (x : Vec3 ℝ)
    (projection : RouteProjection (ExactReal ℝ)) (d : ℝ) : Prop where
  valid : projection.valid = true
  lateral : projection.lateralErrorM = .finite d
  point : ∃ q, projection.point = .lift q ∧ OnPolyline route q ∧ d = gap q x
  least : ∀ q, OnPolyline route q → d ≤ gap q x

theorem OnRoute.polyline {q : Vec3 ℝ} (h : OnRoute route.segments projection)
    (hPoint : projection.point = .lift q) : OnPolyline route q := by
  obtain @⟨index, segment, f, lateral, named, low, high, -⟩ := h
  exact .inl ⟨segment, List.mem_of_getElem? named, f, low, high, hPoint⟩

theorem project_nearest (h : LaidRoute route first rest p arcs final) (x : Vec3 ℝ) :
    ∃ d, Nearest route x (route.project (.lift x)) d := by
  by_cases hSegments : route.segments = []
  · rw [project_single h x hSegments]
    refine ⟨gap p x, rfl, rfl, ⟨p, rfl, .inr ⟨hSegments, first, ?_, h.position⟩, rfl⟩, ?_⟩
    · rw [h.waypoints]
      rfl
    · rintro q (⟨segment, hSegment, -⟩ | ⟨-, waypoint, hWaypoint, hPosition⟩)
      · rw [hSegments] at hSegment
        cases hSegment
      · rw [h.waypoints] at hWaypoint
        cases hWaypoint
        rw [h.position] at hPosition
        rw [Vec3.lift_injective hPosition]
  · have hEmpty : route.segments.isEmpty = false := by simpa using hSegments
    simp only [RouteProgress.project, h.waypoints, List.head?_cons, Vec3.allFinite_lift, hEmpty,
      Bool.not_true, Bool.false_eq_true, if_false]
    obtain ⟨d, hBeside, hLeast⟩ :=
      nearestFrom_nearest h.legs x hSegments [] rfl (.inl ⟨rfl, rfl⟩)
    obtain ⟨q, hPoint, hDistance⟩ := hBeside.point
    refine ⟨d, (hBeside.onRoute.arc h.legs).1, hBeside.lateral,
      ⟨q, hPoint, hBeside.onRoute.polyline hPoint, hDistance⟩, ?_⟩
    rintro other (⟨segment, hSegment, hOn⟩ | ⟨hNone, -⟩)
    · exact hLeast segment hSegment other hOn
    · exact absurd hNone hSegments

/-- The selected projection: its arc is in the route, and its distance is hardly larger than
the least. -/
structure Selected (route : RouteProgress (ExactReal ℝ)) (final tolerance : ℝ) (x : Vec3 ℝ)
    (projection : RouteProjection (ExactReal ℝ)) : Prop where
  arc : ∃ a, projection.arcLengthM = .finite a ∧ 0 ≤ a ∧ a ≤ final
  point : ∃ q d, projection.point = .lift q ∧ OnPolyline route q ∧
    projection.lateralErrorM = .finite (gap q x) ∧
    Nearest route x (route.project (.lift x)) d ∧
    gap q x * gap q x ≤ (d + tolerance) * (d + tolerance) + 1e-12 ∧
    gap q x ≤ d + tolerance + 1e-6

theorem selected (h : LaidRoute route first rest p arcs final)
    (hTolerance : route.backtrackToleranceM = .finite tolerance) (hNonneg : 0 ≤ tolerance)
    (x : Vec3 ℝ) :
    Selected route final tolerance x (route.resolveTies (.lift x)
      (route.keepActiveLeg (.lift x) (route.project (.lift x)))) := by
  obtain ⟨d, hNearest⟩ := project_nearest h x
  obtain ⟨q, hPoint, hOn, hDistance⟩ := hNearest.point
  have hd : 0 ≤ d := hDistance ▸ gap_nonneg q x
  by_cases hSegments : route.segments = []
  · rw [(kept_of_no_segments hSegments x _).1, (kept_of_no_segments hSegments x _).2]
    refine ⟨⟨0, ?_, le_rfl, h.laid.total_le⟩, q, d, hPoint, hOn, ?_, hNearest, ?_, ?_⟩
    · rw [project_single h x hSegments]
    · rw [hNearest.lateral, hDistance]
    · rw [← hDistance]
      nlinarith
    · rw [← hDistance]
      linarith [show (0 : ℝ) ≤ 1e-6 by norm_num]
  · have hProject := project_onRoute h x hSegments
    have hBeside : Beside route.segments x (route.project (.lift x)) d :=
      ⟨hProject, hNearest.lateral, q, hPoint, hDistance⟩
    obtain ⟨l, hKept, hWithin⟩ := keepActiveLeg_beside h hTolerance hNonneg hBeside
    obtain ⟨l', hTied, hSquared⟩ := resolveTies_beside h hKept
    obtain ⟨q', hPoint', rfl⟩ := hTied.point
    have hSquare : l * l ≤ (d + tolerance) * (d + tolerance) :=
      mul_self_le_mul_self hKept.nonneg hWithin
    have hBound : gap q' x * gap q' x ≤ (d + tolerance) * (d + tolerance) + 1e-12 := by linarith
    exact ⟨(hTied.onRoute.arc h.legs).2, q', d, hPoint', hTied.onRoute.polyline hPoint',
      hTied.lateral, hNearest, hBound, le_of_tied (by linarith) hBound⟩

end Updates

/-! ## Along a run -/

/-- The calls change nothing but the measured state. -/
structure SameGeometry (a b : RouteProgress (ExactReal ℝ)) : Prop where
  waypoints : b.waypoints = a.waypoints
  segments : b.segments = a.segments
  tolerance : b.backtrackToleranceM = a.backtrackToleranceM

variable {a b : RouteProgress (ExactReal ℝ)}

theorem apply_geometry (route : RouteProgress (ExactReal ℝ)) (call : RouteCall) :
    SameGeometry route (call.apply route) := by
  cases call with
  | reset => exact ⟨rfl, rfl, rfl⟩
  | update position =>
    unfold RouteCall.apply RouteProgress.update
    dsimp only
    split <;> exact ⟨rfl, rfl, rfl⟩

theorem runCalls_geometry (calls : List RouteCall) :
    ∀ route : RouteProgress (ExactReal ℝ), SameGeometry route (runCalls route calls) := by
  induction calls with
  | nil =>
    intro route
    exact ⟨rfl, rfl, rfl⟩
  | cons call calls ih =>
    intro route
    have hFirst := apply_geometry route call
    have hRest := ih (call.apply route)
    exact ⟨hRest.waypoints.trans hFirst.waypoints, hRest.segments.trans hFirst.segments,
      hRest.tolerance.trans hFirst.tolerance⟩

theorem SameGeometry.polyline (h : SameGeometry a b) (q : Vec3 ℝ) :
    OnPolyline b q ↔ OnPolyline a q := by
  unfold OnPolyline
  rw [h.segments, h.waypoints]

theorem SameGeometry.project (h : SameGeometry a b) (position : Vec3 (ExactReal ℝ)) :
    b.project position = a.project position := by
  unfold RouteProgress.project
  rw [h.segments, h.waypoints]

theorem SameGeometry.nearest (h : SameGeometry a b) {x : Vec3 ℝ}
    {projection : RouteProjection (ExactReal ℝ)} {d : ℝ} (hNearest : Nearest b x projection d) :
    Nearest a x projection d := by
  obtain ⟨q, hPoint, hOn, hDistance⟩ := hNearest.point
  refine ⟨hNearest.valid, hNearest.lateral, ⟨q, hPoint, (h.polyline q).mp hOn, hDistance⟩, ?_⟩
  intro other hOther
  exact hNearest.least other ((h.polyline other).mpr hOther)

theorem create_tolerance {mission : Mission (ExactReal ℝ)} {tolerance : ExactReal ℝ}
    {route : RouteProgress (ExactReal ℝ)} (h : RouteProgress.create mission tolerance = .ok route) :
    ∃ t, tolerance = .finite t ∧ 0 ≤ t ∧ route.backtrackToleranceM = .finite t := by
  unfold RouteProgress.create at h
  split at h
  · cases h
  split at h
  · cases h
  rename_i hTolerance
  simp only [Bool.or_eq_true, Bool.not_eq_true', not_or, Bool.not_eq_false, decide_eq_true_eq]
    at hTolerance
  obtain ⟨t, rfl⟩ := isFinite_iff.mp hTolerance.1
  split at h
  · cases h
  · cases h
    refine ⟨t, rfl, ?_, rfl⟩
    rw [lit_zero, lt_finite] at hTolerance
    exact not_lt.mp hTolerance.2

/-- What an update shows about the progress and the projection it selects. -/
structure UpdateLaw (route before after : RouteProgress (ExactReal ℝ)) (total tolerance : ℝ)
    (x : Vec3 ℝ) : Prop where
  progress : ∃ old new arc, before.state.progressArcM = .finite old ∧
    after.state.progressArcM = .finite new ∧ after.state.projection.arcLengthM = .finite arc ∧
    old ≤ new ∧ 0 ≤ new ∧ new ≤ total ∧ arc ≤ new ∧
    (after.state.backtrackingExceeded = true ↔ arc + tolerance < old)
  nearest : ∃ d q, Nearest route x (route.project (.lift x)) d ∧
    after.state.projection.point = .lift q ∧ OnPolyline route q ∧
    after.state.projection.lateralErrorM = .finite (gap q x) ∧
    gap q x * gap q x ≤ (d + tolerance) * (d + tolerance) + 1e-12 ∧
    gap q x ≤ d + tolerance + 1e-6

theorem update_law {route before : RouteProgress (ExactReal ℝ)} {first : Waypoint}
    {rest : List Waypoint} {p : Vec3 ℝ} {arcs : List ℝ} {final tolerance : ℝ}
    (h : LaidRoute before first rest p arcs final) (hState : Tracked final before)
    (hSame : SameGeometry route before)
    (hTolerance : before.backtrackToleranceM = .finite tolerance) (hNonneg : 0 ≤ tolerance)
    (x : Vec3 ℝ) : UpdateLaw route before (before.update (.lift x)) final tolerance x := by
  obtain ⟨⟨arc, hArc, hLow, hHigh⟩, q, d, hPoint, hOn, hLateral, hNearest, hSquared, hNear⟩ :=
    selected h hTolerance hNonneg x
  have hUpdate : before.update (.lift x) = { before with
      state :=
        { valid := true
          backtrackingExceeded := before.state.valid &&
            (before.resolveTies (.lift x) (before.keepActiveLeg (.lift x)
              (before.project (.lift x)))).arcLengthM + before.backtrackToleranceM <
                before.state.progressArcM
          projection := before.resolveTies (.lift x)
            (before.keepActiveLeg (.lift x) (before.project (.lift x)))
          progressArcM := if before.state.valid then
              FloatOps.max before.state.progressArcM (before.resolveTies (.lift x)
                (before.keepActiveLeg (.lift x) (before.project (.lift x)))).arcLengthM
            else (before.resolveTies (.lift x)
              (before.keepActiveLeg (.lift x) (before.project (.lift x)))).arcLengthM } } := by
    unfold RouteProgress.update
    simp only [hNearest.valid, Bool.not_true, Bool.false_eq_true, if_false]
  rw [hUpdate]
  refine ⟨?_, d, q, ?_, hPoint, (hSame.polyline q).mp hOn, hLateral, hSquared, hNear⟩
  · dsimp only
    rw [hArc, hTolerance]
    rcases hState with hInitial | hMeasured
    · rw [hInitial]
      refine ⟨0, arc, arc, ?_, ?_, rfl, hLow, hLow, hHigh, le_rfl, ?_⟩
      · simp [RouteProgressState.initial, lit_zero]
      · simp [RouteProgressState.initial]
      · simp only [RouteProgressState.initial, Bool.false_and, Bool.false_eq_true, false_iff]
        linarith
    · obtain ⟨old, hOld, hOldLow, hOldHigh⟩ := hMeasured.progress
      rw [hOld, hMeasured.valid]
      refine ⟨old, max old arc, arc, rfl, ?_, rfl, le_sup_left, hOldLow.trans (le_sup_left),
        max_le hOldHigh hHigh, le_sup_right, ?_⟩
      · simp
      · simp
  · rw [← hSame.project]
    exact hSame.nearest hNearest

/-- After every sequence of calls an update of a valid mission's route keeps the progress from
falling and inside the route, sees a backtracking exactly when there is one, and selects a point
of the route which is nearest up to the two tolerances. -/
theorem progress_monotone_and_near {mission : Mission (ExactReal ℝ)} {tolerance : ExactReal ℝ}
    {route : RouteProgress (ExactReal ℝ)}
    (hCreate : RouteProgress.create mission tolerance = .ok route) {calls : List RouteCall}
    (hFinite : FinitePositions calls) (x : Vec3 ℝ) :
    ∃ total t, route.totalLengthM = .finite total ∧ tolerance = .finite t ∧
      UpdateLaw route (runCalls route calls) ((runCalls route calls).update (.lift x)) total t
        x := by
  obtain ⟨first, rest, p, arcs, final, hLaid, hInitial, -⟩ := create_laid hCreate
  obtain ⟨t, hTolerance, hNonneg, hRoute⟩ := create_tolerance hCreate
  obtain ⟨hBefore, hTracked⟩ := runCalls_tracked hLaid (.inl hInitial) hFinite
  have hSame := runCalls_geometry calls route
  exact ⟨final, t, hLaid.total, hTolerance,
    update_law hBefore hTracked hSame (hSame.tolerance.trans hRoute) hNonneg x⟩

theorem progress_monotone_shuttle :
    ∃ route, RouteProgress.create shuttle (.finite 0.5) = .ok route ∧
      ∃ total t, route.totalLengthM = .finite total ∧ (finite 0.5 : ExactReal ℝ) = .finite t ∧
        UpdateLaw route (runCalls route [.reset, .update (.lift ⟨3, 3, 2⟩)])
          ((runCalls route [.reset, .update (.lift ⟨3, 3, 2⟩)]).update (.lift ⟨1, 2, 2⟩)) total t
          ⟨1, 2, 2⟩ := by
  obtain ⟨route, hCreate⟩ := create_ok shuttle_valid (show (0 : ℝ) ≤ 0.5 by norm_num)
  refine ⟨route, hCreate, progress_monotone_and_near hCreate ?_ ⟨1, 2, 2⟩⟩
  intro position hMem
  simp only [List.mem_cons, RouteCall.update.injEq, reduceCtorEq, List.not_mem_nil, false_or,
    or_false] at hMem
  rw [hMem]
  rfl

end UavNavigation
