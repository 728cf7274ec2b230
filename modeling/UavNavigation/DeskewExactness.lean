import UavNavigation.TrajectoryPoses

/-!
# A deskewed point is where the reference pose sees it

A deskewed point is the measured one moved by the pose of the sensor at its time,
seen from the pose at the reference time. Every point of a valid scan has a pose when
the trajectory covers the scan, as the one of a prediction does that starts no later
than the scan and ends with it.
-/

open scoped Quaternion

namespace UavNavigation.FastLio

open FloatOps OrderedQueues RigidMotions UnitQuaternion

set_option autoImplicit false

section Calls
variable {E A B : Type}

theorem ok_bind (a : A) (f : A → Except E B) : (Except.ok a >>= f) = f a := rfl

theorem bind_eq_ok {x : Except E A} {f : A → Except E B} {b : B} :
    (x >>= f) = .ok b ↔ ∃ a, x = .ok a ∧ f a = .ok b := by
  constructor
  · intro h
    cases x with
    | error e => cases h
    | ok a => exact ⟨a, rfl, h⟩
  · rintro ⟨a, rfl, hf⟩
    exact hf

namespace ScanDeskewer

theorem rejected_ok (a : A) : rejected (.ok a) = .ok a := rfl

theorem rejected_eq_ok {x : Except Status A} {a : A} : rejected x = .ok a ↔ x = .ok a := by
  constructor
  · intro h
    cases x with
    | error status => cases h
    | ok value => rw [Except.ok.inj h]
  · rintro rfl
    rfl

end ScanDeskewer

end Calls

section Points
variable {D : Type} [FloatOps D] {scan : LidarScan D} {point : LidarPoint D}

theorem LidarScan.pointFault_none (h : scan.fault = none) (hPoint : point ∈ scan.points) :
    scan.pointFault (scan.endTime.nanoseconds - scan.startTime.nanoseconds) point = none := by
  unfold LidarScan.fault at h
  split at h
  · cases h
  split at h
  · cases h
  rename_i hDuration
  obtain ⟨-, rfl⟩ := checkedDifference_ok hDuration
  split at h
  · cases h
  split at h
  · cases h
  exact List.findSome?_eq_none_iff.mp h point hPoint

variable (h : scan.fault = none) (hTimed : scan.hasPerPointTime = true)
  (hPoint : point ∈ scan.points)
include h hTimed hPoint

theorem LidarScan.point_within : point.positionLidarM.allFinite = true ∧
      scan.startTime.nanoseconds + point.relativeTimeNs ≤ scan.endTime.nanoseconds := by
  have hNone := pointFault_none h hPoint
  revert hNone
  fun_cases LidarScan.pointFault
  all_goals intro hNone
  case case4 hFinite _ hInside =>
    simp only [hTimed, Bool.true_and, decide_eq_true_eq, not_lt] at hInside
    exact ⟨by simpa using hFinite, by omega⟩
  all_goals cases hNone

theorem LidarScan.pointTime_ok : ∃ time, scan.pointTime point = .ok time ∧
      time.nanoseconds = scan.startTime.nanoseconds + point.relativeTimeNs ∧
        time.clockDomain = scan.startTime.clockDomain := by
  obtain ⟨-, hInside⟩ := point_within h hTimed hPoint
  obtain ⟨hPositive, -, hDomain⟩ := scan.interval h
  have hUpper := scan.endTime.upper
  have hLower : minInt64 ≤ 0 := minInt64_le_zero
  have hFits : minInt64 ≤ scan.startTime.nanoseconds + (point.relativeTimeNs : Int) ∧
      scan.startTime.nanoseconds + (point.relativeTimeNs : Int) ≤ maxInt64 := by omega
  refine ⟨⟨_, scan.startTime.clockDomain, hFits.1, hFits.2⟩, ?_, rfl, rfl⟩
  unfold LidarScan.pointTime
  rw [hTimed, if_neg (by simp)]
  unfold checkedAdd
  rw [dif_pos hFits]
  dsimp only
  rw [if_neg (by simp [Timestamp.sameClockDomain, hDomain]), if_neg (not_lt.mpr hInside)]

end Points

namespace ScanDeskewer

theorem effectiveMode_timed {D : Type} [FloatOps D] {deskewer : ScanDeskewer} {scan : LidarScan D}
    (hMode : deskewer.mode ≠ .simultaneousScan) (hTimed : scan.hasPerPointTime = true) :
    deskewer.effectiveMode scan ≠ .simultaneousScan := by
  unfold effectiveMode
  split
  · simp
  · exact hMode

section Inside
variable {D : Type} [FloatOps D] [Slerp D] {lidarScan : LidarScan D} {imuTrajectory : ImuTrajectory D}
  {mounted lidarReferenceOdom : RigidTransform D}

omit [Slerp D] [FloatOps D] in
theorem pointTime_nanoseconds {point : LidarPoint D} {time : Timestamp}
    (h : lidarScan.pointTime point = .ok time) :
    time.nanoseconds = lidarScan.startTime.nanoseconds + (point.relativeTimeNs : Int) := by
  revert h
  fun_cases LidarScan.pointTime
  all_goals intro h
  case case5 hSum _ _ =>
    rw [← Except.ok.inj h]
    exact checkedAdd_ok hSum
  all_goals cases h

theorem pose_spans {time : Timestamp} {transform : RigidTransform D}
    (h : imuTrajectory.pose time = .ok transform) : imuTrajectory.Spans time.nanoseconds := by
  unfold ImuTrajectory.pose at h
  split at h
  · cases h
  · rename_i hState
    exact ImuTrajectory.spans_of_interpolate hState

theorem deskewPoint_spans {point moved : LidarPoint D}
    (h : deskewPoint lidarScan imuTrajectory mounted lidarReferenceOdom point = .ok moved) :
    imuTrajectory.Spans (lidarScan.startTime.nanoseconds + (point.relativeTimeNs : Int)) := by
  obtain ⟨time, hTime, hRest⟩ := bind_eq_ok.mp h
  obtain ⟨transform, hPose, -⟩ := bind_eq_ok.mp hRest
  obtain ⟨odomImu, hOdomImu, -⟩ := bind_eq_ok.mp hPose
  rw [← pointTime_nanoseconds (rejected_eq_ok.mp hTime)]
  exact pose_spans hOdomImu

theorem deskewPoints_spans {points moved : List (LidarPoint D)}
    (h : deskewPoints lidarScan imuTrajectory mounted lidarReferenceOdom points = .ok moved) :
    ∀ p ∈ points,
      imuTrajectory.Spans (lidarScan.startTime.nanoseconds + (p.relativeTimeNs : Int)) := by
  induction points generalizing moved with
  | nil => simp
  | cons point rest ih =>
    obtain ⟨first, hFirst, hRest⟩ := bind_eq_ok.mp h
    obtain ⟨others, hOthers, -⟩ := bind_eq_ok.mp hRest
    exact List.forall_mem_cons.mpr ⟨deskewPoint_spans hFirst, ih hOthers⟩

theorem deskew_outside {deskewer : ScanDeskewer} (hMode : deskewer.mode ≠ .simultaneousScan)
    (hTimed : lidarScan.hasPerPointTime = true) {point : LidarPoint D}
    (hPoint : point ∈ lidarScan.points) (hOutside : ¬imuTrajectory.Spans
      (lidarScan.startTime.nanoseconds + (point.relativeTimeNs : Int))) :
    ∃ failure, deskewer.deskew lidarScan imuTrajectory mounted = .error failure := by
  cases hResult : deskewer.deskew lidarScan imuTrajectory mounted with
  | error failure => exact ⟨failure, rfl⟩
  | ok output =>
    refine absurd ?_ hOutside
    unfold deskew at hResult
    split at hResult
    · cases hResult
    rw [if_neg (effectiveMode_timed hMode hTimed), hTimed, if_neg (by simp)] at hResult
    split at hResult
    · cases hResult
    obtain ⟨odomLidarReference, -, hRest⟩ := bind_eq_ok.mp hResult
    obtain ⟨inverse, -, hRest⟩ := bind_eq_ok.mp hRest
    obtain ⟨points, hPoints, -⟩ := bind_eq_ok.mp hRest
    exact deskewPoints_spans hPoints point hPoint

end Inside

variable [Slerp (ExactReal ℝ)] {scan : LidarScan (ExactReal ℝ)}
  {trajectory : ImuTrajectory (ExactReal ℝ)} {imuLidar : RigidTransform (ExactReal ℝ)}
  {reference mount : Pose}

/-- The trajectory has states of the scan's clock from its start to its end. -/
structure Covers {D : Type} [FloatOps D] (trajectory : ImuTrajectory D) (scan : LidarScan D) :
    Prop where
  domain : ∀ x ∈ trajectory.states, x.time.clockDomain = scan.startTime.clockDomain
  start : ∃ x ∈ trajectory.states, stateTime x ≤ scan.startTime.nanoseconds
  stop : ∃ x ∈ trajectory.states, scan.endTime.nanoseconds ≤ stateTime x

omit [Slerp (ExactReal ℝ)] in
theorem Covers.spans (h : Covers trajectory scan) {timeNs : Int}
    (hStart : scan.startTime.nanoseconds ≤ timeNs) (hStop : timeNs ≤ scan.endTime.nanoseconds) :
    trajectory.Spans timeNs := by
  obtain ⟨x, hx, hLow⟩ := h.start
  obtain ⟨y, hy, hHigh⟩ := h.stop
  exact ⟨⟨x, hx, hLow.trans hStart⟩, y, hy, hStop.trans hHigh⟩

theorem odomLidar_ok (hSlerp : ImuTrajectory.SphericalInterpolation) (hSound : trajectory.Sound)
    (hGaps : trajectory.GapsFit) (hMount : imuLidar.Realizes mount)
    (hFrame : imuLidar.targetFrame = trajectory.imuFrame) {time : Timestamp}
    (hDomain : ∀ x ∈ trajectory.states, x.time.clockDomain = time.clockDomain)
    (hSpans : trajectory.Spans time.nanoseconds) :
    ∃ transform m, odomLidar trajectory imuLidar time = .ok transform ∧
      transform.Realizes (m * mount) ∧ transform.targetFrame = trajectory.odomFrame ∧
        ImuTrajectory.Interpolates trajectory.states time.nanoseconds m := by
  obtain ⟨body, m, hPose, hBody, hTarget, hSource, hInterpolates⟩ :=
    hSound.pose_ok hSlerp hGaps hDomain hSpans
  obtain ⟨transform, hCompose, hRealizes, hOdom, -⟩ :=
    hBody.compose hMount (hSource.trans hFrame.symm)
  refine ⟨transform, m, ?_, hRealizes, hOdom.trans hTarget, hInterpolates⟩
  unfold odomLidar
  rw [hPose, ok_bind, hCompose, rejected_ok]

/-- The point as the pose of its time saw it, seen from the reference pose. -/
structure Moved (states : List (ImuTrajectoryState (ExactReal ℝ))) (scan : LidarScan (ExactReal ℝ))
    (reference mount : Pose) (point moved : LidarPoint (ExactReal ℝ)) (m : Pose) (v : Vec3 ℝ) :
    Prop where
  pose : ImuTrajectory.Interpolates states
    (scan.startTime.nanoseconds + (point.relativeTimeNs : Int)) m
  position : point.positionLidarM = v.lift
  moved : moved = { point with
    positionLidarM := (RigidMotion.relative (reference * mount) (m * mount) • v).lift }

/-- What holds for the deskew of one scan over one trajectory. -/
structure Setting (scan : LidarScan (ExactReal ℝ)) (trajectory : ImuTrajectory (ExactReal ℝ))
    (imuLidar : RigidTransform (ExactReal ℝ)) (mount : Pose) : Prop where
  valid : scan.fault = none
  timed : scan.hasPerPointTime = true
  sound : trajectory.Sound
  gaps : trajectory.GapsFit
  covers : Covers trajectory scan
  mounted : imuLidar.Realizes mount
  frame : imuLidar.targetFrame = trajectory.imuFrame

section
variable (h : Setting scan trajectory imuLidar mount)
  (hSlerp : ImuTrajectory.SphericalInterpolation)
  {lidarReferenceOdom : RigidTransform (ExactReal ℝ)}
  (hReference : lidarReferenceOdom.Realizes (reference * mount)⁻¹)
  (hSource : lidarReferenceOdom.sourceFrame = trajectory.odomFrame)
include h hSlerp hReference hSource

theorem Setting.point {point : LidarPoint (ExactReal ℝ)} (hPoint : point ∈ scan.points) :
    ∃ moved m v, deskewPoint scan trajectory imuLidar lidarReferenceOdom point = .ok moved ∧
      Moved trajectory.states scan reference mount point moved m v := by
  obtain ⟨time, hTime, hStamp, hDomain⟩ := LidarScan.pointTime_ok h.valid h.timed hPoint
  obtain ⟨hFinite, hInside⟩ := LidarScan.point_within h.valid h.timed hPoint
  obtain ⟨v, hv⟩ := Vec3.allFinite_iff.mp hFinite
  obtain ⟨odomLidarPoint, m, hPose, hRealizes, hTarget, hInterpolates⟩ :=
    odomLidar_ok hSlerp h.sound h.gaps h.mounted h.frame
      (fun x hx => (h.covers.domain x hx).trans hDomain.symm)
      (h.covers.spans (by omega) (by omega))
  obtain ⟨transform, hCompose, hMotion, -, -⟩ :=
    hReference.compose hRealizes (hSource.trans hTarget.symm)
  rw [hStamp] at hInterpolates
  refine ⟨_, m, v, ?_, hInterpolates, hv, rfl⟩
  unfold deskewPoint
  rw [hTime, rejected_ok, ok_bind, hPose, ok_bind, hCompose, rejected_ok, ok_bind, hv, hMotion.apply]
  rfl

theorem Setting.points
    {points : List (LidarPoint (ExactReal ℝ))} (hPoints : ∀ p ∈ points, p ∈ scan.points) :
    ∃ moved, deskewPoints scan trajectory imuLidar lidarReferenceOdom points = .ok moved ∧
      List.Forall₂ (fun p p' => ∃ m v, Moved trajectory.states scan reference mount p p' m v)
        points moved := by
  induction points with
  | nil => exact ⟨[], rfl, .nil⟩
  | cons point rest ih =>
    obtain ⟨first, m, v, hFirst, hMoved⟩ := h.point hSlerp hReference hSource
      (hPoints point List.mem_cons_self)
    obtain ⟨others, hOthers, hRest⟩ := ih fun p hp => hPoints p (List.mem_cons_of_mem _ hp)
    refine ⟨first :: others, ?_, .cons ⟨m, v, hMoved⟩ hRest⟩
    unfold deskewPoints
    rw [hFirst, ok_bind, hOthers, ok_bind]
    rfl

end

structure Deskewed (deskewer : ScanDeskewer) (scan : LidarScan (ExactReal ℝ))
    (trajectory : ImuTrajectory (ExactReal ℝ)) (mount : Pose) (output : DeskewResult (ExactReal ℝ))
    (reference : Pose) : Prop where
  applied : output.status = .applied ∧ output.deskewApplied = true
  referenceTime : output.referenceTime = deskewer.referenceTime scan
  seen : ImuTrajectory.Interpolates trajectory.states
    (deskewer.referenceTime scan).nanoseconds reference
  frame : output.scan = { scan with points := output.scan.points }
  points : List.Forall₂ (fun p p' => ∃ m v, Moved trajectory.states scan reference mount p p' m v)
    scan.points output.scan.points
  atReference : List.Forall₂ (fun p p' => scan.startTime.nanoseconds + (p.relativeTimeNs : Int) =
    (deskewer.referenceTime scan).nanoseconds → p' = p) scan.points output.scan.points
  constant : ∀ fixed, (∀ x ∈ trajectory.states, ImuTrajectory.Poses x fixed) → output.scan = scan

theorem Moved.unchanged {states : List (ImuTrajectoryState (ExactReal ℝ))}
    {point moved : LidarPoint (ExactReal ℝ)} {m : Pose} {v : Vec3 ℝ}
    (h : Moved states scan reference mount point moved m v) (hSame : m = reference) :
    moved = point := by
  have hMoved := h.moved
  rw [hSame, RigidMotion.relative_self, one_smul, ← h.position] at hMoved
  exact hMoved

omit [Slerp (ExactReal ℝ)] in
theorem eq_of_forall₂ {A : Type} {R : A → A → Prop} {xs ys : List A} (h : List.Forall₂ R xs ys)
    (hEq : ∀ x y, R x y → y = x) : ys = xs := by
  induction h with
  | nil => rfl
  | cons hFirst _ ih => rw [hEq _ _ hFirst, ih]

theorem Setting.deskewed (h : Setting scan trajectory imuLidar mount)
    (hSlerp : ImuTrajectory.SphericalInterpolation) {deskewer : ScanDeskewer}
    (hMode : deskewer.mode ≠ .simultaneousScan) :
    ∃ output reference, deskewer.deskew scan trajectory imuLidar = .ok output ∧
      Deskewed deskewer scan trajectory mount output reference := by
  obtain ⟨-, hOrder, hDomain⟩ := scan.interval h.valid
  have hReferenceDomain : (deskewer.referenceTime scan).clockDomain = scan.startTime.clockDomain := by
    unfold referenceTime
    split
    · rfl
    · exact hDomain
  have hReferenceSpans : trajectory.Spans (deskewer.referenceTime scan).nanoseconds := by
    unfold referenceTime
    split
    · exact h.covers.spans le_rfl hOrder
    · exact h.covers.spans hOrder le_rfl
  obtain ⟨odomLidarReference, reference, hPose, hRealizes, hTarget, hInterpolates⟩ :=
    odomLidar_ok hSlerp h.sound h.gaps h.mounted h.frame
      (fun x hx => (h.covers.domain x hx).trans hReferenceDomain.symm) hReferenceSpans
  obtain ⟨lidarReferenceOdom, hInverse, hInverted, -, hSource⟩ := hRealizes.inverse
  obtain ⟨points, hPoints, hMoved⟩ :=
    h.points hSlerp hInverted (hSource.trans hTarget) (fun p hp => hp)
  refine ⟨{
      scan := { scan with points := points }
      status := .applied
      referenceTime := deskewer.referenceTime scan
      deskewApplied := true
      pointTimeMinNs := (scan.points.map LidarPoint.relativeTimeNs).min?.getD 0
      pointTimeMaxNs := (scan.points.map LidarPoint.relativeTimeNs).max?.getD 0 }, reference, ?_, ?_⟩
  · unfold deskew
    rw [h.valid]
    rw [if_neg (effectiveMode_timed hMode h.timed), h.timed, if_neg (by simp),
      if_neg (not_not.mpr h.frame), hPose, ok_bind, hInverse, rejected_ok, ok_bind, hPoints, ok_bind]
    rfl
  constructor
  case applied => exact ⟨rfl, rfl⟩
  case referenceTime => rfl
  case seen => exact hInterpolates
  case frame => rfl
  case points => exact hMoved
  case atReference =>
    refine hMoved.imp ?_
    rintro p p' ⟨m, v, hPoint⟩ hTime
    have hPose := hPoint.pose
    rw [hTime] at hPose
    exact hPoint.unchanged (hPose.unique h.sound.increasing hInterpolates)
  case constant =>
    intro fixed hFixed
    have hSame : points = scan.points := by
      refine eq_of_forall₂ hMoved ?_
      rintro p p' ⟨m, v, hPoint⟩
      exact hPoint.unchanged ((hPoint.pose.constant hSlerp hFixed).trans
        (hInterpolates.constant hSlerp hFixed).symm)
    rw [hSame]

end ScanDeskewer

/-! ## Predicted trajectories -/

section Predicted
variable {D : Type} [FloatOps D] {K : FilterKernel D} {e moved : IkfomEstimator K}
  {states trajectory : List (ImuTrajectoryState D)} {odomFrame imuFrame : String}

namespace ImuTrajectory

variable (h : Accumulated ⟨odomFrame, imuFrame, states⟩) (hFrames : odomFrame ≠ "" ∧ imuFrame ≠ "")
include h hFrames

theorem Accumulated.append {state : ImuTrajectoryState D}
    {stored : List (ImuTrajectoryState D)} (hState : FastLio.addState states state = .ok stored) :
    Accumulated ⟨odomFrame, imuFrame, stored⟩ := by
  have hAdded : addState ⟨odomFrame, imuFrame, states⟩ state = .ok ⟨odomFrame, imuFrame, stored⟩ := by
    unfold addState
    rw [if_neg (not_or.mpr hFrames), hState]
  exact .add h hAdded

theorem Accumulated.integrate {samples : List (ImuSample D)}
    (hDone : e.integrate states samples = (moved, .ok trajectory)) :
    Accumulated ⟨odomFrame, imuFrame, trajectory⟩ := by
  fun_induction IkfomEstimator.integrate states samples e with
  | case1 => cases (Prod.mk.inj hDone).2
  | case2 => cases (Prod.mk.inj hDone).2
  | case3 => cases (Prod.mk.inj hDone).2
  | case4 states previous current rest e dtNs hStep next hSane stored hStored ih =>
    exact ih (h.append hFrames hStored) hDone
  | case5 =>
    cases Except.ok.inj (Prod.mk.inj hDone).2
    exact h

end ImuTrajectory

/-- The trajectory of a prediction, in the frames it is made with. -/
def predictedTrajectory (states : List (ImuTrajectoryState D)) : ImuTrajectory D := { states := states }

theorem predictedTrajectory_accumulated {maximumIntegrationStepNs : Int}
    {samples : List (ImuSample D)} {start stop : Timestamp}
    (h : e.predict maximumIntegrationStepNs samples start stop = (moved, .ok trajectory)) :
    (predictedTrajectory trajectory).Accumulated := by
  obtain ⟨startSample, endSample, states, -, hStates, hIntegrated⟩ :=
    IkfomEstimator.predict_eq_ok.mp h
  have hFrames : "lio_odom" ≠ "" ∧ "livox_imu_frame" ≠ "" := by decide
  exact ((ImuTrajectory.Accumulated.empty "lio_odom" "livox_imu_frame").append hFrames
    hStates).integrate hFrames hIntegrated

end Predicted

theorem predictedTrajectory_covers {K : FilterKernel (ExactReal ℝ)} {e moved : IkfomEstimator K}
    {states : List (ImuTrajectoryState (ExactReal ℝ))} {maximumIntegrationStepNs : Int}
    {samples : List (ImuSample (ExactReal ℝ))} {start : Timestamp} {scan : LidarScan (ExactReal ℝ)}
    (hValid : scan.fault = none) (hStart : start.nanoseconds ≤ scan.startTime.nanoseconds)
    (h : e.predict maximumIntegrationStepNs samples start scan.endTime = (moved, .ok states)) :
    (predictedTrajectory states).GapsFit ∧ ScanDeskewer.Covers (predictedTrajectory states) scan := by
  obtain ⟨_, _, _, hChecked, -, -⟩ := IkfomEstimator.predict_eq_ok.mp h
  obtain ⟨_, _, hStepped⟩ := IkfomEstimator.predict_stepped h
  obtain ⟨-, -, hScanDomain⟩ := scan.interval hValid
  have hSound := (predictedTrajectory_accumulated h).sound
  obtain ⟨first, hFirst, hFirstTime⟩ := Option.map_eq_some_iff.mp hStepped.first
  obtain ⟨last, hLast, hLastTime⟩ := Option.map_eq_some_iff.mp hStepped.last
  have hFirstMem : first ∈ states := List.mem_of_head? hFirst
  have hLastMem : last ∈ states := List.mem_of_getLast? hLast
  have hPositive (x : ImuTrajectoryState (ExactReal ℝ)) (hx : x ∈ states) : 0 < stateTime x := by
    have hOrder : stateTime first ≤ stateTime x := hSound.increasing.ordered.head_le hFirst hx
    have hBegin := hChecked.positive
    rw [← hFirstTime] at hBegin
    exact lt_of_lt_of_le hBegin hOrder
  constructor
  · refine (List.pairwise_of_forall_mem_list ?_).isChain
    intro x hx y hy
    have hUpper := y.time.upper
    have hLower := hPositive x hx
    unfold stateTime at hLower ⊢
    omega
  constructor
  case domain =>
    intro x hx
    have hSame := hSound.domain x hx last hLastMem
    rw [hLastTime] at hSame
    exact hSame.trans hScanDomain
  case start =>
    refine ⟨first, hFirstMem, ?_⟩
    unfold stateTime
    rw [hFirstTime]
    exact hStart
  case stop =>
    refine ⟨last, hLastMem, ?_⟩
    unfold stateTime
    rw [hLastTime]

namespace ScanDeskewer

/-- The laws of the deskew of a scan over a trajectory. -/
structure DeskewLaw [Slerp (ExactReal ℝ)] (deskewer : ScanDeskewer) (scan : LidarScan (ExactReal ℝ))
    (imuLidar : RigidTransform (ExactReal ℝ)) (mount : Pose)
    (trajectory : ImuTrajectory (ExactReal ℝ)) : Prop where
  exact : imuLidar.targetFrame = trajectory.imuFrame → Covers trajectory scan →
    trajectory.GapsFit → ∃ output reference, deskewer.deskew scan trajectory imuLidar = .ok output ∧
        Deskewed deskewer scan trajectory mount output reference
  inside : ∀ point ∈ scan.points,
    ¬trajectory.Spans (scan.startTime.nanoseconds + (point.relativeTimeNs : Int)) →
      ∃ failure, deskewer.deskew scan trajectory imuLidar = .error failure

/-- A scan deskewed point by point shows every point where the reference pose sees it. -/
theorem deskew_exact [Slerp (ExactReal ℝ)] (hSlerp : ImuTrajectory.SphericalInterpolation)
    (deskewer : ScanDeskewer) (hMode : deskewer.mode ≠ .simultaneousScan)
    (scan : LidarScan (ExactReal ℝ)) (hValid : scan.fault = none)
    (hTimed : scan.hasPerPointTime = true) (target source : String)
    (rotation : Quaternion (ExactReal ℝ)) (translation : Vec3 (ExactReal ℝ))
    (imuLidar : RigidTransform (ExactReal ℝ))
    (hImuLidar : RigidTransform.create target source rotation translation = .ok imuLidar) :
    ∃ mount, imuLidar.Realizes mount ∧
      (∀ trajectory : ImuTrajectory (ExactReal ℝ), trajectory.Accumulated →
        DeskewLaw deskewer scan imuLidar mount trajectory) ∧
      ∀ (K : FilterKernel (ExactReal ℝ)) (e moved : IkfomEstimator K)
        (maximumIntegrationStepNs : Int) (samples : List (ImuSample (ExactReal ℝ)))
        (start : Timestamp) (states : List (ImuTrajectoryState (ExactReal ℝ))),
        start.nanoseconds ≤ scan.startTime.nanoseconds →
        e.predict maximumIntegrationStepNs samples start scan.endTime = (moved, .ok states) →
          (predictedTrajectory states).Accumulated ∧ (predictedTrajectory states).GapsFit ∧
            Covers (predictedTrajectory states) scan := by
  obtain ⟨mount, hMount⟩ := RigidTransform.exists_realizes hImuLidar
  refine ⟨mount, hMount, ?_, ?_⟩
  · intro trajectory hAccumulated
    constructor
    case exact =>
      intro hFrame hCovers hGaps
      have hSetting : Setting scan trajectory imuLidar mount :=
        ⟨hValid, hTimed, hAccumulated.sound, hGaps, hCovers, hMount, hFrame⟩
      exact hSetting.deskewed hSlerp hMode
    case inside =>
      intro point hPoint hOutside
      exact deskew_outside hMode hTimed hPoint hOutside
  · intro K e moved maximumIntegrationStepNs samples start states hStart hPredicted
    obtain ⟨hGaps, hCovers⟩ := predictedTrajectory_covers hValid hStart hPredicted
    exact ⟨predictedTrajectory_accumulated hPredicted, hGaps, hCovers⟩

end ScanDeskewer

section Slerp

/-- The weights of the two ends: linear where they nearly coincide. -/
noncomputable def slerpWeights (d t : ℝ) : ℝ × ℝ :=
  if 1 - 1 / ((2 ^ 52 : ℕ) : ℝ) ≤ |d| then (1 - t, t)
  else (Real.sin ((1 - t) * Real.arccos |d|) / Real.sin (Real.arccos |d|),
    Real.sin (t * Real.arccos |d|) / Real.sin (Real.arccos |d|))

/-- `slerp` on real coordinates, along the shorter way. -/
noncomputable def slerpReal (a : Quaternion ℝ) (t : ℝ) (b : Quaternion ℝ) : Quaternion ℝ :=
  let d := a.x * b.x + a.y * b.y + a.z * b.z + a.w * b.w
  let weights := slerpWeights d t
  let second := if d < 0 then -weights.2 else weights.2
  ⟨weights.1 * a.x + second * b.x, weights.1 * a.y + second * b.y,
    weights.1 * a.z + second * b.z, weights.1 * a.w + second * b.w⟩

noncomputable instance librarySlerp : Slerp (ExactReal ℝ) where
  slerp
    | ⟨.finite ax, .finite ay, .finite az, .finite aw⟩, .finite t,
      ⟨.finite bx, .finite b_y, .finite bz, .finite bw⟩ =>
      (slerpReal ⟨ax, ay, az, aw⟩ t ⟨bx, b_y, bz, bw⟩).lift
    | _, _, _ => ⟨.nonFinite, .nonFinite, .nonFinite, .nonFinite⟩

theorem slerpWeights_nonneg {d t : ℝ} (hLow : 0 ≤ t) (hHigh : t ≤ 1) :
    0 ≤ (slerpWeights d t).1 ∧ 0 ≤ (slerpWeights d t).2 ∧
      0 < (slerpWeights d t).1 + (slerpWeights d t).2 := by
  unfold slerpWeights
  split
  · exact ⟨sub_nonneg.mpr hHigh, hLow, by norm_num⟩
  rename_i hApart
  have hBelow : |d| < 1 := by
    linarith [not_le.mp hApart]
  have hAngle : 0 < Real.arccos |d| := Real.arccos_pos.mpr hBelow
  have hQuarter : Real.arccos |d| ≤ Real.pi / 2 := Real.arccos_le_pi_div_two.mpr (abs_nonneg d)
  have hSin : 0 < Real.sin (Real.arccos |d|) :=
    Real.sin_pos_of_pos_of_lt_pi hAngle (by linarith)
  have hWithin {s : ℝ} (hs : 0 ≤ s) (hs' : s ≤ 1) :
      0 ≤ s * Real.arccos |d| ∧ s * Real.arccos |d| < Real.pi := by
    refine ⟨mul_nonneg hs hAngle.le, ?_⟩
    have hScaled := mul_le_mul_of_nonneg_right hs' hAngle.le
    linarith
  have hNonneg {s : ℝ} (hs : 0 ≤ s) (hs' : s ≤ 1) :
      0 ≤ Real.sin (s * Real.arccos |d|) / Real.sin (Real.arccos |d|) :=
    div_nonneg (Real.sin_nonneg_of_nonneg_of_le_pi (hWithin hs hs').1 (hWithin hs hs').2.le) hSin.le
  have hFirst := hNonneg (sub_nonneg.mpr hHigh) (sub_le_self 1 hLow)
  refine ⟨hFirst, hNonneg hLow hHigh, ?_⟩
  rcases hLow.eq_or_lt with hZero | hPositive
  · rw [← hZero, sub_zero, one_mul, zero_mul, Real.sin_zero, zero_div, div_self hSin.ne']
    norm_num
  · refine add_pos_of_nonneg_of_pos hFirst (div_pos ?_ hSin)
    exact Real.sin_pos_of_pos_of_lt_pi (mul_pos hPositive hAngle) (hWithin hLow hHigh).2

theorem slerpReal_norm {a b : Quaternion ℝ} (t : ℝ)
    (ha : a.x * a.x + a.y * a.y + a.z * a.z + a.w * a.w = 1)
    (hb : b.x * b.x + b.y * b.y + b.z * b.z + b.w * b.w = 1) (r : Quaternion ℝ)
    (hr : r = slerpReal a t b) (d : ℝ) (hd : d = a.x * b.x + a.y * b.y + a.z * b.z + a.w * b.w) :
    r.x * r.x + r.y * r.y + r.z * r.z + r.w * r.w =
      (slerpWeights d t).1 ^ 2 + (slerpWeights d t).2 ^ 2 +
        2 * (slerpWeights d t).1 * (slerpWeights d t).2 * |d| := by
  subst hr
  unfold slerpReal
  simp only [← hd]
  generalize slerpWeights d t = weights
  split
  · rename_i hNegative
    rw [abs_of_neg hNegative]
    linear_combination weights.1 ^ 2 * ha + weights.2 ^ 2 * hb + 2 * weights.1 * weights.2 * hd
  · rename_i hNonneg
    rw [abs_of_nonneg (not_lt.mp hNonneg)]
    linear_combination weights.1 ^ 2 * ha + weights.2 ^ 2 * hb - 2 * weights.1 * weights.2 * hd

theorem sum_coordinates (q : UnitQuaternion) :
    q.1.imI * q.1.imI + q.1.imJ * q.1.imJ + q.1.imK * q.1.imK + q.1.re * q.1.re = 1 := by
  have hSum := q.sum_sq
  linear_combination hSum

theorem librarySlerp_spherical : ImuTrajectory.SphericalInterpolation where
  proper := by
    intro p q t hLow hHigh
    refine ⟨slerpReal ⟨p.1.imI, p.1.imJ, p.1.imK, p.1.re⟩ t ⟨q.1.imI, q.1.imJ, q.1.imK, q.1.re⟩, rfl, ?_⟩
    rw [slerpReal_norm t (sum_coordinates p) (sum_coordinates q) _ rfl _ rfl]
    generalize p.1.imI * q.1.imI + p.1.imJ * q.1.imJ + p.1.imK * q.1.imK + p.1.re * q.1.re = d
    obtain ⟨hFirst, hSecond, hSum⟩ := slerpWeights_nonneg (d := d) hLow hHigh
    have hCross := mul_nonneg (mul_nonneg (mul_nonneg two_pos.le hFirst) hSecond) (abs_nonneg d)
    nlinarith [sq_nonneg ((slerpWeights d t).1 - (slerpWeights d t).2)]
  same := by
    intro q t hLow hHigh
    have hUnit := sum_coordinates q
    have hWeights : slerpWeights 1 t = (1 - t, t) := by
      unfold slerpWeights
      norm_num
    show (slerpReal ⟨q.1.imI, q.1.imJ, q.1.imK, q.1.re⟩ t
      ⟨q.1.imI, q.1.imJ, q.1.imK, q.1.re⟩).lift = coordinates q.1
    unfold slerpReal coordinates
    simp only [hUnit, hWeights, if_neg (not_lt.mpr zero_le_one)]
    congr 2 <;> ring

end Slerp

namespace ScanDeskewer

/-! ## Two states -/

noncomputable def stateAt (time : Timestamp) (m : Pose) : ImuTrajectoryState (ExactReal ℝ) :=
  ⟨time, coordinates m.rotation.1, m.translation.lift, (0 : Vec3 ℝ).lift⟩

theorem addState_stateAt {states : List (ImuTrajectoryState (ExactReal ℝ))} (time : Timestamp) (m : Pose)
    (hLast : ∀ last ∈ states.getLast?, last.time.nanoseconds < time.nanoseconds ∧
      last.time.clockDomain = time.clockDomain) :
    FastLio.addState states (stateAt time m) = .ok (states ++ [stateAt time m]) := by
  have hNorm : (lit (1 / 10 ^ 24) : ExactReal ℝ) < .finite 1 := by
    rw [ExactReal.lit_finite, ExactReal.lt_finite]
    norm_num
  have hFinite : (stateAt time m).allFinite = true := by
    unfold ImuTrajectoryState.allFinite stateAt
    rw [squaredNorm_coordinates, decide_eq_true hNorm]
    rfl
  have hDomain : ¬ (states.getLast?.any fun last => !last.time.sameClockDomain (stateAt time m).time) =
      true := by
    rw [Option.any_eq_true]
    rintro ⟨last, hMem, hApart⟩
    have hSame := Timestamp.sameClockDomain_iff.mpr (hLast last hMem).2
    rw [Bool.not_eq_true'] at hApart
    exact Bool.false_ne_true (hApart.symm.trans hSame)
  have hLater : ¬ (states.getLast?.any fun last =>
      (stateAt time m).time.nanoseconds ≤ last.time.nanoseconds) = true := by
    rw [Option.any_eq_true]
    rintro ⟨last, hMem, hEarlier⟩
    exact absurd (hLast last hMem).1 (not_lt.mpr (of_decide_eq_true hEarlier))
  have hNormalized : (stateAt time m).orientationOdomImu.normalized = coordinates m.rotation.1 :=
    normalized_coordinates m.rotation
  unfold FastLio.addState
  rw [hFinite, if_neg (by simp), if_neg hDomain, if_neg hLater, hNormalized]
  rfl

noncomputable def twoStates (first second : Timestamp) (m n : Pose) : ImuTrajectory (ExactReal ℝ) :=
  { states := [stateAt first m, stateAt second n] }

theorem twoStates_accumulated {first second : Timestamp} (m n : Pose)
    (hOrder : first.nanoseconds < second.nanoseconds)
    (hDomain : first.clockDomain = second.clockDomain) :
    (twoStates first second m n).Accumulated := by
  have hFrames : "lio_odom" ≠ "" ∧ "livox_imu_frame" ≠ "" := by decide
  have hFirst : FastLio.addState [] (stateAt first m) = .ok [stateAt first m] :=
    addState_stateAt first m (by simp)
  have hSecond : FastLio.addState [stateAt first m] (stateAt second n) =
      .ok [stateAt first m, stateAt second n] := by
    apply addState_stateAt second n
    intro last hLast
    obtain rfl : stateAt first m = last := Option.some.inj hLast
    exact ⟨hOrder, hDomain⟩
  exact ((ImuTrajectory.Accumulated.empty "lio_odom" "livox_imu_frame").append hFrames
    hFirst).append hFrames hSecond

noncomputable def mountedAtOrigin : RigidTransform (ExactReal ℝ) :=
  ⟨"livox_imu_frame", "livox_frame", coordinates (1 : UnitQuaternion).1, (0 : Vec3 ℝ).lift⟩

theorem mountedAtOrigin_created : RigidTransform.create "livox_imu_frame" "livox_frame"
    (coordinates (1 : UnitQuaternion).1) (0 : Vec3 ℝ).lift = .ok mountedAtOrigin :=
  RigidTransform.create_pose (by decide) (by decide) (1 : Pose)

noncomputable def timedScan (first second : Timestamp) (v w u : Vec3 ℝ) :
    LidarScan (ExactReal ℝ) where
  startTime := first
  endTime := second
  points := [⟨v.lift, 0, 1, 2, 3⟩, ⟨w.lift, 1, 4, 5, 6⟩, ⟨u.lift, 2, 7, 8, 9⟩]
  hasPerPointTime := true

theorem timedScan_valid (v w u : Vec3 ℝ) :
    (timedScan (.rosTime 1) (.rosTime 3) v w u).fault = none := by
  rfl

/-- Three views of one place; the sensor moves on by half a metre from each to the next. -/
noncomputable def lineScan : LidarScan (ExactReal ℝ) :=
  timedScan (.rosTime 1) (.rosTime 3) ⟨10, 0, 0⟩ ⟨10 - 1 / 2, 0, 0⟩ ⟨10 - 1, 0, 0⟩

noncomputable def line : ImuTrajectory (ExactReal ℝ) :=
  twoStates (.rosTime 1) (.rosTime 3) 1 ⟨1, ⟨1, 0, 0⟩⟩

/-- The second point lies between the two states, where the pose is interpolated. -/
theorem deskew_exact_line :
    (∃ point ∈ lineScan.points, ∀ state ∈ line.states,
      state.time.nanoseconds ≠ lineScan.startTime.nanoseconds + point.relativeTimeNs) ∧
    ∃ output reference, ({} : ScanDeskewer).deskew lineScan line mountedAtOrigin = .ok output ∧
      Deskewed {} lineScan line 1 output reference := by
  obtain ⟨mount, hMount, hLaws, -⟩ := deskew_exact librarySlerp_spherical {} (by decide)
    lineScan (timedScan_valid _ _ _) rfl
    "livox_imu_frame" "livox_frame" _ _ mountedAtOrigin mountedAtOrigin_created
  have hOrigin : mountedAtOrigin.Realizes 1 := ⟨by decide, rfl, rfl⟩
  obtain rfl := hMount.unique hOrigin
  refine ⟨⟨_, List.mem_cons_of_mem _ List.mem_cons_self, ?_⟩,
    (hLaws line (twoStates_accumulated _ _ (by decide) rfl)).exact rfl ⟨?_, ?_, ?_⟩ ?_⟩
  · intro state hState
    obtain rfl | rfl := List.mem_pair.mp hState
    · decide
    · decide
  · rintro x hx
    obtain rfl | rfl := List.mem_pair.mp hx
    · rfl
    · rfl
  · exact ⟨stateAt (.rosTime 1) 1, List.mem_cons_self, le_rfl⟩
  · exact ⟨stateAt (.rosTime 3) ⟨1, ⟨1, 0, 0⟩⟩, by simp [line, twoStates], le_rfl⟩
  · exact List.isChain_pair.mpr (by decide)

/-- A covering trajectory whose two states are too far apart for a difference of 64 bits. -/
theorem deskew_gap_overflows :
    ∃ (trajectory : ImuTrajectory (ExactReal ℝ)) (scan : LidarScan (ExactReal ℝ))
      (imuLidar : RigidTransform (ExactReal ℝ)), trajectory.Accumulated ∧ scan.fault = none ∧
      scan.hasPerPointTime = true ∧ imuLidar.Realizes 1 ∧
      imuLidar.targetFrame = trajectory.imuFrame ∧ Covers trajectory scan ∧
      ({} : ScanDeskewer).deskew scan trajectory imuLidar =
        .error (.status ⟨.outOfRange, "Timestamp difference overflows int64"⟩) := by
  refine ⟨twoStates (.rosTime (-1)) (.rosTime maxInt64) 1 1,
    timedScan (.rosTime 1) (.rosTime 3) 0 0 0, mountedAtOrigin,
    twoStates_accumulated _ _ (by decide) rfl, timedScan_valid _ _ _, rfl, ⟨by decide, rfl, rfl⟩, rfl,
    ⟨?_, ?_, ?_⟩, ?_⟩
  · rintro x hx
    obtain rfl | rfl := List.mem_pair.mp hx
    · rfl
    · rfl
  · exact ⟨stateAt (.rosTime (-1)) 1, List.mem_cons_self, by decide⟩
  · exact ⟨stateAt (.rosTime maxInt64) 1, by simp [twoStates], by decide⟩
  · have hPose : (twoStates (.rosTime (-1)) (.rosTime maxInt64) 1 1).pose (.rosTime 3) =
        .error (.status ⟨.outOfRange, "Timestamp difference overflows int64"⟩) := rfl
    have hReference : odomLidar (twoStates (.rosTime (-1)) (.rosTime maxInt64) 1 1) mountedAtOrigin
        (.rosTime 3) = .error (.status ⟨.outOfRange, "Timestamp difference overflows int64"⟩) := by
      rfl
    exact congrArg (fun x => x >>= _) hReference

end ScanDeskewer

end UavNavigation.FastLio
