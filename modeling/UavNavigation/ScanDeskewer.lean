import UavNavigation.IkfomPrediction

/-!
# Deskewing a scan

The points of a scan were measured at different times. The deskewer moves each of
them to where it is seen from the pose at one reference time. The poses come from
a trajectory, which is interpolated between its states and never beyond them.
-/

namespace UavNavigation.FastLio

open FloatOps OrderedQueues

set_option autoImplicit false

variable {D : Type} [FloatOps D]

/-- `^target T_source`. -/
structure RigidTransform (D : Type) where
  targetFrame : String
  sourceFrame : String
  rotation : Quaternion D
  translation : Vec3 D
deriving DecidableEq

/-- `validateTransform`. -/
def transformFault (targetFrame sourceFrame : String) (rotation : Quaternion D)
    (translation : Vec3 D) : Option Status :=
  if targetFrame = "" ∨ sourceFrame = "" then
    some ⟨.invalidArgument, "RigidTransform frame ids must not be empty"⟩
  else if !rotation.allFinite || !translation.allFinite then
    some ⟨.invalidArgument, "RigidTransform coefficients must be finite"⟩
  else if !isFinite rotation.squaredNorm || decide (rotation.squaredNorm ≤ lit (1 / 10 ^ 24)) then
    some ⟨.invalidArgument, "RigidTransform quaternion must have non-zero norm"⟩
  else none

namespace RigidTransform

/-- `Create`; the constructor throws where this is an error. -/
def create (targetFrame sourceFrame : String) (rotation : Quaternion D) (translation : Vec3 D) :
    Except Status (RigidTransform D) :=
  match transformFault targetFrame sourceFrame rotation translation with
  | some status => .error status
  | none => .ok ⟨targetFrame, sourceFrame, rotation.normalized, translation⟩

def apply (t : RigidTransform D) (point : Vec3 D) : Vec3 D :=
  t.rotation.toRotationMatrix.apply point + t.translation

def inverse (t : RigidTransform D) : Except Status (RigidTransform D) :=
  let rotation := t.rotation.conjugate
  let moved := rotation.rotate t.translation
  let translation : Vec3 D := ⟨-moved.x, -moved.y, -moved.z⟩
  if !rotation.allFinite || !translation.allFinite then
    .error ⟨.numericalFailure, "RigidTransform inverse is not finite"⟩
  else create t.sourceFrame t.targetFrame rotation translation

/-- From `^A T_B` and `^B T_C` the transform `^A T_C`. -/
def compose (t rhs : RigidTransform D) : Except Status (RigidTransform D) :=
  if t.sourceFrame ≠ rhs.targetFrame then
    .error ⟨.frameMismatch, "Cannot compose transforms: left source frame '" ++ t.sourceFrame ++
      "' does not match right target frame '" ++ rhs.targetFrame ++ "'"⟩
  else
    let rotation := t.rotation.mul rhs.rotation
    let translation := t.rotation.rotate rhs.translation + t.translation
    if !rotation.allFinite || !translation.allFinite then
      .error ⟨.numericalFailure, "RigidTransform composition is not finite"⟩
    else create t.targetFrame rhs.sourceFrame rotation translation

end RigidTransform

def stateTime (state : ImuTrajectoryState D) : Int := state.time.nanoseconds

/-- How a deskew can fail: with a status, or with an exception of the constructor of a transform. -/
inductive DeskewFailure where
  | status (status : Status)
  | exception (message : String)
deriving DecidableEq

structure ImuTrajectory (D : Type) where
  odomFrame : String := "lio_odom"
  imuFrame : String := "livox_imu_frame"
  states : List (ImuTrajectoryState D) := []
deriving DecidableEq

/-- `addState` with the check of the frames. -/
def ImuTrajectory.addState (trajectory : ImuTrajectory D) (state : ImuTrajectoryState D) :
    Except Status (ImuTrajectory D) :=
  if trajectory.odomFrame = "" ∨ trajectory.imuFrame = "" then
    .error ⟨.invalidArgument, "IMU trajectory frame ids must not be empty"⟩
  else
    match FastLio.addState trajectory.states state with
    | .error status => .error status
    | .ok states => .ok { trajectory with states := states }

section Interpolation
variable [Slerp D]

def interpolateStates (lower upper : ImuTrajectoryState D) (time : Timestamp) :
    Except Status (ImuTrajectoryState D) :=
  match checkedDifference time lower.time, checkedDifference upper.time lower.time with
  | .error status, _ => .error status
  | .ok _, .error status => .error status
  | .ok numerator, .ok denominator =>
    if denominator ≤ 0 then
      .error ⟨.timestampRegression, "IMU trajectory interpolation interval is not positive"⟩
    else
      let alpha : D := ofInt numerator / ofInt denominator
      if isFinite alpha = false ∨ alpha < lit 0 ∨ lit 1 < alpha then
        .error ⟨.numericalFailure, "IMU trajectory interpolation ratio is not finite"⟩
      else
        .ok {
          time := time
          orientationOdomImu :=
            (Slerp.slerp lower.orientationOdomImu alpha upper.orientationOdomImu).normalized
          positionOdomImuM :=
            Vec3.scale (lit 1 - alpha) lower.positionOdomImuM +
              Vec3.scale alpha upper.positionOdomImuM
          velocityOdomImuMS :=
            Vec3.scale (lit 1 - alpha) lower.velocityOdomImuMS +
              Vec3.scale alpha upper.velocityOdomImuMS }

namespace ImuTrajectory

def interpolate (trajectory : ImuTrajectory D) (time : Timestamp) :
    Except Status (ImuTrajectoryState D) :=
  match trajectory.states.head?, trajectory.states.getLast? with
  | some front, some back =>
    if !time.sameClockDomain front.time then
      .error ⟨.clockDomainMismatch, "Trajectory query uses a different clock domain"⟩
    else
      let upper := lowerBound stateTime trajectory.states time.nanoseconds
      match trajectory.states[upper]? with
      | none =>
        if time = back.time then .ok back
        else .error ⟨.outOfRange, "Trajectory query is after the final state"⟩
      | some after =>
        if after.time = time then .ok after
        else
          match (trajectory.states.take upper).getLast? with
          | none => .error ⟨.outOfRange, "Trajectory query is before the first state"⟩
          | some before => interpolateStates before after time
  | _, _ => .error ⟨.insufficientData, "Cannot interpolate an empty IMU trajectory"⟩

def pose (trajectory : ImuTrajectory D) (time : Timestamp) :
    Except DeskewFailure (RigidTransform D) :=
  match trajectory.interpolate time with
  | .error status => .error (.status status)
  | .ok state =>
    match RigidTransform.create trajectory.odomFrame trajectory.imuFrame state.orientationOdomImu
        state.positionOdomImuM with
    | .error status => .error (.exception status.message)
    | .ok transform => .ok transform

end ImuTrajectory

end Interpolation

def LidarScan.pointTime (scan : LidarScan D) (point : LidarPoint D) : Except Status Timestamp :=
  if !scan.hasPerPointTime && point.relativeTimeNs != 0 then
    .error ⟨.invalidArgument, "A simultaneous scan cannot contain non-zero point time"⟩
  else
    match checkedAdd scan.startTime point.relativeTimeNs with
    | .error status => .error status
    | .ok time =>
      if !time.sameClockDomain scan.endTime then .error (clockMismatch time scan.endTime)
      else if scan.endTime.nanoseconds < time.nanoseconds then
        .error ⟨.outOfRange, "Point relative time lies after scan end"⟩
      else .ok time

inductive DeskewMode where
  | simultaneousScan
  | perPoint
  | auto
deriving DecidableEq

inductive DeskewReference where
  | scanStart
  | scanEnd
deriving DecidableEq

inductive DeskewStatus where
  | applied
  | bypassedSimultaneousScan
deriving DecidableEq

structure DeskewResult (D : Type) where
  scan : LidarScan D
  status : DeskewStatus := .bypassedSimultaneousScan
  referenceTime : Timestamp
  deskewApplied : Bool := false
  pointTimeMinNs : Nat := 0
  pointTimeMaxNs : Nat := 0
  interpolationFailureCount : Nat := 0
deriving DecidableEq

structure ScanDeskewer where
  mode : DeskewMode := .perPoint
  reference : DeskewReference := .scanEnd
deriving DecidableEq

namespace ScanDeskewer

def effectiveMode (deskewer : ScanDeskewer) (scan : LidarScan D) : DeskewMode :=
  if deskewer.mode = .auto then
    if scan.hasPerPointTime then .perPoint else .simultaneousScan
  else deskewer.mode

def referenceTime (deskewer : ScanDeskewer) (scan : LidarScan D) : Timestamp :=
  if deskewer.reference = .scanStart then scan.startTime else scan.endTime

def rejected {A : Type} : Except Status A → Except DeskewFailure A
  | .error status => .error (.status status)
  | .ok value => .ok value

section Points
variable [Slerp D] (scan : LidarScan D) (imuTrajectory : ImuTrajectory D)
  (imuLidar : RigidTransform D)

def odomLidar (time : Timestamp) : Except DeskewFailure (RigidTransform D) := do
  let odomImu ← imuTrajectory.pose time
  rejected (odomImu.compose imuLidar)

def deskewPoint (lidarReferenceOdom : RigidTransform D) (point : LidarPoint D) :
    Except DeskewFailure (LidarPoint D) := do
  let time ← rejected (scan.pointTime point)
  let odomLidarPoint ← odomLidar imuTrajectory imuLidar time
  let lidarReferenceLidarPoint ← rejected (lidarReferenceOdom.compose odomLidarPoint)
  return { point with
    positionLidarM := lidarReferenceLidarPoint.apply point.positionLidarM }

def deskewPoints (lidarReferenceOdom : RigidTransform D) :
    List (LidarPoint D) → Except DeskewFailure (List (LidarPoint D))
  | [] => .ok []
  | point :: rest => do
    let moved ← deskewPoint scan imuTrajectory imuLidar lidarReferenceOdom point
    let others ← deskewPoints lidarReferenceOdom rest
    return moved :: others

end Points

def deskew [Slerp D] (deskewer : ScanDeskewer) (scan : LidarScan D)
    (imuTrajectory : ImuTrajectory D) (imuLidar : RigidTransform D) :
    Except DeskewFailure (DeskewResult D) :=
  match scan.fault with
  | some status => .error (.status status)
  | none =>
    let times := scan.points.map LidarPoint.relativeTimeNs
    let output : DeskewResult D := {
      scan := scan
      referenceTime := deskewer.referenceTime scan
      pointTimeMinNs := times.min?.getD 0
      pointTimeMaxNs := times.max?.getD 0 }
    if deskewer.effectiveMode scan = .simultaneousScan then
      if scan.hasPerPointTime then
        .error (.status ⟨.deskewRejected,
          "Simultaneous-scan mode requires absent per-point timing"⟩)
      else .ok output
    else if !scan.hasPerPointTime then
      .error (.status ⟨.deskewRejected, "Per-point deskew requires point relative time"⟩)
    else if imuLidar.targetFrame ≠ imuTrajectory.imuFrame then
      .error (.status ⟨.frameMismatch, "T_imu_lidar target frame '" ++ imuLidar.targetFrame ++
          "' does not match trajectory IMU frame '" ++ imuTrajectory.imuFrame ++ "'"⟩)
    else do
      let odomLidarReference ← odomLidar imuTrajectory imuLidar (deskewer.referenceTime scan)
      let lidarReferenceOdom ← rejected odomLidarReference.inverse
      let points ← deskewPoints scan imuTrajectory imuLidar lidarReferenceOdom scan.points
      return { output with
        scan := { scan with points := points }
        status := .applied
        deskewApplied := true }

end ScanDeskewer

end UavNavigation.FastLio
