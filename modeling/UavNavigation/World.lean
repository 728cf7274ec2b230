import UavNavigation.Floating

/-!
# Time conversion and world identities

`navigation_common/time.hpp` and the part of `world_model_view.hpp` that an
execution record carries. Durations are converted in `long double` and rounded
once, so a conversion is a partial function on `double`.
-/

namespace UavNavigation

set_option autoImplicit false

open FloatOps

section Time
variable {D : Type} [Floating D]

/-- The common tail of both conversions: a rounded long double that is a
representable, nonnegative number of nanoseconds. -/
def roundedNanoseconds (rounded : Floating.LongDouble D) : Option Int :=
  if !isFinite rounded || rounded < lit 0 || ofInt (2 ^ 63 - 1) < rounded then none
  else some (toInt rounded)

def secondsToNanoseconds (seconds : D) : Option Int :=
  if !isFinite seconds || seconds < lit 0 then none
  else roundedNanoseconds (round (Floating.widen seconds * lit 1000000000))

def secondsSumToNanoseconds (base offset : D) : Option Int :=
  if !isFinite base || !isFinite offset || base < lit 0 || offset < lit 0 then none
  else roundedNanoseconds (round ((Floating.widen base + Floating.widen offset) * lit 1000000000))

theorem pos_of_secondsToNanoseconds {seconds : D} {ns : Int}
    (h : secondsToNanoseconds seconds = some ns) (hPos : 0 < ns) :
    isFinite seconds = true ∧ lit 0 < seconds := by
  unfold secondsToNanoseconds at h
  split at h
  · cases h
  rename_i hGuard
  simp only [Bool.or_eq_true, Bool.not_eq_eq_eq_not, Bool.not_true, decide_eq_true_eq,
    not_or, Bool.not_eq_false] at hGuard
  refine ⟨hGuard.1, ?_⟩
  by_contra hZero
  have hInt := Floating.toInt_scaled_zero 1000000000 hGuard.1 hGuard.2 hZero
  unfold roundedNanoseconds at h
  split at h
  · cases h
  · have hNs := Option.some.inj h
    rw [← hNs] at hPos
    exact absurd hPos (by rw [show toInt _ = _ from hInt]; decide)

theorem nonneg_of_secondsSumToNanoseconds {base offset : D} {ns : Int}
    (h : secondsSumToNanoseconds base offset = some ns) :
    isFinite offset = true ∧ lit 0 ≤ offset := by
  unfold secondsSumToNanoseconds at h
  split at h
  · cases h
  rename_i hGuard
  simp only [Bool.or_eq_true, Bool.not_eq_eq_eq_not, Bool.not_true, decide_eq_true_eq,
    not_or, Bool.not_eq_false] at hGuard
  exact ⟨hGuard.1.1.2, Floating.le_of_not_lt hGuard.1.1.2 Floating.isFinite_zero hGuard.2⟩

end Time

def checkedDifference (lhs rhs : Int) : Option Int :=
  let difference := lhs - rhs
  if difference < -2 ^ 63 || 2 ^ 63 - 1 < difference then none else some difference

theorem checkedDifference_eq {a b d : Int} (h : checkedDifference a b = some d) : d = a - b := by
  simp only [checkedDifference] at h
  split at h
  · cases h
  · exact (Option.some.inj h).symm

theorem checkedDifference_of_range {a b : Int} (hLow : -2 ^ 63 ≤ a - b) (hHigh : a - b < 2 ^ 63) :
    checkedDifference a b = some (a - b) := by
  unfold checkedDifference
  rw [if_neg (by simp only [Bool.or_eq_true, decide_eq_true_eq]; omega)]

def rosTimeToNanoseconds (sec : Int) (nanosec : Nat) : Option Int :=
  if 1000000000 ≤ nanosec then none
  else
    let nanoseconds := sec * 1000000000 + nanosec
    if nanoseconds < -2 ^ 63 || 2 ^ 63 - 1 < nanoseconds then none else some nanoseconds

def microsecondsToNanoseconds (microseconds : Nat) : Option Int :=
  if (2 ^ 63 - 1) / 1000 < microseconds || microseconds == 0 then none
  else some (microseconds * 1000)

def nanosecondsToMicroseconds (nanoseconds : Int) : Option Nat :=
  if nanoseconds ≤ 0 then none
  else
    let microseconds := nanoseconds.toNat / 1000
    if microseconds == 0 then none else some microseconds

structure WorldSnapshotIdentity where
  localizationEpoch : Nat
  generation : Nat
  revision : Nat
  observationStampNs : Int
deriving DecidableEq

def sameWorldSnapshotIdentity (lhs rhs : WorldSnapshotIdentity) : Bool :=
  lhs.localizationEpoch == rhs.localizationEpoch && lhs.generation == rhs.generation &&
    lhs.revision == rhs.revision && lhs.observationStampNs == rhs.observationStampNs

/-- Comparing the four fields is comparing the identities. -/
@[simp] theorem sameWorldSnapshotIdentity_iff (lhs rhs : WorldSnapshotIdentity) :
    sameWorldSnapshotIdentity lhs rhs = true ↔ lhs = rhs := by
  cases lhs
  cases rhs
  simp [sameWorldSnapshotIdentity, and_assoc]

/-- The nonzero and positive fields every published identity must have. -/
def WorldSnapshotIdentity.published (identity : WorldSnapshotIdentity) : Bool :=
  identity.generation != 0 && identity.revision != 0 && 0 < identity.observationStampNs

inductive WorldCommitDecision where
  | notAttempted
  | committed
  | noPublishedWorld
  | worldAdvanced
  | superseded
  | cancelled
  | candidateRejected
deriving DecidableEq

structure AxisAlignedBox (D : Type) where
  minimum : Vec3 D
  maximum : Vec3 D
deriving DecidableEq

def AxisAlignedBox.valid {D : Type} [FloatOps D] (box : AxisAlignedBox D) : Bool :=
  box.minimum.allFinite && box.maximum.allFinite &&
    box.minimum.x ≤ box.maximum.x && box.minimum.y ≤ box.maximum.y &&
    box.minimum.z ≤ box.maximum.z

/-! ## Missions -/

inductive UnknownPolicy where
  | allowUnknown
  | requireKnownFree
deriving DecidableEq

inductive WaypointBehavior where
  | passThrough
  | stop
deriving DecidableEq

structure MissionWaypoint (D : Type) where
  id : String
  positionEnu : Vec3 D
  acceptanceRadiusM : D
  holdS : D
  behavior : WaypointBehavior
deriving DecidableEq

structure MissionPlanningConfig (D : Type) where
  requestedCruiseSpeedMps : D
  unknownPolicy : UnknownPolicy
deriving DecidableEq

structure MissionControlConfig (D : Type) where
  acceptanceSpeedMps : D
  acceptanceConfirmationS : D
deriving DecidableEq

structure Mission (D : Type) where
  schemaVersion : Int
  id : String
  frame : String
  waypoints : List (MissionWaypoint D)
  planning : MissionPlanningConfig D
  control : MissionControlConfig D
deriving DecidableEq

def maximumMissionWaypoints : Nat := 4096

def maximumMissionIdLength : Nat := 256

def maximumMissionFrameLength : Nat := 128

def maximumWaypointIdLength : Nat := 256

/-- The planner's endpoint tolerance from `goal_contract.hpp`. -/
def goalConnectionToleranceM {D : Type} [FloatOps D] : D := lit 0.2

section Validity
variable {D : Type} [FloatOps D]

/-- The geometry and policy tests which the mission and the route make on a waypoint. -/
def MissionWaypoint.geometryValid (waypoint : MissionWaypoint D) : Bool :=
  waypoint.positionEnu.allFinite && isFinite waypoint.acceptanceRadiusM &&
    !(waypoint.acceptanceRadiusM ≤ lit 0 : Bool) && isFinite waypoint.holdS &&
    !(waypoint.holdS < lit 0 : Bool) &&
    (waypoint.behavior == .passThrough || waypoint.behavior == .stop) &&
    !(waypoint.behavior == .passThrough && lit 0 < waypoint.holdS)

def waypointsValid (seen : List String) : List (MissionWaypoint D) → Bool
  | [] => true
  | waypoint :: rest =>
    if waypoint.id.isEmpty || maximumWaypointIdLength < waypoint.id.utf8ByteSize ||
        !waypoint.geometryValid || seen.contains waypoint.id then false
    else waypointsValid (waypoint.id :: seen) rest

def Mission.valid (mission : Mission D) : Bool :=
  if mission.schemaVersion ≠ 1 || mission.id.isEmpty ||
      maximumMissionIdLength < mission.id.utf8ByteSize || mission.frame.isEmpty ||
      maximumMissionFrameLength < mission.frame.utf8ByteSize || mission.waypoints.isEmpty ||
      maximumMissionWaypoints < mission.waypoints.length ||
      !isFinite mission.planning.requestedCruiseSpeedMps ||
      mission.planning.requestedCruiseSpeedMps ≤ lit 0 ||
      (mission.planning.unknownPolicy != .allowUnknown &&
        mission.planning.unknownPolicy != .requireKnownFree) ||
      !isFinite mission.control.acceptanceSpeedMps ||
      mission.control.acceptanceSpeedMps < lit 0 ||
      !isFinite mission.control.acceptanceConfirmationS ||
      mission.control.acceptanceConfirmationS < lit 0 then false
  else waypointsValid [] mission.waypoints

theorem Mission.waypoints_of_valid {mission : Mission D} (h : mission.valid = true) :
    0 < mission.waypoints.length ∧ mission.waypoints.length ≤ 4096 := by
  unfold Mission.valid at h
  split at h
  · cases h
  · rename_i hGuard
    simp only [Bool.or_eq_true, decide_eq_true_eq, not_or, Bool.not_eq_true,
      List.isEmpty_eq_false_iff, Nat.not_lt] at hGuard
    have hNonempty : mission.waypoints ≠ [] := by tauto
    have hBound : mission.waypoints.length ≤ maximumMissionWaypoints := by tauto
    exact ⟨List.length_pos_iff.mpr hNonempty, hBound⟩

end Validity

end UavNavigation
