import UavNavigation.CommandContract
import UavNavigation.SensorSamples
import UavNavigation.Runs
import UavNavigation.ExactReals

/-!
# LiDAR ingress

The two adapters that make scans of driver messages. They keep the start and the end
of the last scan they emitted, to refuse what goes back in time and to cut off what
overlaps. An adapter is its configuration; what its calls change is the ingress state.
A message that throws is an error with the text of the exception.
-/

namespace UavNavigation.FastLio

open FloatOps

set_option autoImplicit false

inductive LidarTimingMode where
  | simultaneousScan
  | perPoint
deriving DecidableEq

inductive PointTimeEncoding where
  | uint32RelativeNanoseconds
  | float64AbsoluteNanoseconds
deriving DecidableEq

inductive ScanReference where
  | headerStamp
  | minimumPointTime
deriving DecidableEq

structure PointTimeConfig where
  field : String := "time"
  encoding : PointTimeEncoding := .uint32RelativeNanoseconds
  scanReference : ScanReference := .headerStamp
  maximumScanDurationNs : Int := 200000000
  maximumHeaderOffsetNs : Int := 200000000
  rejectScanTimestampRegression : Bool := true
  maximumBoundaryOverlapNs : Int := 0
  minimumPointsAfterOverlapTrim : Nat := 1
  durationPositive : 0 < maximumScanDurationNs := by decide
  headerOffsetNonneg : 0 ≤ maximumHeaderOffsetNs := by decide
  boundaryOverlapNonneg : 0 ≤ maximumBoundaryOverlapNs := by decide
  minimumPointsPositive : 0 < minimumPointsAfterOverlapTrim := by decide

def maximumLidarPointCount : Nat := 2000000

structure PointTimeNormalizationStatistics where
  inputPointCount : Nat := 0
  emittedPointCount : Nat := 0
  droppedOverlappingPointCount : Nat := 0
deriving DecidableEq

structure IngressState where
  previousScanStartNs : Int := -1
  previousEmittedEndNs : Int := -1
  normalizationStatistics : PointTimeNormalizationStatistics := {}
deriving DecidableEq

namespace IngressState

def countInput (state : IngressState) (points : Nat) : IngressState :=
  { state with normalizationStatistics := { state.normalizationStatistics with
      inputPointCount := state.normalizationStatistics.inputPointCount + points } }

def countEmitted (state : IngressState) (points : Nat) : IngressState :=
  { state with normalizationStatistics := { state.normalizationStatistics with
      emittedPointCount := state.normalizationStatistics.emittedPointCount + points } }

def countDropped (state : IngressState) (points : Nat) : IngressState :=
  { state with normalizationStatistics := { state.normalizationStatistics with
      droppedOverlappingPointCount :=
        state.normalizationStatistics.droppedOverlappingPointCount + points } }

end IngressState

/-- A point of a scan that is being made, with its absolute time. -/
structure TimedPoint (D : Type) where
  point : LidarPoint D
  absoluteTimeNs : Int
deriving DecidableEq

/-- `Timestamp(nanoseconds, clock_domain)`. -/
def stampAt (nanoseconds : Int) (clockDomain : ClockDomain) : Timestamp :=
  (Timestamp.rosTime nanoseconds).inDomain clockDomain

section Shared
variable {D : Type}

/-- `std::min_element` over the absolute times. -/
def minimumTime (points : List (TimedPoint D)) : Option Int :=
  (points.map TimedPoint.absoluteTimeNs).min?

def trimOverlap (config : PointTimeConfig) (limitMessage fewMessage : String) (state : IngressState)
    (points : List (TimedPoint D)) : IngressState × Except String (List (TimedPoint D)) :=
  if state.previousEmittedEndNs < 0 then (state, .ok points)
  else
    match minimumTime points with
    | none => (state, .ok points)
    | some minimumTimeNs =>
      let overlapNs := state.previousEmittedEndNs - minimumTimeNs
      if config.maximumBoundaryOverlapNs < overlapNs then (state, .error limitMessage)
      else if 0 < overlapNs then
        let emitted := points.filter fun p => state.previousEmittedEndNs < p.absoluteTimeNs
        let counted := state.countDropped (points.length - emitted.length)
        if emitted.length < config.minimumPointsAfterOverlapTrim then (counted, .error fewMessage)
        else (counted, .ok emitted)
      else (state, .ok points)

/-- The points with their times relative to the start of the scan. -/
def relativePoints (config : PointTimeConfig) (overflowMessage invalidMessage : String)
    (scanStartNs : Int) : List (TimedPoint D) → Except String (List (LidarPoint D))
  | [] => .ok []
  | p :: rest =>
    match UavNavigation.checkedDifference p.absoluteTimeNs scanStartNs with
    | none => .error overflowMessage
    | some relativeNs =>
      if relativeNs < 0 ∨ config.maximumScanDurationNs < relativeNs ∨ 2 ^ 32 - 1 < relativeNs then
        .error invalidMessage
      else
        match relativePoints config overflowMessage invalidMessage scanStartNs rest with
        | .error message => .error message
        | .ok others => .ok ({ p.point with relativeTimeNs := relativeNs.toNat } :: others)

def maximumRelativeTimeNs (points : List (LidarPoint D)) : Nat :=
  (points.map LidarPoint.relativeTimeNs).foldl Nat.max 0

/-- Where a scan starts: at its first point or at the stamp of its message. -/
def referenceStart (config : PointTimeConfig) (stampNs minimumTimeNs : Int) : Int :=
  if config.scanReference = .minimumPointTime then minimumTimeNs else stampNs

end Shared

/-! ## Livox messages -/

inductive LivoxTimestampPolicy where
  | requireHeaderMatchesTimebase
  | timebaseAuthoritative
deriving DecidableEq

structure CustomPoint (D : Type) where
  offsetTime : Nat
  x : D
  y : D
  z : D
  reflectivity : UInt8 := 0
  tag : UInt8 := 0
  line : UInt8 := 0
deriving DecidableEq

structure CustomMsg (D : Type) where
  frameId : String
  stamp : NavigationMode.Stamp
  timebase : Nat
  pointNum : Nat
  points : List (CustomPoint D)
deriving DecidableEq

structure RosLivoxCustomAdapter where
  expectedFrame : String
  clockDomain : ClockDomain
  timestampPolicy : LivoxTimestampPolicy := .requireHeaderMatchesTimebase
  pointTime : PointTimeConfig := {}
  frameNonempty : expectedFrame ≠ "" := by decide

namespace RosLivoxCustomAdapter
variable {D : Type} [FloatOps D]

def position (p : CustomPoint D) : Vec3 D := ⟨p.x, p.y, p.z⟩

def shapeFault (a : RosLivoxCustomAdapter) (message : CustomMsg D) : Option String :=
  if message.frameId ≠ a.expectedFrame then
    some "Livox CustomMsg frame does not match configured lidar frame"
  else if message.pointNum ≠ message.points.length then
    some "Livox CustomMsg point_num does not match points size"
  else if message.points.isEmpty then some "Livox CustomMsg contains no points"
  else if maximumLidarPointCount < message.points.length then
    some "Livox CustomMsg point count is outside the supported bound"
  else none

def headerTime (a : RosLivoxCustomAdapter) (state : IngressState) (message : CustomMsg D) :
    Except String Int :=
  if message.timebase = 0 ∨ maxInt64 < message.timebase then
    .error "Livox CustomMsg timebase exceeds core int64 nanosecond range"
  else
    match rosTimeToNanoseconds message.stamp.sec message.stamp.nanosec with
    | none => .error "ROS timestamp is malformed or out of range"
    | some headerNs =>
      if a.pointTime.rejectScanTimestampRegression = true ∧ 0 < state.previousScanStartNs ∧
          message.timebase ≤ state.previousScanStartNs then
        .error "Livox CustomMsg timestamp is not strictly increasing"
      else
        match UavNavigation.checkedDifference headerNs message.timebase with
        | none => .error "Livox CustomMsg header.stamp exceeds configured timebase offset"
        | some offsetNs =>
          if a.pointTime.maximumHeaderOffsetNs < |offsetNs| then
            .error "Livox CustomMsg header.stamp exceeds configured timebase offset"
          else if a.timestampPolicy = .requireHeaderMatchesTimebase ∧
              headerNs ≠ message.timebase then
            .error "Livox CustomMsg header.stamp does not equal timebase"
          else .ok headerNs

def readPoints (timebase : Timestamp) : List (CustomPoint D) → Except String (List (TimedPoint D))
  | [] => .ok []
  | p :: rest =>
    if !(position p).allFinite then .error "Livox CustomMsg contains a non-finite point"
    else
      match checkedAdd timebase p.offsetTime with
      | .error status => .error status.message
      | .ok time =>
        match readPoints timebase rest with
        | .error message => .error message
        | .ok others =>
          .ok (⟨⟨position p, p.offsetTime, p.reflectivity, p.tag, p.line⟩, time.nanoseconds⟩ :: others)

def emit (a : RosLivoxCustomAdapter) (headerNs timebaseNs : Int) (state : IngressState)
    (points : List (TimedPoint D)) : IngressState × Except String (LidarScan D) :=
  match minimumTime points with
  | none => (state, .error "Livox CustomMsg overlap trim left no points")
  | some minimumTimeNs =>
    let scanStartNs := referenceStart a.pointTime timebaseNs minimumTimeNs
    let startTime := stampAt scanStartNs a.clockDomain
    match UavNavigation.checkedDifference headerNs scanStartNs with
    | none => (state, .error "Livox CustomMsg header.stamp exceeds configured scan offset")
    | some offsetNs =>
      if a.pointTime.maximumHeaderOffsetNs < |offsetNs| then
        (state, .error "Livox CustomMsg header.stamp exceeds configured scan offset")
      else
        match relativePoints a.pointTime "Livox CustomMsg point timestamp is invalid"
            "Livox CustomMsg point timestamp is invalid" scanStartNs points with
        | .error message => (state, .error message)
        | .ok emitted =>
          match checkedAdd startTime (maximumRelativeTimeNs emitted) with
          | .error status => (state, .error status.message)
          | .ok endTime =>
            let scan : LidarScan D := {
              startTime := startTime
              endTime := endTime
              points := emitted
              hasPerPointTime := true }
            match scan.fault with
            | some status => (state, .error status.message)
            | none =>
              ({ state.countEmitted emitted.length with
                  previousScanStartNs := startTime.nanoseconds
                  previousEmittedEndNs := endTime.nanoseconds }, .ok scan)

def convert (a : RosLivoxCustomAdapter) (state : IngressState) (message : CustomMsg D) :
    IngressState × Except String (LidarScan D) :=
  match a.shapeFault message with
  | some text => (state, .error text)
  | none =>
    let counted := state.countInput message.points.length
    match a.headerTime state message with
    | .error text => (counted, .error text)
    | .ok headerNs =>
      match readPoints (stampAt message.timebase a.clockDomain) message.points with
      | .error text => (counted, .error text)
      | .ok points =>
        match trimOverlap a.pointTime "Livox CustomMsg boundary overlap exceeds configured limit"
            "Livox CustomMsg overlap trim left too few points" counted points with
        | (trimmed, .error text) => (trimmed, .error text)
        | (trimmed, .ok kept) => a.emit headerNs message.timebase trimmed kept

end RosLivoxCustomAdapter

/-! ## Point clouds -/

structure PointField where
  name : String
  offset : Nat
  datatype : Nat
  count : Nat
deriving DecidableEq

namespace PointField

def uint32 : Nat := 6

def float32 : Nat := 7

def float64 : Nat := 8

end PointField

structure PointCloud2 where
  frameId : String
  stamp : NavigationMode.Stamp
  height : Nat
  width : Nat
  fields : List PointField
  isBigendian : Bool := false
  pointStep : Nat
  rowStep : Nat
  data : List UInt8
deriving DecidableEq

/-- The values that a copy of bytes gives. -/
class ScalarBytes (D : Type) where
  float32 : List UInt8 → D
  float64 : List UInt8 → D

def unsignedOfBytes (bytes : List UInt8) : Nat := bytes.foldr (fun byte rest => byte.toNat + 256 * rest) 0

def toInt64 {D : Type} [FloatOps D] (x : D) : Int :=
  if minInt64 ≤ toInt x ∧ toInt x ≤ maxInt64 then toInt x else minInt64

structure RosLidarAdapter where
  expectedFrame : String
  timingMode : LidarTimingMode
  clockDomain : ClockDomain := .rosTime
  pointTime : PointTimeConfig := {}
  frameNonempty : expectedFrame ≠ "" := by decide
  fieldNonempty : pointTime.field ≠ "" := by decide

namespace RosLidarAdapter

def requireField (message : PointCloud2) (name : String) (datatype : Nat) :
    Except String PointField :=
  match message.fields.find? fun f => f.name = name with
  | none => .error "PointCloud2 has a missing or invalid field"
  | some f =>
    if f.datatype ≠ datatype ∨ f.count ≠ 1 then
      .error "PointCloud2 has a missing or invalid field"
    else .ok f

/-- The bytes of a field of the point that starts at `position`. -/
def readScalar (message : PointCloud2) (position size offset : Nat) : Except String (List UInt8) :=
  if message.pointStep < offset ∨ message.pointStep - offset < size then
    .error "PointCloud2 field exceeds point_step"
  else .ok ((message.data.drop (position + offset)).take size)

/-- The fields of a cloud; the time is read where points have one. -/
structure CloudFields where
  x : PointField
  y : PointField
  z : PointField
  time : Option PointField
deriving DecidableEq

def absolute (a : RosLidarAdapter) : Bool :=
  a.timingMode = .perPoint && a.pointTime.encoding = .float64AbsoluteNanoseconds

def timeField (a : RosLidarAdapter) (message : PointCloud2) : Except String (Option PointField) :=
  if a.timingMode = .perPoint then
    match requireField message a.pointTime.field
        (if a.pointTime.encoding = .uint32RelativeNanoseconds then PointField.uint32
        else PointField.float64) with
    | .error text => .error text
    | .ok f => .ok (some f)
  else .ok none

def cloudFields (a : RosLidarAdapter) (message : PointCloud2) : Except String CloudFields := do
  let x ← requireField message "x" PointField.float32
  let y ← requireField message "y" PointField.float32
  let z ← requireField message "z" PointField.float32
  let time ← a.timeField message
  return ⟨x, y, z, time⟩

def layout (a : RosLidarAdapter) (message : PointCloud2) : Except String CloudFields :=
  if message.frameId ≠ a.expectedFrame then
    .error "point cloud frame does not match configured lidar frame"
  else if message.isBigendian then .error "big-endian PointCloud2 is unsupported"
  else
    match a.cloudFields message with
    | .error text => .error text
    | .ok fields =>
      if message.pointStep = 0 ∨ 2 ^ 32 - 1 < message.pointStep * message.width ∨
          message.rowStep < message.pointStep * message.width ∨
          message.data.length < message.rowStep * message.height then
        .error "PointCloud2 storage layout is inconsistent"
      else if message.width * message.height = 0 ∨
          maximumLidarPointCount < message.width * message.height then
        .error "PointCloud2 point count is outside the supported bound"
      else .ok fields

section Points
variable {D : Type} [Floating D] [ScalarBytes D]

def readTime (a : RosLidarAdapter) (message : PointCloud2) (position : Nat) :
    Option PointField → Except String (Nat × Int)
  | none => .ok (0, 0)
  | some f =>
    if a.pointTime.encoding = .uint32RelativeNanoseconds then
      match readScalar message position 4 f.offset with
      | .error text => .error text
      | .ok bytes => .ok (unsignedOfBytes bytes, 0)
    else
      match readScalar message position 8 f.offset with
      | .error text => .error text
      | .ok bytes =>
        let raw : D := ScalarBytes.float64 bytes
        if !isFinite raw ||
            decide (Floating.widen raw < (ofInt minInt64 : Floating.LongDouble D)) ||
            decide ((ofInt maxInt64 : Floating.LongDouble D) < Floating.widen raw) then
          .error "point timestamp is non-finite or outside int64"
        else .ok (0, toInt64 (FloatOps.round raw))

def readPoint (a : RosLidarAdapter) (message : PointCloud2) (fields : CloudFields)
    (row column : Nat) : Except String (TimedPoint D) :=
  if message.data.length < row * message.rowStep then
    .error "PointCloud2 row offset exceeds storage"
  else if message.rowStep < column * message.pointStep ∨
      message.rowStep - column * message.pointStep < message.pointStep then
    .error "PointCloud2 point offset exceeds row storage"
  else do
    let position := row * message.rowStep + column * message.pointStep
    let x ← readScalar message position 4 fields.x.offset
    let y ← readScalar message position 4 fields.y.offset
    let z ← readScalar message position 4 fields.z.offset
    let time ← a.readTime (D := D) message position fields.time
    return ⟨{
      positionLidarM := ⟨ScalarBytes.float32 x, ScalarBytes.float32 y, ScalarBytes.float32 z⟩
      relativeTimeNs := time.1 }, time.2⟩

def places (message : PointCloud2) : List (Nat × Nat) :=
  (List.range message.height).flatMap fun row =>
    (List.range message.width).map fun column => (row, column)

/-- The points that are finite; a time that is not valid is refused even where the point is not. -/
def readPoints (a : RosLidarAdapter) (message : PointCloud2) (fields : CloudFields) :
    List (Nat × Nat) → Except String (List (TimedPoint D))
  | [] => .ok []
  | (row, column) :: rest =>
    match a.readPoint message fields row column with
    | .error text => .error text
    | .ok p =>
      match readPoints a message fields rest with
      | .error text => .error text
      | .ok others => .ok (if p.point.positionLidarM.allFinite then p :: others else others)

end Points

section Emission
variable {D : Type} [FloatOps D]

/-- The points with their times, relative to where the scan starts. -/
def stampedPoints (a : RosLidarAdapter) (headerNs : Int) (points : List (TimedPoint D)) :
    Except String (Int × List (LidarPoint D)) :=
  if a.absolute = false then .ok (headerNs, points.map TimedPoint.point)
  else
    match minimumTime points with
    | none => .ok (headerNs, points.map TimedPoint.point)
    | some minimumTimeNs =>
      let scanStartNs := referenceStart a.pointTime headerNs minimumTimeNs
      if a.pointTime.maximumHeaderOffsetNs < |headerNs - scanStartNs| then
        .error "PointCloud2 header/point timestamp offset exceeds limit"
      else
        match relativePoints a.pointTime "point relative timestamp overflows int64"
            "point relative timestamp is invalid" scanStartNs points with
        | .error text => .error text
        | .ok emitted => .ok (scanStartNs, emitted)

def emit (a : RosLidarAdapter) (headerNs : Int) (state : IngressState)
    (points : List (TimedPoint D)) : IngressState × Except String (LidarScan D) :=
  match a.stampedPoints headerNs points with
  | .error text => (state, .error text)
  | .ok (scanStartNs, emitted) =>
    if a.pointTime.maximumScanDurationNs < maximumRelativeTimeNs emitted then
      (state, .error "PointCloud2 scan duration exceeds configured limit")
    else if a.pointTime.rejectScanTimestampRegression = true ∧ 0 ≤ state.previousScanStartNs ∧
        scanStartNs < state.previousScanStartNs then
      (state, .error "PointCloud2 scan timestamp regressed")
    else
      let startTime := stampAt scanStartNs a.clockDomain
      let started := { state with previousScanStartNs := scanStartNs }
      match checkedAdd startTime (maximumRelativeTimeNs emitted) with
      | .error status => (started, .error status.message)
      | .ok endTime =>
        ({ started with previousEmittedEndNs := endTime.nanoseconds },
          .ok {
            startTime := startTime
            endTime := endTime
            points := emitted
            hasPerPointTime := decide (a.timingMode = .perPoint) })

end Emission

def convert {D : Type} [Floating D] [ScalarBytes D] (a : RosLidarAdapter) (state : IngressState)
    (message : PointCloud2) : IngressState × Except String (LidarScan D) :=
  match a.layout message with
  | .error text => (state, .error text)
  | .ok fields =>
    let counted := state.countInput (message.width * message.height)
    match rosTimeToNanoseconds message.stamp.sec message.stamp.nanosec with
    | none => (counted, .error "ROS timestamp is malformed or out of range")
    | some headerNs =>
      match a.readPoints message fields (places message) with
      | .error text => (counted, .error text)
      | .ok points =>
        if points.isEmpty then (counted, .error "PointCloud2 contains no finite XYZ point")
        else if a.absolute then
          match trimOverlap a.pointTime "PointCloud2 boundary overlap exceeds configured limit"
              "PointCloud2 overlap trim left too few points" counted points with
          | (trimmed, .error text) => (trimmed, .error text)
          | (trimmed, .ok kept) => a.emit headerNs (trimmed.countEmitted kept.length) kept
        else a.emit headerNs (counted.countEmitted points.length) points

end RosLidarAdapter

/-! ## The intervals of emitted scans -/

open FloatOps Runs List

section Shared
variable {D : Type}

/-- A point as it was measured, at its absolute time. -/
structure MeasuredPoint (D : Type) where
  positionLidarM : Vec3 D
  reflectivity : UInt8
  tag : UInt8
  line : UInt8
  timeNs : Int
deriving DecidableEq

def TimedPoint.measured (p : TimedPoint D) : MeasuredPoint D :=
  ⟨p.point.positionLidarM, p.point.reflectivity, p.point.tag, p.point.line, p.absoluteTimeNs⟩

def LidarScan.measured (scan : LidarScan D) : List (MeasuredPoint D) :=
  scan.points.map fun p => ⟨p.positionLidarM, p.reflectivity, p.tag, p.line,
    scan.startTime.nanoseconds + (p.relativeTimeNs : Int)⟩

variable {points : List (TimedPoint D)}

theorem stampAt_nanoseconds {nanoseconds : Int} (hLower : minInt64 ≤ nanoseconds)
    (hUpper : nanoseconds ≤ maxInt64) (domain : ClockDomain) :
    (stampAt nanoseconds domain).nanoseconds = nanoseconds := by
  unfold stampAt Timestamp.rosTime
  rw [Timestamp.inDomain_nanoseconds, dif_pos ⟨hLower, hUpper⟩]

theorem minimumTime_none : minimumTime points = none ↔ points = [] := by
  unfold minimumTime
  rw [List.min?_eq_none_iff, map_eq_nil_iff]

theorem minimumTime_some {t : Int} (h : minimumTime points = some t) :
    (∃ p ∈ points, p.absoluteTimeNs = t) ∧ ∀ p ∈ points, t ≤ p.absoluteTimeNs := by
  obtain ⟨hMem, hLeast⟩ := List.min?_eq_some_iff.mp h
  obtain ⟨p, hp, hTime⟩ := mem_map.mp hMem
  exact ⟨⟨p, hp, hTime⟩, fun q hq => hLeast _ (mem_map_of_mem hq)⟩

def Overlapping (previousEndNs : Int) (inputs : List (MeasuredPoint D)) : Prop :=
  0 ≤ previousEndNs ∧ ∃ p ∈ inputs, p.timeNs < previousEndNs

def trimmed (previousEndNs : Int) (inputs : List (MeasuredPoint D)) : List (MeasuredPoint D) :=
  inputs.filter fun p => previousEndNs < p.timeNs

def IngressState.SameOrdering (s t : IngressState) : Prop :=
  s.previousScanStartNs = t.previousScanStartNs ∧ s.previousEmittedEndNs = t.previousEmittedEndNs

theorem IngressState.SameOrdering.refl (s : IngressState) : s.SameOrdering s := ⟨rfl, rfl⟩

theorem trimOverlap_ok {config : PointTimeConfig} {limitMessage fewMessage : String}
    {state after : IngressState} {kept : List (TimedPoint D)}
    (h : trimOverlap config limitMessage fewMessage state points = (after, .ok kept)) :
    kept.Sublist points ∧ (Overlapping state.previousEmittedEndNs (points.map TimedPoint.measured) ∧
          kept.map TimedPoint.measured =
            trimmed state.previousEmittedEndNs (points.map TimedPoint.measured) ∨
        ¬Overlapping state.previousEmittedEndNs (points.map TimedPoint.measured) ∧ kept = points) := by
  unfold trimOverlap at h
  split at h
  · rename_i hNone
    obtain ⟨-, hKept⟩ := Prod.mk.inj h
    obtain rfl := Except.ok.inj hKept
    exact ⟨.refl _, .inr ⟨fun hOverlap => absurd hOverlap.1 (not_le.mpr hNone), rfl⟩⟩
  rename_i hSome
  split at h
  · rename_i hEmpty
    obtain ⟨-, hKept⟩ := Prod.mk.inj h
    obtain rfl := Except.ok.inj hKept
    rw [minimumTime_none.mp hEmpty]
    refine ⟨.refl _, .inr ⟨?_, rfl⟩⟩
    rintro ⟨-, p, hp, -⟩
    cases hp
  rename_i minimumTimeNs hMinimum
  obtain ⟨⟨p, hp, hTime⟩, hLeast⟩ := minimumTime_some hMinimum
  dsimp only at h
  split at h
  · cases (Prod.mk.inj h).2
  split at h
  · rename_i hOverlap
    split at h
    · cases (Prod.mk.inj h).2
    · obtain ⟨-, hKept⟩ := Prod.mk.inj h
      obtain rfl := Except.ok.inj hKept
      refine ⟨filter_sublist, .inl ⟨⟨not_lt.mp hSome, _, mem_map_of_mem hp, ?_⟩, ?_⟩⟩
      · dsimp only [TimedPoint.measured]
        omega
      · unfold trimmed
        rw [filter_map]
        rfl
  · rename_i hApart
    obtain ⟨-, hKept⟩ := Prod.mk.inj h
    obtain rfl := Except.ok.inj hKept
    refine ⟨.refl _, .inr ⟨?_, rfl⟩⟩
    rintro ⟨-, q, hq, hBefore⟩
    obtain ⟨q', hq', rfl⟩ := mem_map.mp hq
    have := hLeast q' hq'
    dsimp only [TimedPoint.measured] at hBefore
    omega

theorem trimOverlap_ordering (config : PointTimeConfig) (limitMessage fewMessage : String)
    (state : IngressState) (points : List (TimedPoint D)) :
    (trimOverlap config limitMessage fewMessage state points).1.SameOrdering state := by
  fun_cases trimOverlap <;> exact .refl _

theorem relativePoints_ok {config : PointTimeConfig} {overflowMessage invalidMessage : String}
    {scanStartNs : Int} {emitted : List (LidarPoint D)}
    (h : relativePoints config overflowMessage invalidMessage scanStartNs points = .ok emitted) :
    (∀ p ∈ points, scanStartNs ≤ p.absoluteTimeNs) ∧ emitted = points.map fun p =>
        { p.point with relativeTimeNs := (p.absoluteTimeNs - scanStartNs).toNat } := by
  induction points generalizing emitted with
  | nil =>
    cases h
    exact ⟨by simp, rfl⟩
  | cons p rest ih =>
    unfold relativePoints at h
    split at h
    · cases h
    rename_i relativeNs hDifference
    have hRelative := checkedDifference_eq hDifference
    split at h
    · cases h
    split at h
    · cases h
    rename_i others hOthers
    obtain ⟨hStart, hRest⟩ := ih hOthers
    refine ⟨forall_mem_cons.mpr ⟨by omega, hStart⟩, ?_⟩
    rw [← Except.ok.inj h, hRest, hRelative]
    rfl

theorem foldl_max_le {times : List Nat} {first limit : Nat} (hFirst : first ≤ limit)
    (h : ∀ t ∈ times, t ≤ limit) : times.foldl Nat.max first ≤ limit := by
  induction times generalizing first with
  | nil => exact hFirst
  | cons t times ih =>
    obtain ⟨hHead, hTail⟩ := forall_mem_cons.mp h
    exact ih (Nat.max_le.mpr ⟨hFirst, hHead⟩) hTail

theorem le_foldl_max {times : List Nat} {first : Nat} :
    first ≤ times.foldl Nat.max first ∧ ∀ t ∈ times, t ≤ times.foldl Nat.max first := by
  induction times generalizing first with
  | nil => exact ⟨le_rfl, by simp⟩
  | cons t times ih =>
    obtain ⟨hFirst, hTimes⟩ := @ih (Nat.max first t)
    refine ⟨(Nat.le_max_left _ _).trans hFirst, forall_mem_cons.mpr ⟨?_, hTimes⟩⟩
    exact (Nat.le_max_right _ _).trans hFirst

theorem le_maximumRelativeTimeNs {points : List (LidarPoint D)} {p : LidarPoint D} (hp : p ∈ points) :
    p.relativeTimeNs ≤ maximumRelativeTimeNs points :=
  le_foldl_max.2 _ (mem_map_of_mem hp)

theorem maximumRelativeTimeNs_le {points : List (LidarPoint D)} {limit : Nat}
    (h : ∀ p ∈ points, p.relativeTimeNs ≤ limit) : maximumRelativeTimeNs points ≤ limit := by
  refine foldl_max_le (Nat.zero_le _) fun t ht => ?_
  obtain ⟨p, hp, rfl⟩ := mem_map.mp ht
  exact h p hp

/-- A scan made of points at absolute times: what it holds, where it starts, what it spans. -/
structure Interval (config : PointTimeConfig) (stampNs : Int) (points : List (TimedPoint D))
    (scan : LidarScan D) : Prop where
  holds : scan.measured = points.map TimedPoint.measured
  first : config.scanReference = .minimumPointTime →
    ∃ p ∈ points, p.absoluteTimeNs = scan.startTime.nanoseconds
  stamped : config.scanReference ≠ .minimumPointTime → scan.startTime.nanoseconds = stampNs
  spans : ∀ p ∈ points, scan.startTime.nanoseconds ≤ p.absoluteTimeNs ∧
    p.absoluteTimeNs ≤ scan.endTime.nanoseconds

def Representable (points : List (TimedPoint D)) : Prop :=
  ∀ p ∈ points, minInt64 ≤ p.absoluteTimeNs ∧ p.absoluteTimeNs ≤ maxInt64

section
variable {config : PointTimeConfig} {overflowMessage invalidMessage : String}
  {stampNs minimumTimeNs : Int}

theorem referenceStart_nanoseconds
    (hMinimum : minimumTime points = some minimumTimeNs) (hPoints : Representable points)
    (hLower : minInt64 ≤ stampNs) (hUpper : stampNs ≤ maxInt64) (domain : ClockDomain) :
    (stampAt (referenceStart config stampNs minimumTimeNs) domain).nanoseconds =
      referenceStart config stampNs minimumTimeNs := by
  obtain ⟨⟨p, hp, rfl⟩, -⟩ := minimumTime_some hMinimum
  obtain ⟨hPointLower, hPointUpper⟩ := hPoints p hp
  unfold referenceStart
  split
  · exact stampAt_nanoseconds hPointLower hPointUpper domain
  · exact stampAt_nanoseconds hLower hUpper domain

theorem scanEnd_le {scanStartNs : Int} {emitted : List (LidarPoint D)}
    (hRelative : relativePoints config overflowMessage invalidMessage scanStartNs points = .ok emitted)
    (hLimit : scanStartNs ≤ maxInt64) (hPoints : Representable points) :
    scanStartNs + (maximumRelativeTimeNs emitted : Int) ≤ maxInt64 := by
  obtain ⟨hStart, rfl⟩ := relativePoints_ok hRelative
  have hBound : maximumRelativeTimeNs (points.map fun p =>
      { p.point with relativeTimeNs := (p.absoluteTimeNs - scanStartNs).toNat }) ≤
        (maxInt64 - scanStartNs).toNat := by
    apply maximumRelativeTimeNs_le
    intro q hq
    obtain ⟨p, hp, rfl⟩ := mem_map.mp hq
    have := (hPoints p hp).2
    dsimp only
    omega
  omega

theorem interval_of_relative {scan : LidarScan D}
    (hMinimum : minimumTime points = some minimumTimeNs)
    (hRelative : relativePoints config overflowMessage invalidMessage
      (referenceStart config stampNs minimumTimeNs) points = .ok scan.points)
    (hStart : scan.startTime.nanoseconds = referenceStart config stampNs minimumTimeNs)
    (hEnd : checkedAdd scan.startTime (maximumRelativeTimeNs scan.points) = .ok scan.endTime) :
    Interval config stampNs points scan := by
  obtain ⟨hBehind, hPoints⟩ := relativePoints_ok hRelative
  have hSum := checkedAdd_ok hEnd
  obtain ⟨hMember, -⟩ := minimumTime_some hMinimum
  rw [← hStart] at hBehind hPoints
  refine ⟨?_, ?_, ?_, ?_⟩
  · unfold LidarScan.measured
    rw [hPoints, map_map]
    refine map_congr_left fun p hp => ?_
    have := hBehind p hp
    dsimp only [Function.comp, TimedPoint.measured]
    rw [Int.toNat_of_nonneg (by omega), add_sub_cancel]
  · intro hFirst
    rw [hStart, referenceStart, if_pos hFirst]
    exact hMember
  · intro hStamped
    rw [hStart, referenceStart, if_neg hStamped]
  · intro p hp
    refine ⟨hBehind p hp, ?_⟩
    have hMem : ({ p.point with
        relativeTimeNs := (p.absoluteTimeNs - scan.startTime.nanoseconds).toNat } : LidarPoint D) ∈
          scan.points := by
      rw [hPoints]
      exact mem_map_of_mem hp
    have := le_maximumRelativeTimeNs hMem
    dsimp only at this
    omega

end

/-- What is said of a scan: it lies behind the scan emitted before, its points lie in it at the
times at which they were measured, and they are those of the input behind that scan. -/
structure EmissionLaw (previousEnd : Option Int) (inputs : List (MeasuredPoint D))
    (scan : LidarScan D) : Prop where
  ordered : ∀ previousEndNs ∈ previousEnd, previousEndNs < scan.startTime.nanoseconds
  within : ∀ p ∈ scan.measured, scan.startTime.nanoseconds ≤ p.timeNs ∧
    p.timeNs ≤ scan.endTime.nanoseconds
  selected : scan.measured =
    inputs.filter fun p => previousEnd.all fun previousEndNs => previousEndNs < p.timeNs

/-- The inputs whose scan lies behind the one emitted before: with a scan that starts at its first
point, no point lies exactly at the end of that scan unless another one is cut off; with a scan that
starts at a stamp, the stamp is later. -/
def Separable (config : PointTimeConfig) (previousEnd : Option Int) (stampNs : Int)
    (inputs : List (MeasuredPoint D)) : Prop :=
  ∀ previousEndNs ∈ previousEnd,
    if config.scanReference = .minimumPointTime then
      (∀ p ∈ inputs, previousEndNs < p.timeNs) ∨ Overlapping previousEndNs inputs
    else previousEndNs < stampNs

/-- What both adapters do with the points of a message. -/
structure Emission (config : PointTimeConfig) (previousEndNs stampNs : Int)
    (inputs : List (MeasuredPoint D)) (scan : LidarScan D) : Prop where
  kept : Overlapping previousEndNs inputs ∧ scan.measured = trimmed previousEndNs inputs ∨
    ¬Overlapping previousEndNs inputs ∧ scan.measured = inputs
  first : config.scanReference = .minimumPointTime →
    ∃ p ∈ scan.measured, p.timeNs = scan.startTime.nanoseconds
  stamped : config.scanReference ≠ .minimumPointTime → scan.startTime.nanoseconds = stampNs
  within : ∀ p ∈ scan.measured, scan.startTime.nanoseconds ≤ p.timeNs ∧
    p.timeNs ≤ scan.endTime.nanoseconds

theorem Interval.emission {config : PointTimeConfig} {previousEndNs stampNs : Int}
    {kept : List (TimedPoint D)} {scan : LidarScan D}
    (hInterval : Interval config stampNs kept scan)
    (hKept : Overlapping previousEndNs (points.map TimedPoint.measured) ∧
        kept.map TimedPoint.measured = trimmed previousEndNs (points.map TimedPoint.measured) ∨
      ¬Overlapping previousEndNs (points.map TimedPoint.measured) ∧ kept = points) :
    Emission config previousEndNs stampNs (points.map TimedPoint.measured) scan := by
  refine ⟨?_, ?_, hInterval.stamped, ?_⟩
  · rw [hInterval.holds]
    rcases hKept with hCut | ⟨hWhole, rfl⟩
    · exact .inl hCut
    · exact .inr ⟨hWhole, rfl⟩
  · intro hFirst
    obtain ⟨p, hp, hTime⟩ := hInterval.first hFirst
    rw [hInterval.holds]
    exact ⟨_, mem_map_of_mem hp, hTime⟩
  · intro q hq
    rw [hInterval.holds] at hq
    obtain ⟨p, hp, rfl⟩ := mem_map.mp hq
    exact hInterval.spans p hp

namespace Emission
variable {config : PointTimeConfig} {previousEndNs stampNs : Int} {inputs : List (MeasuredPoint D)}
  {scan : LidarScan D}

theorem law_of_first (h : Emission config (-1) stampNs inputs scan) :
    EmissionLaw none inputs scan := by
  refine ⟨by simp, h.within, ?_⟩
  rcases h.kept with ⟨hCut, -⟩ | ⟨-, hWhole⟩
  · exact absurd hCut.1 (by decide)
  · rw [hWhole]
    simp

variable (h : Emission config previousEndNs stampNs inputs scan)
include h

theorem law_of_behind (hBehind : previousEndNs < scan.startTime.nanoseconds) :
    EmissionLaw (some previousEndNs) inputs scan := by
  refine ⟨by simpa using hBehind, h.within, ?_⟩
  rcases h.kept with ⟨-, hCut⟩ | ⟨-, hWhole⟩
  · rw [hCut]
    rfl
  · rw [hWhole]
    refine (filter_eq_self.mpr fun p hp => ?_).symm
    have := (h.within p (by rwa [hWhole])).1
    simp only [Option.all_some, decide_eq_true_eq]
    omega

theorem law_iff : EmissionLaw (some previousEndNs) inputs scan ↔
      Separable config (some previousEndNs) stampNs inputs := by
  unfold Separable
  simp only [Option.mem_some_iff, forall_eq']
  by_cases hReference : config.scanReference = .minimumPointTime
  · rw [if_pos hReference]
    obtain ⟨p, hp, hTime⟩ := h.first hReference
    constructor
    · intro hLaw
      rcases h.kept with ⟨hOverlap, -⟩ | ⟨-, hWhole⟩
      · exact .inr hOverlap
      · refine .inl fun q hq => ?_
        have := (h.within q (by rwa [hWhole])).1
        have := hLaw.ordered _ rfl
        omega
    · intro hSeparable
      refine h.law_of_behind ?_
      rw [← hTime]
      rcases h.kept with ⟨-, hCut⟩ | ⟨hApart, hWhole⟩
      · rw [hCut] at hp
        exact of_decide_eq_true (mem_filter.mp hp).2
      · rw [hWhole] at hp
        exact (hSeparable.resolve_right hApart) p hp
  · rw [if_neg hReference, ← h.stamped hReference]
    exact ⟨fun hLaw => hLaw.ordered _ rfl, h.law_of_behind⟩

end Emission

end Shared

/-! ## Runs of an adapter -/

section Ingress
variable {D M : Type} (step : IngressState → M → IngressState × Except String (LidarScan D))
  (config : PointTimeConfig) (stampNs : M → Int) (inputs : M → List (MeasuredPoint D))

abbrev IngressEvent (D M : Type) := Event IngressState M (Except String (LidarScan D))

def lastEmittedEnd (events : List (IngressEvent D M)) : Option Int :=
  (events.filterMap fun e => e.result.toOption).getLast?.map fun scan => scan.endTime.nanoseconds

/-- Every emitted scan obeys its law, and what is rejected is as if it had never arrived. -/
structure IngressLaw (events : List (IngressEvent D M)) : Prop where
  emitted : ∀ earlier e later scan, events = earlier ++ e :: later → e.result = .ok scan →
    EmissionLaw (lastEmittedEnd earlier) (inputs e.op) scan
  rejected : ∀ e ∈ events, ∀ text, e.result = .error text → e.after.SameOrdering e.before ∧
      ∀ ops, (Runs.events step e.after ops).map Event.result =
        (Runs.events step e.before ops).map Event.result

/-- What a message does to the ordering, in both adapters. -/
structure OrderedIngress : Prop where
  emits : ∀ state message scan, (step state message).2 = .ok scan →
    Emission config state.previousEmittedEndNs (stampNs message) (inputs message) scan ∧
      (step state message).1.previousEmittedEndNs = scan.endTime.nanoseconds
  rejects : ∀ state message text, (step state message).2 = .error text →
    (step state message).1.SameOrdering state
  respects : ∀ s t message, s.SameOrdering t → (step s message).2 = (step t message).2 ∧
      (step s message).1.SameOrdering (step t message).1

variable {step} {config} {stampNs} {inputs}

section
variable {events : List (IngressEvent D M)} {e : IngressEvent D M}

theorem lastEmittedEnd_emitted {scan : LidarScan D} (h : e.result = .ok scan) :
    lastEmittedEnd (events ++ [e]) = some scan.endTime.nanoseconds := by
  unfold lastEmittedEnd
  rw [filterMap_append, filterMap_cons_some (by rw [h]; rfl), filterMap_nil, List.getLast?_concat]
  rfl

theorem lastEmittedEnd_rejected {text : String} (h : e.result = .error text) :
    lastEmittedEnd (events ++ [e]) = lastEmittedEnd events := by
  unfold lastEmittedEnd
  rw [filterMap_append, filterMap_cons_none (by rw [h]; rfl), filterMap_nil, append_nil]

end

namespace OrderedIngress

section
variable (h : OrderedIngress step config stampNs inputs)
include h

theorem previousEmittedEnd (messages : List M) : (run step {} messages).previousEmittedEndNs =
      (lastEmittedEnd (events step {} messages)).getD (-1) := by
  induction messages using List.reverseRecOn with
  | nil => rfl
  | append_singleton messages message ih =>
    rw [run_concat, events_concat]
    cases hResult : (step (run step {} messages) message).2 with
    | error text =>
      rw [@lastEmittedEnd_rejected _ _ _ _ text hResult, ← ih]
      exact (h.rejects _ _ _ hResult).2
    | ok scan =>
      rw [lastEmittedEnd_emitted hResult]
      exact (h.emits _ _ _ hResult).2

theorem results_eq {s t : IngressState} (hSame : s.SameOrdering t) (messages : List M) :
    (events step s messages).map Event.result = (events step t messages).map Event.result := by
  induction messages generalizing s t with
  | nil => rfl
  | cons message messages ih =>
    obtain ⟨hResult, hAfter⟩ := h.respects s t message hSame
    rw [events_cons, events_cons, map_cons, map_cons, ih hAfter]
    exact congrArg (· :: _) hResult

theorem rejected {messages : List M} {e : IngressEvent D M} (he : e ∈ events step {} messages)
    {text : String} (hText : e.result = .error text) :
    e.after.SameOrdering e.before ∧ ∀ ops, (events step e.after ops).map Event.result =
        (events step e.before ops).map Event.result := by
  obtain ⟨before, message, after, -, rfl⟩ := exists_split_of_mem_events he
  have hSame := h.rejects _ _ _ hText
  exact ⟨hSame, h.results_eq hSame⟩

theorem emitted_iff {messages : List M}
    {earlier later : List (IngressEvent D M)} {e : IngressEvent D M} {scan : LidarScan D}
    (hSplit : events step {} messages = earlier ++ e :: later) (hScan : e.result = .ok scan) :
    EmissionLaw (lastEmittedEnd earlier) (inputs e.op) scan ↔
      Separable config (lastEmittedEnd earlier) (stampNs e.op) (inputs e.op) := by
  obtain ⟨before, rest, rfl, rfl, hRest⟩ := exists_split_of_events hSplit
  cases rest with
  | nil => cases hRest
  | cons message after =>
    obtain ⟨rfl, -⟩ := List.cons.inj hRest
    have hEmission := (h.emits _ _ _ hScan).1
    rw [h.previousEmittedEnd before] at hEmission
    cases hLast : lastEmittedEnd (events step {} before) with
    | none =>
      rw [hLast] at hEmission
      exact iff_of_true hEmission.law_of_first (by simp [Separable])
    | some previousEndNs =>
      rw [hLast] at hEmission
      exact hEmission.law_iff

theorem law_iff (messages : List M) : IngressLaw step inputs (events step {} messages) ↔
      ∀ earlier e later scan, events step {} messages = earlier ++ e :: later →
        e.result = .ok scan →
        Separable config (lastEmittedEnd earlier) (stampNs e.op) (inputs e.op) := by
  constructor
  · intro hLaw earlier e later scan hSplit hScan
    exact (h.emitted_iff hSplit hScan).mp (hLaw.emitted _ _ _ _ hSplit hScan)
  · intro hSeparable
    refine ⟨fun earlier e later scan hSplit hScan => ?_, fun e he text hText => h.rejected he hText⟩
    exact (h.emitted_iff hSplit hScan).mpr (hSeparable _ _ _ _ hSplit hScan)

end

end OrderedIngress

end Ingress

/-! ## The order of emitted scans -/

open FloatOps Runs

section Shared
variable {D : Type}

theorem trimOverlap_respects (config : PointTimeConfig) (limitMessage fewMessage : String)
    {s t : IngressState} (hSame : s.SameOrdering t) (points : List (TimedPoint D)) :
    (trimOverlap config limitMessage fewMessage s points).2 =
        (trimOverlap config limitMessage fewMessage t points).2 ∧
      (trimOverlap config limitMessage fewMessage s points).1.SameOrdering
        (trimOverlap config limitMessage fewMessage t points).1 := by
  have hS := trimOverlap_ordering config limitMessage fewMessage s points
  have hT := trimOverlap_ordering config limitMessage fewMessage t points
  refine ⟨?_, hS.1.trans (hSame.1.trans hT.1.symm), hS.2.trans (hSame.2.trans hT.2.symm)⟩
  unfold trimOverlap
  rw [hSame.2]
  split
  · rfl
  split
  · rfl
  dsimp only
  split
  · rfl
  split
  · split <;> rfl
  · rfl

theorem trimOverlap_nonempty {config : PointTimeConfig} {limitMessage fewMessage : String}
    {state after : IngressState} {points kept : List (TimedPoint D)}
    (h : trimOverlap config limitMessage fewMessage state points = (after, .ok kept))
    (hPoints : points ≠ []) : kept ≠ [] := by
  revert h
  fun_cases trimOverlap
  all_goals intro h
  · obtain rfl := Except.ok.inj (Prod.mk.inj h).2
    exact hPoints
  · obtain rfl := Except.ok.inj (Prod.mk.inj h).2
    exact hPoints
  · cases (Prod.mk.inj h).2
  · cases (Prod.mk.inj h).2
  · rename_i hEnough
    obtain rfl := Except.ok.inj (Prod.mk.inj h).2
    rintro hEmpty
    rw [hEmpty] at hEnough
    exact hEnough config.minimumPointsPositive
  · obtain rfl := Except.ok.inj (Prod.mk.inj h).2
    exact hPoints

theorem rosTimeToNanoseconds_range {sec : Int} {nanosec : Nat} {nanoseconds : Int}
    (h : rosTimeToNanoseconds sec nanosec = some nanoseconds) :
    minInt64 ≤ nanoseconds ∧ nanoseconds ≤ maxInt64 := by
  unfold rosTimeToNanoseconds at h
  dsimp only at h
  split at h
  · cases h
  split at h
  · cases h
  rename_i hRange
  obtain rfl := Option.some.inj h
  simp only [Bool.or_eq_true, decide_eq_true_eq, not_or, not_lt] at hRange
  exact hRange

end Shared

/-! ## Livox messages -/

namespace RosLivoxCustomAdapter
variable {D : Type} [FloatOps D]

def inputs (message : CustomMsg D) : List (MeasuredPoint D) :=
  (message.points.filter fun p => (position p).allFinite).map fun p =>
    ⟨position p, p.reflectivity, p.tag, p.line, (message.timebase : Int) + (p.offsetTime : Int)⟩

variable {a : RosLivoxCustomAdapter} {state : IngressState}

theorem readPoints_ok {timebase : Timestamp} {points : List (CustomPoint D)}
    {timed : List (TimedPoint D)} (h : readPoints timebase points = .ok timed) :
    Representable timed ∧ timed.map TimedPoint.measured =
        (points.filter fun p => (position p).allFinite).map fun p =>
          ⟨position p, p.reflectivity, p.tag, p.line, timebase.nanoseconds + (p.offsetTime : Int)⟩ := by
  induction points generalizing timed with
  | nil =>
    cases h
    exact ⟨by simp [Representable], rfl⟩
  | cons p rest ih =>
    unfold readPoints at h
    split at h
    · cases h
    rename_i hFinite
    split at h
    · cases h
    rename_i time hTime
    split at h
    · cases h
    rename_i others hOthers
    obtain ⟨hRange, hRest⟩ := ih hOthers
    obtain rfl := Except.ok.inj h
    refine ⟨List.forall_mem_cons.mpr ⟨⟨time.lower, time.upper⟩, hRange⟩, ?_⟩
    rw [List.filter_cons_of_pos (by simpa using hFinite), List.map_cons, List.map_cons, hRest,
      ← checkedAdd_ok hTime]
    rfl

section
variable {headerNs timebaseNs : Int} {points : List (TimedPoint D)}

theorem emit_ok {scan : LidarScan D}
    (h : (a.emit headerNs timebaseNs state points).2 = .ok scan) (hPoints : Representable points)
    (hLower : minInt64 ≤ timebaseNs) (hUpper : timebaseNs ≤ maxInt64) :
    Interval a.pointTime timebaseNs points scan ∧
      (a.emit headerNs timebaseNs state points).1.previousEmittedEndNs = scan.endTime.nanoseconds := by
  revert h
  unfold emit
  split
  · intro h
    cases h
  rename_i minimumTimeNs hMinimum
  dsimp only
  split
  · intro h
    cases h
  split
  · intro h
    cases h
  split
  · intro h
    cases h
  rename_i emitted hRelative
  split
  · intro h
    cases h
  rename_i endTime hEnd
  split
  · intro h
    cases h
  intro h
  obtain rfl := Except.ok.inj h
  refine ⟨interval_of_relative hMinimum hRelative ?_ hEnd, rfl⟩
  exact referenceStart_nanoseconds hMinimum hPoints hLower hUpper a.clockDomain

theorem emit_error {text : String} (h : (a.emit headerNs timebaseNs state points).2 = .error text) :
    (a.emit headerNs timebaseNs state points).1 = state := by
  revert h
  fun_cases emit
  case case7 =>
    intro h
    cases h
  all_goals exact fun _ => rfl

end

theorem emit_respects (a : RosLivoxCustomAdapter) (headerNs timebaseNs : Int) {s t : IngressState}
    (hSame : s.SameOrdering t) (points : List (TimedPoint D)) :
    (a.emit headerNs timebaseNs s points).2 = (a.emit headerNs timebaseNs t points).2 ∧
      (a.emit headerNs timebaseNs s points).1.SameOrdering
        (a.emit headerNs timebaseNs t points).1 := by
  unfold emit
  split
  · exact ⟨rfl, hSame⟩
  dsimp only
  split
  · exact ⟨rfl, hSame⟩
  split
  · exact ⟨rfl, hSame⟩
  split
  · exact ⟨rfl, hSame⟩
  split
  · exact ⟨rfl, hSame⟩
  split
  · exact ⟨rfl, hSame⟩
  · exact ⟨rfl, rfl, rfl⟩

omit [FloatOps D] in
theorem headerTime_ok {a : RosLivoxCustomAdapter} {state : IngressState} {message : CustomMsg D}
    {headerNs : Int} (h : a.headerTime state message = .ok headerNs) :
    (message.timebase : Int) ≤ maxInt64 := by
  unfold headerTime at h
  split at h
  · cases h
  rename_i hTimebase
  push Not at hTimebase
  exact hTimebase.2

theorem convert_ok {message : CustomMsg D} {scan : LidarScan D}
    (h : (a.convert state message).2 = .ok scan) :
    Emission a.pointTime state.previousEmittedEndNs message.timebase (inputs message) scan ∧
      (a.convert state message).1.previousEmittedEndNs = scan.endTime.nanoseconds := by
  revert h
  unfold convert
  split
  · intro h
    cases h
  dsimp only
  split
  · intro h
    cases h
  rename_i headerNs hHeader
  split
  · intro h
    cases h
  rename_i points hPoints
  split
  · intro h
    cases h
  rename_i after kept hTrim
  intro h
  have hUpper := headerTime_ok hHeader
  have hLower : minInt64 ≤ (message.timebase : Int) := minInt64_le_zero.trans (Int.natCast_nonneg _)
  obtain ⟨hRange, hInputs⟩ := readPoints_ok hPoints
  rw [stampAt_nanoseconds hLower hUpper] at hInputs
  obtain ⟨hSublist, hKept⟩ := trimOverlap_ok hTrim
  obtain ⟨hInterval, hEnd⟩ := emit_ok h (fun p hp => hRange p (hSublist.subset hp)) hLower hUpper
  refine ⟨?_, hEnd⟩
  have hEmission := hInterval.emission hKept
  rwa [hInputs] at hEmission

theorem convert_error {message : CustomMsg D} {text : String}
    (h : (a.convert state message).2 = .error text) :
    (a.convert state message).1.SameOrdering state := by
  revert h
  unfold convert
  split
  · exact fun _ => .refl _
  dsimp only
  split
  · exact fun _ => ⟨rfl, rfl⟩
  split
  · exact fun _ => ⟨rfl, rfl⟩
  rename_i points _
  have hOrdering := trimOverlap_ordering a.pointTime
    "Livox CustomMsg boundary overlap exceeds configured limit"
    "Livox CustomMsg overlap trim left too few points"
    (state.countInput message.points.length) points
  split
  · rename_i hTrim
    rw [hTrim] at hOrdering
    exact fun _ => hOrdering
  · rename_i hTrim
    rw [hTrim] at hOrdering
    intro h
    rw [emit_error h]
    exact hOrdering

theorem convert_respects (a : RosLivoxCustomAdapter) {s t : IngressState} (hSame : s.SameOrdering t)
    (message : CustomMsg D) :
    (a.convert s message).2 = (a.convert t message).2 ∧
      (a.convert s message).1.SameOrdering (a.convert t message).1 := by
  have hHeader : a.headerTime s message = a.headerTime t message := by
    unfold headerTime
    rw [hSame.1]
  unfold convert
  rw [hHeader]
  split
  · exact ⟨rfl, hSame⟩
  dsimp only
  split
  · exact ⟨rfl, hSame⟩
  split
  · exact ⟨rfl, hSame⟩
  rename_i points _
  have hCounted : (s.countInput message.points.length).SameOrdering
      (t.countInput message.points.length) := hSame
  obtain ⟨hResult, hTrimmed⟩ := trimOverlap_respects a.pointTime
    "Livox CustomMsg boundary overlap exceeds configured limit"
    "Livox CustomMsg overlap trim left too few points" hCounted points
  revert hResult hTrimmed
  generalize trimOverlap a.pointTime _ _ (s.countInput message.points.length) points = sTrim
  generalize trimOverlap a.pointTime _ _ (t.countInput message.points.length) points = tTrim
  rcases sTrim with ⟨sAfter, result⟩
  rcases tTrim with ⟨tAfter, other⟩
  rintro ⟨⟩ hTrimmed
  cases result with
  | error text => exact ⟨rfl, hTrimmed⟩
  | ok kept => exact a.emit_respects _ _ hTrimmed kept

theorem ordered (a : RosLivoxCustomAdapter) :
    OrderedIngress (D := D) a.convert a.pointTime (fun message => message.timebase) inputs :=
  ⟨fun _ _ _ h => convert_ok h, fun _ _ _ h => convert_error h,
    fun _ _ message h => a.convert_respects h message⟩

end RosLivoxCustomAdapter

/-! ## Point clouds -/

namespace RosLidarAdapter

section Points
variable {D : Type} [Floating D] [ScalarBytes D]

/-- The finite points of a cloud, row by row, at their absolute times. -/
def inputs (a : RosLidarAdapter) (message : PointCloud2) : List (MeasuredPoint D) :=
  match a.cloudFields message with
  | .error _ => []
  | .ok fields =>
    (((places message).filterMap fun place =>
      (a.readPoint message fields place.1 place.2).toOption).filter fun p =>
        p.point.positionLidarM.allFinite).map TimedPoint.measured

variable {message : PointCloud2} {a : RosLidarAdapter} {fields : CloudFields}

omit [ScalarBytes D] in
theorem toInt64_range (x : D) : minInt64 ≤ toInt64 x ∧ toInt64 x ≤ maxInt64 := by
  unfold toInt64
  split
  · assumption
  · exact ⟨le_rfl, by decide⟩

theorem readTime_range {position : Nat} {field : Option PointField} {time : Nat × Int}
    (h : a.readTime (D := D) message position field = .ok time) :
    minInt64 ≤ time.2 ∧ time.2 ≤ maxInt64 := by
  revert h
  fun_cases readTime
  all_goals intro h
  case case1 =>
    obtain rfl := Except.ok.inj h
    exact ⟨minInt64_le_zero, zero_le_maxInt64⟩
  case case3 =>
    obtain rfl := Except.ok.inj h
    exact ⟨minInt64_le_zero, zero_le_maxInt64⟩
  case case6 =>
    obtain rfl := Except.ok.inj h
    exact toInt64_range _
  all_goals cases h

theorem readPoint_range {row column : Nat} {p : TimedPoint D}
    (h : a.readPoint message fields row column = .ok p) :
    minInt64 ≤ p.absoluteTimeNs ∧ p.absoluteTimeNs ≤ maxInt64 := by
  unfold readPoint at h
  split at h
  · cases h
  split at h
  · cases h
  dsimp only [bind, Except.bind, pure, Except.pure] at h
  split at h
  · cases h
  split at h
  · cases h
  split at h
  · cases h
  split at h
  · cases h
  rename_i time hTime
  obtain rfl := Except.ok.inj h
  exact readTime_range hTime

theorem readPoints_ok {remaining : List (Nat × Nat)} {points : List (TimedPoint D)}
    (h : a.readPoints message fields remaining = .ok points) : Representable points ∧
      points = (remaining.filterMap fun place =>
        (a.readPoint message fields place.1 place.2).toOption).filter fun p =>
          p.point.positionLidarM.allFinite := by
  induction remaining generalizing points with
  | nil =>
    cases h
    exact ⟨by simp [Representable], rfl⟩
  | cons place rest ih =>
    unfold readPoints at h
    split at h
    · cases h
    rename_i p hPoint
    split at h
    · cases h
    rename_i others hOthers
    obtain ⟨hRange, hRest⟩ := ih hOthers
    obtain rfl := Except.ok.inj h
    rw [List.filterMap_cons_some (by rw [hPoint]; rfl), List.filter_cons, ← hRest]
    refine ⟨?_, rfl⟩
    split
    · exact List.forall_mem_cons.mpr ⟨readPoint_range hPoint, hRange⟩
    · exact hRange

theorem layout_ok (h : a.layout message = .ok fields) : a.cloudFields message = .ok fields := by
  revert h
  fun_cases layout
  all_goals intro h
  case case6 hFields _ _ =>
    obtain rfl := Except.ok.inj h
    exact hFields
  all_goals cases h

end Points

section Emission
variable {D : Type} {points : List (TimedPoint D)} {a : RosLidarAdapter} {headerNs : Int}
  {emitted : List (LidarPoint D)}

theorem stampedPoints_ok (hAbsolute : a.absolute = true) (hPoints : points ≠ [])
    {scanStartNs : Int} (h : a.stampedPoints headerNs points = .ok (scanStartNs, emitted)) :
    ∃ minimumTimeNs, minimumTime points = some minimumTimeNs ∧
      scanStartNs = referenceStart a.pointTime headerNs minimumTimeNs ∧
      relativePoints a.pointTime "point relative timestamp overflows int64"
        "point relative timestamp is invalid" scanStartNs points = .ok emitted := by
  unfold stampedPoints at h
  split at h
  · rename_i hRelative
    rw [hAbsolute] at hRelative
    cases hRelative
  split at h
  · rename_i hNone
    exact absurd (minimumTime_none.mp hNone) hPoints
  rename_i minimumTimeNs hMinimum
  dsimp only at h
  split at h
  · cases h
  split at h
  · cases h
  rename_i others hOthers
  obtain ⟨rfl, rfl⟩ := Prod.mk.inj (Except.ok.inj h)
  exact ⟨minimumTimeNs, hMinimum, rfl, hOthers⟩

theorem scanEnd_ok (hAbsolute : a.absolute = true) (hPoints : points ≠ [])
    (hRange : Representable points) (hLower : minInt64 ≤ headerNs) (hUpper : headerNs ≤ maxInt64)
    {scanStartNs : Int} (h : a.stampedPoints headerNs points = .ok (scanStartNs, emitted)) :
    ∃ endTime, checkedAdd (stampAt scanStartNs a.clockDomain) (maximumRelativeTimeNs emitted) =
      .ok endTime := by
  obtain ⟨minimumTimeNs, hMinimum, rfl, hRelative⟩ := stampedPoints_ok hAbsolute hPoints h
  have hStart : (stampAt (referenceStart a.pointTime headerNs minimumTimeNs) a.clockDomain).nanoseconds =
      referenceStart a.pointTime headerNs minimumTimeNs :=
    referenceStart_nanoseconds hMinimum hRange hLower hUpper a.clockDomain
  have hStampLower := (stampAt (referenceStart a.pointTime headerNs minimumTimeNs) a.clockDomain).lower
  have hStampUpper := (stampAt (referenceStart a.pointTime headerNs minimumTimeNs) a.clockDomain).upper
  rw [hStart] at hStampLower hStampUpper
  have hEnd := scanEnd_le hRelative hStampUpper hRange
  refine ⟨_, dif_pos ?_⟩
  rw [hStart]
  exact ⟨by omega, hEnd⟩

section
variable (hAbsolute : a.absolute = true) {state : IngressState} (hPoints : points ≠ [])
  (hRange : Representable points) (hLower : minInt64 ≤ headerNs) (hUpper : headerNs ≤ maxInt64)
include hAbsolute hPoints hRange hLower hUpper

theorem emit_ok {scan : LidarScan D} (h : (a.emit headerNs state points).2 = .ok scan) :
    Interval a.pointTime headerNs points scan ∧
      (a.emit headerNs state points).1.previousEmittedEndNs = scan.endTime.nanoseconds := by
  revert h
  unfold emit
  split
  · intro h
    cases h
  rename_i scanStartNs emitted hStamped
  obtain ⟨minimumTimeNs, hMinimum, rfl, hRelative⟩ := stampedPoints_ok hAbsolute hPoints hStamped
  split
  · intro h
    cases h
  split
  · intro h
    cases h
  dsimp only
  split
  · intro h
    cases h
  rename_i endTime hEnd
  intro h
  obtain rfl := Except.ok.inj h
  refine ⟨interval_of_relative hMinimum hRelative ?_ hEnd, rfl⟩
  exact referenceStart_nanoseconds hMinimum hRange hLower hUpper a.clockDomain

theorem emit_error {text : String} (h : (a.emit headerNs state points).2 = .error text) :
    (a.emit headerNs state points).1 = state := by
  revert h
  unfold emit
  split
  · exact fun _ => rfl
  rename_i scanStartNs emitted hStamped
  split
  · exact fun _ => rfl
  split
  · exact fun _ => rfl
  obtain ⟨endTime, hEnd⟩ := scanEnd_ok hAbsolute hPoints hRange hLower hUpper hStamped
  dsimp only
  rw [hEnd]
  intro h
  cases h

end

theorem emit_respects (a : RosLidarAdapter) (headerNs : Int) {s t : IngressState}
    (hSame : s.SameOrdering t) (points : List (TimedPoint D)) :
    (a.emit headerNs s points).2 = (a.emit headerNs t points).2 ∧
      (a.emit headerNs s points).1.SameOrdering (a.emit headerNs t points).1 := by
  unfold emit
  rw [hSame.1]
  split
  · exact ⟨rfl, hSame⟩
  split
  · exact ⟨rfl, hSame⟩
  split
  · exact ⟨rfl, hSame⟩
  dsimp only
  split
  · exact ⟨rfl, rfl, hSame.2⟩
  · exact ⟨rfl, rfl, rfl⟩

end Emission

section Convert
variable {D : Type} [Floating D] [ScalarBytes D] {a : RosLidarAdapter}

variable (hAbsolute : a.absolute = true) {state : IngressState}
include hAbsolute

theorem convert_ok {message : PointCloud2}
    {scan : LidarScan D} (h : (a.convert state message).2 = .ok scan) :
    Emission a.pointTime state.previousEmittedEndNs message.stamp.nanoseconds (a.inputs message)
        scan ∧
      (a.convert (D := D) state message).1.previousEmittedEndNs = scan.endTime.nanoseconds := by
  revert h
  unfold convert
  split
  · intro h
    cases h
  rename_i fields hLayout
  dsimp only
  split
  · intro h
    cases h
  rename_i headerNs hHeader
  obtain ⟨hLower, hUpper⟩ := rosTimeToNanoseconds_range hHeader
  have hStamp : message.stamp.nanoseconds = headerNs := by
    unfold NavigationMode.Stamp.nanoseconds
    rw [hHeader]
    rfl
  split
  · intro h
    cases h
  rename_i points hRead
  obtain ⟨hRange, hPoints⟩ := readPoints_ok hRead
  have hInputs : a.inputs message = points.map TimedPoint.measured := by
    unfold inputs
    rw [layout_ok hLayout, hPoints]
  split
  · intro h
    cases h
  rename_i hSome
  split
  · intro h
    cases h
  rename_i after kept hTrim
  intro h
  have hNonempty : points ≠ [] := fun hEmpty => hSome (by rw [hEmpty]; rfl)
  obtain ⟨hSublist, hKept⟩ := trimOverlap_ok hTrim
  obtain ⟨hInterval, hEnd⟩ := emit_ok hAbsolute (trimOverlap_nonempty hTrim hNonempty)
    (fun p hp => hRange p (hSublist.subset hp)) hLower hUpper h
  rw [hStamp, hInputs]
  exact ⟨hInterval.emission hKept, hEnd⟩

theorem convert_error {message : PointCloud2}
    {text : String} (h : (a.convert (D := D) state message).2 = .error text) :
    (a.convert (D := D) state message).1.SameOrdering state := by
  revert h
  unfold convert
  split
  · exact fun _ => .refl _
  dsimp only
  split
  · exact fun _ => ⟨rfl, rfl⟩
  rename_i headerNs hHeader
  obtain ⟨hLower, hUpper⟩ := rosTimeToNanoseconds_range hHeader
  split
  · exact fun _ => ⟨rfl, rfl⟩
  rename_i points hRead
  split
  · exact fun _ => ⟨rfl, rfl⟩
  rename_i hSome
  have hOrdering := trimOverlap_ordering a.pointTime
    "PointCloud2 boundary overlap exceeds configured limit"
    "PointCloud2 overlap trim left too few points"
    (state.countInput (message.width * message.height)) points
  split
  · rename_i hTrim
    rw [hTrim] at hOrdering
    exact fun _ => hOrdering
  · rename_i after kept hTrim
    rw [hTrim] at hOrdering
    have hNonempty : points ≠ [] := fun hEmpty => hSome (by rw [hEmpty]; rfl)
    obtain ⟨hSublist, -⟩ := trimOverlap_ok hTrim
    intro h
    rw [emit_error hAbsolute (trimOverlap_nonempty hTrim hNonempty)
      (fun p hp => (readPoints_ok hRead).1 p (hSublist.subset hp)) hLower hUpper h]
    exact hOrdering

theorem convert_respects {s t : IngressState} (hSame : s.SameOrdering t) (message : PointCloud2) :
    (a.convert (D := D) s message).2 = (a.convert (D := D) t message).2 ∧
      (a.convert (D := D) s message).1.SameOrdering (a.convert (D := D) t message).1 := by
  unfold convert
  split
  · exact ⟨rfl, hSame⟩
  dsimp only
  split
  · exact ⟨rfl, hSame⟩
  split
  · exact ⟨rfl, hSame⟩
  rename_i points _
  split
  · exact ⟨rfl, hSame⟩
  have hCounted : (s.countInput (message.width * message.height)).SameOrdering
      (t.countInput (message.width * message.height)) := hSame
  obtain ⟨hResult, hTrimmed⟩ := trimOverlap_respects a.pointTime
    "PointCloud2 boundary overlap exceeds configured limit"
    "PointCloud2 overlap trim left too few points" hCounted points
  revert hResult hTrimmed
  generalize trimOverlap a.pointTime _ _ (s.countInput (message.width * message.height)) points = sTrim
  generalize trimOverlap a.pointTime _ _ (t.countInput (message.width * message.height)) points = tTrim
  rcases sTrim with ⟨sAfter, result⟩
  rcases tTrim with ⟨tAfter, other⟩
  rintro ⟨⟩ hTrimmed
  cases result with
  | error text => exact ⟨rfl, hTrimmed⟩
  | ok kept =>
    have hEmitted : (sAfter.countEmitted kept.length).SameOrdering
        (tAfter.countEmitted kept.length) := hTrimmed
    exact a.emit_respects _ hEmitted kept

theorem ordered :
    OrderedIngress (D := D) a.convert a.pointTime (fun message => message.stamp.nanoseconds)
      a.inputs :=
  ⟨fun _ _ _ h => convert_ok hAbsolute h, fun _ _ _ h => convert_error hAbsolute h,
    fun _ _ message h => convert_respects hAbsolute h message⟩

end Convert

end RosLidarAdapter

/-- The scans of a run are apart, whole and at their own times exactly when each message that is
accepted is separable from the scan before it. -/
theorem separated_intervals {D : Type} [Floating D] [ScalarBytes D] :
    (∀ (a : RosLivoxCustomAdapter) (messages : List (CustomMsg D)),
      IngressLaw a.convert RosLivoxCustomAdapter.inputs (events a.convert {} messages) ↔
        ∀ earlier e later scan, events a.convert {} messages = earlier ++ e :: later →
          e.result = .ok scan →
          Separable a.pointTime (lastEmittedEnd earlier) e.op.timebase
            (RosLivoxCustomAdapter.inputs e.op)) ∧
      ∀ (a : RosLidarAdapter), a.absolute = true → ∀ messages : List PointCloud2,
        IngressLaw (D := D) a.convert a.inputs (events a.convert {} messages) ↔
          ∀ earlier e later scan, events (a.convert (D := D)) {} messages = earlier ++ e :: later →
            e.result = .ok scan →
            Separable a.pointTime (lastEmittedEnd earlier) e.op.stamp.nanoseconds
              (a.inputs (D := D) e.op) :=
  ⟨fun a messages => a.ordered.law_iff messages,
    fun _ hAbsolute messages => (RosLidarAdapter.ordered hAbsolute).law_iff messages⟩

/-- Scans start at the stamps of their messages, and a little overlap is cut off. -/
def stampedAdapter : RosLivoxCustomAdapter where
  expectedFrame := "livox"
  clockDomain := .rosTime
  pointTime := {
    maximumBoundaryOverlapNs := 100
    durationPositive := (by decide : (200000000 : Int) > 0)
    minimumPointsPositive := Nat.one_pos }

def messageAt (nanosec lastOffset : Nat) : CustomMsg (ExactReal ℚ) where
  frameId := "livox"
  stamp := ⟨2, nanosec⟩
  timebase := 2000000000 + nanosec
  pointNum := 2
  points := [{ offsetTime := 0, x := ofInt 1, y := ofInt 0, z := ofInt 0 },
    { offsetTime := lastOffset, x := ofInt 1, y := ofInt 0, z := ofInt 0 }]

theorem stamped_results :
    (lastEmittedEnd (events stampedAdapter.convert {} [messageAt 0 500])).map (fun previousEndNs =>
        (previousEndNs, (stampedAdapter.convert (run stampedAdapter.convert {} [messageAt 0 500])
          (messageAt 400 200)).2.map fun scan => scan.startTime.nanoseconds)) =
      some (2000000500, .ok 2000000400) := by
  decide +kernel

/-- The second scan starts at its stamp, before the end of the first. -/
theorem stamped_scan_overlaps : ¬IngressLaw stampedAdapter.convert RosLivoxCustomAdapter.inputs
      (events stampedAdapter.convert {} [messageAt 0 500, messageAt 400 200]) := by
  intro hLaw
  obtain ⟨previousEndNs, hPrevious, hTimes⟩ := Option.map_eq_some_iff.mp stamped_results
  obtain ⟨rfl, hStart⟩ := Prod.mk.inj hTimes
  cases hResult : (stampedAdapter.convert (run stampedAdapter.convert {} [messageAt 0 500])
    (messageAt 400 200)).2 with
  | error text =>
    rw [hResult] at hStart
    cases hStart
  | ok scan =>
    rw [hResult] at hStart
    have hSecond : (eventAt stampedAdapter.convert
        (run stampedAdapter.convert {} [messageAt 0 500]) (messageAt 400 200)).result = .ok scan :=
      hResult
    have hOrdered := (hLaw.emitted (events stampedAdapter.convert {} [messageAt 0 500]) _ [] scan
      rfl hSecond).ordered _ hPrevious
    have hTime : scan.startTime.nanoseconds = 2000000400 := Except.ok.inj hStart
    omega

end UavNavigation.FastLio
