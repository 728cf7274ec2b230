import UavNavigation.OrderedQueues
import UavNavigation.SensorSamples

/-!
# The measurement buffer and its synchronizer

Scans and IMU samples wait in two bounded queues. The synchronizer looks at the
front scan only: it hands the scan out with the samples that bracket it, reports
a discontinuity when the samples have too large a gap, refuses the scan, or
waits for more samples. It is the only reader that takes anything out. At the end
stands what a push and an answer of the synchronizer leave in the two queues.
-/

namespace UavNavigation.FastLio

open OrderedQueues

set_option autoImplicit false

variable {D : Type} [FloatOps D]

@[ext] structure MeasurementBufferConfig where
  maximumLidarScans : Nat := 32
  maximumImuSamples : Nat := 8192
  rejectTimestampRegression : Bool := true
  lidarPositive : 0 < maximumLidarScans := by decide
  imuPositive : 0 < maximumImuSamples := by decide

instance : DecidableEq MeasurementBufferConfig := fun _ _ => decidable_of_iff _ MeasurementBufferConfig.ext_iff.symm

def validatorConfig (config : MeasurementBufferConfig) : TimestampValidatorConfig where
  rejectRegression := config.rejectTimestampRegression
  allowEqualTimestamps := false

structure MeasurementBuffer (D : Type) where
  config : MeasurementBufferConfig
  lidarScans : List (LidarScan D) := []
  imuSamples : List (ImuSample D) := []
  lidarStartValidator : TimestampValidator := { config := validatorConfig config }
  lidarEndValidator : TimestampValidator := { config := validatorConfig config }
  imuValidator : TimestampValidator := { config := validatorConfig config }
deriving DecidableEq

def imuTime (sample : ImuSample D) : Int := sample.time.nanoseconds

def scanStart (scan : LidarScan D) : Int := scan.startTime.nanoseconds

namespace MeasurementBuffer

def storeLidar (b : MeasurementBuffer D) (scan : LidarScan D) : List (LidarScan D) :=
  match b.lidarScans.getLast? with
  | none => [scan]
  | some back =>
    if b.config.rejectTimestampRegression ∨ scanStart back < scanStart scan then
      b.lidarScans ++ [scan]
    else insertOrdered scanStart b.lidarScans scan

def pushLidar (b : MeasurementBuffer D) (scan : LidarScan D) :
    MeasurementBuffer D × Except Status Unit :=
  match scan.fault with
  | some status => (b, .error status)
  | none =>
    if b.config.maximumLidarScans ≤ b.lidarScans.length then
      (b, .error ⟨.bufferFull, "LiDAR scan buffer is full"⟩)
    else
      match b.lidarStartValidator.validate scan.startTime with
      | .error status => (b, .error status)
      | .ok startValidator =>
        match b.lidarEndValidator.validate scan.endTime with
        | .error status => (b, .error status)
        | .ok endValidator =>
          ({ b with
              lidarScans := b.storeLidar scan
              lidarStartValidator := startValidator
              lidarEndValidator := endValidator }, .ok ())

def storeImu (b : MeasurementBuffer D) (sample : ImuSample D) : List (ImuSample D) :=
  match b.imuSamples.getLast? with
  | none => [sample]
  | some back =>
    if b.config.rejectTimestampRegression ∨ imuTime back < imuTime sample then
      b.imuSamples ++ [sample]
    else insertOrdered imuTime b.imuSamples sample

def pushImu (b : MeasurementBuffer D) (sample : ImuSample D) :
    MeasurementBuffer D × Except Status Unit :=
  match sample.fault with
  | some status => (b, .error status)
  | none =>
    if b.config.maximumImuSamples ≤ b.imuSamples.length then
      (b, .error ⟨.bufferFull, "IMU sample buffer is full"⟩)
    else
      match b.imuValidator.validate sample.time with
      | .error status => (b, .error status)
      | .ok imuValidator =>
        ({ b with imuSamples := b.storeImu sample, imuValidator := imuValidator }, .ok ())

def clear (b : MeasurementBuffer D) : MeasurementBuffer D := { config := b.config }

end MeasurementBuffer

/-! ## The synchronizer -/

@[ext] structure MeasurementSynchronizerConfig where
  maximumImuGapNs : Int := 20000000
  positive : 0 < maximumImuGapNs := by decide

instance : DecidableEq MeasurementSynchronizerConfig :=
  fun _ _ => decidable_of_iff _ MeasurementSynchronizerConfig.ext_iff.symm

structure MeasurementGroup (D : Type) where
  scan : LidarScan D
  imuSamples : List (ImuSample D)
  propagationStartTime : Timestamp
  hasStartBracket : Bool := false
  hasEndBracket : Bool := false
  maxImuGapNs : Int := 0
deriving DecidableEq

def MeasurementGroup.fullyBracketed (g : MeasurementGroup D) : Bool :=
  g.hasStartBracket && g.hasEndBracket

inductive SynchronizationFailureKind where
  | none
  | imuDiscontinuity
deriving DecidableEq

structure PropagationDiscontinuity where
  failureKind : SynchronizationFailureKind := .imuDiscontinuity
  gapBegin : Timestamp
  gapEnd : Timestamp
  gapDurationNs : Int
  scanStart : Timestamp
  scanEnd : Timestamp
  resumeTime : Timestamp
deriving DecidableEq

inductive SynchronizationResult (D : Type) where
  | waiting
  | group (g : MeasurementGroup D)
  | discontinuity (d : PropagationDiscontinuity)
  /-- The front scan is permanently invalid and has been removed. -/
  | error (status : Status)
deriving DecidableEq

structure MeasurementSynchronizer where
  config : MeasurementSynchronizerConfig
  lastSynchronizedEndTime : Option Timestamp := none
  scanIndex : Nat := 0
deriving DecidableEq

structure ImuGap where
  durationNs : Int := 0
  previous : Timestamp := {}
  current : Timestamp := {}
deriving DecidableEq

/-- The largest gap between neighbours, the first one of several equal ones. -/
def largestGap (best : ImuGap) : List (ImuSample D) → Except Status ImuGap
  | previous :: current :: rest =>
    match checkedDifference current.time previous.time with
    | .error status => .error status
    | .ok gapNs =>
      let best := if best.durationNs < gapNs then ⟨gapNs, previous.time, current.time⟩ else best
      largestGap best (current :: rest)
  | _ => .ok best

namespace MeasurementSynchronizer

def overlapStatus (s : MeasurementSynchronizer) (epoch : Timestamp) (scan : LidarScan D)
    (overlapNs : Int) : Status :=
  ⟨.overlappingLidarInterval,
    "OVERLAPPING_LIDAR_INTERVAL previous_synchronized_end_ns=" ++ toString epoch.nanoseconds ++
      " current_scan_start_ns=" ++ toString scan.startTime.nanoseconds ++
      " current_scan_end_ns=" ++ toString scan.endTime.nanoseconds ++
      " overlap_duration_ns=" ++ toString overlapNs ++
      " scan_index=" ++ toString s.scanIndex⟩

/-- Why the front scan is refused before the samples around it are looked at. -/
def refusal (s : MeasurementSynchronizer) (front back : ImuSample D) (scan : LidarScan D) :
    Option (MeasurementSynchronizer × Status) :=
  match scan.fault with
  | some status => some (s, status)
  | none =>
    if !scan.startTime.sameClockDomain front.time || !scan.startTime.sameClockDomain back.time then
      some (s, ⟨.clockDomainMismatch, "LiDAR and IMU queues use different clock domains"⟩)
    else
      match s.lastSynchronizedEndTime with
      | none => none
      | some epoch =>
        if !epoch.sameClockDomain scan.startTime then
          some (s,
            ⟨.clockDomainMismatch, "Successive synchronized scans use different clock domains"⟩)
        else if scan.startTime.nanoseconds < epoch.nanoseconds then
          match checkedDifference epoch scan.startTime with
          | .error status => some (s, status)
          | .ok overlapNs =>
            some ({ s with scanIndex := s.scanIndex + 1 }, s.overlapStatus epoch scan overlapNs)
        else none

/-- The samples around the front scan, from the last one at or before the start of the
propagation (at `bracket`) to the first one at or after the end of the scan (at `stop`). -/
def settle (s : MeasurementSynchronizer) (b : MeasurementBuffer D) (scan : LidarScan D)
    (scans : List (LidarScan D)) (propagationStart : Timestamp) (hasStartBracket : Bool)
    (bracket stop : Nat) :
    (MeasurementSynchronizer × MeasurementBuffer D) × SynchronizationResult D :=
  let imu := b.imuSamples
  let samples := (imu.drop bracket).take (stop - bracket + 1)
  match largestGap {} samples with
  | .error status => ((s, { b with lidarScans := scans }), .error status)
  | .ok gap =>
    if s.config.maximumImuGapNs < gap.durationNs then
      let gapEnd := gap.current.inDomain scan.startTime.clockDomain
      let resume := lowerBound imuTime imu gap.current.nanoseconds
      (({ s with lastSynchronizedEndTime := some gapEnd, scanIndex := s.scanIndex + 1 },
        { b with lidarScans := scans, imuSamples := imu.drop resume }),
        .discontinuity
          { gapBegin := gap.previous.inDomain scan.startTime.clockDomain
            gapEnd := gapEnd
            gapDurationNs := gap.durationNs
            scanStart := scan.startTime
            scanEnd := scan.endTime
            resumeTime := gapEnd })
    else
      -- one sample on each side of the scan end stays for the next propagation
      (({ s with lastSynchronizedEndTime := some scan.endTime, scanIndex := s.scanIndex + 1 },
        { b with lidarScans := scans, imuSamples := imu.drop (stop - 1) }),
        .group
          { scan := scan
            imuSamples := samples
            propagationStartTime := propagationStart
            hasStartBracket := hasStartBracket
            hasEndBracket := imu[stop]?.any fun x => scan.endTime.nanoseconds ≤ imuTime x
            maxImuGapNs := gap.durationNs })

def synchronizeNext (s : MeasurementSynchronizer) (b : MeasurementBuffer D) :
    (MeasurementSynchronizer × MeasurementBuffer D) × SynchronizationResult D :=
  match b.lidarScans, b.imuSamples with
  | scan :: scans, front :: samples =>
    let imu := front :: samples
    match s.refusal front (imu.getLast?.getD front) scan with
    | some (s, status) => ((s, { b with lidarScans := scans }), .error status)
    | none =>
      let startAfter := upperBound imuTime imu scan.startTime.nanoseconds
      if startAfter = 0 then
        ((s, { b with lidarScans := scans }),
          .error ⟨.missingStartBracket, "No IMU sample at or before LiDAR scan start"⟩)
      else
        let propagationStart := s.lastSynchronizedEndTime.getD scan.startTime
        let propagationStartAfter := upperBound imuTime imu propagationStart.nanoseconds
        if propagationStartAfter = 0 then
          ((s, { b with lidarScans := scans }),
            .error ⟨.missingStartBracket, "No IMU sample at or before propagation start"⟩)
        else
          let bracket := propagationStartAfter - 1
          let stop := bracket + lowerBound imuTime (imu.drop bracket) scan.endTime.nanoseconds
          if stop = imu.length then ((s, b), .waiting)
          else
            s.settle b scan scans propagationStart
              (imu[startAfter - 1]?.any fun x => imuTime x ≤ scan.startTime.nanoseconds)
              bracket stop
  | _, _ => ((s, b), .waiting)

def reset (s : MeasurementSynchronizer) : MeasurementSynchronizer := { config := s.config }

end MeasurementSynchronizer

/-! ## The samples of one prediction -/

def sequenceFault (start : Timestamp) : Option Timestamp → List (ImuSample D) → Option Status :=
  orderFault ⟨.clockDomainMismatch, "Prediction IMU clock domain changed"⟩
    ⟨.timestampRegression, "Prediction IMU history is not strictly increasing"⟩ start

/-- The merge of `sample :: history` with a group, where `rest` merges `history`. -/
def mergeSample (sample : ImuSample D) (history : List (ImuSample D))
    (rest : List (ImuSample D) → List (ImuSample D)) : List (ImuSample D) → List (ImuSample D)
  | [] => sample :: history
  | other :: group =>
    if imuTime sample < imuTime other then sample :: rest (other :: group)
    else if imuTime other < imuTime sample then other :: mergeSample sample history rest group
    else
      -- the synchronized group is authoritative at duplicate epochs
      other :: rest group

def mergeHistory : List (ImuSample D) → List (ImuSample D) → List (ImuSample D)
  | [], group => group
  | sample :: history, group => mergeSample sample history (mergeHistory history) group

def gapFault (configuredGapNs : Int) : List (ImuSample D) → Option Status
  | previous :: current :: rest =>
    match checkedDifference current.time previous.time with
    | .error _ => some ⟨.outOfRange, "Prediction IMU timestamp gap overflows int64"⟩
    | .ok gapNs =>
      if gapNs ≤ 0 then
        some ⟨.timestampRegression, "Prediction IMU history timestamp regressed"⟩
      else if 0 < configuredGapNs ∧ configuredGapNs < gapNs then
        some ⟨.imuGap, "Prediction IMU bracket contains an excessive gap"⟩
      else gapFault configuredGapNs (current :: rest)
  | _ => none

def missingStart : Status :=
  ⟨.missingStartBracket, "Prediction IMU start bracket is missing"⟩

def missingEnd : Status := ⟨.missingEndBracket, "Prediction IMU end bracket is missing"⟩

/-- The piece of the samples around `[startNs, endNs]`. -/
def bracketSamples (configuredGapNs : Int) (samples : List (ImuSample D)) (startNs endNs : Int) :
    Except Status (List (ImuSample D)) :=
  let lower := lowerBound imuTime samples startNs
  let first :=
    if lower = samples.length ∨
        0 < lower ∧ (samples[lower]?).any (fun x => imuTime x ≠ startNs) = true then lower - 1
    else lower
  let upper := upperBound imuTime samples endNs
  let endIndex := if (samples[upper - 1]?).any (fun x => imuTime x < endNs) then upper else upper - 1
  let output := (samples.drop first).take (endIndex + 1 - first)
  if samples.isEmpty then .error ⟨.missingStartBracket, "Prediction IMU history is empty"⟩
  else if (samples[first]?).any (fun x => startNs < imuTime x) then .error missingStart
  else if upper = 0 then .error missingEnd
  else if samples.length ≤ endIndex then .error missingEnd
  else
    match gapFault configuredGapNs output with
    | some status => .error status
    | none =>
      if endIndex = first ∧ startNs ≠ endNs then .error missingEnd
      else if output.isEmpty then
        .error ⟨.insufficientData, "Prediction IMU bracket produced no samples"⟩
      else .ok output

def buildPredictionImuSamples (config : MeasurementSynchronizerConfig)
    (priorImuHistory : List (ImuSample D)) (group : MeasurementGroup D) (startTime endTime : Timestamp) :
    Except Status (List (ImuSample D)) :=
  if !startTime.sameClockDomain endTime then
    .error ⟨.clockDomainMismatch, "Prediction interval clock domain changed"⟩
  else if endTime.nanoseconds < startTime.nanoseconds then
    .error ⟨.timestampRegression, "Prediction interval end precedes start"⟩
  else
    let configuredGapNs := if 0 < group.maxImuGapNs then group.maxImuGapNs else config.maximumImuGapNs
    match sequenceFault startTime none group.imuSamples with
    | some status => .error status
    | none =>
      if startTime.nanoseconds = group.scan.startTime.nanoseconds then
        bracketSamples configuredGapNs group.imuSamples startTime.nanoseconds endTime.nanoseconds
      else
        match sequenceFault startTime none priorImuHistory with
        | some status => .error status
        | none =>
          bracketSamples configuredGapNs (mergeHistory priorImuHistory group.imuSamples)
            startTime.nanoseconds endTime.nanoseconds

/-- `kPriorImuHistoryDurationNs`. -/
def priorImuHistoryDurationNs : Int := 1000000000

/-- Drops samples from the front until the history spans at most one second. -/
def trimHistory (newest : ImuSample D) : List (ImuSample D) → List (ImuSample D)
  | front :: next :: rest =>
    match checkedDifference newest.time front.time with
    | .error _ => front :: next :: rest
    | .ok spanNs =>
      if spanNs ≤ priorImuHistoryDurationNs then front :: next :: rest
      else trimHistory newest (next :: rest)
  | history => history

def retainPriorImuSample (history : List (ImuSample D)) (sample : ImuSample D) :
    List (ImuSample D) :=
  match history.getLast? with
  | none => [sample]
  | some back =>
    if !sample.time.sameClockDomain back.time ∨ imuTime sample < imuTime back then history
    else if imuTime sample = imuTime back then history.dropLast ++ [sample]
    else trimHistory sample (history ++ [sample])

/-! ## What the synchronizer leaves in the queues -/

open OrderedQueues MeasurementBuffer List

structure SensorFeed (D : Type) where
  buffer : MeasurementBuffer D
  synchronizer : MeasurementSynchronizer
deriving DecidableEq

namespace SensorFeed

abbrev imu (f : SensorFeed D) : List (ImuSample D) := f.buffer.imuSamples

abbrev scans (f : SensorFeed D) : List (LidarScan D) := f.buffer.lidarScans

def epoch (f : SensorFeed D) : Option Timestamp := f.synchronizer.lastSynchronizedEndTime

def create (bufferConfig : MeasurementBufferConfig)
    (synchronizerConfig : MeasurementSynchronizerConfig) : SensorFeed D where
  buffer := { config := bufferConfig }
  synchronizer := { config := synchronizerConfig }

/-- What every run keeps true of the two queues and the epoch. -/
structure Sound (f : SensorFeed D) : Prop where
  validator : f.buffer.imuValidator.config = validatorConfig f.buffer.config
  ordered : Ordered imuTime f.imu
  valid : ∀ x ∈ f.imu, x.fault = none
  frontier : ∀ x ∈ f.imu, ∃ last ∈ f.buffer.imuValidator.lastTimestamp,
    x.time.clockDomain = last.clockDomain ∧ imuTime x ≤ last.nanoseconds
  scans : ∀ scan ∈ f.scans, scan.fault = none
  epoch : ∀ t ∈ f.epoch, ∃ x ∈ f.imu.head?, imuTime x ≤ t.nanoseconds

theorem create_sound (bufferConfig : MeasurementBufferConfig)
    (synchronizerConfig : MeasurementSynchronizerConfig) :
    Sound (create bufferConfig synchronizerConfig : SensorFeed D) where
  validator := rfl
  ordered := List.Pairwise.nil
  valid := by simp [imu, create]
  frontier := by simp [imu, create]
  scans := by simp [SensorFeed.scans, create]
  epoch := by simp [create, epoch]

variable {f g : SensorFeed D}

theorem Sound.domain (hf : Sound f) {x y : ImuSample D} (hx : x ∈ f.imu) (hy : y ∈ f.imu) :
    x.time.clockDomain = y.time.clockDomain := by
  obtain ⟨last, hLast, hDomain, -⟩ := hf.frontier x hx
  obtain ⟨last', hLast', hDomain', -⟩ := hf.frontier y hy
  rw [Option.mem_unique hLast hLast'] at hDomain
  rw [hDomain, hDomain']

end SensorFeed

/-! ## Pushing -/

theorem TimestampValidator.validate_ok {v w : TimestampValidator} {t : Timestamp}
    (h : v.validate t = .ok w) :
    w.config = v.config ∧ (∃ last ∈ w.lastTimestamp, last.clockDomain = t.clockDomain ∧
      t.nanoseconds ≤ last.nanoseconds) ∧
    ∀ last ∈ v.lastTimestamp, last.clockDomain = t.clockDomain ∧
      (∃ next ∈ w.lastTimestamp, next.clockDomain = last.clockDomain ∧
        last.nanoseconds ≤ next.nanoseconds) ∧
      (v.config.rejectRegression = true → v.config.allowEqualTimestamps = false →
        last.nanoseconds < t.nanoseconds) := by
  unfold validate at h
  split at h
  · cases h
  cases hLast : v.lastTimestamp with
  | none =>
    rw [hLast] at h
    cases h
    refine ⟨rfl, ⟨t, rfl, rfl, le_refl _⟩, ?_⟩
    intro last hNone
    cases hNone
  | some last =>
    rw [hLast] at h
    dsimp only at h
    split at h
    · cases h
    rename_i hSame
    have hForward : t.clockDomain = last.clockDomain := by
      simpa [Timestamp.sameClockDomain] using hSame
    have hDomain := hForward.symm
    split at h
    · rename_i hBehind
      split at h
      · cases h
      rename_i hAccepted
      cases h
      refine ⟨rfl, ⟨last, hLast, hDomain, ?_⟩, ?_⟩
      · rcases hBehind with hBehind | ⟨hRepeated, -⟩ <;> omega
      · intro last' hLast'
        cases hLast'
        refine ⟨hDomain, ⟨last, hLast, rfl, le_refl _⟩, ?_⟩
        intro hReject
        exact absurd (Or.inl hReject) hAccepted
    · rename_i hAhead
      cases h
      refine ⟨rfl, ⟨t, rfl, rfl, le_refl _⟩, ?_⟩
      intro last' hLast'
      cases hLast'
      refine ⟨hDomain, ⟨t, rfl, hDomain.symm, by omega⟩, ?_⟩
      intro _ hEqual
      by_contra hBehind
      rcases Int.lt_or_eq_of_le (not_lt.mp hBehind) with hLess | hSame
      · exact hAhead (Or.inl hLess)
      · exact hAhead (Or.inr ⟨hSame, hEqual⟩)

namespace MeasurementBuffer
variable {b : MeasurementBuffer D} {x : ImuSample D} {scan : LidarScan D}

theorem pushImu_cases (b : MeasurementBuffer D) (x : ImuSample D) :
    (∃ status, b.pushImu x = (b, .error status)) ∨
    (x.fault = none ∧ b.imuSamples.length < b.config.maximumImuSamples ∧
      ∃ v, b.imuValidator.validate x.time = .ok v ∧
        b.pushImu x = ({ b with imuSamples := b.storeImu x, imuValidator := v }, .ok ())) := by
  fun_cases pushImu
  case case4 hFault hRoom v hValid => exact .inr ⟨hFault, by omega, v, hValid, rfl⟩
  all_goals exact .inl ⟨_, rfl⟩

theorem pushLidar_cases (b : MeasurementBuffer D) (scan : LidarScan D) :
    (∃ status, b.pushLidar scan = (b, .error status)) ∨
    (scan.fault = none ∧ b.lidarScans.length < b.config.maximumLidarScans ∧
      ∃ v w, b.lidarStartValidator.validate scan.startTime = .ok v ∧
        b.lidarEndValidator.validate scan.endTime = .ok w ∧
        b.pushLidar scan = ({ b with
          lidarScans := b.storeLidar scan
          lidarStartValidator := v
          lidarEndValidator := w }, .ok ())) := by
  fun_cases pushLidar
  case case5 hFault hRoom v hStart w hEnd => exact .inr ⟨hFault, by omega, v, w, hStart, hEnd, rfl⟩
  all_goals exact .inl ⟨_, rfl⟩

omit [FloatOps D]

theorem mem_storeImu {y : ImuSample D} : y ∈ b.storeImu x ↔ y = x ∨ y ∈ b.imuSamples := by
  fun_cases storeImu
  · rename_i hNone
    rw [List.getLast?_eq_none_iff.mp hNone]
    simp
  · simp [or_comm]
  · exact mem_insertOrdered

theorem mem_storeLidar {other : LidarScan D} :
    other ∈ b.storeLidar scan ↔ other = scan ∨ other ∈ b.lidarScans := by
  fun_cases storeLidar
  · rename_i hNone
    rw [List.getLast?_eq_none_iff.mp hNone]
    simp
  · simp [or_comm]
  · exact mem_insertOrdered

theorem storeImu_ordered (h : Ordered imuTime b.imuSamples)
    (hReject : b.config.rejectTimestampRegression = true →
      ∀ y ∈ b.imuSamples, imuTime y ≤ imuTime x) : Ordered imuTime (b.storeImu x) := by
  fun_cases storeImu
  · exact pairwise_singleton _ _
  · rename_i back hBack hAppend
    apply h.concat
    intro y hy
    rcases hAppend with hAppend | hAppend
    · exact hReject hAppend y hy
    · exact le_trans (h.le_getLast hy hBack) (le_of_lt hAppend)
  · exact h.insertOrdered

end MeasurementBuffer

namespace SensorFeed
variable {f : SensorFeed D} {x : ImuSample D} {scan : LidarScan D}

theorem Sound.pushImu (hf : Sound f) (x : ImuSample D) :
    Sound { f with buffer := (f.buffer.pushImu x).1 } := by
  rcases f.buffer.pushImu_cases x with ⟨status, hRefused⟩ | ⟨hFault, -, v, hValid, hStored⟩
  · rw [hRefused]
    exact hf
  rw [hStored]
  obtain ⟨hConfig, ⟨last, hLast, hDomain, hBelow⟩, hKept⟩ := TimestampValidator.validate_ok hValid
  have hOrdered : Ordered imuTime (f.buffer.storeImu x) := by
    apply storeImu_ordered hf.ordered
    intro hReject y hy
    obtain ⟨old, hOld, -, hy⟩ := hf.frontier y hy
    obtain ⟨-, -, hStrict⟩ := hKept old hOld
    rw [hf.validator] at hStrict
    exact le_trans hy (le_of_lt (hStrict hReject rfl))
  constructor
  case validator => exact hConfig.trans hf.validator
  case ordered => exact hOrdered
  case valid =>
    intro y hy
    rcases mem_storeImu.mp hy with rfl | hy
    · exact hFault
    · exact hf.valid y hy
  case frontier =>
    intro y hy
    rcases mem_storeImu.mp hy with rfl | hy
    · exact ⟨last, hLast, hDomain.symm, hBelow⟩
    · obtain ⟨old, hOld, hSame, hy⟩ := hf.frontier y hy
      obtain ⟨-, ⟨next, hNext, hNextDomain, hLe⟩, -⟩ := hKept old hOld
      exact ⟨next, hNext, hSame.trans hNextDomain.symm, le_trans hy hLe⟩
  case scans => exact hf.scans
  case epoch =>
    intro t ht
    obtain ⟨y, hy, hyt⟩ := hf.epoch t ht
    have hMem : y ∈ f.buffer.storeImu x :=
      mem_storeImu.mpr (.inr (mem_of_mem_head? hy))
    cases hHead : (f.buffer.storeImu x).head? with
    | none => rw [List.head?_eq_none_iff.mp hHead] at hMem; cases hMem
    | some z => exact ⟨z, rfl, le_trans (hOrdered.head_le hHead hMem) hyt⟩

theorem Sound.pushLidar (hf : Sound f) (scan : LidarScan D) :
    Sound { f with buffer := (f.buffer.pushLidar scan).1 } := by
  rcases f.buffer.pushLidar_cases scan with ⟨status, hRefused⟩ | ⟨hFault, -, v, w, -, -, hStored⟩
  · rw [hRefused]
    exact hf
  rw [hStored]
  refine ⟨hf.validator, hf.ordered, hf.valid, hf.frontier, ?_, hf.epoch⟩
  intro other hOther
  rcases mem_storeLidar.mp hOther with rfl | hOther
  · exact hFault
  · exact hf.scans other hOther

end SensorFeed

/-! ## Synchronizing -/

omit [FloatOps D] in
theorem largestGap_ok {best gap : ImuGap} {samples : List (ImuSample D)}
    (h : largestGap best samples = .ok gap) :
    best.durationNs ≤ gap.durationNs ∧
      samples.IsChain (fun a b => imuTime b - imuTime a ≤ gap.durationNs) ∧
      (gap = best ∨ ∃ before a b after, samples = before ++ a :: b :: after ∧
        gap = ⟨imuTime b - imuTime a, a.time, b.time⟩) := by
  fun_induction largestGap best samples with
  | case1 best previous current rest status hError => cases h
  | case2 best previous current rest gapNs hGap next ih =>
    obtain ⟨hNext, hChain, hWitness⟩ := ih h
    obtain ⟨-, rfl⟩ := checkedDifference_ok hGap
    have hHere : imuTime current - imuTime previous ≤ next.durationNs ∧
        best.durationNs ≤ next.durationNs := by
      unfold next imuTime
      split
      · exact ⟨le_refl _, by dsimp only; omega⟩
      · exact ⟨by omega, le_refl _⟩
    refine ⟨le_trans hHere.2 hNext, ?_, ?_⟩
    · exact isChain_cons_cons.mpr ⟨le_trans hHere.1 hNext, hChain⟩
    · rcases hWitness with rfl | ⟨before, a, b, after, hSplit, rfl⟩
      · unfold next
        split
        · exact .inr ⟨[], previous, current, rest, rfl, rfl⟩
        · exact .inl rfl
      · refine .inr ⟨previous :: before, a, b, after, ?_, rfl⟩
        rw [hSplit]
        rfl
  | case3 samples best hShort =>
    cases h
    refine ⟨le_refl _, ?_, .inl rfl⟩
    cases samples with
    | nil => exact List.IsChain.nil
    | cons x samples =>
      cases samples with
      | nil => exact List.IsChain.singleton x
      | cons y samples => exact absurd rfl (hShort x y samples)

theorem largestGap_isOk {best : ImuGap} {samples : List (ImuSample D)}
    (hValid : ∀ x ∈ samples, x.fault = none)
    (hDomain : ∀ x ∈ samples, ∀ y ∈ samples, x.time.clockDomain = y.time.clockDomain) :
    ∃ gap, largestGap best samples = .ok gap := by
  fun_induction largestGap best samples with
  | case1 best previous current rest status hError =>
    have hCurrent := ImuSample.positive (hValid current (by simp))
    have hPrevious := ImuSample.positive (hValid previous (by simp))
    have hSame := hDomain current (by simp) previous (by simp)
    rw [checkedDifference_of_nonneg hSame (by omega) (by omega)] at hError
    cases hError
  | case2 best previous current rest gapNs hGap next ih =>
    apply ih
    · intro x hx
      exact hValid x (mem_cons_of_mem _ hx)
    · intro x hx y hy
      exact hDomain x (mem_cons_of_mem _ hx) y (mem_cons_of_mem _ hy)
  | case3 samples best hShort => exact ⟨best, rfl⟩

namespace MeasurementSynchronizer
variable {s s' : MeasurementSynchronizer} {front back : ImuSample D} {scan : LidarScan D}
  {status : Status}

theorem refusal_none (h : s.refusal front back scan = none) :
    scan.fault = none ∧ scan.startTime.clockDomain = front.time.clockDomain ∧
      ∀ t ∈ s.lastSynchronizedEndTime, t.clockDomain = scan.startTime.clockDomain ∧
        t.nanoseconds ≤ scan.startTime.nanoseconds := by
  unfold refusal at h
  split at h
  · cases h
  rename_i hFault
  split at h
  · cases h
  rename_i hDomain
  simp only [Timestamp.sameClockDomain, Bool.or_eq_true, Bool.not_eq_true', beq_eq_false_iff_ne,
    not_or, not_not] at hDomain
  refine ⟨hFault, hDomain.1, ?_⟩
  intro t ht
  rw [ht] at h
  dsimp only at h
  split at h
  · cases h
  rename_i hEpoch
  split at h
  · split at h <;> cases h
  exact ⟨by simpa [Timestamp.sameClockDomain] using hEpoch, by omega⟩

/-- A refusal keeps the epoch and is never about a missing start bracket. In one clock domain
it is about a scan that starts before the epoch. -/
theorem refusal_some (hFault : scan.fault = none)
    (h : s.refusal front back scan = some (s', status)) :
    s'.config = s.config ∧ s'.lastSynchronizedEndTime = s.lastSynchronizedEndTime ∧
      status.code ≠ .missingStartBracket ∧
      (front.time.clockDomain = scan.startTime.clockDomain →
        back.time.clockDomain = scan.startTime.clockDomain →
        (∀ t ∈ s.lastSynchronizedEndTime, t.clockDomain = scan.startTime.clockDomain) →
        ∃ t ∈ s.lastSynchronizedEndTime, scan.startTime.nanoseconds < t.nanoseconds) := by
  unfold refusal at h
  rw [hFault] at h
  dsimp only at h
  split at h
  · rename_i hDomain
    cases h
    refine ⟨rfl, rfl, by decide, ?_⟩
    intro hFront hBack
    simp [Timestamp.sameClockDomain, hFront, hBack] at hDomain
  cases hEpoch : s.lastSynchronizedEndTime with
  | none =>
    rw [hEpoch] at h
    cases h
  | some epoch =>
    rw [hEpoch] at h
    dsimp only at h
    split at h
    · rename_i hDomain
      cases h
      refine ⟨rfl, hEpoch, by decide, ?_⟩
      intro _ _ hSame
      simp [Timestamp.sameClockDomain, hSame epoch rfl] at hDomain
    split at h
    · rename_i hBefore
      split at h
      · rename_i hError
        cases h
        refine ⟨rfl, hEpoch, ?_, fun _ _ _ => ⟨epoch, rfl, hBefore⟩⟩
        rcases checkedDifference_error hError with hCode | hCode <;> rw [hCode] <;> decide
      · cases h
        exact ⟨rfl, rfl, by simp [overlapStatus], fun _ _ _ => ⟨epoch, rfl, hBefore⟩⟩
    · cases h

end MeasurementSynchronizer

namespace SensorFeed

def synchronizeNext (f : SensorFeed D) : SensorFeed D × SynchronizationResult D :=
  let answer := f.synchronizer.synchronizeNext f.buffer
  (⟨answer.1.2, answer.1.1⟩, answer.2)

/-- The front scan passed every check made before the end of the scan is looked for.
`bracket` and `stop` are where its samples begin and where they end. -/
structure Bracketed (f : SensorFeed D) (scan : LidarScan D) (start : Timestamp)
    (bracket stop : Nat) : Prop where
  valid : scan.fault = none
  domain : ∀ x ∈ f.imu.head?, x.time.clockDomain = scan.startTime.clockDomain
  isStart : start = f.epoch.getD scan.startTime
  startDomain : start.clockDomain = scan.startTime.clockDomain
  notAfter : start.nanoseconds ≤ scan.startTime.nanoseconds
  scanBracket : 0 < upperBound imuTime f.imu scan.startTime.nanoseconds
  position : bracket + 1 = upperBound imuTime f.imu start.nanoseconds
  isStop : stop = bracket + lowerBound imuTime (f.imu.drop bracket) scan.endTime.nanoseconds

/-- The samples from `bracket` to `stop`. -/
def span (f : SensorFeed D) (bracket stop : Nat) : List (ImuSample D) :=
  (f.imu.drop bracket).take (stop - bracket + 1)

def cutAt (f : SensorFeed D) (scan : LidarScan D) (scans : List (LidarScan D)) (gap : ImuGap) :
    SensorFeed D × PropagationDiscontinuity :=
  let gapEnd := gap.current.inDomain scan.startTime.clockDomain
  (⟨{ f.buffer with
      lidarScans := scans
      imuSamples := f.imu.drop (lowerBound imuTime f.imu gap.current.nanoseconds) },
    { f.synchronizer with
      lastSynchronizedEndTime := some gapEnd
      scanIndex := f.synchronizer.scanIndex + 1 }⟩,
    { gapBegin := gap.previous.inDomain scan.startTime.clockDomain
      gapEnd := gapEnd
      gapDurationNs := gap.durationNs
      scanStart := scan.startTime
      scanEnd := scan.endTime
      resumeTime := gapEnd })

def handOut (f : SensorFeed D) (scan : LidarScan D) (scans : List (LidarScan D)) (stop : Nat) :
    SensorFeed D :=
  ⟨{ f.buffer with lidarScans := scans, imuSamples := f.imu.drop (stop - 1) },
    { f.synchronizer with
      lastSynchronizedEndTime := some scan.endTime
      scanIndex := f.synchronizer.scanIndex + 1 }⟩

/-- In one clock domain a refused scan starts before the epoch or before the oldest sample. -/
def RefusedEarly (f : SensorFeed D) (scan : LidarScan D) : Prop :=
  (∀ x ∈ f.imu, x.time.clockDomain = scan.startTime.clockDomain) →
    (∀ t ∈ f.epoch, t.clockDomain = scan.startTime.clockDomain) →
    (∃ t ∈ f.epoch, scan.startTime.nanoseconds < t.nanoseconds) ∨
      ∃ x ∈ f.imu.head?, scan.startTime.nanoseconds < imuTime x

inductive Answered (f : SensorFeed D) : SensorFeed D → SynchronizationResult D → Prop where
  | idle (h : f.scans = [] ∨ f.imu = []) : Answered f f .waiting
  | waiting {scan scans start bracket} (hFront : f.scans = scan :: scans)
      (hBracket : Bracketed f scan start bracket f.imu.length) : Answered f f .waiting
  | refused {scan scans s status} (hFront : f.scans = scan :: scans)
      (hConfig : s.config = f.synchronizer.config) (hEpoch : s.lastSynchronizedEndTime = f.epoch)
      (hBracket : status.code = .missingStartBracket → f.epoch = none)
      (hReason : RefusedEarly f scan) :
      Answered f ⟨{ f.buffer with lidarScans := scans }, s⟩ (.error status)
  | gap {scan scans start bracket stop gap} (hFront : f.scans = scan :: scans)
      (hBracket : Bracketed f scan start bracket stop) (hStop : stop < f.imu.length)
      (hGap : largestGap {} (f.span bracket stop) = .ok gap)
      (hLong : f.synchronizer.config.maximumImuGapNs < gap.durationNs) :
      Answered f (f.cutAt scan scans gap).1 (.discontinuity (f.cutAt scan scans gap).2)
  | group {scan scans start bracket stop gap hasStart hasEnd} (hFront : f.scans = scan :: scans)
      (hBracket : Bracketed f scan start bracket stop) (hStop : stop < f.imu.length)
      (hGap : largestGap {} (f.span bracket stop) = .ok gap)
      (hShort : gap.durationNs ≤ f.synchronizer.config.maximumImuGapNs)
      (hStart : hasStart = true) (hEnd : hasEnd = true) :
      Answered f (f.handOut scan scans stop)
        (.group ⟨scan, f.span bracket stop, start, hasStart, hasEnd, gap.durationNs⟩)

variable {f : SensorFeed D}

theorem Sound.upperBound_pos (hf : Sound f) {t : Timestamp} (ht : t ∈ f.epoch) {u : Int}
    (hu : t.nanoseconds ≤ u) : 0 < upperBound imuTime f.imu u := by
  obtain ⟨x, hx, hxt⟩ := hf.epoch t ht
  cases hImu : f.imu with
  | nil => rw [hImu] at hx; cases hx
  | cons y samples =>
    rw [hImu] at hx
    cases hx
    exact OrderedQueues.upperBound_pos.mpr (le_trans hxt hu)

omit [FloatOps D] in
theorem head_after {front : ImuSample D} {samples : List (ImuSample D)} {t : Int}
    (hImu : f.imu = front :: samples) (hNone : upperBound imuTime f.imu t = 0) :
    ∃ x ∈ f.imu.head?, t < imuTime x := by
  rw [hImu] at hNone ⊢
  refine ⟨front, rfl, ?_⟩
  by_contra hBefore
  have hPos : 0 < upperBound imuTime (front :: samples) t :=
    OrderedQueues.upperBound_pos.mpr (not_lt.mp hBefore)
  omega

section Bracketing
variable {scan : LidarScan D} {rest : List (LidarScan D)} {start : Timestamp} {bracket stop : Nat}

theorem Bracketed.stop_le (h : Bracketed f scan start bracket stop) : stop ≤ f.imu.length := by
  have hLower := lowerBound_le imuTime (f.imu.drop bracket) scan.endTime.nanoseconds
  have hUpper := upperBound_le imuTime f.imu start.nanoseconds
  have hPosition := h.position
  rw [h.isStop]
  rw [length_drop] at hLower
  omega

theorem Bracketed.le_stop (h : Bracketed f scan start bracket stop) (hStop : stop < f.imu.length) :
    scan.endTime.nanoseconds ≤ imuTime f.imu[stop] := by
  have hLower : lowerBound imuTime (f.imu.drop bracket) scan.endTime.nanoseconds <
      (f.imu.drop bracket).length := by
    rw [length_drop]
    have := h.isStop
    omega
  have hAt := le_lowerBound hLower
  rw [getElem_drop] at hAt
  simpa only [h.isStop] using hAt

omit [FloatOps D] in
theorem mem_span {x : ImuSample D} (hx : x ∈ f.span bracket stop) : x ∈ f.imu :=
  mem_of_mem_drop (mem_of_mem_take hx)

theorem Bracketed.settled (h : Bracketed f scan start bracket stop) (hf : Sound f)
    (hScans : f.scans = scan :: rest) (hStop : stop ≠ f.imu.length)
    {answer : (MeasurementSynchronizer × MeasurementBuffer D) × SynchronizationResult D}
    (hAnswer : f.synchronizer.settle f.buffer scan rest start
      (f.imu[upperBound imuTime f.imu scan.startTime.nanoseconds - 1]?.any
        fun x => imuTime x ≤ scan.startTime.nanoseconds) bracket stop = answer) :
    Answered f ⟨answer.1.2, answer.1.1⟩ answer.2 := by
  have hLt : stop < f.imu.length := Nat.lt_of_le_of_ne h.stop_le hStop
  obtain ⟨gap, hGap⟩ : ∃ gap, largestGap {} (f.span bracket stop) = .ok gap := by
    apply largestGap_isOk
    · intro x hx
      exact hf.valid x (mem_span hx)
    · intro x hx y hy
      exact hf.domain (mem_span hx) (mem_span hy)
  unfold MeasurementSynchronizer.settle at hAnswer
  dsimp only at hAnswer
  have hFound : largestGap {} ((f.buffer.imuSamples.drop bracket).take (stop - bracket + 1)) =
    .ok gap := hGap
  rw [hFound] at hAnswer
  dsimp only at hAnswer
  split at hAnswer
  · rename_i hLong
    subst hAnswer
    exact .gap hScans h hLt hGap hLong
  · rename_i hShort
    subst hAnswer
    apply Answered.group hScans h hLt hGap (by omega)
    · have hUpper := upperBound_le imuTime f.imu scan.startTime.nanoseconds
      have hPos := h.scanBracket
      have hIn : upperBound imuTime f.imu scan.startTime.nanoseconds - 1 < f.imu.length := by omega
      have hBefore : imuTime f.imu[upperBound imuTime f.imu scan.startTime.nanoseconds - 1] ≤
          scan.startTime.nanoseconds := le_of_lt_upperBound (by omega) hIn
      rw [List.getElem?_eq_getElem hIn]
      simpa using hBefore
    · have hAt : f.buffer.imuSamples[stop]? = some f.imu[stop] := List.getElem?_eq_getElem hLt
      rw [hAt]
      simpa using h.le_stop hLt

end Bracketing

theorem synchronizeNext_answered (hf : Sound f) :
    Answered f f.synchronizeNext.1 f.synchronizeNext.2 := by
  unfold synchronizeNext
  generalize hAnswer : f.synchronizer.synchronizeNext f.buffer = answer
  unfold MeasurementSynchronizer.synchronizeNext at hAnswer
  split at hAnswer
  · rename_i scan rest front samples hScans hImu
    have hFault : scan.fault = none := hf.scans scan (by unfold scans; rw [hScans]; simp)
    dsimp only at hAnswer
    split at hAnswer
    · rename_i s status hRefusal
      subst hAnswer
      obtain ⟨hConfig, hEpoch, hCode, hReason⟩ :=
        MeasurementSynchronizer.refusal_some hFault hRefusal
      refine .refused hScans hConfig hEpoch (fun hMissing => absurd hMissing hCode) ?_
      intro hSame hSameEpoch
      have hFront : front ∈ f.imu := by unfold imu; rw [hImu]; exact mem_cons_self
      have hBack : (front :: samples).getLast?.getD front ∈ f.imu := by
        unfold imu
        rw [hImu, List.getLast?_eq_some_getLast (cons_ne_nil _ _)]
        exact getLast_mem _
      exact .inl (hReason (hSame front hFront) (hSame _ hBack) hSameEpoch)
    rename_i hRefusal
    obtain ⟨-, hDomain, hEpoch⟩ := MeasurementSynchronizer.refusal_none hRefusal
    rw [← hImu] at hAnswer
    split at hAnswer
    · rename_i hUnbracketed
      subst hAnswer
      have hNone : f.epoch = none := by
        rw [Option.eq_none_iff_forall_not_mem]
        intro t ht
        have hPos := hf.upperBound_pos ht (hEpoch t ht).2
        exact absurd hUnbracketed (by unfold imu at hPos; omega)
      exact .refused hScans rfl rfl (fun _ => hNone)
        (fun _ _ => .inr (head_after hImu hUnbracketed))
    rename_i hBracketed
    split at hAnswer
    · rename_i hUnbracketed
      subst hAnswer
      have hNone : f.epoch = none := by
        rw [Option.eq_none_iff_forall_not_mem]
        intro t ht
        have hTime : f.synchronizer.lastSynchronizedEndTime = some t := ht
        rw [hTime] at hUnbracketed
        have hPos := hf.upperBound_pos ht (le_refl _)
        exact absurd hUnbracketed (by unfold imu at hPos; exact Nat.pos_iff_ne_zero.mp hPos)
      have hTime : f.synchronizer.lastSynchronizedEndTime = none := hNone
      rw [hTime] at hUnbracketed
      exact .refused hScans rfl rfl (fun _ => hNone)
        (fun _ _ => .inr (head_after hImu hUnbracketed))
    rename_i hStartBracketed
    have hStart : f.epoch.getD scan.startTime = f.synchronizer.lastSynchronizedEndTime.getD
      scan.startTime := rfl
    generalize hStartTime : f.synchronizer.lastSynchronizedEndTime.getD scan.startTime = start
      at hAnswer hStartBracketed hStart
    have hStartFacts : start.clockDomain = scan.startTime.clockDomain ∧
        start.nanoseconds ≤ scan.startTime.nanoseconds := by
      rw [← hStart]
      cases hTime : f.epoch with
      | none => exact ⟨rfl, le_refl _⟩
      | some t => exact hEpoch t hTime
    have hBracket : Bracketed f scan start (upperBound imuTime f.imu start.nanoseconds - 1)
        (upperBound imuTime f.imu start.nanoseconds - 1 + lowerBound imuTime
          (f.imu.drop (upperBound imuTime f.imu start.nanoseconds - 1))
          scan.endTime.nanoseconds) := by
      refine ⟨hFault, ?_, hStart.symm, hStartFacts.1, hStartFacts.2, ?_, ?_, rfl⟩
      · intro x hx
        unfold imu at hx
        rw [hImu] at hx
        cases hx
        exact hDomain.symm
      · exact Nat.pos_of_ne_zero hBracketed
      · unfold imu
        omega
    generalize hStopIs : upperBound imuTime f.imu start.nanoseconds - 1 + lowerBound imuTime
      (f.imu.drop (upperBound imuTime f.imu start.nanoseconds - 1)) scan.endTime.nanoseconds = stop
      at hBracket
    have hAnswer : (if stop = f.imu.length then ((f.synchronizer, f.buffer), .waiting)
        else f.synchronizer.settle f.buffer scan rest start
          (f.imu[upperBound imuTime f.imu scan.startTime.nanoseconds - 1]?.any
            fun x => imuTime x ≤ scan.startTime.nanoseconds)
          (upperBound imuTime f.imu start.nanoseconds - 1) stop) = answer := by
      rw [← hStopIs]
      exact hAnswer
    generalize upperBound imuTime f.imu start.nanoseconds - 1 = bracket at hBracket hAnswer
    split at hAnswer
    · rename_i hStop
      subst hAnswer
      rw [hStop] at hBracket
      exact .waiting hScans hBracket
    rename_i hStop
    exact hBracket.settled hf hScans hStop hAnswer
  · rename_i hIdle
    subst hAnswer
    apply Answered.idle
    cases hScans : f.buffer.lidarScans with
    | nil => exact .inl hScans
    | cons scan scans =>
      cases hImu : f.buffer.imuSamples with
      | nil => exact .inr hImu
      | cons front samples => exact (hIdle scan scans front samples hScans hImu).elim

section Bracketing
variable {scan : LidarScan D} {start : Timestamp} {bracket stop : Nat}

section
variable (h : Bracketed f scan start bracket stop)
include h

theorem Bracketed.bracket_lt : bracket < f.imu.length := by
  have hUpper := upperBound_le imuTime f.imu start.nanoseconds
  have hPosition := h.position
  omega

theorem Bracketed.bracket_le : bracket ≤ stop := by
  rw [h.isStop]
  omega

theorem Bracketed.bracket_at
    (hBracket : bracket < f.imu.length) : imuTime f.imu[bracket] ≤ start.nanoseconds :=
  le_of_lt_upperBound (by have := h.position; omega) hBracket

theorem Bracketed.start_lt (hf : Sound f)
    {x : ImuSample D} (hx : x ∈ f.imu.drop (bracket + 1)) : start.nanoseconds < imuTime x := by
  rw [h.position] at hx
  exact hf.ordered.lt_of_mem_drop_upperBound hx

end

section
omit [FloatOps D]

theorem span_eq_cons (hBracket : bracket < f.imu.length) : f.span bracket stop =
      f.imu[bracket] :: (f.imu.drop (bracket + 1)).take (stop - bracket) := by
  unfold span
  rw [drop_eq_getElem_cons hBracket, take_succ_cons]

theorem imu_eq_span (hBracket : bracket ≤ stop) :
    f.imu = f.imu.take bracket ++ f.span bracket stop ++ f.imu.drop (stop + 1) := by
  have hRest : f.imu.drop (stop + 1) = (f.imu.drop bracket).drop (stop - bracket + 1) := by
    rw [drop_drop]
    congr 1
    omega
  unfold span
  rw [hRest, append_assoc, take_append_drop, take_append_drop]

theorem span_eq_concat (hBracket : bracket ≤ stop) (hStop : stop < f.imu.length) :
    f.span bracket stop = (f.imu.drop bracket).take (stop - bracket) ++ [f.imu[stop]] := by
  unfold span
  rw [take_succ_eq_append_getElem (by rw [length_drop]; omega), getElem_drop]
  congr 3
  omega

end

section
variable (h : Bracketed f scan start bracket stop)
include h

theorem Bracketed.lt_stop {i : Nat} (hi : bracket ≤ i)
    (hStop : i < stop) (hLen : i < f.imu.length) :
    imuTime f.imu[i] < scan.endTime.nanoseconds := by
  have hLower : i - bracket < lowerBound imuTime (f.imu.drop bracket) scan.endTime.nanoseconds := by
    have := h.isStop
    omega
  have hBefore := lt_of_lt_lowerBound hLower (by rw [length_drop]; omega)
  rw [getElem_drop] at hBefore
  simpa only [Nat.add_sub_cancel' hi] using hBefore

theorem Bracketed.reaches (hf : Sound f) (hStop : stop < f.imu.length) :
    ∃ x ∈ f.imu.getLast?, scan.endTime.nanoseconds ≤ imuTime x := by
  have hLast : f.imu.length - 1 < f.imu.length := by omega
  refine ⟨f.imu[f.imu.length - 1], ?_, ?_⟩
  · rw [List.getLast?_eq_getElem?, List.getElem?_eq_getElem hLast]
    rfl
  · exact le_trans (h.le_stop hStop) (hf.ordered.getElem_le (by omega) hLast)

theorem Bracketed.start_le_end : start.nanoseconds ≤ scan.endTime.nanoseconds :=
  le_trans h.notAfter (LidarScan.interval h.valid).2.1

theorem Bracketed.gap_after (hf : Sound f) {gap : ImuGap}
    (hGap : largestGap {} (f.span bracket stop) = .ok gap) (hLong : 0 < gap.durationNs) :
    start.nanoseconds < gap.current.nanoseconds ∧ ∃ x ∈ f.imu, gap.current = x.time := by
  obtain ⟨-, -, hWitness⟩ := largestGap_ok hGap
  rcases hWitness with rfl | ⟨before, a, b, after, hSplit, rfl⟩
  · exact absurd hLong (by decide)
  have hb : b ∈ f.span bracket stop := by rw [hSplit]; simp
  refine ⟨?_, b, mem_span hb, rfl⟩
  rw [span_eq_cons h.bracket_lt] at hSplit
  apply h.start_lt hf
  apply mem_of_mem_take (i := stop - bracket)
  cases before with
  | nil =>
    rw [(List.cons.inj hSplit).2]
    simp
  | cons c before =>
    rw [(List.cons.inj hSplit).2]
    simp

end

end Bracketing

theorem Sound.dropped {n : Nat} {epoch : Timestamp} {s : MeasurementSynchronizer}
    {rest : List (LidarScan D)} (hf : Sound f) (hScans : ∀ scan ∈ rest, scan ∈ f.scans)
    (hEpoch : s.lastSynchronizedEndTime = some epoch)
    (hHead : ∃ x ∈ (f.imu.drop n).head?, imuTime x ≤ epoch.nanoseconds) :
    Sound ⟨{ f.buffer with lidarScans := rest, imuSamples := f.imu.drop n }, s⟩ where
  validator := hf.validator
  ordered := hf.ordered.sublist (drop_sublist _ _)
  valid := fun x hx => hf.valid x (mem_of_mem_drop hx)
  frontier := fun x hx => hf.frontier x (mem_of_mem_drop hx)
  scans := fun scan hScan => hf.scans scan (hScans scan hScan)
  epoch := by
    intro t ht
    unfold SensorFeed.epoch at ht
    rw [hEpoch] at ht
    cases ht
    exact hHead

section
variable {scan : LidarScan D} {start : Timestamp} {bracket stop : Nat}

theorem Bracketed.cut_head {gap : ImuGap} (h : Bracketed f scan start bracket stop) (hf : Sound f)
    (hGap : largestGap {} (f.span bracket stop) = .ok gap) (hLong : 0 < gap.durationNs) :
    ∃ x ∈ (f.imu.drop (lowerBound imuTime f.imu gap.current.nanoseconds)).head?,
      imuTime x ≤ gap.current.nanoseconds := by
  obtain ⟨-, x, hx, hCurrent⟩ := h.gap_after hf hGap hLong
  have hAt : imuTime x = gap.current.nanoseconds := by rw [hCurrent]; rfl
  have hIn : lowerBound imuTime f.imu gap.current.nanoseconds < f.imu.length := by
    apply Nat.lt_of_le_of_ne (lowerBound_le _ _ _)
    intro hAll
    have hBelow := lowerBound_eq_length.mp hAll x hx
    omega
  refine ⟨f.imu[lowerBound imuTime f.imu gap.current.nanoseconds], ?_, ?_⟩
  · rw [List.head?_drop, List.getElem?_eq_getElem hIn]
    rfl
  · obtain ⟨i, hi, rfl⟩ := getElem_of_mem hx
    apply le_trans (hf.ordered.getElem_le _ hi) (le_of_eq hAt)
    by_contra hBefore
    have hBelow := lt_of_lt_lowerBound (not_le.mp hBefore) hi
    omega

theorem Bracketed.handed_head
    (h : Bracketed f scan start bracket stop) (hf : Sound f) (hStop : stop < f.imu.length) :
    ∃ x ∈ (f.imu.drop (stop - 1)).head?, imuTime x ≤ scan.endTime.nanoseconds := by
  have hIn : stop - 1 < f.imu.length := by omega
  refine ⟨f.imu[stop - 1], ?_, ?_⟩
  · rw [List.head?_drop, List.getElem?_eq_getElem hIn]
    rfl
  · rcases Nat.lt_or_eq_of_le h.bracket_le with hInside | hSame
    · exact le_of_lt (h.lt_stop (by omega) (by omega) hIn)
    · have hBracket := h.bracket_lt
      have hBefore : imuTime f.imu[stop - 1] ≤ imuTime f.imu[bracket] :=
        hf.ordered.getElem_le (by omega) hBracket
      exact le_trans hBefore (le_trans (h.bracket_at hBracket) h.start_le_end)

end

theorem Sound.answered {f' : SensorFeed D} {result : SynchronizationResult D} (hf : Sound f)
    (h : Answered f f' result) : Sound f' := by
  cases h with
  | idle => exact hf
  | waiting => exact hf
  | @refused scan rest s status hFront hConfig hEpoch =>
    refine ⟨hf.validator, hf.ordered, hf.valid, hf.frontier, ?_, ?_⟩
    · intro other hOther
      apply hf.scans
      rw [hFront]
      exact mem_cons_of_mem _ hOther
    · intro t ht
      apply hf.epoch
      rw [← hEpoch]
      exact ht
  | @gap scan rest start bracket stop gap hFront hBracket hStop hGap hLong =>
    apply hf.dropped _ rfl
    · have hPositive := f.synchronizer.config.positive
      exact hBracket.cut_head hf hGap (by omega)
    · intro other hOther
      rw [hFront]
      exact mem_cons_of_mem _ hOther
  | @group scan rest start bracket stop gap hasStart hasEnd hFront hBracket hStop hGap =>
    apply hf.dropped _ rfl
    · exact hBracket.handed_head hf hStop
    · intro other hOther
      rw [hFront]
      exact mem_cons_of_mem _ hOther

theorem Sound.synchronizeNext (hf : Sound f) : Sound f.synchronizeNext.1 :=
  hf.answered (synchronizeNext_answered hf)

end SensorFeed

end UavNavigation.FastLio
