import UavNavigation.ExactReals
import UavNavigation.Runs
import UavNavigation.MeasurementBuffer

/-!
# What the buffer holds and counts

The buffer with its statistics, and the law of its two queues. Storage keeps a
strictly increasing queue exactly as long as no item is accepted whose time is that
of a queued one. The validators see only the newest time, so without the rejection
of regressions an older time can be accepted twice.
-/

namespace UavNavigation.FastLio

open OrderedQueues Runs

set_option autoImplicit false

variable {D : Type} [FloatOps D]

/-! ## The statistics -/

structure MeasurementBufferStats where
  acceptedLidarScans : Nat := 0
  acceptedImuSamples : Nat := 0
  rejectedLidarScans : Nat := 0
  rejectedImuSamples : Nat := 0
  timestampRegressions : Nat := 0
  clockDomainMismatches : Nat := 0
  bufferFullRejections : Nat := 0
deriving DecidableEq

def accountTimestampError (status : Status) (stats : MeasurementBufferStats) :
    MeasurementBufferStats :=
  if status.code = .timestampRegression then
    { stats with timestampRegressions := stats.timestampRegressions + 1 }
  else if status.code = .clockDomainMismatch then
    { stats with clockDomainMismatches := stats.clockDomainMismatches + 1 }
  else stats

/-- By how much an accepted stamp raises `regressionCount`. -/
def TimestampValidator.regressions (v : TimestampValidator) (timestamp : Timestamp) : Nat :=
  match v.lastTimestamp with
  | none => 0
  | some last =>
    if timestamp.nanoseconds < last.nanoseconds ∨
        timestamp.nanoseconds = last.nanoseconds ∧ v.config.allowEqualTimestamps = false then 1
    else 0

structure AccountedBuffer (D : Type) where
  buffer : MeasurementBuffer D
  stats : MeasurementBufferStats := {}

namespace AccountedBuffer

def rejectLidar (stats : MeasurementBufferStats) : MeasurementBufferStats :=
  { stats with rejectedLidarScans := stats.rejectedLidarScans + 1 }

def rejectImu (stats : MeasurementBufferStats) : MeasurementBufferStats :=
  { stats with rejectedImuSamples := stats.rejectedImuSamples + 1 }

def rejectFull (stats : MeasurementBufferStats) : MeasurementBufferStats :=
  { stats with bufferFullRejections := stats.bufferFullRejections + 1 }

def pushLidar (b : AccountedBuffer D) (scan : LidarScan D) :
    AccountedBuffer D × Except Status Unit :=
  match scan.fault with
  | some status =>
    ({ b with stats := accountTimestampError status (rejectLidar b.stats) }, .error status)
  | none =>
    if b.buffer.config.maximumLidarScans ≤ b.buffer.lidarScans.length then
      ({ b with stats := rejectFull (rejectLidar b.stats) },
        .error ⟨.bufferFull, "LiDAR scan buffer is full"⟩)
    else
      match b.buffer.lidarStartValidator.validate scan.startTime with
      | .error status =>
        ({ b with stats := accountTimestampError status (rejectLidar b.stats) }, .error status)
      | .ok startValidator =>
        match b.buffer.lidarEndValidator.validate scan.endTime with
        | .error status =>
          ({ b with stats := accountTimestampError status (rejectLidar b.stats) }, .error status)
        | .ok endValidator =>
          ({ buffer := { b.buffer with
              lidarScans := b.buffer.storeLidar scan
              lidarStartValidator := startValidator
              lidarEndValidator := endValidator }
             stats := { b.stats with
              timestampRegressions := b.stats.timestampRegressions +
                b.buffer.lidarStartValidator.regressions scan.startTime +
                b.buffer.lidarEndValidator.regressions scan.endTime
              acceptedLidarScans := b.stats.acceptedLidarScans + 1 } }, .ok ())

def pushImu (b : AccountedBuffer D) (sample : ImuSample D) :
    AccountedBuffer D × Except Status Unit :=
  match sample.fault with
  | some status => ({ b with stats := rejectImu b.stats }, .error status)
  | none =>
    if b.buffer.config.maximumImuSamples ≤ b.buffer.imuSamples.length then
      ({ b with stats := rejectFull (rejectImu b.stats) },
        .error ⟨.bufferFull, "IMU sample buffer is full"⟩)
    else
      match b.buffer.imuValidator.validate sample.time with
      | .error status =>
        ({ b with stats := accountTimestampError status (rejectImu b.stats) }, .error status)
      | .ok imuValidator =>
        ({ buffer := { b.buffer with
            imuSamples := b.buffer.storeImu sample
            imuValidator := imuValidator }
           stats := { b.stats with
            timestampRegressions := b.stats.timestampRegressions +
              b.buffer.imuValidator.regressions sample.time
            acceptedImuSamples := b.stats.acceptedImuSamples + 1 } }, .ok ())

def create (config : MeasurementBufferConfig) : AccountedBuffer D where
  buffer := { config := config }

theorem pushLidar_buffer (b : AccountedBuffer D) (scan : LidarScan D) :
    ((b.pushLidar scan).1.buffer, (b.pushLidar scan).2) = b.buffer.pushLidar scan := by
  unfold pushLidar MeasurementBuffer.pushLidar
  cases scan.fault with
  | some status => rfl
  | none =>
    dsimp only
    split
    · rfl
    cases b.buffer.lidarStartValidator.validate scan.startTime with
    | error status => rfl
    | ok startValidator =>
      cases b.buffer.lidarEndValidator.validate scan.endTime <;> rfl

theorem pushImu_buffer (b : AccountedBuffer D) (sample : ImuSample D) :
    ((b.pushImu sample).1.buffer, (b.pushImu sample).2) = b.buffer.pushImu sample := by
  unfold pushImu MeasurementBuffer.pushImu
  cases sample.fault with
  | some status => rfl
  | none =>
    dsimp only
    split
    · rfl
    cases b.buffer.imuValidator.validate sample.time <;> rfl

end AccountedBuffer

inductive BufferPush (D : Type) where
  | lidar (scan : LidarScan D)
  | imu (sample : ImuSample D)

def BufferPush.isLidar : BufferPush D → Bool
  | .lidar _ => true
  | .imu _ => false

section
omit [FloatOps D]

@[simp] theorem BufferPush.isLidar_lidar (scan : LidarScan D) : (lidar scan).isLidar = true := rfl

@[simp] theorem BufferPush.isLidar_imu (sample : ImuSample D) : (imu sample).isLidar = false := rfl

end

/-- The push would be accepted, and carries the time of a queued item. -/
def MeasurementBuffer.Repeats (b : MeasurementBuffer D) : BufferPush D → Prop
  | .lidar scan => scan.fault = none ∧ b.lidarScans.length < b.config.maximumLidarScans ∧
      (∃ v, b.lidarStartValidator.validate scan.startTime = .ok v) ∧
      (∃ v, b.lidarEndValidator.validate scan.endTime = .ok v) ∧
      ∃ queued ∈ b.lidarScans, scanStart queued = scanStart scan
  | .imu sample => sample.fault = none ∧ b.imuSamples.length < b.config.maximumImuSamples ∧
      (∃ v, b.imuValidator.validate sample.time = .ok v) ∧
      ∃ queued ∈ b.imuSamples, imuTime queued = imuTime sample

structure MeasurementBuffer.Represents (b : MeasurementBuffer D) : Prop where
  imuIncreasing : Increasing imuTime b.imuSamples
  lidarIncreasing : Increasing scanStart b.lidarScans
  imuDomain : ∃ domain, ∀ sample ∈ b.imuSamples, sample.time.clockDomain = domain
  lidarDomain : ∃ domain, ∀ scan ∈ b.lidarScans,
    scan.startTime.clockDomain = domain ∧ scan.endTime.clockDomain = domain
  imuCapacity : b.imuSamples.length ≤ b.config.maximumImuSamples
  lidarCapacity : b.lidarScans.length ≤ b.config.maximumLidarScans

/-- The queues and the three frontiers are where they were. -/
structure MeasurementBuffer.Unmoved (b c : MeasurementBuffer D) : Prop where
  lidarScans : c.lidarScans = b.lidarScans
  imuSamples : c.imuSamples = b.imuSamples
  lidarStart : c.lidarStartValidator.lastTimestamp = b.lidarStartValidator.lastTimestamp
  lidarEnd : c.lidarEndValidator.lastTimestamp = b.lidarEndValidator.lastTimestamp
  imu : c.imuValidator.lastTimestamp = b.imuValidator.lastTimestamp

/-- Every push of a kind was either accepted or rejected. -/
structure Accounts (pushes : List (BufferPush D)) (stats : MeasurementBufferStats) : Prop where
  lidar : stats.acceptedLidarScans + stats.rejectedLidarScans = pushes.countP (·.isLidar)
  imu : stats.acceptedImuSamples + stats.rejectedImuSamples = pushes.countP (!·.isLidar)

namespace AccountedBuffer

def step (b : AccountedBuffer D) : BufferPush D → AccountedBuffer D × Except Status Unit
  | .lidar scan => b.pushLidar scan
  | .imu sample => b.pushImu sample

structure BufferLaw (b : AccountedBuffer D) (pushes : List (BufferPush D)) : Prop where
  represents : ∀ past future, pushes = past ++ future → (run step b past).buffer.Represents
  rejected : ∀ e ∈ events step b pushes, ∀ status, e.result = .error status →
    e.before.buffer.Unmoved e.after.buffer
  counted : ∀ past future, pushes = past ++ future → Accounts past (run step b past).stats

variable {b : AccountedBuffer D} {push : BufferPush D}

/-- A push is rejected and leaves the buffer, or one of the queues stores it. -/
inductive Pushed (b c : AccountedBuffer D) (answer : Except Status Unit) : BufferPush D → Prop where
  | rejected {push status} (hAnswer : answer = .error status) (hBuffer : c.buffer = b.buffer) :
      Pushed b c answer push
  | scan {scan v w} (hAnswer : answer = .ok ()) (hValid : scan.fault = none)
      (hRoom : b.buffer.lidarScans.length < b.buffer.config.maximumLidarScans)
      (hStart : b.buffer.lidarStartValidator.validate scan.startTime = .ok v)
      (hEnd : b.buffer.lidarEndValidator.validate scan.endTime = .ok w)
      (hBuffer : c.buffer = { b.buffer with
        lidarScans := b.buffer.storeLidar scan
        lidarStartValidator := v
        lidarEndValidator := w }) : Pushed b c answer (.lidar scan)
  | sample {sample v} (hAnswer : answer = .ok ()) (hValid : sample.fault = none)
      (hRoom : b.buffer.imuSamples.length < b.buffer.config.maximumImuSamples)
      (hTime : b.buffer.imuValidator.validate sample.time = .ok v)
      (hBuffer : c.buffer = { b.buffer with
        imuSamples := b.buffer.storeImu sample
        imuValidator := v }) : Pushed b c answer (.imu sample)

theorem step_pushed (b : AccountedBuffer D) (push : BufferPush D) :
    Pushed b (b.step push).1 (b.step push).2 push := by
  cases push with
  | lidar scan =>
    have hSame := pushLidar_buffer b scan
    rcases b.buffer.pushLidar_cases scan with ⟨status, h⟩ | ⟨hValid, hRoom, v, w, hStart, hEnd, h⟩
    · rw [h] at hSame
      obtain ⟨hBuffer, hAnswer⟩ := Prod.mk.inj hSame
      exact .rejected hAnswer hBuffer
    · rw [h] at hSame
      obtain ⟨hBuffer, hAnswer⟩ := Prod.mk.inj hSame
      exact .scan hAnswer hValid hRoom hStart hEnd hBuffer
  | imu sample =>
    have hSame := pushImu_buffer b sample
    rcases b.buffer.pushImu_cases sample with ⟨status, h⟩ | ⟨hValid, hRoom, v, hTime, h⟩
    · rw [h] at hSame
      obtain ⟨hBuffer, hAnswer⟩ := Prod.mk.inj hSame
      exact .rejected hAnswer hBuffer
    · rw [h] at hSame
      obtain ⟨hBuffer, hAnswer⟩ := Prod.mk.inj hSame
      exact .sample hAnswer hValid hRoom hTime hBuffer

theorem step_rejected {status : Status} (h : (b.step push).2 = .error status) :
    b.buffer.Unmoved (b.step push).1.buffer := by
  cases step_pushed b push with
  | rejected _ hBuffer => rw [hBuffer]; exact ⟨rfl, rfl, rfl, rfl, rfl⟩
  | scan hAnswer =>
    rw [h] at hAnswer
    cases hAnswer
  | sample hAnswer =>
    rw [h] at hAnswer
    cases hAnswer

/-! ## What every run keeps -/

/-- The validators belong to the buffer, nothing queued is newer than its frontier, and both
queues have room. -/
structure Kept (b : AccountedBuffer D) : Prop where
  start : b.buffer.lidarStartValidator.config = validatorConfig b.buffer.config
  stop : b.buffer.lidarEndValidator.config = validatorConfig b.buffer.config
  imu : b.buffer.imuValidator.config = validatorConfig b.buffer.config
  imuFrontier : ∀ sample ∈ b.buffer.imuSamples, ∃ last ∈ b.buffer.imuValidator.lastTimestamp,
    sample.time.clockDomain = last.clockDomain ∧ imuTime sample ≤ last.nanoseconds
  lidarFrontier : ∀ scan ∈ b.buffer.lidarScans,
    scan.endTime.clockDomain = scan.startTime.clockDomain ∧
    ∃ last ∈ b.buffer.lidarStartValidator.lastTimestamp,
      scan.startTime.clockDomain = last.clockDomain ∧ scanStart scan ≤ last.nanoseconds
  imuCapacity : b.buffer.imuSamples.length ≤ b.buffer.config.maximumImuSamples
  lidarCapacity : b.buffer.lidarScans.length ≤ b.buffer.config.maximumLidarScans

section
omit [FloatOps D]

theorem create_kept (config : MeasurementBufferConfig) : Kept (create config : AccountedBuffer D) := by
  constructor <;> simp [create]

theorem storeLidar_eq (b : MeasurementBuffer D) (scan : LidarScan D) :
    b.storeLidar scan = store scanStart b.config.rejectTimestampRegression b.lidarScans scan := by
  unfold MeasurementBuffer.storeLidar store
  cases b.lidarScans.getLast? with
  | none => rfl
  | some back => exact if_congr Iff.rfl rfl rfl

theorem storeImu_eq (b : MeasurementBuffer D) (sample : ImuSample D) :
    b.storeImu sample = store imuTime b.config.rejectTimestampRegression b.imuSamples sample := by
  unfold MeasurementBuffer.storeImu store
  cases b.imuSamples.getLast? with
  | none => rfl
  | some back => exact if_congr Iff.rfl rfl rfl

end

theorem Kept.step (h : Kept b) (push : BufferPush D) : Kept (b.step push).1 := by
  cases step_pushed b push with
  | rejected _ hBuffer =>
    constructor <;> rw [hBuffer]
    · exact h.start
    · exact h.stop
    · exact h.imu
    · exact h.imuFrontier
    · exact h.lidarFrontier
    · exact h.imuCapacity
    · exact h.lidarCapacity
  | @scan scan v w _ hValid hRoom hStart hEnd hBuffer =>
    obtain ⟨hConfig, ⟨newest, hNewest, hDomain, hReached⟩, hMoved⟩ := TimestampValidator.validate_ok hStart
    obtain ⟨hEndConfig, -⟩ := TimestampValidator.validate_ok hEnd
    obtain ⟨-, -, hScan⟩ := LidarScan.interval hValid
    constructor <;> rw [hBuffer]
    · exact hConfig.trans h.start
    · exact hEndConfig.trans h.stop
    · exact h.imu
    · exact h.imuFrontier
    · intro other hOther
      rcases MeasurementBuffer.mem_storeLidar.mp hOther with rfl | hOther
      · exact ⟨hScan, newest, hNewest, hDomain.symm, hReached⟩
      · obtain ⟨hInterval, last, hLast, hSame, hBefore⟩ := h.lidarFrontier other hOther
        obtain ⟨-, ⟨next, hNext, hKept, hLater⟩, -⟩ := hMoved last hLast
        exact ⟨hInterval, next, hNext, hSame.trans hKept.symm, hBefore.trans hLater⟩
    · exact h.imuCapacity
    · show (b.buffer.storeLidar scan).length ≤ b.buffer.config.maximumLidarScans
      rw [storeLidar_eq, length_store]
      omega
  | @sample sample v _ hValid hRoom hTime hBuffer =>
    obtain ⟨hConfig, ⟨newest, hNewest, hDomain, hReached⟩, hMoved⟩ := TimestampValidator.validate_ok hTime
    constructor <;> rw [hBuffer]
    · exact h.start
    · exact h.stop
    · exact hConfig.trans h.imu
    · intro other hOther
      rcases MeasurementBuffer.mem_storeImu.mp hOther with rfl | hOther
      · exact ⟨newest, hNewest, hDomain.symm, hReached⟩
      · obtain ⟨last, hLast, hSame, hBefore⟩ := h.imuFrontier other hOther
        obtain ⟨-, ⟨next, hNext, hKept, hLater⟩, -⟩ := hMoved last hLast
        exact ⟨next, hNext, hSame.trans hKept.symm, hBefore.trans hLater⟩
    · exact h.lidarFrontier
    · show (b.buffer.storeImu sample).length ≤ b.buffer.config.maximumImuSamples
      rw [storeImu_eq, length_store]
      omega
    · exact h.lidarCapacity

omit [FloatOps D] in
theorem Kept.represents (h : Kept b) (hImu : Increasing imuTime b.buffer.imuSamples)
    (hLidar : Increasing scanStart b.buffer.lidarScans) : b.buffer.Represents where
  imuIncreasing := hImu
  lidarIncreasing := hLidar
  imuDomain := by
    refine ⟨(b.buffer.imuValidator.lastTimestamp.getD {}).clockDomain, ?_⟩
    intro sample hSample
    obtain ⟨last, hLast, hSame, -⟩ := h.imuFrontier sample hSample
    rw [Option.mem_def.mp hLast]
    exact hSame
  lidarDomain := by
    refine ⟨(b.buffer.lidarStartValidator.lastTimestamp.getD {}).clockDomain, ?_⟩
    intro scan hScan
    obtain ⟨hInterval, last, hLast, hSame, -⟩ := h.lidarFrontier scan hScan
    rw [hInterval, Option.mem_def.mp hLast]
    exact ⟨hSame, hSame⟩
  imuCapacity := h.imuCapacity
  lidarCapacity := h.lidarCapacity

section Strict
variable {scan queuedScan : LidarScan D} {sample queuedSample : ImuSample D} {v : TimestampValidator}

omit [FloatOps D]

theorem Kept.scan_later (h : Kept b) (hStrict : b.buffer.config.rejectTimestampRegression = true)
    (hStart : b.buffer.lidarStartValidator.validate scan.startTime = .ok v)
    (hQueued : queuedScan ∈ b.buffer.lidarScans) : scanStart queuedScan < scanStart scan := by
  obtain ⟨-, -, hMoved⟩ := TimestampValidator.validate_ok hStart
  obtain ⟨-, last, hLast, -, hBefore⟩ := h.lidarFrontier queuedScan hQueued
  obtain ⟨-, -, hAfter⟩ := hMoved last hLast
  have hLater := hAfter (by rw [h.start]; exact hStrict) (by rw [h.start]; rfl)
  exact lt_of_le_of_lt hBefore hLater

theorem Kept.sample_later (h : Kept b) (hStrict : b.buffer.config.rejectTimestampRegression = true)
    (hTime : b.buffer.imuValidator.validate sample.time = .ok v)
    (hQueued : queuedSample ∈ b.buffer.imuSamples) : imuTime queuedSample < imuTime sample := by
  obtain ⟨-, -, hMoved⟩ := TimestampValidator.validate_ok hTime
  obtain ⟨last, hLast, -, hBefore⟩ := h.imuFrontier queuedSample hQueued
  obtain ⟨-, -, hAfter⟩ := hMoved last hLast
  have hLater := hAfter (by rw [h.imu]; exact hStrict) (by rw [h.imu]; rfl)
  exact lt_of_le_of_lt hBefore hLater

end Strict

theorem Kept.increasing (h : Kept b) (hImu : Increasing imuTime b.buffer.imuSamples)
    (hLidar : Increasing scanStart b.buffer.lidarScans) (hFresh : ¬b.buffer.Repeats push) :
    Increasing imuTime (b.step push).1.buffer.imuSamples ∧
      Increasing scanStart (b.step push).1.buffer.lidarScans := by
  cases step_pushed b push with
  | rejected _ hBuffer =>
    rw [hBuffer]
    exact ⟨hImu, hLidar⟩
  | @scan scan v w _ hValid hRoom hStart hEnd hBuffer =>
    rw [hBuffer]
    refine ⟨hImu, ?_⟩
    rw [storeLidar_eq]
    apply hLidar.store
    · intro queued hQueued hSame
      exact hFresh ⟨hValid, hRoom, ⟨v, hStart⟩, ⟨w, hEnd⟩, queued, hQueued, hSame⟩
    · exact fun hStrict queued hQueued => h.scan_later hStrict hStart hQueued
  | @sample sample v _ hValid hRoom hTime hBuffer =>
    rw [hBuffer]
    refine ⟨?_, hLidar⟩
    rw [storeImu_eq]
    apply hImu.store
    · intro queued hQueued hSame
      exact hFresh ⟨hValid, hRoom, ⟨v, hTime⟩, queued, hQueued, hSame⟩
    · exact fun hStrict queued hQueued => h.sample_later hStrict hTime hQueued

theorem not_represents_of_repeats (hRepeats : b.buffer.Repeats push) :
    ¬(b.step push).1.buffer.Represents := by
  intro hRepresents
  cases push with
  | lidar scan =>
    obtain ⟨hValid, hRoom, ⟨v, hStart⟩, ⟨w, hEnd⟩, queued, hQueued, hSame⟩ := hRepeats
    have hPushed : b.buffer.pushLidar scan = ({ b.buffer with
        lidarScans := b.buffer.storeLidar scan
        lidarStartValidator := v
        lidarEndValidator := w }, .ok ()) := by
      unfold MeasurementBuffer.pushLidar
      rw [hValid]
      rw [if_neg (by omega), hStart]
      rw [hEnd]
    have hBuffer := congrArg Prod.fst ((pushLidar_buffer b scan).trans hPushed)
    have hIncreasing := hRepresents.lidarIncreasing
    rw [show (b.step (.lidar scan)).1.buffer = _ from hBuffer] at hIncreasing
    rw [storeLidar_eq] at hIncreasing
    exact hIncreasing.of_store queued hQueued hSame
  | imu sample =>
    obtain ⟨hValid, hRoom, ⟨v, hTime⟩, queued, hQueued, hSame⟩ := hRepeats
    have hPushed : b.buffer.pushImu sample = ({ b.buffer with
        imuSamples := b.buffer.storeImu sample
        imuValidator := v }, .ok ()) := by
      unfold MeasurementBuffer.pushImu
      rw [hValid]
      rw [if_neg (by omega), hTime]
    have hBuffer := congrArg Prod.fst ((pushImu_buffer b sample).trans hPushed)
    have hIncreasing := hRepresents.imuIncreasing
    rw [show (b.step (.imu sample)).1.buffer = _ from hBuffer] at hIncreasing
    rw [storeImu_eq] at hIncreasing
    exact hIncreasing.of_store queued hQueued hSame

section Statistics
variable (status : Status) (stats : MeasurementBufferStats)

@[simp] theorem accountTimestampError_acceptedLidar :
    (accountTimestampError status stats).acceptedLidarScans = stats.acceptedLidarScans := by
  unfold accountTimestampError
  split
  · rfl
  · split <;> rfl

@[simp] theorem accountTimestampError_rejectedLidar :
    (accountTimestampError status stats).rejectedLidarScans = stats.rejectedLidarScans := by
  unfold accountTimestampError
  split
  · rfl
  · split <;> rfl

@[simp] theorem accountTimestampError_acceptedImu :
    (accountTimestampError status stats).acceptedImuSamples = stats.acceptedImuSamples := by
  unfold accountTimestampError
  split
  · rfl
  · split <;> rfl

@[simp] theorem accountTimestampError_rejectedImu :
    (accountTimestampError status stats).rejectedImuSamples = stats.rejectedImuSamples := by
  unfold accountTimestampError
  split
  · rfl
  · split <;> rfl

end Statistics

variable {pushes : List (BufferPush D)}

theorem pushLidar_accounts (h : Accounts pushes b.stats) (scan : LidarScan D) :
    Accounts (pushes ++ [.lidar scan]) (b.pushLidar scan).1.stats := by
  have hLidar := h.lidar
  have hImu := h.imu
  fun_cases pushLidar
  case case2 => constructor <;> simp [rejectLidar, rejectFull] <;> omega
  case case5 => constructor <;> simp <;> omega
  all_goals constructor <;> simp [rejectLidar] <;> omega

theorem pushImu_accounts (h : Accounts pushes b.stats) (sample : ImuSample D) :
    Accounts (pushes ++ [.imu sample]) (b.pushImu sample).1.stats := by
  have hLidar := h.lidar
  have hImu := h.imu
  fun_cases pushImu
  case case2 => constructor <;> simp [rejectImu, rejectFull] <;> omega
  case case4 => constructor <;> simp <;> omega
  all_goals constructor <;> simp [rejectImu] <;> omega

theorem law_of_fresh {config : MeasurementBufferConfig}
    (hFresh : ∀ e ∈ events step (create config) pushes, ¬e.before.buffer.Repeats e.op) :
    BufferLaw (create config) pushes := by
  have hPrefix {past future : List (BufferPush D)} (hPushes : pushes = past ++ future) :
      ∀ e ∈ events step (create config) past, ¬e.before.buffer.Repeats e.op := by
    intro e he
    apply hFresh
    rw [hPushes, events_append]
    exact List.mem_append_left _ he
  refine ⟨?_, ?_, ?_⟩
  · intro past future hPushes
    have hRun : Kept (run step (create config) past) ∧
        Increasing imuTime (run step (create config) past).buffer.imuSamples ∧
        Increasing scanStart (run step (create config) past).buffer.lidarScans := by
      apply run_guarded (P := fun b : AccountedBuffer D => Kept b ∧
          Increasing imuTime b.buffer.imuSamples ∧ Increasing scanStart b.buffer.lidarScans)
        (Q := fun e => ¬e.before.buffer.Repeats e.op) _ _ (hPrefix hPushes)
      · exact fun _ push hb hFresh =>
          ⟨hb.1.step push, hb.1.increasing hb.2.1 hb.2.2 hFresh⟩
      · exact ⟨create_kept config, List.Pairwise.nil, List.Pairwise.nil⟩
    exact hRun.1.represents hRun.2.1 hRun.2.2
  · intro e he status hRejected
    obtain ⟨past, push, future, -, rfl⟩ := exists_split_of_mem_events he
    exact step_rejected hRejected
  · intro past future _
    apply run_history step (P := fun past b => Accounts past b.stats)
    · constructor <;> rfl
    · intro past push h
      cases push with
      | lidar scan => exact pushLidar_accounts h scan
      | imu sample => exact pushImu_accounts h sample

/-- The law of a run of pushes holds exactly when none of them repeats a queued time. -/
theorem buffer_law_iff (config : MeasurementBufferConfig) (pushes : List (BufferPush D)) :
    BufferLaw (create config) pushes ↔
      ∀ e ∈ events step (create config) pushes, ¬e.before.buffer.Repeats e.op := by
  refine ⟨?_, law_of_fresh⟩
  intro hLaw e he hRepeats
  obtain ⟨past, push, future, rfl, rfl⟩ := exists_split_of_mem_events he
  have hAfter := hLaw.represents (past ++ [push]) future (by simp)
  rw [run_concat] at hAfter
  exact not_represents_of_repeats hRepeats hAfter

/-- Without regressions in time the newest queued time is the newest accepted one, and a push that
repeats a queued time is refused. -/
theorem buffer_law_strict {config : MeasurementBufferConfig}
    (hStrict : config.rejectTimestampRegression = true) (pushes : List (BufferPush D)) :
    BufferLaw (create config) pushes := by
  refine law_of_fresh fun e he hRepeats => ?_
  obtain ⟨past, push, future, -, rfl⟩ := exists_split_of_mem_events he
  have hStep (b : AccountedBuffer D) (push : BufferPush D) (h : Kept b ∧ b.buffer.config = config) :
      Kept (b.step push).1 ∧ (b.step push).1.buffer.config = config := by
    refine ⟨h.1.step push, ?_⟩
    cases step_pushed b push <;> rename_i hBuffer <;> rw [hBuffer] <;> exact h.2
  obtain ⟨hKept, hConfig⟩ := run_invariant hStep ⟨create_kept config, rfl⟩ past
  rw [← hConfig] at hStrict
  cases push with
  | lidar scan =>
    obtain ⟨-, -, ⟨v, hStart⟩, -, queued, hQueued, hSame⟩ := hRepeats
    exact absurd hSame (hKept.scan_later hStrict hStart hQueued).ne
  | imu sample =>
    obtain ⟨-, -, ⟨v, hTime⟩, queued, hQueued, hSame⟩ := hRepeats
    exact absurd hSame (hKept.sample_later hStrict hTime hQueued).ne

/-- Four samples while regressions are permitted, the last one with the time of the third. -/
def repeatedSamples : List (BufferPush (ExactReal ℚ)) :=
  [.imu (sampleAt (.rosTime 1)), .imu (sampleAt (.rosTime 3)), .imu (sampleAt (.rosTime 2)),
    .imu (sampleAt (.rosTime 2))]

theorem buffer_law_strict_repeated :
    BufferLaw (create { rejectTimestampRegression := true }) repeatedSamples :=
  buffer_law_strict rfl repeatedSamples

/-- The repeated time lies behind the frontier, so the validator lets it pass. -/
theorem repeated_time_queued_twice :
    ¬BufferLaw (create { rejectTimestampRegression := false }) repeatedSamples := by
  intro hLaw
  have hIncreasing := (hLaw.represents repeatedSamples [] rfl).imuIncreasing
  have hPairs : ([1, 2, 2, 3] : List Int).Pairwise (· < ·) := by
    exact List.pairwise_map.mpr hIncreasing
  exact absurd hPairs (by decide)

end AccountedBuffer

end UavNavigation.FastLio
