import UavNavigation.ScanTiling

/-!
# When the buffered streams can still be answered

Samples leave the buffer only when a scan is answered, and a scan that ends
after the newest sample waits for one more. With the sample queue full that
sample is never admitted. `CanContinue` is the exact condition, on the queues
and the epoch alone, under which some further input gets the next scan answered.
-/

namespace UavNavigation.FastLio

open OrderedQueues Runs List

set_option autoImplicit false

variable {D : Type} [Floating D]

namespace SensorFeed

/-- The input is later than everything its stream accepted, and in the domain of the run. -/
def InOrder (domain : ClockDomain) (f : SensorFeed D) : FeedCall D → Prop
  | .pushImu x => x.time.clockDomain = domain ∧
      ∀ last ∈ f.buffer.imuValidator.lastTimestamp, last.nanoseconds < imuTime x
  | .pushLidar scan =>
      scan.startTime.clockDomain = domain ∧ scan.endTime.clockDomain = domain ∧
      (∀ last ∈ f.buffer.lidarStartValidator.lastTimestamp, last.nanoseconds < scanStart scan) ∧
      ∀ last ∈ f.buffer.lidarEndValidator.lastTimestamp, last.nanoseconds < scan.endTime.nanoseconds
  | .synchronizeNext => True

instance (domain : ClockDomain) (f : SensorFeed D) (call : FeedCall D) :
    Decidable (InOrder domain f call) :=
  match call with
  | .pushImu x => inferInstanceAs (Decidable (x.time.clockDomain = domain ∧
      ∀ last ∈ f.buffer.imuValidator.lastTimestamp, last.nanoseconds < imuTime x))
  | .pushLidar scan => inferInstanceAs (Decidable (
      scan.startTime.clockDomain = domain ∧ scan.endTime.clockDomain = domain ∧
      (∀ last ∈ f.buffer.lidarStartValidator.lastTimestamp, last.nanoseconds < scanStart scan) ∧
      ∀ last ∈ f.buffer.lidarEndValidator.lastTimestamp,
        last.nanoseconds < scan.endTime.nanoseconds))
  | .synchronizeNext => inferInstanceAs (Decidable True)

/-- Some further inputs, all of them accepted, get the next scan answered. -/
def Continues (domain : ClockDomain) (f : SensorFeed D) : Prop :=
  ∃ arrivals : List (FeedCall D),
    (∀ e ∈ events step f arrivals, InOrder domain e.before e.op ∧ e.result = .pushed (.ok ())) ∧
    (run step f arrivals).synchronizeNext.2 ≠ .waiting

/-- A scan over this interval would be answered with the samples that are queued. -/
def Answerable (f : SensorFeed D) (startNs endNs : Int) : Prop :=
  (∃ x ∈ f.imu.getLast?, endNs ≤ imuTime x) ∨ (∃ x ∈ f.imu.head?, startNs < imuTime x) ∨
    ∃ t ∈ f.epoch, startNs < t.nanoseconds

def HasRoom (f : SensorFeed D) : Prop := f.imu.length < f.buffer.config.maximumImuSamples

instance (f : SensorFeed D) (startNs endNs : Int) : Decidable (Answerable f startNs endNs) := by
  unfold Answerable
  infer_instance

instance (f : SensorFeed D) : Decidable (HasRoom f) := by
  unfold HasRoom
  infer_instance

structure CanFollow (f : SensorFeed D) (startNs endNs : Int) : Prop where
  positive : 0 < startNs
  interval : startNs ≤ endNs
  representable : endNs ≤ maxInt64
  start : ∀ last ∈ f.buffer.lidarStartValidator.lastTimestamp, last.nanoseconds < startNs
  stop : ∀ last ∈ f.buffer.lidarEndValidator.lastTimestamp, last.nanoseconds < endNs

/-- There is room for a sample, or the front scan needs none. With no scan queued the same is
asked of some scan that can still be pushed. -/
def CanContinue (f : SensorFeed D) : Prop :=
  match f.scans with
  | scan :: _ => HasRoom f ∨ Answerable f scan.startTime.nanoseconds scan.endTime.nanoseconds
  | [] => ∃ startNs endNs, CanFollow f startNs endNs ∧ (HasRoom f ∨ Answerable f startNs endNs)

/-! ## Runs in one clock domain -/

structure Feeding (domain : ClockDomain) (f : SensorFeed D) : Prop where
  sound : Sound f
  startValidator : f.buffer.lidarStartValidator.config = validatorConfig f.buffer.config
  endValidator : f.buffer.lidarEndValidator.config = validatorConfig f.buffer.config
  imu : ∀ x ∈ f.imu, x.time.clockDomain = domain
  scans : ∀ scan ∈ f.scans, scan.startTime.clockDomain = domain
  epoch : ∀ t ∈ f.epoch, t.clockDomain = domain
  newest : ∀ last ∈ f.buffer.imuValidator.lastTimestamp, last.clockDomain = domain ∧
    ∃ x ∈ f.imu.getLast?, imuTime x = last.nanoseconds
  starts : ∀ last ∈ f.buffer.lidarStartValidator.lastTimestamp, last.clockDomain = domain
  ends : ∀ last ∈ f.buffer.lidarEndValidator.lastTimestamp, last.clockDomain = domain
  queued : ∀ scan ∈ f.scans, ∃ last ∈ f.buffer.lidarStartValidator.lastTimestamp,
    scanStart scan ≤ last.nanoseconds

theorem validate_inOrder {v : TimestampValidator} {config : MeasurementBufferConfig}
    {t : Timestamp} (hConfig : v.config = validatorConfig config)
    (hLater : ∀ last ∈ v.lastTimestamp, last.clockDomain = t.clockDomain ∧
      last.nanoseconds < t.nanoseconds) :
    v.validate t = .ok { v with lastTimestamp := some t } := by
  have hExpected : v.config.expectedClockDomain = none := by rw [hConfig]; rfl
  unfold TimestampValidator.validate
  rw [hExpected, if_neg (by simp)]
  cases hLast : v.lastTimestamp with
  | none => rfl
  | some last =>
    obtain ⟨hDomain, hLess⟩ := hLater last hLast
    have hSame : t.sameClockDomain last = true := Timestamp.sameClockDomain_iff.mpr hDomain.symm
    have hAhead : ¬(t.nanoseconds < last.nanoseconds ∨ t.nanoseconds = last.nanoseconds ∧
        v.config.allowEqualTimestamps = false) := by omega
    dsimp only
    rw [hSame, if_neg (by simp), if_neg hAhead]

variable {domain : ClockDomain} {f : SensorFeed D} {x : ImuSample D} {scan : LidarScan D}

section
variable (h : Feeding domain f) (hOrder : InOrder domain f (.pushImu x))
include h hOrder

theorem Feeding.imu_later : ∀ y ∈ f.imu, imuTime y < imuTime x := by
  intro y hy
  obtain ⟨last, hLast, -, hLe⟩ := h.sound.frontier y hy
  exact lt_of_le_of_lt hLe (hOrder.2 last hLast)

theorem Feeding.validate_imu : f.buffer.imuValidator.validate x.time =
      .ok { f.buffer.imuValidator with lastTimestamp := some x.time } := by
  apply validate_inOrder h.sound.validator
  intro last hLast
  exact ⟨(h.newest last hLast).1.trans hOrder.1.symm, hOrder.2 last hLast⟩

theorem Feeding.storeImu : f.buffer.storeImu x = f.imu ++ [x] := by
  unfold MeasurementBuffer.storeImu
  split
  · rename_i hNone
    unfold SensorFeed.imu
    rw [List.getLast?_eq_none_iff.mp hNone]
    rfl
  · rename_i back hBack
    exact if_pos (.inr (h.imu_later hOrder back (mem_of_mem_getLast? hBack)))

end

theorem Feeding.storeLidar (h : Feeding domain f) (hOrder : InOrder domain f (.pushLidar scan)) :
    f.buffer.storeLidar scan = f.scans ++ [scan] := by
  unfold MeasurementBuffer.storeLidar
  split
  · rename_i hNone
    unfold SensorFeed.scans
    rw [List.getLast?_eq_none_iff.mp hNone]
    rfl
  · rename_i back hBack
    obtain ⟨last, hLast, hLe⟩ := h.queued back (mem_of_mem_getLast? hBack)
    exact if_pos (.inr (lt_of_le_of_lt hLe (hOrder.2.2.1 last hLast)))

theorem Feeding.pushImu (h : Feeding domain f) (hOrder : InOrder domain f (.pushImu x)) :
    Feeding domain (f.step (.pushImu x)).1 := by
  have hSound := h.sound.step (.pushImu x)
  rcases f.buffer.pushImu_cases x with ⟨status, hRefused⟩ | ⟨-, -, v, hValid, hStored⟩
  · have hStep : (f.step (.pushImu x)).1 = f := by simp [SensorFeed.step, hRefused]
    rw [hStep]
    exact h
  rw [h.validate_imu hOrder] at hValid
  cases hValid
  have hStep : (f.step (.pushImu x)).1 = { f with buffer := { f.buffer with
      imuSamples := f.imu ++ [x]
      imuValidator := { f.buffer.imuValidator with lastTimestamp := some x.time } } } := by
    simp [SensorFeed.step, hStored, h.storeImu hOrder]
  rw [hStep] at hSound ⊢
  refine ⟨hSound, h.startValidator, h.endValidator, ?_, h.scans, h.epoch, ?_, h.starts, h.ends,
    h.queued⟩
  · intro y hy
    rcases mem_append.mp hy with hy | hy
    · exact h.imu y hy
    · rw [mem_singleton.mp hy]
      exact hOrder.1
  · intro last hLast
    cases hLast
    refine ⟨hOrder.1, x, ?_, rfl⟩
    simp [SensorFeed.imu]

theorem Feeding.validate_lidar (h : Feeding domain f)
    (hOrder : InOrder domain f (.pushLidar scan)) :
    f.buffer.lidarStartValidator.validate scan.startTime =
        .ok { f.buffer.lidarStartValidator with lastTimestamp := some scan.startTime } ∧
      f.buffer.lidarEndValidator.validate scan.endTime =
        .ok { f.buffer.lidarEndValidator with lastTimestamp := some scan.endTime } := by
  obtain ⟨hStartDomain, hEndDomain, hStart, hEnd⟩ := hOrder
  constructor
  · apply validate_inOrder h.startValidator
    intro last hLast
    exact ⟨(h.starts last hLast).trans hStartDomain.symm, hStart last hLast⟩
  · apply validate_inOrder h.endValidator
    intro last hLast
    exact ⟨(h.ends last hLast).trans hEndDomain.symm, hEnd last hLast⟩

def withScan (f : SensorFeed D) (scan : LidarScan D) : SensorFeed D :=
  { f with buffer := { f.buffer with
    lidarScans := f.scans ++ [scan]
    lidarStartValidator := { f.buffer.lidarStartValidator with lastTimestamp := some scan.startTime }
    lidarEndValidator := { f.buffer.lidarEndValidator with lastTimestamp := some scan.endTime } } }

theorem Feeding.step_pushLidar (h : Feeding domain f)
    (hOrder : InOrder domain f (.pushLidar scan)) :
    (∃ status, f.step (.pushLidar scan) = (f, .pushed (.error status))) ∨
      scan.fault = none ∧ f.step (.pushLidar scan) = (f.withScan scan, .pushed (.ok ())) := by
  rcases f.buffer.pushLidar_cases scan with
    ⟨status, hRefused⟩ | ⟨hFault, -, v, w, hStart, hEnd, hStored⟩
  · exact .inl ⟨status, by simp [SensorFeed.step, hRefused]⟩
  obtain ⟨hStart', hEnd'⟩ := h.validate_lidar hOrder
  rw [hStart'] at hStart
  rw [hEnd'] at hEnd
  cases hStart
  cases hEnd
  refine .inr ⟨hFault, ?_⟩
  simp [SensorFeed.step, hStored, h.storeLidar hOrder, withScan]

theorem Feeding.pushLidar (h : Feeding domain f) (hOrder : InOrder domain f (.pushLidar scan)) :
    Feeding domain (f.step (.pushLidar scan)).1 := by
  have hSound := h.sound.step (.pushLidar scan)
  rcases h.step_pushLidar hOrder with ⟨status, hStep⟩ | ⟨-, hStep⟩
  · rw [hStep]
    exact h
  rw [hStep] at hSound ⊢
  refine ⟨hSound, h.startValidator, h.endValidator, h.imu, ?_, h.epoch, h.newest, ?_, ?_, ?_⟩
  · intro other hOther
    rcases mem_append.mp hOther with hOther | hOther
    · exact h.scans other hOther
    · rw [mem_singleton.mp hOther]
      exact hOrder.1
  · intro last hLast
    cases hLast
    exact hOrder.1
  · intro last hLast
    cases hLast
    exact hOrder.2.1
  · intro other hOther
    refine ⟨scan.startTime, rfl, ?_⟩
    rcases mem_append.mp hOther with hOther | hOther
    · obtain ⟨last, hLast, hLe⟩ := h.queued other hOther
      exact le_trans hLe (le_of_lt (hOrder.2.2.1 last hLast))
    · rw [mem_singleton.mp hOther]
      exact le_refl _

theorem Feeding.popped {n : Nat} {s : MeasurementSynchronizer} {rest : List (LidarScan D)}
    (h : Feeding domain f) (hFront : f.scans = scan :: rest) (hKept : n < f.imu.length ∨ n = 0)
    (hSound : Sound ⟨{ f.buffer with lidarScans := rest, imuSamples := f.imu.drop n }, s⟩)
    (hEpoch : ∀ t ∈ s.lastSynchronizedEndTime, t.clockDomain = domain) :
    Feeding domain ⟨{ f.buffer with lidarScans := rest, imuSamples := f.imu.drop n }, s⟩ := by
  have hRest : ∀ other ∈ rest, other ∈ f.scans := by
    intro other hOther
    rw [hFront]
    exact mem_cons_of_mem _ hOther
  refine ⟨hSound, h.startValidator, h.endValidator, ?_, ?_, hEpoch, ?_, h.starts, h.ends, ?_⟩
  · intro y hy
    exact h.imu y (mem_of_mem_drop hy)
  · intro other hOther
    exact h.scans other (hRest other hOther)
  · intro last hLast
    obtain ⟨hDomain, y, hy, hTime⟩ := h.newest last hLast
    refine ⟨hDomain, y, ?_, hTime⟩
    change y ∈ (f.imu.drop n).getLast?
    rcases hKept with hKept | rfl
    · rw [List.getLast?_drop, if_neg (by omega)]
      exact hy
    · exact hy
  · intro other hOther
    exact h.queued other (hRest other hOther)

theorem Feeding.front_domain {rest : List (LidarScan D)} (h : Feeding domain f)
    (hFront : f.scans = scan :: rest) : scan.startTime.clockDomain = domain := by
  apply h.scans
  rw [hFront]
  exact mem_cons_self

theorem Feeding.synchronizeNext (h : Feeding domain f) : Feeding domain f.synchronizeNext.1 := by
  have hAnswered := synchronizeNext_answered h.sound
  have hSound := h.sound.synchronizeNext
  generalize f.synchronizeNext.1 = f' at hAnswered hSound
  generalize f.synchronizeNext.2 = result at hAnswered
  cases hAnswered with
  | idle => exact h
  | waiting => exact h
  | @refused scan rest s status hFront hConfig hEpoch =>
    apply h.popped (n := 0) hFront (.inr rfl) hSound
    rw [hEpoch]
    exact h.epoch
  | @gap scan rest start bracket stop gap hFront hBracket hStop hGap hLong =>
    apply h.popped hFront _ hSound
    · intro t ht
      cases ht
      exact h.front_domain hFront
    · have hPositive := f.synchronizer.config.positive
      obtain ⟨y, hy, -⟩ := hBracket.cut_head h.sound hGap (by omega)
      refine .inl ?_
      by_contra hNone
      rw [drop_eq_nil_of_le (not_lt.mp hNone)] at hy
      cases hy
  | @group scan rest start bracket stop gap hasStart hasEnd hFront hBracket hStop =>
    apply h.popped hFront (.inl (by omega)) hSound
    intro t ht
    cases ht
    rw [(LidarScan.interval hBracket.valid).2.2]
    exact h.front_domain hFront

theorem Feeding.step {call : FeedCall D} (h : Feeding domain f) (hOrder : InOrder domain f call) :
    Feeding domain (f.step call).1 := by
  cases call with
  | pushImu x => exact h.pushImu hOrder
  | pushLidar scan => exact h.pushLidar hOrder
  | synchronizeNext => exact h.synchronizeNext

section Front
variable {rest : List (LidarScan D)}

theorem Feeding.answered_iff (h : Feeding domain f) (hFront : f.scans = scan :: rest) :
    f.synchronizeNext.2 ≠ .waiting ↔
      Answerable f scan.startTime.nanoseconds scan.endTime.nanoseconds := by
  have hAnswered := synchronizeNext_answered h.sound
  have hDomain := h.front_domain hFront
  generalize f.synchronizeNext.1 = f' at hAnswered
  generalize f.synchronizeNext.2 = result at hAnswered ⊢
  cases hAnswered with
  | idle hIdle =>
    have hImu : f.imu = [] := by
      rcases hIdle with hScans | hImu
      · rw [hFront] at hScans
        cases hScans
      · exact hImu
    refine ⟨fun hWaits => absurd rfl hWaits, ?_⟩
    rintro (⟨y, hy, -⟩ | ⟨y, hy, -⟩ | ⟨t, ht, -⟩)
    · rw [hImu] at hy
      cases hy
    · rw [hImu] at hy
      cases hy
    · obtain ⟨y, hy, -⟩ := h.sound.epoch t ht
      rw [hImu] at hy
      cases hy
  | @waiting other rest' start bracket hFront' hBracket =>
    rw [hFront] at hFront'
    cases hFront'
    refine ⟨fun hWaits => absurd rfl hWaits, ?_⟩
    rintro (⟨y, hy, hEnd⟩ | ⟨y, hy, hStart⟩ | ⟨t, ht, hStart⟩)
    · have hLast : f.imu.length - 1 < f.imu.length := by
        have := hBracket.bracket_lt
        omega
      rw [List.getLast?_eq_getElem?, List.getElem?_eq_getElem hLast] at hy
      cases hy
      have hBelow := hBracket.lt_stop (by have := hBracket.bracket_lt; omega) hLast hLast
      omega
    · have hPos := hBracket.scanBracket
      cases hImu : f.imu with
      | nil => rw [hImu] at hy; cases hy
      | cons z samples =>
        rw [hImu] at hy hPos
        cases hy
        have := OrderedQueues.upperBound_pos.mp hPos
        omega
    · have hNotAfter := hBracket.notAfter
      rw [hBracket.isStart, ht] at hNotAfter
      exact absurd hStart (not_lt.mpr hNotAfter)
  | @refused other rest' s status hFront' hConfig hEpoch hBracket hReason =>
    rw [hFront] at hFront'
    cases hFront'
    refine ⟨fun _ => ?_, fun _ => nofun⟩
    rcases hReason (fun y hy => (h.imu y hy).trans hDomain.symm)
      (fun t ht => (h.epoch t ht).trans hDomain.symm) with hEarly | hEarly
    · exact .inr (.inr hEarly)
    · exact .inr (.inl hEarly)
  | @gap other rest' start bracket stop gap hFront' hBracket hStop =>
    rw [hFront] at hFront'
    cases hFront'
    exact ⟨fun _ => .inl (hBracket.reaches h.sound hStop), fun _ => nofun⟩
  | @group other rest' start bracket stop gap hasStart hasEnd hFront' hBracket hStop =>
    rw [hFront] at hFront'
    cases hFront'
    exact ⟨fun _ => .inl (hBracket.reaches h.sound hStop), fun _ => nofun⟩

theorem waits_without_scan (hSound : Sound f) (hNone : f.scans = []) :
    f.synchronizeNext.2 = .waiting := by
  have hAnswered := synchronizeNext_answered hSound
  generalize f.synchronizeNext.1 = f' at hAnswered
  generalize f.synchronizeNext.2 = result at hAnswered ⊢
  cases hAnswered with
  | idle => rfl
  | waiting => rfl
  | refused hFront => rw [hNone] at hFront; cases hFront
  | gap hFront => rw [hNone] at hFront; cases hFront
  | group hFront => rw [hNone] at hFront; cases hFront

theorem sampleAt_valid {time : Timestamp} (h : 0 < time.nanoseconds) :
    (sampleAt time : ImuSample D).fault = none := by
  unfold ImuSample.fault sampleAt
  rw [if_neg (not_le.mpr h)]
  simp [Vec3.allFinite, Vec3.zero, Floating.isFinite_zero]

theorem Feeding.step_pushImu (h : Feeding domain f) (hOrder : InOrder domain f (.pushImu x))
    (hValid : x.fault = none) (hRoom : HasRoom f) :
    f.step (.pushImu x) = ({ f with buffer := { f.buffer with
      imuSamples := f.imu ++ [x]
      imuValidator := { f.buffer.imuValidator with lastTimestamp := some x.time } } },
      .pushed (.ok ())) := by
  have hLength : ¬f.buffer.config.maximumImuSamples ≤ f.buffer.imuSamples.length :=
    not_le.mpr hRoom
  have hStored : f.buffer.pushImu x = ({ f.buffer with
      imuSamples := f.imu ++ [x]
      imuValidator := { f.buffer.imuValidator with lastTimestamp := some x.time } }, .ok ()) := by
    unfold MeasurementBuffer.pushImu
    rw [hValid]
    dsimp only
    rw [if_neg hLength, h.validate_imu hOrder]
    dsimp only
    rw [h.storeImu hOrder]
  simp [SensorFeed.step, hStored]

theorem Feeding.continues_of_front (h : Feeding domain f) (hFront : f.scans = scan :: rest)
    (hCan : HasRoom f ∨ Answerable f scan.startTime.nanoseconds scan.endTime.nanoseconds) :
    Continues domain f := by
  by_cases hAnswerable : Answerable f scan.startTime.nanoseconds scan.endTime.nanoseconds
  · exact ⟨[], by simp, (h.answered_iff hFront).mpr hAnswerable⟩
  have hRoom : HasRoom f := hCan.resolve_right hAnswerable
  have hFault : scan.fault = none := h.sound.scans scan (by rw [hFront]; exact mem_cons_self)
  obtain ⟨hPositive, hInterval, hDomain⟩ := LidarScan.interval hFault
  -- one sample at the end of the scan is enough, and it is later than every accepted one
  have hOrder : InOrder domain f (.pushImu (sampleAt scan.endTime)) := by
    refine ⟨hDomain.trans (h.front_domain hFront), ?_⟩
    intro last hLast
    obtain ⟨-, y, hy, hTime⟩ := h.newest last hLast
    by_contra hLate
    exact hAnswerable (.inl ⟨y, hy, by rw [hTime]; exact not_lt.mp hLate⟩)
  have hStep := h.step_pushImu hOrder (sampleAt_valid (by omega)) hRoom
  have hAfter := h.pushImu hOrder
  refine ⟨[.pushImu (sampleAt scan.endTime)], ?_, ?_⟩
  · intro e he
    rw [events_cons, events_nil, mem_singleton] at he
    subst he
    exact ⟨hOrder, by rw [eventAt_result, hStep]⟩
  · rw [run_cons, run_nil]
    have hScans : (f.step (.pushImu (sampleAt scan.endTime))).1.scans = scan :: rest := by
      rw [hStep]
      exact hFront
    apply (hAfter.answered_iff hScans).mpr
    refine .inl ⟨sampleAt scan.endTime, ?_, le_refl _⟩
    rw [hStep]
    simp [SensorFeed.imu]

end Front

theorem scanOver_valid {startTime endTime : Timestamp}
    (hDomain : endTime.clockDomain = startTime.clockDomain) (hPositive : 0 < startTime.nanoseconds)
    (hInterval : startTime.nanoseconds ≤ endTime.nanoseconds) :
    (scanOver startTime endTime : LidarScan D).fault = none := by
  unfold LidarScan.fault scanOver
  rw [if_neg (by dsimp only; omega), checkedDifference_of_nonneg hDomain (by omega) (by omega)]
  dsimp only
  rw [if_neg (by simp; omega)]
  simp [LidarScan.pointFault, Vec3.allFinite, Vec3.zero, Floating.isFinite_zero]

theorem Feeding.accepts_scan (h : Feeding domain f) (hOrder : InOrder domain f (.pushLidar scan))
    (hValid : scan.fault = none) (hNone : f.scans = []) :
    f.step (.pushLidar scan) = (f.withScan scan, .pushed (.ok ())) := by
  have hStored : f.buffer.pushLidar scan = ((f.withScan scan).buffer, .ok ()) := by
    have hPositive := f.buffer.config.lidarPositive
    have hEmpty : f.buffer.lidarScans.length = 0 := by
      have hScans : f.buffer.lidarScans = [] := hNone
      rw [hScans]
      rfl
    obtain ⟨hStart, hEnd⟩ := h.validate_lidar hOrder
    unfold MeasurementBuffer.pushLidar
    rw [hValid]
    rw [if_neg (by omega), hStart]
    rw [hEnd]
    rw [h.storeLidar hOrder]
    rfl
  simp [SensorFeed.step, hStored, withScan]

theorem Continues.cons {call : FeedCall D} (hOrder : InOrder domain f call)
    (hAccepted : (f.step call).2 = .pushed (.ok ())) (h : Continues domain (f.step call).1) :
    Continues domain f := by
  obtain ⟨arrivals, hArrivals, hAnswered⟩ := h
  refine ⟨call :: arrivals, ?_, hAnswered⟩
  intro e he
  rcases mem_cons.mp he with rfl | he
  · exact ⟨hOrder, hAccepted⟩
  · exact hArrivals e he

theorem Feeding.continues (h : Feeding domain f) (hCan : CanContinue f) : Continues domain f := by
  unfold CanContinue at hCan
  cases hScans : f.scans with
  | cons scan rest =>
    rw [hScans] at hCan
    exact h.continues_of_front hScans hCan
  | nil =>
    rw [hScans] at hCan
    obtain ⟨startNs, endNs, hFollow, hCan⟩ := hCan
    have hInterval := hFollow.interval
    have hUpper := hFollow.representable
    have hPositive := hFollow.positive
    let startTime : Timestamp := ⟨startNs, domain, by unfold minInt64; omega, by omega⟩
    let endTime : Timestamp := ⟨endNs, domain, by unfold minInt64; omega, hUpper⟩
    have hOrder : InOrder domain f (.pushLidar (scanOver startTime endTime)) :=
      ⟨rfl, rfl, hFollow.start, hFollow.stop⟩
    have hValid : (scanOver startTime endTime : LidarScan D).fault = none :=
      scanOver_valid rfl hPositive hInterval
    have hStep := h.accepts_scan hOrder hValid hScans
    apply Continues.cons hOrder (by rw [hStep])
    have hAfter := h.pushLidar hOrder
    rw [hStep] at hAfter ⊢
    have hFront : (f.withScan (scanOver startTime endTime)).scans =
        scanOver startTime endTime :: [] := by
      change f.scans ++ [scanOver startTime endTime] = _
      rw [hScans]
      rfl
    exact hAfter.continues_of_front hFront hCan

/-! ## No input helps -/

variable {arrivals : List (FeedCall D)}

theorem refuses_imu (hFull : ¬HasRoom f) (x : ImuSample D) :
    (f.step (.pushImu x)).2 ≠ .pushed (.ok ()) := by
  rcases f.buffer.pushImu_cases x with ⟨status, hRefused⟩ | ⟨-, hRoom, -⟩
  · simp [SensorFeed.step, hRefused]
  · exact absurd hRoom hFull

section
variable {rest : List (LidarScan D)} (h : Feeding domain f)
include h

theorem Feeding.stuck_run (hFull : ¬HasRoom f) (hFront : f.scans = scan :: rest)
    (hArrivals : ∀ e ∈ events SensorFeed.step f arrivals, InOrder domain e.before e.op ∧ e.result = .pushed (.ok ())) :
    Feeding domain (run SensorFeed.step f arrivals) ∧ (run SensorFeed.step f arrivals).imu = f.imu ∧
      (run SensorFeed.step f arrivals).epoch = f.epoch ∧
      ∃ rest, (run SensorFeed.step f arrivals).scans = scan :: rest := by
  induction arrivals generalizing f rest with
  | nil => exact ⟨h, rfl, rfl, rest, hFront⟩
  | cons call arrivals ih =>
    obtain ⟨hOrder, hAccepted⟩ := hArrivals _ mem_cons_self
    have hRest := fun e he => hArrivals e (mem_cons_of_mem _ he)
    cases call with
    | pushImu x => exact absurd hAccepted (refuses_imu hFull x)
    | synchronizeNext => cases hAccepted
    | pushLidar other =>
      rcases h.step_pushLidar hOrder with ⟨status, hStep⟩ | ⟨-, hStep⟩
      · rw [eventAt_result, hStep] at hAccepted
        cases hAccepted
      have hAfter := h.pushLidar hOrder
      rw [run_cons]
      rw [hStep] at hAfter hRest ⊢
      have hFront' : (f.withScan other).scans = scan :: (rest ++ [other]) := by
        change f.scans ++ [other] = _
        rw [hFront]
        rfl
      exact ih hAfter hFull hFront' hRest

theorem Feeding.front_can_continue
    (hFront : f.scans = scan :: rest) (hContinues : Continues domain f) :
    HasRoom f ∨ Answerable f scan.startTime.nanoseconds scan.endTime.nanoseconds := by
  by_cases hRoom : HasRoom f
  · exact .inl hRoom
  obtain ⟨arrivals, hArrivals, hAnswered⟩ := hContinues
  obtain ⟨hAfter, hImu, hEpoch, rest', hFront'⟩ := h.stuck_run hRoom hFront hArrivals
  have hNow := (hAfter.answered_iff hFront').mp hAnswered
  unfold Answerable at hNow
  rw [hImu, hEpoch] at hNow
  exact .inr hNow

theorem Feeding.next_can_continue (hNone : f.scans = [])
    (hArrivals : ∀ e ∈ events SensorFeed.step f arrivals, InOrder domain e.before e.op ∧ e.result = .pushed (.ok ()))
    (hAnswered : (run SensorFeed.step f arrivals).synchronizeNext.2 ≠ .waiting) :
    ∃ startNs endNs, CanFollow f startNs endNs ∧ (HasRoom f ∨ Answerable f startNs endNs) := by
  induction arrivals generalizing f with
  | nil => exact absurd (waits_without_scan h.sound hNone) hAnswered
  | cons call arrivals ih =>
    obtain ⟨hOrder, hAccepted⟩ := hArrivals _ mem_cons_self
    have hRest := fun e he => hArrivals e (mem_cons_of_mem _ he)
    cases call with
    | synchronizeNext => cases hAccepted
    | pushImu x =>
      have hRoom : HasRoom f := by
        by_contra hFull
        exact refuses_imu hFull x hAccepted
      have hScans : (f.step (.pushImu x)).1.scans = f.scans ∧
          (f.step (.pushImu x)).1.buffer.lidarStartValidator = f.buffer.lidarStartValidator ∧
          (f.step (.pushImu x)).1.buffer.lidarEndValidator = f.buffer.lidarEndValidator := by
        rcases f.buffer.pushImu_cases x with ⟨status, hRefused⟩ | ⟨-, -, v, -, hStored⟩
        · simp [SensorFeed.step, hRefused, SensorFeed.scans]
        · simp [SensorFeed.step, hStored, SensorFeed.scans]
      obtain ⟨startNs, endNs, hFollow, -⟩ :=
        ih (h.pushImu hOrder) (hScans.1.trans hNone) hRest hAnswered
      refine ⟨startNs, endNs, ?_, .inl hRoom⟩
      have hStart := hFollow.start
      have hStop := hFollow.stop
      rw [hScans.2.1] at hStart
      rw [hScans.2.2] at hStop
      exact ⟨hFollow.positive, hFollow.interval, hFollow.representable, hStart, hStop⟩
    | pushLidar scan =>
      rcases h.step_pushLidar hOrder with ⟨status, hStep⟩ | ⟨hFault, hStep⟩
      · rw [eventAt_result, hStep] at hAccepted
        cases hAccepted
      have hAfter := h.pushLidar hOrder
      rw [run_cons] at hAnswered
      rw [hStep] at hAfter hRest hAnswered
      have hFront : (f.withScan scan).scans = scan :: [] := by
        change f.scans ++ [scan] = _
        rw [hNone]
        rfl
      obtain ⟨hPositive, hInterval, -⟩ := LidarScan.interval hFault
      exact ⟨_, _, ⟨hPositive, hInterval, scan.endTime.upper, hOrder.2.2.1, hOrder.2.2.2⟩,
        hAfter.front_can_continue hFront ⟨arrivals, hRest, hAnswered⟩⟩

theorem Feeding.can_continue (hContinues : Continues domain f) : CanContinue f := by
  unfold CanContinue
  cases hScans : f.scans with
  | cons scan rest => exact h.front_can_continue hScans hContinues
  | nil =>
    obtain ⟨arrivals, hArrivals, hAnswered⟩ := hContinues
    exact h.next_can_continue hScans hArrivals hAnswered

end

theorem create_feeding (domain : ClockDomain) (bufferConfig : MeasurementBufferConfig)
    (synchronizerConfig : MeasurementSynchronizerConfig) :
    Feeding domain (create bufferConfig synchronizerConfig : SensorFeed D) where
  sound := create_sound bufferConfig synchronizerConfig
  startValidator := rfl
  endValidator := rfl
  imu := by simp [SensorFeed.imu, create]
  scans := by simp [SensorFeed.scans, create]
  epoch := by simp [SensorFeed.epoch, create]
  newest := by simp [create]
  starts := by simp [create]
  ends := by simp [create]
  queued := by simp [SensorFeed.scans, create]

theorem run_feeding {bufferConfig : MeasurementBufferConfig}
    {synchronizerConfig : MeasurementSynchronizerConfig} {calls : List (FeedCall D)}
    (hOrder : ∀ e ∈ events step (create bufferConfig synchronizerConfig) calls,
      InOrder domain e.before e.op) :
    Feeding domain (run step (create bufferConfig synchronizerConfig) calls) :=
  run_guarded (fun _ _ h hOrder => h.step hOrder)
    (create_feeding domain bufferConfig synchronizerConfig) hOrder

/-- In every state that in-order inputs of one clock domain reach, some further input gets the
next scan answered exactly when the sample queue has room, or the front scan (with none
queued: some scan that can still be pushed) needs no sample that is not there. -/
theorem continues_iff_can_continue (domain : ClockDomain) (bufferConfig : MeasurementBufferConfig)
    (synchronizerConfig : MeasurementSynchronizerConfig) (calls : List (FeedCall D))
    (hOrder : ∀ e ∈ events step (create bufferConfig synchronizerConfig) calls,
      InOrder domain e.before e.op) :
    Continues domain (run step (create bufferConfig synchronizerConfig) calls) ↔
      CanContinue (run step (create bufferConfig synchronizerConfig) calls) :=
  ⟨(run_feeding hOrder).can_continue, (run_feeding hOrder).continues⟩

def lateScanCalls : List (FeedCall (ExactReal ℚ)) :=
  [.pushImu (sampleAt (.rosTime 10)), .pushImu (sampleAt (.rosTime 20)),
    .pushLidar (scanOver (.rosTime 15) (.rosTime 30)), .synchronizeNext]

theorem continues_iff_can_continue_lateScan :
    (∀ e ∈ events step (create {} {}) lateScanCalls, InOrder .rosTime e.before e.op) ∧
      (Continues .rosTime (run step (create {} {}) lateScanCalls) ↔
        CanContinue (run step (create {} {}) lateScanCalls)) :=
  ⟨by decide +kernel, continues_iff_can_continue .rosTime {} {} lateScanCalls (by decide +kernel)⟩

/-- With room for two samples only, the late scan waits for a sample the full queue refuses. -/
theorem late_scan_wedged : (∀ e ∈ events step (create { maximumImuSamples := 2 } {}) lateScanCalls,
      InOrder .rosTime e.before e.op) ∧
    (run step (create { maximumImuSamples := 2 } {}) lateScanCalls).synchronizeNext.2 = .waiting ∧
    ¬Continues .rosTime (run step (create { maximumImuSamples := 2 } {}) lateScanCalls) := by
  have hOrder : ∀ e ∈ events step (create { maximumImuSamples := 2 } {}) lateScanCalls,
      InOrder .rosTime e.before e.op := by decide +kernel
  refine ⟨hOrder, by decide +kernel, ?_⟩
  intro hContinues
  have hFront : (run step (create { maximumImuSamples := 2 } {}) lateScanCalls).scans =
      [scanOver { nanoseconds := 15 } { nanoseconds := 30 }] := by decide +kernel
  have hCan := (run_feeding hOrder).front_can_continue hFront hContinues
  exact absurd hCan (by decide +kernel)

end SensorFeed

end UavNavigation.FastLio
