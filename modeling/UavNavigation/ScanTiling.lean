import UavNavigation.ExactReals
import UavNavigation.MeasurementBuffer
import UavNavigation.Runs

/-!
# Synchronized groups tile time

A run pushes samples and scans and asks for groups in any order. The accepted
samples form one stream, of which the buffer holds the newest part. Every group
is a piece of that stream, its propagation starts where the previous answer
ended, and every accepted scan is answered once and in order.
-/

namespace UavNavigation.FastLio

open OrderedQueues Runs List

set_option autoImplicit false

variable {D : Type} [FloatOps D]

inductive FeedCall (D : Type) where
  | pushImu (sample : ImuSample D)
  | pushLidar (scan : LidarScan D)
  | synchronizeNext

inductive FeedAnswer (D : Type) where
  | pushed (status : Except Status Unit)
  | synchronized (result : SynchronizationResult D)

namespace SensorFeed

def step (f : SensorFeed D) : FeedCall D → SensorFeed D × FeedAnswer D
  | .pushImu sample =>
    ({ f with buffer := (f.buffer.pushImu sample).1 }, .pushed (f.buffer.pushImu sample).2)
  | .pushLidar scan =>
    ({ f with buffer := (f.buffer.pushLidar scan).1 }, .pushed (f.buffer.pushLidar scan).2)
  | .synchronizeNext => (f.synchronizeNext.1, .synchronized f.synchronizeNext.2)

theorem Sound.step {f : SensorFeed D} (hf : Sound f) (call : FeedCall D) :
    Sound (f.step call).1 := by
  cases call with
  | pushImu sample => exact hf.pushImu sample
  | pushLidar scan => exact hf.pushLidar scan
  | synchronizeNext => exact hf.synchronizeNext

end SensorFeed

abbrev FeedEvent (D : Type) := Event (SensorFeed D) (FeedCall D) (FeedAnswer D)

def acceptedSample (e : FeedEvent D) : Option (ImuSample D) :=
  match e.op, e.result with
  | .pushImu sample, .pushed (.ok ()) => some sample
  | _, _ => none

def acceptedScan (e : FeedEvent D) : Option (LidarScan D) :=
  match e.op, e.result with
  | .pushLidar scan, .pushed (.ok ()) => some scan
  | _, _ => none

def outcome (e : FeedEvent D) : Option (LidarScan D × SynchronizationResult D) :=
  match e.result with
  | .synchronized .waiting => none
  | .synchronized result => e.before.scans.head?.map fun scan => (scan, result)
  | .pushed _ => none

def SynchronizationResult.Concerns (scan : LidarScan D) : SynchronizationResult D → Prop
  | .waiting => False
  | .group g => g.scan = scan
  | .discontinuity d => d.scanStart = scan.startTime ∧ d.scanEnd = scan.endTime
  | .error _ => True

def reportedEnd (e : FeedEvent D) : Option Timestamp :=
  match e.result with
  | .synchronized (.group g) => some g.scan.endTime
  | .synchronized (.discontinuity d) => some d.resumeTime
  | _ => none

/-- The group is the piece of the stream around its propagation. -/
structure Spans (stream : List (ImuSample D)) (maximumGapNs : Int) (g : MeasurementGroup D) :
    Prop where
  piece : ∃ before after first last, stream = before ++ g.imuSamples ++ after ∧
    g.imuSamples.head? = some first ∧ g.imuSamples.getLast? = some last ∧
    imuTime first ≤ g.propagationStartTime.nanoseconds ∧
    (∀ x ∈ g.imuSamples.tail ++ after, g.propagationStartTime.nanoseconds < imuTime x) ∧
    (∀ x ∈ before ++ g.imuSamples.dropLast, imuTime x < g.scan.endTime.nanoseconds) ∧
    g.scan.endTime.nanoseconds ≤ imuTime last
  increasing : Increasing imuTime g.imuSamples
  domain : ∀ x ∈ g.imuSamples, x.time.clockDomain = g.scan.startTime.clockDomain
  gaps : g.imuSamples.IsChain fun a b => imuTime b - imuTime a ≤ maximumGapNs
  start : g.propagationStartTime.clockDomain = g.scan.startTime.clockDomain ∧
    g.propagationStartTime.nanoseconds ≤ g.scan.startTime.nanoseconds

/-- What a run that ends in `f` owes to the samples and scans it accepted. -/
structure TilesTime (maximumGapNs : Int) (es : List (FeedEvent D)) (f : SensorFeed D) : Prop where
  groups : ∀ e ∈ es, ∀ g, e.result = .synchronized (.group g) →
    Spans (es.filterMap acceptedSample) maximumGapNs g
  chained : ∀ before first between second after t g,
    es = before ++ first :: (between ++ second :: after) → reportedEnd first = some t →
    (∀ e ∈ between, reportedEnd e = none) → second.result = .synchronized (.group g) →
    g.propagationStartTime = t
  kept : ∃ erased, es.filterMap acceptedSample = erased ++ f.imu ∧
    ∀ t ∈ f.epoch, ∃ x ∈ f.imu.head?, imuTime x ≤ t.nanoseconds
  bracketed : ∀ e ∈ es, ∀ status, e.result = .synchronized (.error status) →
    status.code = .missingStartBracket → e.before.epoch = none
  resolved : (es.filterMap outcome).map Prod.fst ++ f.scans = es.filterMap acceptedScan
  concerned : ∀ answer ∈ es.filterMap outcome, answer.2.Concerns answer.1

/-! ## The history of a run -/

namespace MeasurementBuffer
variable {b : MeasurementBuffer D}

omit [FloatOps D]

theorem storeImu_append (hReject : b.config.rejectTimestampRegression = true) (x : ImuSample D) :
    b.storeImu x = b.imuSamples ++ [x] := by
  unfold storeImu
  split
  · rename_i hNone
    rw [List.getLast?_eq_none_iff.mp hNone]
    rfl
  · rw [if_pos (.inl hReject)]

theorem storeLidar_append (hReject : b.config.rejectTimestampRegression = true)
    (scan : LidarScan D) : b.storeLidar scan = b.lidarScans ++ [scan] := by
  unfold storeLidar
  split
  · rename_i hNone
    rw [List.getLast?_eq_none_iff.mp hNone]
    rfl
  · rw [if_pos (.inl hReject)]

end MeasurementBuffer

namespace SensorFeed

/-- What the events so far say about the state they led to. -/
structure History (es : List (FeedEvent D)) (f : SensorFeed D) : Prop where
  sound : Sound f
  rejects : f.buffer.config.rejectTimestampRegression = true
  stream : ∃ erased, es.filterMap acceptedSample = erased ++ f.imu
  increasing : Increasing imuTime (es.filterMap acceptedSample)
  frontier : ∀ x ∈ es.filterMap acceptedSample, ∃ last ∈ f.buffer.imuValidator.lastTimestamp,
    imuTime x ≤ last.nanoseconds
  resolved : (es.filterMap outcome).map Prod.fst ++ f.scans = es.filterMap acceptedScan
  concerned : ∀ answer ∈ es.filterMap outcome, answer.2.Concerns answer.1

variable {f : SensorFeed D} {es : List (FeedEvent D)} {bufferConfig : MeasurementBufferConfig}

theorem History.silent {f' : SensorFeed D} {e : FeedEvent D} (h : History es f) (hf : Sound f')
    (hConfig : f'.buffer.config = f.buffer.config) (hImu : f'.imu = f.imu)
    (hValidator : f'.buffer.imuValidator = f.buffer.imuValidator) (hScans : f'.scans = f.scans)
    (hSample : acceptedSample e = none) (hScan : acceptedScan e = none)
    (hOutcome : outcome e = none) : History (es ++ [e]) f' := by
  have hSamples : (es ++ [e]).filterMap acceptedSample = es.filterMap acceptedSample := by
    simp [hSample]
  have hOutcomes : (es ++ [e]).filterMap outcome = es.filterMap outcome := by simp [hOutcome]
  have hAccepted : (es ++ [e]).filterMap acceptedScan = es.filterMap acceptedScan := by
    simp [hScan]
  constructor
  case sound => exact hf
  case rejects => rw [hConfig]; exact h.rejects
  case stream => rw [hSamples, hImu]; exact h.stream
  case increasing => rw [hSamples]; exact h.increasing
  case frontier => rw [hSamples, hValidator]; exact h.frontier
  case resolved => rw [hOutcomes, hAccepted, hScans]; exact h.resolved
  case concerned => rw [hOutcomes]; exact h.concerned

theorem History.pushImu (h : History es f) (x : ImuSample D) :
    History (es ++ [eventAt step f (.pushImu x)]) (f.step (.pushImu x)).1 := by
  have hSound := h.sound.step (.pushImu x)
  rcases f.buffer.pushImu_cases x with ⟨status, hRefused⟩ | ⟨-, -, v, hValid, hStored⟩
  · have hStep : f.step (.pushImu x) = (f, .pushed (.error status)) := by
      simp [SensorFeed.step, hRefused]
    unfold eventAt
    rw [hStep]
    exact h.silent h.sound rfl rfl rfl rfl rfl rfl rfl
  have hStep : f.step (.pushImu x) = ({ f with buffer := { f.buffer with
      imuSamples := f.imu ++ [x], imuValidator := v } }, .pushed (.ok ())) := by
    simp [SensorFeed.step, hStored, MeasurementBuffer.storeImu_append h.rejects]
  obtain ⟨-, ⟨last, hLast, -, hBelow⟩, hKept⟩ := TimestampValidator.validate_ok hValid
  have hSamples : (es ++ [eventAt step f (.pushImu x)]).filterMap acceptedSample =
      es.filterMap acceptedSample ++ [x] := by
    simp [acceptedSample, eventAt, hStep]
  have hOutcomes : (es ++ [eventAt step f (.pushImu x)]).filterMap outcome =
      es.filterMap outcome := by simp [outcome, eventAt, hStep]
  have hAccepted : (es ++ [eventAt step f (.pushImu x)]).filterMap acceptedScan =
      es.filterMap acceptedScan := by simp [acceptedScan, eventAt]
  rw [hStep] at hSound ⊢
  constructor
  case sound => exact hSound
  case rejects => exact h.rejects
  case stream =>
    obtain ⟨erased, hErased⟩ := h.stream
    refine ⟨erased, ?_⟩
    rw [hSamples, hErased, append_assoc]
  case increasing =>
    rw [hSamples]
    apply h.increasing.concat
    intro y hy
    obtain ⟨old, hOld, hy⟩ := h.frontier y hy
    obtain ⟨-, -, hStrict⟩ := hKept old hOld
    rw [h.sound.validator] at hStrict
    exact lt_of_le_of_lt hy (hStrict h.rejects rfl)
  case frontier =>
    rw [hSamples]
    intro y hy
    rcases mem_append.mp hy with hy | hy
    · obtain ⟨old, hOld, hy⟩ := h.frontier y hy
      obtain ⟨-, ⟨next, hNext, -, hLe⟩, -⟩ := hKept old hOld
      exact ⟨next, hNext, le_trans hy hLe⟩
    · rw [mem_singleton.mp hy]
      exact ⟨last, hLast, hBelow⟩
  case resolved => rw [hOutcomes, hAccepted]; exact h.resolved
  case concerned => rw [hOutcomes]; exact h.concerned

theorem History.pushLidar (h : History es f) (scan : LidarScan D) :
    History (es ++ [eventAt step f (.pushLidar scan)]) (f.step (.pushLidar scan)).1 := by
  have hSound := h.sound.step (.pushLidar scan)
  rcases f.buffer.pushLidar_cases scan with ⟨status, hRefused⟩ | ⟨-, -, v, w, -, -, hStored⟩
  · have hStep : f.step (.pushLidar scan) = (f, .pushed (.error status)) := by
      simp [SensorFeed.step, hRefused]
    unfold eventAt
    rw [hStep]
    exact h.silent h.sound rfl rfl rfl rfl rfl rfl rfl
  have hStep : f.step (.pushLidar scan) = ({ f with buffer := { f.buffer with
      lidarScans := f.scans ++ [scan], lidarStartValidator := v, lidarEndValidator := w } },
      .pushed (.ok ())) := by
    simp [SensorFeed.step, hStored, MeasurementBuffer.storeLidar_append h.rejects]
  have hSamples : (es ++ [eventAt step f (.pushLidar scan)]).filterMap acceptedSample =
      es.filterMap acceptedSample := by simp [acceptedSample, eventAt]
  have hOutcomes : (es ++ [eventAt step f (.pushLidar scan)]).filterMap outcome =
      es.filterMap outcome := by simp [outcome, eventAt, hStep]
  have hAccepted : (es ++ [eventAt step f (.pushLidar scan)]).filterMap acceptedScan =
      es.filterMap acceptedScan ++ [scan] := by simp [acceptedScan, eventAt, hStep]
  rw [hStep] at hSound ⊢
  constructor
  case sound => exact hSound
  case rejects => exact h.rejects
  case stream => rw [hSamples]; exact h.stream
  case increasing => rw [hSamples]; exact h.increasing
  case frontier => rw [hSamples]; exact h.frontier
  case resolved =>
    rw [hOutcomes, hAccepted, ← h.resolved, append_assoc]
  case concerned => rw [hOutcomes]; exact h.concerned

theorem History.popped {f' : SensorFeed D} {e : FeedEvent D} {scan : LidarScan D}
    {rest : List (LidarScan D)} {n : Nat} {result : SynchronizationResult D} (h : History es f)
    (hf : Sound f') (hFront : f.scans = scan :: rest) (hConfig : f'.buffer.config = f.buffer.config)
    (hImu : f'.imu = f.imu.drop n) (hValidator : f'.buffer.imuValidator = f.buffer.imuValidator)
    (hScans : f'.scans = rest) (hSample : acceptedSample e = none) (hScan : acceptedScan e = none)
    (hOutcome : outcome e = some (scan, result)) (hConcerns : result.Concerns scan) :
    History (es ++ [e]) f' := by
  have hSamples : (es ++ [e]).filterMap acceptedSample = es.filterMap acceptedSample := by
    simp [hSample]
  have hOutcomes : (es ++ [e]).filterMap outcome = es.filterMap outcome ++ [(scan, result)] := by
    simp [hOutcome]
  have hAccepted : (es ++ [e]).filterMap acceptedScan = es.filterMap acceptedScan := by
    simp [hScan]
  constructor
  case sound => exact hf
  case rejects => rw [hConfig]; exact h.rejects
  case stream =>
    obtain ⟨erased, hErased⟩ := h.stream
    refine ⟨erased ++ f.imu.take n, ?_⟩
    rw [hSamples, hImu, hErased, append_assoc, take_append_drop]
  case increasing => rw [hSamples]; exact h.increasing
  case frontier => rw [hSamples, hValidator]; exact h.frontier
  case resolved =>
    rw [hOutcomes, hAccepted, hScans, ← h.resolved, hFront]
    simp
  case concerned =>
    rw [hOutcomes]
    intro answer hAnswer
    rcases mem_append.mp hAnswer with hAnswer | hAnswer
    · exact h.concerned answer hAnswer
    · rw [mem_singleton.mp hAnswer]
      exact hConcerns

omit [FloatOps D] in
theorem outcome_eq {e : FeedEvent D} {scan : LidarScan D} {rest : List (LidarScan D)}
    {result : SynchronizationResult D} (hFront : e.before.scans = scan :: rest)
    (hResult : e.result = .synchronized result) (hAnswered : result ≠ .waiting) :
    outcome e = some (scan, result) := by
  unfold outcome
  rw [hResult, hFront]
  cases result with
  | waiting => exact absurd rfl hAnswered
  | group g => rfl
  | discontinuity d => rfl
  | error status => rfl

theorem eventAt_synchronizeNext (f : SensorFeed D) : eventAt step f .synchronizeNext =
      ⟨f, .synchronizeNext, .synchronized f.synchronizeNext.2, f.synchronizeNext.1⟩ := rfl

theorem History.synchronizeNext (h : History es f) :
    History (es ++ [eventAt step f .synchronizeNext]) (f.step .synchronizeNext).1 := by
  have hAnswered := synchronizeNext_answered h.sound
  have hSound := h.sound.synchronizeNext
  rw [eventAt_synchronizeNext]
  change History _ f.synchronizeNext.1
  generalize f.synchronizeNext.1 = f' at hAnswered hSound
  generalize f.synchronizeNext.2 = result at hAnswered
  cases hAnswered with
  | idle => exact h.silent h.sound rfl rfl rfl rfl rfl rfl rfl
  | waiting => exact h.silent h.sound rfl rfl rfl rfl rfl rfl rfl
  | @refused scan rest s status hFront =>
    exact h.popped (n := 0) hSound hFront rfl rfl rfl rfl rfl rfl
      (outcome_eq hFront rfl nofun) trivial
  | @gap scan rest start bracket stop gap hFront =>
    exact h.popped hSound hFront rfl rfl rfl rfl rfl rfl (outcome_eq hFront rfl nofun) ⟨rfl, rfl⟩
  | @group scan rest start bracket stop gap hasStart hasEnd hFront =>
    exact h.popped hSound hFront rfl rfl rfl rfl rfl rfl (outcome_eq hFront rfl nofun) rfl

section
variable (hReject : bufferConfig.rejectTimestampRegression = true)
  (synchronizerConfig : MeasurementSynchronizerConfig)
include hReject

theorem create_history : History [] (create bufferConfig synchronizerConfig : SensorFeed D) where
  sound := create_sound bufferConfig synchronizerConfig
  rejects := hReject
  stream := ⟨[], rfl⟩
  increasing := List.Pairwise.nil
  frontier := by simp
  resolved := rfl
  concerned := by simp

theorem run_history (calls : List (FeedCall D)) :
    History (events step (create bufferConfig synchronizerConfig) calls)
      (run step (create bufferConfig synchronizerConfig) calls) := by
  induction calls using List.reverseRecOn with
  | nil => exact create_history hReject synchronizerConfig
  | append_singleton calls call ih =>
    rw [events_concat, run_concat]
    cases call with
    | pushImu sample => exact ih.pushImu sample
    | pushLidar scan => exact ih.pushLidar scan
    | synchronizeNext => exact ih.synchronizeNext

end

section Spanning
variable {scan : LidarScan D} {start : Timestamp} {bracket stop : Nat}
  {erased later : List (ImuSample D)}

theorem Bracketed.before_end (h : Bracketed f scan start bracket stop)
    (hStop : stop < f.imu.length) (hRising : Increasing imuTime (erased ++ f.imu))
    {x : ImuSample D} (hx : x ∈ erased ++ f.imu.take stop) :
    imuTime x < scan.endTime.nanoseconds := by
  have hImu : Increasing imuTime f.imu := hRising.sublist (sublist_append_right _ _)
  have hBracket := h.bracket_lt
  have hFirst : imuTime f.imu[bracket] ≤ scan.endTime.nanoseconds :=
    le_trans (h.bracket_at hBracket) h.start_le_end
  rcases mem_append.mp hx with hx | hx
  · have hMem : f.imu[bracket] ∈ f.imu := getElem_mem _
    exact lt_of_lt_of_le (hRising.lt_of_append hx hMem) hFirst
  · obtain ⟨i, hi, rfl⟩ := getElem_of_mem hx
    rw [length_take] at hi
    rw [getElem_take]
    by_cases hInside : bracket ≤ i
    · exact h.lt_stop hInside (by omega) (by omega)
    · exact lt_of_lt_of_le (hImu.getElem_lt (by omega) h.bracket_lt) hFirst

theorem Bracketed.after_start (h : Bracketed f scan start bracket stop) (hf : Sound f)
    (hStop : stop < f.imu.length) (hRising : Increasing imuTime (f.imu ++ later))
    {x : ImuSample D} (hx : x ∈ f.imu.drop (bracket + 1) ++ later) :
    start.nanoseconds < imuTime x := by
  rcases mem_append.mp hx with hx | hx
  · exact h.start_lt hf hx
  · have hLast : imuTime f.imu[stop] < imuTime x :=
      hRising.lt_of_append (getElem_mem _) hx
    exact lt_of_le_of_lt (le_trans h.start_le_end (h.le_stop hStop)) hLast

theorem Bracketed.spans {gap : ImuGap} {stream : List (ImuSample D)} {hasStart hasEnd : Bool}
    (h : Bracketed f scan start bracket stop) (hf : Sound f) (hStop : stop < f.imu.length)
    (hGap : largestGap {} (f.span bracket stop) = .ok gap)
    (hShort : gap.durationNs ≤ f.synchronizer.config.maximumImuGapNs)
    (hStream : stream = erased ++ f.imu ++ later) (hRising : Increasing imuTime stream) :
    Spans stream f.synchronizer.config.maximumImuGapNs
      ⟨scan, f.span bracket stop, start, hasStart, hasEnd, gap.durationNs⟩ := by
  have hLe := h.bracket_le
  have hBracket := h.bracket_lt
  have hFirst : f.span bracket stop =
      f.imu[bracket] :: (f.imu.drop (bracket + 1)).take (stop - bracket) := span_eq_cons hBracket
  have hLast := span_eq_concat hLe hStop
  have hRisingLate : Increasing imuTime (f.imu ++ later) := by
    apply hRising.sublist
    rw [hStream, append_assoc]
    exact sublist_append_right _ _
  have hRisingEarly : Increasing imuTime (erased ++ f.imu) := by
    apply hRising.sublist
    rw [hStream]
    exact sublist_append_left _ _
  constructor
  case piece =>
    refine ⟨erased ++ f.imu.take bracket, f.imu.drop (stop + 1) ++ later,
      f.imu[bracket], f.imu[stop], ?_, ?_, ?_, h.bracket_at hBracket, ?_, ?_,
      h.le_stop hStop⟩
    · rw [hStream]
      conv_lhs => rw [imu_eq_span hLe]
      simp only [append_assoc]
    · rw [hFirst]
      rfl
    · rw [hLast]
      simp
    · intro x hx
      apply h.after_start hf hStop hRisingLate
      have hTail : (f.span bracket stop).tail ++ f.imu.drop (stop + 1) =
          f.imu.drop (bracket + 1) := by
        have hRest : f.imu.drop (stop + 1) = (f.imu.drop (bracket + 1)).drop (stop - bracket) := by
          rw [drop_drop]
          congr 1
          omega
        rw [hFirst, tail_cons, hRest, take_append_drop]
      rw [← hTail, append_assoc]
      exact hx
    · intro x hx
      apply h.before_end hStop hRisingEarly
      have hInit : f.imu.take bracket ++ (f.span bracket stop).dropLast = f.imu.take stop := by
        rw [hLast, dropLast_concat]
        conv_rhs => rw [← Nat.add_sub_cancel' hLe, take_add]
      rw [← hInit, ← append_assoc]
      exact hx
  case increasing =>
    apply hRisingEarly.sublist
    apply List.Sublist.trans _ (sublist_append_right _ _)
    exact (take_sublist _ _).trans (drop_sublist _ _)
  case domain =>
    intro x hx
    have hHead : f.imu.head? = some f.imu[0] := List.head?_eq_getElem? ▸ List.getElem?_eq_getElem _
    rw [← h.domain _ hHead]
    exact hf.domain (mem_span hx) (getElem_mem _)
  case gaps =>
    apply (largestGap_ok hGap).2.1.imp
    intro a b hGapAt
    exact le_trans hGapAt hShort
  case start => exact ⟨h.startDomain, h.notAfter⟩

end Spanning

/-! ## The epoch along a run -/

variable {call : FeedCall D}

theorem epoch_step (hf : Sound f) (call : FeedCall D) :
    (f.step call).1.epoch = (reportedEnd (eventAt step f call)).or f.epoch := by
  cases call with
  | pushImu sample => rfl
  | pushLidar scan => rfl
  | synchronizeNext =>
    have hAnswered := synchronizeNext_answered hf
    rw [eventAt_synchronizeNext]
    change f.synchronizeNext.1.epoch = _
    generalize f.synchronizeNext.1 = f' at hAnswered
    generalize f.synchronizeNext.2 = result at hAnswered
    cases hAnswered with
    | idle => rfl
    | waiting => rfl
    | refused hFront hConfig hEpoch => exact hEpoch
    | gap => rfl
    | group => rfl

theorem run_sound (hf : Sound f) (calls : List (FeedCall D)) : Sound (run step f calls) :=
  run_invariant (fun _ call hf => hf.step call) hf calls

theorem epoch_run (hf : Sound f) {calls : List (FeedCall D)}
    (hQuiet : ∀ e ∈ events step f calls, reportedEnd e = none) :
    (run step f calls).epoch = f.epoch := by
  induction calls generalizing f with
  | nil => rfl
  | cons call calls ih =>
    have hFirst := hQuiet _ mem_cons_self
    have hRest := ih (hf.step call) fun e he => hQuiet e (mem_cons_of_mem _ he)
    rw [run_cons, hRest, epoch_step hf, hFirst]
    rfl

theorem group_start (hf : Sound f) {g : MeasurementGroup D}
    (hGroup : (eventAt step f call).result = .synchronized (.group g)) :
    g.propagationStartTime = f.epoch.getD g.scan.startTime := by
  cases call with
  | pushImu sample => cases hGroup
  | pushLidar scan => cases hGroup
  | synchronizeNext =>
    have hAnswered := synchronizeNext_answered hf
    rw [FeedAnswer.synchronized.inj hGroup] at hAnswered
    generalize f.synchronizeNext.1 = f' at hAnswered
    cases hAnswered with
    | group hFront hBracket => exact hBracket.isStart

theorem missing_start_bracket (hf : Sound f) {status : Status}
    (hError : (eventAt step f call).result = .synchronized (.error status))
    (hCode : status.code = .missingStartBracket) : f.epoch = none := by
  cases call with
  | pushImu sample => cases hError
  | pushLidar scan => cases hError
  | synchronizeNext =>
    have hAnswered := synchronizeNext_answered hf
    rw [FeedAnswer.synchronized.inj hError] at hAnswered
    generalize f.synchronizeNext.1 = f' at hAnswered
    cases hAnswered with
    | refused hFront hConfig hEpoch hBracket => exact hBracket hCode

theorem group_spans (h : History es f) {g : MeasurementGroup D} {later : List (ImuSample D)}
    (hGroup : (eventAt step f call).result = .synchronized (.group g))
    (hRising : Increasing imuTime (es.filterMap acceptedSample ++ later)) :
    Spans (es.filterMap acceptedSample ++ later) f.synchronizer.config.maximumImuGapNs g := by
  cases call with
  | pushImu sample => cases hGroup
  | pushLidar scan => cases hGroup
  | synchronizeNext =>
    have hAnswered := synchronizeNext_answered h.sound
    rw [FeedAnswer.synchronized.inj hGroup] at hAnswered
    generalize f.synchronizeNext.1 = f' at hAnswered
    obtain ⟨erased, hErased⟩ := h.stream
    cases hAnswered with
    | group hFront hBracket hStop hGap hShort =>
      exact hBracket.spans h.sound hStop hGap hShort (by rw [hErased]) hRising

theorem config_step (hf : Sound f) (call : FeedCall D) :
    (f.step call).1.synchronizer.config = f.synchronizer.config := by
  cases call with
  | pushImu sample => rfl
  | pushLidar scan => rfl
  | synchronizeNext =>
    have hAnswered := synchronizeNext_answered hf
    change f.synchronizeNext.1.synchronizer.config = _
    generalize f.synchronizeNext.1 = f' at hAnswered
    generalize f.synchronizeNext.2 = result at hAnswered
    cases hAnswered with
    | idle => rfl
    | waiting => rfl
    | refused hFront hConfig => exact hConfig
    | gap => rfl
    | group => rfl

theorem config_run (hf : Sound f) (calls : List (FeedCall D)) :
    (run step f calls).synchronizer.config = f.synchronizer.config := by
  induction calls generalizing f with
  | nil => rfl
  | cons call calls ih =>
    rw [run_cons, ih (hf.step call), config_step hf]

/-- Groups tile time: in any run over a buffer that refuses regressing stamps, every group is
the piece of the accepted stream around its propagation, propagations follow one another
without a hole, no scan after the epoch misses its start bracket, and accepted scans are
answered once and in order. -/
theorem groups_tile_time {bufferConfig : MeasurementBufferConfig}
    (hReject : bufferConfig.rejectTimestampRegression = true)
    (synchronizerConfig : MeasurementSynchronizerConfig) (calls : List (FeedCall D)) :
    TilesTime synchronizerConfig.maximumImuGapNs
      (events step (create bufferConfig synchronizerConfig) calls)
      (run step (create bufferConfig synchronizerConfig) calls) := by
  have hCreated := create_sound (D := D) bufferConfig synchronizerConfig
  have hAll := run_history (D := D) hReject synchronizerConfig
  constructor
  case groups =>
    intro e he g hGroup
    obtain ⟨before, call, after, rfl, rfl⟩ := exists_split_of_mem_events he
    have hWhole := (hAll (before ++ call :: after)).increasing
    rw [events_append, filterMap_append] at hWhole ⊢
    have hSpans := group_spans (hAll before) hGroup hWhole
    rw [config_run hCreated] at hSpans
    exact hSpans
  case chained =>
    intro before first between second after t g hSplit hFirst hBetween hGroup
    obtain ⟨callsBefore, rest, rfl, -, hRest⟩ := exists_split_of_events hSplit
    cases rest with
    | nil => cases hRest
    | cons call rest =>
    obtain ⟨rfl, hTail⟩ := List.cons.inj hRest
    have hHere := run_sound hCreated callsBefore
    obtain ⟨callsBetween, rest, rfl, hQuiet, hLast⟩ := exists_split_of_events hTail
    cases rest with
    | nil => cases hLast
    | cons last rest =>
    obtain ⟨rfl, -⟩ := List.cons.inj hLast
    rw [← hQuiet] at hBetween
    have hEpoch := epoch_run (hHere.step call) hBetween
    rw [epoch_step hHere, hFirst] at hEpoch
    rw [group_start (run_sound (hHere.step call) callsBetween) hGroup, hEpoch]
    rfl
  case kept =>
    obtain ⟨erased, hErased⟩ := (hAll calls).stream
    exact ⟨erased, hErased, (hAll calls).sound.epoch⟩
  case bracketed =>
    intro e he status hError hCode
    obtain ⟨before, call, after, rfl, rfl⟩ := exists_split_of_mem_events he
    exact missing_start_bracket (run_sound hCreated before) hError hCode
  case resolved => exact (hAll calls).resolved
  case concerned => exact (hAll calls).concerned

def gappedCalls : List (FeedCall (ExactReal ℚ)) :=
  [.pushImu (sampleAt (.rosTime 10)), .pushImu (sampleAt (.rosTime 20)),
    .pushImu (sampleAt (.rosTime 30)), .pushLidar (scanOver (.rosTime 12) (.rosTime 25)),
    .synchronizeNext, .pushImu (sampleAt (.rosTime 60)), .pushImu (sampleAt (.rosTime 70)),
    .pushLidar (scanOver (.rosTime 26) (.rosTime 65)), .synchronizeNext,
    .pushLidar (scanOver (.rosTime 60) (.rosTime 70)), .synchronizeNext]

/-- A group up to 25, a gap that resumes at 60, a group up to 70. -/
theorem groups_tile_time_gapped :
    (events step (create {} { maximumImuGapNs := 20 }) gappedCalls).filterMap reportedEnd =
        [{ nanoseconds := 25 }, { nanoseconds := 60 }, { nanoseconds := 70 }] ∧
      TilesTime 20 (events step (create {} { maximumImuGapNs := 20 }) gappedCalls)
        (run step (create {} { maximumImuGapNs := 20 }) gappedCalls) :=
  ⟨by decide +kernel, groups_tile_time rfl { maximumImuGapNs := 20 } gappedCalls⟩

end SensorFeed

end UavNavigation.FastLio
