import UavNavigation.PipelineCalls
import UavNavigation.WorkerInterference

/-!
# The processing loop of the node

Samples and scans wait in two queues for the one thread that owns the pipeline. An
iteration takes the older front of the two and publishes the results that come out of
the pipeline; when nothing comes in, it supervises the gap since the last scan. What
the iteration tells the propagated odometry worker comes between the worker's own
sections.

`trackingEntered` says whether a call has ever brought the pipeline to tracking, and
`acceptedUpdate` is the last update that the worker has accepted since then. No
operation reads them.
-/

namespace UavNavigation.FastLio

open Runs Sections FastLioPipeline

set_option autoImplicit false

variable {D : Type} [FloatOps D]

structure ProcessingLoopConfig (N : Numerics D) (K : FilterKernel D) where
  imuQueueCapacity : Nat := 8192
  lidarQueueCapacity : Nat := 32
  /-- The corrected estimate as the worker takes it; the source has one type for both. -/
  correctedEstimate : StateEstimate N.State N.Covariance → K.Estimate

inductive InputMeasurement (D : Type) where
  | imu (sample : ImuSample D)
  | lidar (scan : LidarScan D)

structure ProcessingLoop (N : Numerics D) (K : FilterKernel D) where
  config : ProcessingLoopConfig N K
  pipeline : FastLioPipeline N
  worker : Threads (PropagatedOdometryWorker K) Moment (WorkerSection K) (WorkerOutput K)
  imuQueue : List (ImuSample D) := []
  lidarQueue : List (LidarScan D) := []
  correctionSequence : Nat := 0
  stopping : Bool := false
  /-- The loop is inside `publishAvailableResults`. -/
  publishing : Bool := false
  /-- The steady clock as the last iteration has read it. -/
  clock : Int := 0
  trackingEntered : Bool := false
  acceptedUpdate : Option (EstimatorStateUpdate K) := none

/-- What happens to the worker beside the loop. -/
inductive WorkerMove (D : Type) where
  | cycle (moment : Moment)
  | advance (moment : Moment)
  | enqueueImu (sample : ImuSample D)
  | requestLoadShedding
  | reset
  | stop

def WorkerMove.operation {K : FilterKernel D} :
    WorkerMove D → Operation Unit (ProducerCall K) Moment
  | .cycle moment => .call () moment
  | .advance moment => .advance moment
  | .enqueueImu sample => .input (.enqueueImu sample)
  | .requestLoadShedding => .input .requestLoadShedding
  | .reset => .input .reset
  | .stop => .input .stop

/-- `iterate` is an iteration up to its publication, `publish` one turn of the loop in
`publishAvailableResults`. The others come from other threads. -/
inductive LoopOperation (N : Numerics D) where
  | enqueue (measurement : InputMeasurement D)
  | iterate (now : Int)
  | publish
  | submitInitialStatePrior (prior : InitialStatePrior D N.Covariance)
  | setInitialStatePriorGeometry (baseToImu : N.RigidTransform)
  | worker (move : WorkerMove D)
  | stop

namespace ProcessingLoop
variable {N : Numerics D} {K : FilterKernel D}

def create (config : ProcessingLoopConfig N K) (estimator : EstimatorConfig N)
    (worker : PropagatedOdometryWorkerConfig) : ProcessingLoop N K where
  config := config
  pipeline := .create estimator
  worker := ⟨.create worker, .done⟩

def called (p : FastLioPipeline N) (l : ProcessingLoop N K) : ProcessingLoop N K :=
  if l.pipeline.status ≠ .tracking ∧ p.status = .tracking then
    { l with pipeline := p, trackingEntered := true, acceptedUpdate := none }
  else { l with pipeline := p }

/-- `enqueueEstimatorState` of the worker. -/
def tell (update : EstimatorStateUpdate K) (l : ProcessingLoop N K) : ProcessingLoop N K :=
  let call := ProducerCall.enqueueEstimatorState update
  let shared := { l.worker.shared with log := l.worker.shared.log ++ [call] }
  { l with
    worker := ⟨(shared.enqueueEstimatorState update).1, l.worker.program⟩
    acceptedUpdate :=
      if (shared.enqueueEstimatorState update).2 then some update else l.acceptedUpdate }

def enqueue (measurement : InputMeasurement D) (l : ProcessingLoop N K) : ProcessingLoop N K :=
  if l.stopping then l
  else
    match measurement with
    | .imu sample =>
      if l.config.imuQueueCapacity ≤ l.imuQueue.length then l
      else { l with imuQueue := l.imuQueue ++ [sample] }
    | .lidar scan =>
      if l.config.lidarQueueCapacity ≤ l.lidarQueue.length then l
      else { l with lidarQueue := l.lidarQueue ++ [scan] }

def takeMeasurement (l : ProcessingLoop N K) : Option (InputMeasurement D) × ProcessingLoop N K :=
  match l.imuQueue, l.lidarQueue with
  | [], [] => (none, l)
  | sample :: samples, [] => (some (.imu sample), { l with imuQueue := samples })
  | [], scan :: scans => (some (.lidar scan), { l with lidarQueue := scans })
  | sample :: samples, scan :: scans =>
    if sample.time.nanoseconds ≤ scan.endTime.nanoseconds then
      (some (.imu sample), { l with imuQueue := samples })
    else (some (.lidar scan), { l with lidarQueue := scans })

/-- The estimator is told of as degraded when it refuses a sample. -/
def refusedImu (K : FilterKernel D) : EstimatorStateUpdate K where
  status := .degraded
  navigationValid := false

def push (now : Int) (measurement : InputMeasurement D) (l : ProcessingLoop N K) :
    ProcessingLoop N K :=
  match measurement with
  | .imu sample =>
    match l.pipeline.pushImu sample with
    | (p, .ok _) => l.called p
    | (p, .error _) => (l.called p).tell (refusedImu K)
  | .lidar scan => l.called (l.pipeline.pushLidar now scan).1

/-- One iteration of `processingLoop` up to `publishAvailableResults`. -/
def iterate (now : Int) (l : ProcessingLoop N K) : ProcessingLoop N K :=
  if l.publishing then l
  else
    match l.takeMeasurement with
    | (none, _) =>
      if l.stopping then l
      else { l with clock := now }.called (l.pipeline.superviseLidarTimeout now)
    | (some measurement, l) =>
      { l with clock := now, publishing := true }.push now measurement

def resultUpdate (correctionSequence : Nat) (result : ProcessResult N)
    (l : ProcessingLoop N K) : EstimatorStateUpdate K where
  status := result.statusAfter
  navigationValid := result.navigationValid
  correctedEstimate :=
    if result.hasCorrectedOutput then result.correctedEstimate.map l.config.correctedEstimate
    else none
  correctionSequence := correctionSequence

def exhausted (result : ProcessResult N) (l : ProcessingLoop N K) : Bool :=
  result.hasCorrectedOutput && decide (l.correctionSequence = 2 ^ 64 - 1)

/-- One turn of the loop in `publishAvailableResults`. -/
def publish (l : ProcessingLoop N K) : ProcessingLoop N K :=
  if !l.publishing then l
  else
    match l.pipeline.processNext with
    | (p, none) => { l.called p with publishing := false }
    | (p, some result) =>
      if l.exhausted result then { l.called p with stopping := true, publishing := false }
      else
        let sequence :=
          if result.hasCorrectedOutput then l.correctionSequence + 1 else l.correctionSequence
        { (l.called p).tell (l.resultUpdate sequence result) with correctionSequence := sequence }

def submitInitialStatePrior (prior : InitialStatePrior D N.Covariance) (l : ProcessingLoop N K) :
    ProcessingLoop N K :=
  l.called (l.pipeline.submitInitialStatePrior prior).1

def setInitialStatePriorGeometry (baseToImu : N.RigidTransform) (l : ProcessingLoop N K) :
    ProcessingLoop N K :=
  l.called (l.pipeline.setInitialStatePriorGeometry baseToImu).1

def moveWorker (move : WorkerMove D) (l : ProcessingLoop N K) : ProcessingLoop N K :=
  { l with worker := (PropagatedOdometryWorker.system.step l.worker move.operation).1 }

def step (l : ProcessingLoop N K) : LoopOperation N → ProcessingLoop N K × Unit
  | .enqueue measurement => (l.enqueue measurement, ())
  | .iterate now => (l.iterate now, ())
  | .publish => (l.publish, ())
  | .submitInitialStatePrior prior => (l.submitInitialStatePrior prior, ())
  | .setInitialStatePriorGeometry baseToImu => (l.setInitialStatePriorGeometry baseToImu, ())
  | .worker move => (l.moveWorker move, ())
  | .stop => ({ l with stopping := true }, ())

abbrev LoopEvent (N : Numerics D) (K : FilterKernel D) :=
  Event (ProcessingLoop N K) (LoopOperation N) Unit

def loopSteps (config : ProcessingLoopConfig N K) (estimator : EstimatorConfig N)
    (worker : PropagatedOdometryWorkerConfig) (ops : List (LoopOperation N)) :
    List (LoopEvent N K) :=
  events step (create config estimator worker) ops

/-! ## What the steps of the loop do -/

variable {l m : ProcessingLoop N K} {p q : FastLioPipeline N}

section Frame
variable (p : FastLioPipeline N) (update : EstimatorStateUpdate K) (l : ProcessingLoop N K)

@[simp] theorem called_pipeline : (l.called p).pipeline = p := by
  unfold called
  split <;> rfl

@[simp] theorem called_publishing : (l.called p).publishing = l.publishing := by
  unfold called
  split <;> rfl

@[simp] theorem called_clock : (l.called p).clock = l.clock := by
  unfold called
  split <;> rfl

@[simp] theorem called_worker : (l.called p).worker = l.worker := by
  unfold called
  split <;> rfl

@[simp] theorem tell_pipeline : (l.tell update).pipeline = l.pipeline := rfl

@[simp] theorem tell_publishing : (l.tell update).publishing = l.publishing := rfl

@[simp] theorem tell_clock : (l.tell update).clock = l.clock := rfl

end Frame

theorem called_eq (h : p.status = .tracking → l.pipeline.status = .tracking) :
    l.called p = { l with pipeline := p } := by
  unfold called
  rw [if_neg]
  rintro ⟨hBefore, hAfter⟩
  exact hBefore (h hAfter)

theorem takeMeasurement_none {taken : ProcessingLoop N K} (h : l.takeMeasurement = (none, taken)) :
    l.imuQueue.isEmpty && l.lidarQueue.isEmpty := by
  revert h
  fun_cases takeMeasurement
  all_goals intro h
  case case1 hSamples hScans =>
    rw [hSamples, hScans]
    rfl
  all_goals cases h

theorem takeMeasurement_frame (l : ProcessingLoop N K) : ∃ samples scans,
      l.takeMeasurement.2 = { l with imuQueue := samples, lidarQueue := scans } := by
  fun_cases takeMeasurement <;> exact ⟨_, _, rfl⟩

/-- How an iteration can go until its publication. -/
inductive Iterated (now : Int) (l m : ProcessingLoop N K) : Prop where
  | idle (hSame : m = l)
  | supervised (hIdle : l.publishing = false) (hRunning : l.stopping = false)
      (hEmpty : l.imuQueue.isEmpty && l.lidarQueue.isEmpty)
      (hAfter : m = { l with clock := now }.called (l.pipeline.superviseLidarTimeout now))
  | took (measurement : InputMeasurement D) (samples : List (ImuSample D))
      (scans : List (LidarScan D)) (hIdle : l.publishing = false)
      (hAfter : m = { l with
        imuQueue := samples
        lidarQueue := scans
        clock := now
        publishing := true }.push now measurement)

theorem iterate_iterated (now : Int) (l : ProcessingLoop N K) : Iterated now l (l.iterate now) := by
  unfold iterate
  split
  · exact .idle rfl
  rename_i hPublishing
  have hIdle : l.publishing = false := by simpa using hPublishing
  obtain ⟨samples, scans, hTaken⟩ := takeMeasurement_frame l
  split
  · rename_i h
    split
    · exact .idle rfl
    · rename_i hStopping
      exact .supervised hIdle (by simpa using hStopping) (takeMeasurement_none h) rfl
  · rename_i measurement taken h
    rw [h] at hTaken
    subst hTaken
    exact .took measurement samples scans hIdle rfl

section Push
variable (now : Int) (measurement : InputMeasurement D) (l : ProcessingLoop N K)

theorem push_frame : (l.push now measurement).publishing = l.publishing ∧
      (l.push now measurement).clock = l.clock := by
  unfold push
  split
  · split <;> simp
  · simp

theorem push_status : (l.push now measurement).pipeline.status = l.pipeline.status ∨
      StartsUp l.pipeline.status ∧ StartsUp (l.push now measurement).pipeline.status := by
  unfold push
  cases measurement with
  | imu sample =>
    have hPushed := pushImu_cases sample l.pipeline
    dsimp only
    split
    · rename_i h
      rw [h] at hPushed
      simpa using hPushed
    · rename_i h
      rw [h] at hPushed
      simpa using hPushed
  | lidar scan =>
    left
    rw [called_pipeline]
    exact pushLidar_status now scan l.pipeline

theorem push_healthy (hHealthy : l.pipeline.Healthy) :
    (l.push now measurement).pipeline.Healthy := by
  unfold push
  cases measurement with
  | imu sample =>
    have hPushed : (l.pipeline.pushImu sample).1.Healthy := hHealthy.step (.pushImu sample)
    dsimp only
    split
    · rename_i h
      rw [h] at hPushed
      simpa using hPushed
    · rename_i h
      rw [h] at hPushed
      simpa using hPushed
  | lidar scan =>
    rw [called_pipeline]
    exact hHealthy.step (.pushLidar now scan)

end Push

/-- How one turn of the loop in `publishAvailableResults` can go. -/
inductive Published (l m : ProcessingLoop N K) : Prop where
  | idle (hIdle : l.publishing = false) (hSame : m = l)
  | finished (hBusy : l.publishing = true) (hWaits : l.pipeline.Waits)
      (hAfter : m = { l.called l.pipeline.processNext.1 with publishing := false })
  | exhausted (q : FastLioPipeline N) (result : ProcessResult N) (hBusy : l.publishing = true)
      (hNext : l.pipeline.processNext = (q, some result)) (hExhausted : l.exhausted result = true)
      (hAfter : m = { l.called q with stopping := true, publishing := false })
  | told (q : FastLioPipeline N) (result : ProcessResult N) (sequence : Nat)
      (hBusy : l.publishing = true) (hNext : l.pipeline.processNext = (q, some result))
      (hExhausted : l.exhausted result = false)
      (hAfter : m = { (l.called q).tell (l.resultUpdate sequence result) with
        correctionSequence := sequence })

theorem publish_published (l : ProcessingLoop N K) : Published l l.publish := by
  unfold publish
  split
  · rename_i hIdle
    exact .idle (by simpa using hIdle) rfl
  rename_i hPublishing
  have hBusy : l.publishing = true := by simpa using hPublishing
  split
  · rename_i q h
    have hWaits : l.pipeline.Waits := processNext_none_iff.mp (by rw [h])
    refine .finished hBusy hWaits ?_
    rw [h]
  · rename_i q result h
    split
    · rename_i hExhausted
      exact .exhausted q result hBusy h hExhausted rfl
    · rename_i hExhausted
      exact .told q result _ hBusy h (by simpa using hExhausted) rfl

/-- What is kept while the loop itself does nothing: only a prior reaches the pipeline, and
the worker goes on. -/
structure Beside (l m : ProcessingLoop N K) : Prop where
  publishing : m.publishing = l.publishing
  clock : m.clock = l.clock
  status : m.pipeline.status = l.pipeline.status
  arrival : m.pipeline.lastLidarArrival = l.pipeline.lastLidarArrival
  config : m.pipeline.config = l.pipeline.config
  healthy : l.pipeline.Healthy → m.pipeline.Healthy
  entered : m.trackingEntered = l.trackingEntered
  accepted : m.acceptedUpdate = l.acceptedUpdate
  accepting : m.worker.shared.accepting = true → l.worker.shared.accepting = true

theorem Beside.of_pipeline (hPublishing : m.publishing = l.publishing) (hClock : m.clock = l.clock)
    (hPipeline : m.pipeline = l.pipeline) (hEntered : m.trackingEntered = l.trackingEntered)
    (hAccepted : m.acceptedUpdate = l.acceptedUpdate)
    (hAccepting : m.worker.shared.accepting = true → l.worker.shared.accepting = true) :
    Beside l m where
  publishing := hPublishing
  clock := hClock
  status := by rw [hPipeline]
  arrival := by rw [hPipeline]
  config := by rw [hPipeline]
  healthy := by
    rw [hPipeline]
    exact id
  entered := hEntered
  accepted := hAccepted
  accepting := hAccepting

theorem enqueue_beside (measurement : InputMeasurement D) (l : ProcessingLoop N K) :
    Beside l (l.enqueue measurement) := by
  fun_cases enqueue <;> exact .of_pipeline rfl rfl rfl rfl rfl id

theorem called_beside {p : FastLioPipeline N} (hStatus : p.status = l.pipeline.status)
    (hKeeps : Keeps True l.pipeline p)
    (hHealthy : l.pipeline.Healthy → p.Healthy) : Beside l (l.called p) := by
  have hSame : l.called p = { l with pipeline := p } := by
    apply called_eq
    rw [hStatus]
    exact id
  rw [hSame]
  exact ⟨rfl, rfl, hStatus, hKeeps.arrival, hKeeps.config, hHealthy, rfl, rfl, id⟩

theorem submitInitialStatePrior_beside (prior : InitialStatePrior D N.Covariance)
    (l : ProcessingLoop N K) : Beside l (l.submitInitialStatePrior prior) :=
  called_beside (submitInitialStatePrior_status prior l.pipeline)
    (keeps_submitInitialStatePrior prior l.pipeline)
    fun hHealthy => hHealthy.step (.submitInitialStatePrior prior)

theorem setInitialStatePriorGeometry_beside (baseToImu : N.RigidTransform)
    (l : ProcessingLoop N K) : Beside l (l.setInitialStatePriorGeometry baseToImu) :=
  called_beside (setInitialStatePriorGeometry_status baseToImu l.pipeline)
    (keeps_setInitialStatePriorGeometry baseToImu l.pipeline)
    fun hHealthy => hHealthy.step (.setInitialStatePriorGeometry baseToImu)

theorem moveWorker_beside (move : WorkerMove D) (l : ProcessingLoop N K) :
    Beside l (l.moveWorker move) :=
  .of_pipeline rfl rfl rfl rfl rfl (PropagatedOdometryWorker.step_accepting l.worker move.operation)

theorem stop_beside (l : ProcessingLoop N K) : Beside l { l with stopping := true } :=
  .of_pipeline rfl rfl rfl rfl rfl id

end ProcessingLoop

/-! ## The gap since the last scan -/

open Runs FastLioPipeline

variable {D : Type} [FloatOps D] {N : Numerics D} {K : FilterKernel D}

namespace ProcessingLoop
variable {gap : LidarGap} {l m : ProcessingLoop N K}

def Overdue (gap : LidarGap) (l : ProcessingLoop N K) : Prop :=
  ∃ arrival ∈ l.pipeline.lastLidarArrival, gap.ns l.pipeline.config.lifecycle ≤ l.clock - arrival

/-- The corrections that the pipeline accepts when it processes what is next. -/
def acceptedCorrections (l : ProcessingLoop N K) : List LifecycleEvent :=
  (l.pipeline.processNext.1.lifecycle.journal.drop l.pipeline.lifecycle.journal.length).filter
    (·.Accepts)

/-- Past the gap, a measurement finds none of the statuses that the gap forbids, and no
correction is accepted, unless the map has to be recovered first. -/
def Attended (gap : LidarGap) (l : ProcessingLoop N K) : LoopOperation N → Prop
  | .iterate now => l.publishing = false → (l.iterate now).publishing = true →
      Overdue gap (l.iterate now) → gap.forbids l.pipeline.status = false
  | .publish => l.publishing = true → Overdue gap l →
      l.pipeline.lifecycle.mapRecoveryRequired = false → l.acceptedCorrections = []
  | _ => True

instance (gap : LidarGap) (l : ProcessingLoop N K) : Decidable (Overdue gap l) := by
  unfold Overdue
  infer_instance

instance (gap : LidarGap) (l : ProcessingLoop N K) :
    (op : LoopOperation N) → Decidable (Attended gap l op)
  | .iterate _ | .publish => by unfold Attended; infer_instance
  | .enqueue _ | .submitInitialStatePrior _ | .setInitialStatePriorGeometry _ | .worker _ | .stop =>
    .isTrue trivial

def Noticed (gap : LidarGap) (l : ProcessingLoop N K) : Prop :=
  l.publishing = false → Overdue gap l → gap.forbids l.pipeline.status = false

/-- What every step of a run keeps, also inside an iteration. -/
structure Watched (gap : LidarGap) (l : ProcessingLoop N K) : Prop where
  healthy : l.pipeline.Healthy
  noticed : Noticed gap l
  busy : l.publishing = true → Overdue gap l → gap.forbids l.pipeline.status = false

theorem Overdue.of_eq (h : Overdue gap m)
    (hArrival : m.pipeline.lastLidarArrival = l.pipeline.lastLidarArrival)
    (hConfig : m.pipeline.config = l.pipeline.config) (hClock : m.clock = l.clock) :
    Overdue gap l := by
  obtain ⟨arrival, hMem, hGap⟩ := h
  rw [hArrival] at hMem
  rw [hConfig, hClock] at hGap
  exact ⟨arrival, hMem, hGap⟩

theorem create_watched (config : ProcessingLoopConfig N K) (estimator : EstimatorConfig N)
    (worker : PropagatedOdometryWorkerConfig) : Watched gap (create config estimator worker) where
  healthy := create_healthy estimator
  noticed := by
    rintro - ⟨arrival, hNone, -⟩
    cases hNone
  busy := by
    intro hBusy
    cases hBusy

theorem Watched.beside (hl : Watched gap l) (h : Beside l m) : Watched gap m where
  healthy := h.healthy hl.healthy
  noticed := by
    intro hIdle hOverdue
    rw [h.status]
    exact hl.noticed (h.publishing.symm.trans hIdle) (hOverdue.of_eq h.arrival h.config h.clock)
  busy := by
    intro hBusy hOverdue
    rw [h.status]
    exact hl.busy (h.publishing.symm.trans hBusy) (hOverdue.of_eq h.arrival h.config h.clock)

theorem push_not_forbidden (now : Int) (measurement : InputMeasurement D)
    (h : gap.forbids l.pipeline.status = false) :
    gap.forbids (l.push now measurement).pipeline.status = false := by
  rcases push_status now measurement l with hSame | ⟨-, hStarts⟩
  · rw [hSame]
    exact h
  · exact hStarts.not_forbidden gap

theorem publish_pipeline (l : ProcessingLoop N K) : l.publish.clock = l.clock ∧
      (l.publish.pipeline = l.pipeline ∨
        l.publishing = true ∧ l.publish.pipeline = l.pipeline.processNext.1) := by
  cases publish_published l with
  | idle _ hSame =>
    rw [hSame]
    exact ⟨rfl, .inl rfl⟩
  | finished hBusy _ hAfter =>
    rw [hAfter]
    simp [hBusy]
  | exhausted q r hBusy hNext _ hAfter =>
    rw [hAfter, hNext]
    simp [hBusy]
  | told q r sequence hBusy hNext _ hAfter =>
    rw [hAfter, hNext]
    simp [hBusy]

theorem publish_overdue (hHealthy : l.pipeline.Healthy) (h : Overdue gap l.publish) :
    Overdue gap l := by
  obtain ⟨hClock, hSame | ⟨-, hNext⟩⟩ := publish_pipeline l
  · exact h.of_eq (by rw [hSame]) (by rw [hSame]) hClock
  · have hEffect := processNext_effect (S := True) hHealthy.owed fun _ => trivial
    exact h.of_eq (by rw [hNext, processNext_arrival hHealthy.owed]) (by rw [hNext, hEffect.config]) hClock

theorem publish_healthy (hHealthy : l.pipeline.Healthy) : l.publish.pipeline.Healthy := by
  obtain ⟨-, hSame | ⟨-, hNext⟩⟩ := publish_pipeline l
  · rwa [hSame]
  · rw [hNext]
    exact hHealthy.step .processNext

theorem publish_calm (hHealthy : l.pipeline.Healthy) (hOverdue : Overdue gap l)
    (hAttended : Attended gap l .publish) (hCalm : gap.forbids l.pipeline.status = false) :
    gap.forbids l.publish.pipeline.status = false := by
  obtain ⟨-, hSame | ⟨hBusy, hNext⟩⟩ := publish_pipeline l
  · rwa [hSame]
  · rw [hNext]
    have hMoves := (processNext_effect (S := True) hHealthy.owed fun _ => trivial).moves
    refine hHealthy.sane.moves_calm hMoves hCalm fun hFree e he hAccepts => ?_
    have hMem : e ∈ l.acceptedCorrections := List.mem_filter.mpr ⟨he, decide_eq_true hAccepts⟩
    rw [hAttended hBusy hOverdue hFree] at hMem
    cases hMem

theorem Watched.iterate (hl : Watched gap l) (now : Int)
    (hAttended : Attended gap l (.iterate now)) : Watched gap (l.iterate now) := by
  cases iterate_iterated now l with
  | idle hSame =>
    rw [hSame]
    exact hl
  | supervised hIdle _ _ hAfter =>
    rw [hAfter]
    refine ⟨?_, ?_, ?_⟩
    · rw [called_pipeline]
      exact hl.healthy.step (.superviseLidarTimeout now)
    · rintro - ⟨arrival, hMem, hGap⟩
      have hKeeps := keeps_superviseLidarTimeout (S := True) now l.pipeline
        fun _ => trivial
      simp only [called_pipeline, called_clock, hKeeps.arrival, hKeeps.config] at hMem hGap ⊢
      exact superviseLidarTimeout_attends hMem hGap
    · intro hBusy
      rw [called_publishing] at hBusy
      rw [show l.publishing = true from hBusy] at hIdle
      cases hIdle
  | took measurement samples scans hIdle hAfter =>
    have hPublishing : (l.iterate now).publishing = true := by
      rw [hAfter]
      exact (push_frame _ _ _).1
    refine ⟨?_, ?_, ?_⟩
    · rw [hAfter]
      exact push_healthy now measurement _ hl.healthy
    · intro hDone
      rw [hPublishing] at hDone
      cases hDone
    · intro _ hOverdue
      have hFound := hAttended hIdle hPublishing hOverdue
      rw [hAfter]
      exact push_not_forbidden now measurement hFound

theorem Watched.publish (hl : Watched gap l) (hAttended : Attended gap l .publish) :
    Watched gap l.publish := by
  have hCalm : Overdue gap l.publish → gap.forbids l.publish.pipeline.status = false := by
    intro hPast
    have hOverdue := publish_overdue hl.healthy hPast
    refine publish_calm hl.healthy hOverdue hAttended ?_
    cases hBusy : l.publishing with
    | false => exact hl.noticed hBusy hOverdue
    | true => exact hl.busy hBusy hOverdue
  exact ⟨publish_healthy hl.healthy, fun _ => hCalm, fun _ => hCalm⟩

theorem Watched.step (hl : Watched gap l) (op : LoopOperation N) (hAttended : Attended gap l op) :
    Watched gap (step l op).1 := by
  cases op with
  | enqueue measurement => exact hl.beside (enqueue_beside measurement l)
  | iterate now => exact hl.iterate now hAttended
  | publish => exact hl.publish hAttended
  | submitInitialStatePrior prior => exact hl.beside (submitInitialStatePrior_beside prior l)
  | setInitialStatePriorGeometry baseToImu =>
    exact hl.beside (setInitialStatePriorGeometry_beside baseToImu l)
  | worker move => exact hl.beside (moveWorker_beside move l)
  | stop => exact hl.beside (stop_beside l)

/-- In a run whose steps are attended every iteration notices the gap, and navigation is not
valid past it. -/
theorem lidar_blackout_noticed (gap : LidarGap) (config : ProcessingLoopConfig N K)
    (estimator : EstimatorConfig N) (worker : PropagatedOdometryWorkerConfig)
    (ops : List (LoopOperation N))
    (hAttended : ∀ e ∈ loopSteps config estimator worker ops, Attended gap e.before e.op) :
    Noticed gap (run step (create config estimator worker) ops) ∧
      ((run step (create config estimator worker) ops).publishing = false →
        Overdue gap (run step (create config estimator worker) ops) →
        (run step (create config estimator worker) ops).pipeline.navigationValid = false) := by
  have hRun : Watched gap (run step (create config estimator worker) ops) :=
    run_guarded (Q := fun e => Attended gap e.before e.op) (fun _ op hl h => hl.step op h)
      (create_watched config estimator worker) hAttended
  refine ⟨hRun.noticed, ?_⟩
  intro hIdle hOverdue
  have hNot := LidarGap.not_tracking (hRun.noticed hIdle hOverdue)
  unfold navigationValid Lifecycle.navigationValid
  simp [hNot]

/-- One iteration for a measurement that is the only one in the queues. -/
def receive {predictions corrections : List Bool} (now : Int)
    (measurement : InputMeasurement (ExactReal ℚ)) :
    List (LoopOperation (scripted predictions corrections)) :=
  [.enqueue measurement, .iterate now, .publish, .publish]

/-- Two scans with their samples: the first gives the reference of the map, the second is
corrected. -/
def startTracking {predictions corrections : List Bool} :
    List (LoopOperation (scripted predictions corrections)) :=
  receive 0 (.imu (sampleAt (.rosTime 10))) ++
    receive 0 (.lidar (scanOver (.rosTime 10) (.rosTime 20))) ++
    receive 0 (.imu (sampleAt (.rosTime 20))) ++
    receive 0 (.lidar (scanOver (.rosTime 20) (.rosTime 30))) ++
    receive 0 (.imu (sampleAt (.rosTime 30)))

def samplesOnly {predictions corrections : List Bool} :
    List (LoopOperation (scripted predictions corrections)) :=
  (List.finRange 15).flatMap fun i : Fin 15 =>
    receive (15000000 * (i.val : Int)) (.imu (sampleAt {
      nanoseconds := 15000030 + 15000000 * (i.val : Int)
      lower := by
        unfold minInt64
        omega
      upper := by
        have hBound := i.isLt
        unfold maxInt64
        omega }))

def scriptedLoop (predictions corrections : List Bool) :
    ProcessingLoopConfig (scripted predictions corrections) ImuStatePropagator.countingKernel where
  correctedEstimate e := ⟨e.time, (0 : Nat), ()⟩

/-- 210 ms after the last scan the pipeline still tracks. -/
theorem blackout_unnoticed : ¬Noticed .degraded
    (run step (create (scriptedLoop [] []) (scriptedConfig [] [] 1 (by decide)) {})
      (startTracking ++ samplesOnly)) := by
  have hTracking : (run step (create (scriptedLoop [] []) (scriptedConfig [] [] 1 (by decide)) {})
      (startTracking ++ samplesOnly)).pipeline.status = .tracking := by decide +kernel
  have hIdle : (run step (create (scriptedLoop [] []) (scriptedConfig [] [] 1 (by decide)) {})
      (startTracking ++ samplesOnly)).publishing = false := by decide +kernel
  have hOverdue : Overdue .degraded
      (run step (create (scriptedLoop [] []) (scriptedConfig [] [] 1 (by decide)) {})
        (startTracking ++ samplesOnly)) := by decide +kernel
  intro hNoticed
  have hForbidden := hNoticed hIdle hOverdue
  rw [hTracking] at hForbidden
  cases hForbidden

def timeouts {predictions corrections : List Bool} :
    List (LoopOperation (scripted predictions corrections)) :=
  (List.range 11).map fun i => .iterate (20000000 * i)

def silence {predictions corrections : List Bool} :
    List (LoopOperation (scripted predictions corrections)) :=
  timeouts ++ receive 215000000 (.imu (sampleAt (.rosTime 31)))

/-- The time-outs notice the gap, and the sample that comes past it is taken. -/
theorem lidar_blackout_noticed_idle : Overdue .degraded
      (run step (create (scriptedLoop [] []) (scriptedConfig [] [] 1 (by decide)) {})
        (startTracking ++ silence)) ∧
    Noticed .degraded
    (run step (create (scriptedLoop [] []) (scriptedConfig [] [] 1 (by decide)) {})
      (startTracking ++ silence)) := by
  have hAttended : ((loopSteps (scriptedLoop [] []) (scriptedConfig [] [] 1 (by decide)) {}
      (startTracking ++ silence)).all fun e =>
        decide (Attended .degraded e.before e.op)) = true := by decide +kernel
  refine ⟨by decide +kernel, (lidar_blackout_noticed .degraded _ _ _ _ ?_).1⟩
  intro e he
  exact of_decide_eq_true (List.all_eq_true.mp hAttended e he)

end ProcessingLoop

/-! ## What the worker is told about a loss

The worker is told about every result and every refused sample, but not when the
supervision takes the pipeline out of tracking. `Relayed` is the condition on one step
under which a loss of tracking reaches it all the same. -/

namespace ProcessingLoop
variable {l m : ProcessingLoop N K}

/-- The last update that the worker has accepted since the pipeline entered tracking says that
it does not track, or that navigation is not valid. -/
def ToldOfLoss (l : ProcessingLoop N K) : Prop :=
  ∃ update ∈ l.acceptedUpdate, ¬update.Valid

/-- A pipeline that has left tracking has a worker that knows, as long as the worker runs. -/
def Informed (l : ProcessingLoop N K) : Prop :=
  l.pipeline.status ≠ .tracking → l.trackingEntered = true → l.worker.shared.accepting = true →
    ToldOfLoss l

/-- No supervision takes the pipeline out of tracking, and no corrected result does when the
sequence numbers are used up, unless the worker takes it for lost already. -/
def Relayed (l : ProcessingLoop N K) : LoopOperation N → Prop
  | .iterate now => l.publishing = false → l.stopping = false →
      l.imuQueue.isEmpty && l.lidarQueue.isEmpty → l.pipeline.status = .tracking →
      (∃ arrival ∈ l.pipeline.lastLidarArrival,
        l.pipeline.config.lifecycle.degradedAfterLidarGapNs ≤ now - arrival) →
      l.worker.shared.accepting = true → ToldOfLoss l
  | .publish => l.publishing = true → l.pipeline.status = .tracking →
      (∃ r ∈ l.pipeline.processNext.2, l.exhausted r = true ∧ r.statusAfter ≠ .tracking) →
      l.worker.shared.accepting = true → ToldOfLoss l
  | _ => True

instance (l : ProcessingLoop N K) : Decidable (ToldOfLoss l) := by
  unfold ToldOfLoss EstimatorStateUpdate.Valid
  infer_instance

instance (l : ProcessingLoop N K) : (op : LoopOperation N) → Decidable (Relayed l op)
  | .iterate _ | .publish => by unfold Relayed; infer_instance
  | .enqueue _ | .submitInitialStatePrior _ | .setInitialStatePriorGeometry _ | .worker _ | .stop =>
    .isTrue trivial

/-! ## One step -/

theorem Informed.beside (hl : Informed l) (h : Beside l m) : Informed m := by
  intro hNot hEntered hAccepting
  rw [h.status] at hNot
  rw [h.entered] at hEntered
  unfold ToldOfLoss
  rw [h.accepted]
  exact hl hNot hEntered (h.accepting hAccepting)

theorem Informed.called (hl : Informed l) {p : FastLioPipeline N}
    (hStays : l.pipeline.status = .tracking → p.status = .tracking) : Informed (l.called p) := by
  intro hNot hEntered hAccepting
  rw [called_pipeline] at hNot
  have hSame : l.called p = { l with pipeline := p } := called_eq fun h => absurd h hNot
  rw [hSame] at hEntered hAccepting ⊢
  exact hl (fun h => hNot (hStays h)) hEntered hAccepting

theorem informed_tell {update : EstimatorStateUpdate K}
    (hLoss : l.pipeline.status ≠ .tracking → ¬update.Valid) : Informed (l.tell update) := by
  intro hNot _ hAccepting
  have hInvalid := hLoss hNot
  have hAccepted := PropagatedOdometryWorker.enqueueEstimatorState_invalid hInvalid hAccepting
  refine ⟨update, ?_, hInvalid⟩
  unfold tell
  dsimp only
  rw [if_pos hAccepted]
  rfl

section
variable (hl : Informed l) (now : Int)
include hl

theorem Informed.push (measurement : InputMeasurement D) : Informed (l.push now measurement) := by
  unfold ProcessingLoop.push
  cases measurement with
  | imu sample =>
    have hPushed := pushImu_cases sample l.pipeline
    dsimp only
    split
    · rename_i p _ h
      rw [h] at hPushed
      apply hl.called
      intro hTracking
      rcases hPushed with hSame | ⟨hStarts, -⟩
      · exact hSame.trans hTracking
      · exact absurd hTracking hStarts.not_tracking
    · apply informed_tell
      rintro - ⟨hStatus, -⟩
      cases hStatus
  | lidar scan =>
    apply hl.called
    rw [pushLidar_status]
    exact id

theorem Informed.iterate (hRelayed : Relayed l (.iterate now)) : Informed (l.iterate now) := by
  cases iterate_iterated now l with
  | idle hSame =>
    rw [hSame]
    exact hl
  | supervised hIdle hRunning hEmpty hAfter =>
    rw [hAfter]
    by_cases hLeaves : l.pipeline.status = .tracking ∧ ∃ arrival ∈ l.pipeline.lastLidarArrival,
        l.pipeline.config.lifecycle.degradedAfterLidarGapNs ≤ now - arrival
    · intro hNot _ hAccepting
      rw [called_pipeline] at hNot
      rw [called_worker] at hAccepting
      have hTold := hRelayed hIdle hRunning hEmpty hLeaves.1 hLeaves.2 hAccepting
      rw [called_eq fun h => absurd h hNot]
      exact hTold
    · apply Informed.called (l := { l with clock := now }) hl
      intro hTracking
      exact superviseLidarTimeout_early (fun h => hLeaves ⟨hTracking, h⟩) hTracking
  | took measurement samples scans hIdle hAfter =>
    rw [hAfter]
    exact Informed.push (l := { l with
      imuQueue := samples, lidarQueue := scans, clock := now, publishing := true }) hl now
      measurement

theorem Informed.publish (hRelayed : Relayed l .publish) : Informed l.publish := by
  cases publish_published l with
  | idle hIdle hSame =>
    rw [hSame]
    exact hl
  | finished hBusy hWaits hAfter =>
    rw [hAfter]
    apply hl.called
    rw [(processNext_waits hWaits).1]
    exact id
  | exhausted q r hBusy hNext hExhausted hAfter =>
    have hStatus := processNext_status hNext
    rw [hAfter]
    intro hNot hEntered hAccepting
    rw [called_pipeline] at hNot
    rw [called_eq fun h => absurd h hNot] at hEntered hAccepting
    have hTold : ToldOfLoss l := by
      by_cases hTracking : l.pipeline.status = .tracking
      · refine hRelayed hBusy hTracking ⟨r, by rw [hNext]; rfl, hExhausted, ?_⟩ hAccepting
        rw [hStatus]
        exact hNot
      · exact hl hTracking hEntered hAccepting
    rw [called_eq fun h => absurd h hNot]
    exact hTold
  | told q r sequence hBusy hNext _ hAfter =>
    rw [hAfter]
    apply informed_tell (l := l.called q)
    rintro hNot ⟨hValid, -⟩
    rw [called_pipeline] at hNot
    exact hNot ((processNext_status hNext).symm.trans hValid)

theorem Informed.step (op : LoopOperation N) (hRelayed : Relayed l op) :
    Informed (step l op).1 := by
  cases op with
  | enqueue measurement => exact hl.beside (enqueue_beside measurement l)
  | iterate now => exact hl.iterate now hRelayed
  | publish => exact hl.publish hRelayed
  | submitInitialStatePrior prior => exact hl.beside (submitInitialStatePrior_beside prior l)
  | setInitialStatePriorGeometry baseToImu =>
    exact hl.beside (setInitialStatePriorGeometry_beside baseToImu l)
  | worker move => exact hl.beside (moveWorker_beside move l)
  | stop => exact hl.beside (stop_beside l)

end

section
variable (config : ProcessingLoopConfig N K) (estimator : EstimatorConfig N)
  (worker : PropagatedOdometryWorkerConfig)

theorem create_informed : Informed (create config estimator worker) := by
  intro _ hEntered
  cases hEntered

/-- In a run whose steps are relayed, a pipeline that does not track has a worker that knows,
after every step. -/
theorem lifecycle_loss_reaches_worker (ops : List (LoopOperation N))
    (hRelayed : ∀ e ∈ loopSteps config estimator worker ops, Relayed e.before e.op) :
    Informed (run ProcessingLoop.step (create config estimator worker) ops) :=
  run_guarded (Q := fun e => Relayed e.before e.op) (fun _ op hl h => hl.step op h)
    (create_informed config estimator worker) hRelayed

end

/-- The supervision degrades a pipeline that has stopped tracking, and the last thing the worker
has accepted is a valid correction. -/
theorem supervised_loss_untold : ¬Informed (run ProcessingLoop.step
      (create (scriptedLoop [] []) (scriptedConfig [] [] 1 (by decide)) {})
      (startTracking ++ timeouts)) := by
  have hEntered : (run ProcessingLoop.step
      (create (scriptedLoop [] []) (scriptedConfig [] [] 1 (by decide)) {})
      (startTracking ++ timeouts)).trackingEntered = true := by decide +kernel
  have hAccepting : (run ProcessingLoop.step
      (create (scriptedLoop [] []) (scriptedConfig [] [] 1 (by decide)) {})
      (startTracking ++ timeouts)).worker.shared.accepting = true := by decide +kernel
  have hUntold : ¬ToldOfLoss (run ProcessingLoop.step
      (create (scriptedLoop [] []) (scriptedConfig [] [] 1 (by decide)) {})
      (startTracking ++ timeouts)) := by decide +kernel
  intro hInformed
  apply hUntold
  apply hInformed _ hEntered hAccepting
  decide

def failedCorrection : List (LoopOperation (scripted [] [true, false])) :=
  startTracking ++ receive 0 (.lidar (scanOver (.rosTime 30) (.rosTime 40))) ++
    receive 0 (.imu (sampleAt (.rosTime 40)))

/-- The worker is told about the failed correction. -/
theorem failed_correction_told : (run ProcessingLoop.step (create (scriptedLoop [] [true, false])
      (scriptedConfig [] [true, false] 1 (by decide)) {}) failedCorrection).pipeline.status =
        .degraded ∧
    Informed (run ProcessingLoop.step (create (scriptedLoop [] [true, false])
      (scriptedConfig [] [true, false] 1 (by decide)) {}) failedCorrection) := by
  have hRelayed : ((loopSteps (scriptedLoop [] [true, false])
      (scriptedConfig [] [true, false] 1 (by decide)) {} failedCorrection).all fun e =>
        decide (Relayed e.before e.op)) = true := by decide +kernel
  refine ⟨by decide +kernel, lifecycle_loss_reaches_worker _ _ _ _ ?_⟩
  intro e he
  exact of_decide_eq_true (List.all_eq_true.mp hRelayed e he)

end ProcessingLoop

end UavNavigation.FastLio
