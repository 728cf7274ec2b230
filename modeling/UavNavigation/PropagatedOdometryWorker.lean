import UavNavigation.CriticalSections
import UavNavigation.IkfomPrediction

/-!
# The propagated odometry worker

Producers hand samples and corrections to one worker thread. The worker drains what
has come in, replays the pending correction and publishes the propagated state. A
producer's call is one section under the mutex; the worker's cycle is a program of
sections and of single accesses to the atomic flags.

`log` holds the calls of the producers so far. `generationBornAt` is how many there
were when the control generation last advanced, `shedAt` how many when a request for
load shedding last suspended the output. `inFlight` is the correction being replayed
and `replayed` the last one replayed successfully, with the number of calls then. No
operation reads them.
-/

namespace UavNavigation.FastLio

open FloatOps Sections

set_option autoImplicit false

variable {D : Type} [FloatOps D]

structure PropagatedOdometryWorkerConfig where
  propagator : ImuStatePropagatorConfig := {}
  imuIngressCapacity : Nat := 4096
  maximumCorrectionAgeNs : Int := 250000000
  /-- The period of `publish_rate_hz`. -/
  publishPeriodNs : Int := 20000000
  capacityPositive : imuIngressCapacity ≠ 0 := by decide
  agePositive : 0 < maximumCorrectionAgeNs := by decide
  periodPositive : 0 < publishPeriodNs := by decide

structure EstimatorStateUpdate (K : FilterKernel D) where
  status : EstimatorStatus
  navigationValid : Bool
  correctedEstimate : Option K.Estimate := none
  correctionSequence : Nat := 0

structure PendingCorrection (K : FilterKernel D) where
  estimate : K.Estimate
  correctionSequence : Nat
  controlGeneration : Nat
  /-- How many calls there were with the one that brought it. -/
  acceptedAt : Nat

inductive ProducerCall (K : FilterKernel D) where
  | enqueueImu (sample : ImuSample D)
  | enqueueEstimatorState (update : EstimatorStateUpdate K)
  | requestLoadShedding
  | reset
  | stop

structure Replayed (K : FilterKernel D) where
  correction : PendingCorrection K
  replayedAt : Nat

structure PropagatedOdometryWorker (K : FilterKernel D) where
  config : PropagatedOdometryWorkerConfig
  propagator : ImuStatePropagator K
  imuIngress : List (ImuSample D) := []
  pendingCorrection : Option (PendingCorrection K) := none
  mainStatus : EstimatorStatus := .waitingForSensors
  navigationValid : Bool := false
  lastCorrectionTime : Option Timestamp := none
  lastAppliedCorrectionTime : Option Timestamp := none
  lastAppliedCorrectionSequence : Nat := 0
  replayInProgress : Bool := false
  accepting : Bool := true
  stopRequested : Bool := false
  loadShedRequested : Bool := false
  resetRequested : Bool := false
  invalidationRequested : Bool := false
  correctionRequested : Bool := false
  suspended : Bool := false
  controlGeneration : Nat := 0
  lastPublishedTime : Option Timestamp := none
  nextPublishDeadline : Option Timestamp := none
  log : List (ProducerCall K) := []
  generationBornAt : Nat := 0
  shedAt : Nat := 0
  inFlight : Option (PendingCorrection K) := none
  replayed : Option (Replayed K) := none

/-- What the final control check of a cycle has found. -/
structure ControlView where
  mainStatus : EstimatorStatus
  navigationValid : Bool
  suspended : Bool
  correctionPending : Bool
  replayInProgress : Bool
deriving DecidableEq

/-- A published estimate, with the correction it goes back to. Before the cycle polled its
requests `startedAt` calls had been made, before its final control check `checkedAt`. -/
structure Publication (K : FilterKernel D) where
  estimate : KinematicStateEstimate K
  replayed : Option (Replayed K)
  control : ControlView
  startedAt : Nat
  checkedAt : Nat

inductive WorkerOutput (K : FilterKernel D) where
  | applied (correction : PendingCorrection K)
  | published (publication : Publication K)

namespace PropagatedOdometryWorker
variable {K : FilterKernel D}

def create (config : PropagatedOdometryWorkerConfig) : PropagatedOdometryWorker K where
  config := config
  propagator := { config := config.propagator }

/-- `advanceControlGenerationLocked`. -/
def advanceControlGeneration (w : PropagatedOdometryWorker K) : PropagatedOdometryWorker K × Bool :=
  if w.controlGeneration = 2 ^ 64 - 1 then
    ({ w with accepting := false, suspended := true, stopRequested := true }, false)
  else
    ({ w with
        controlGeneration := w.controlGeneration + 1
        generationBornAt := w.log.length }, true)

def discardPendingCorrection (w : PropagatedOdometryWorker K) : PropagatedOdometryWorker K :=
  { w with pendingCorrection := none }

/-- `rejectCorrectionNotNewerThanAppliedLocked`. -/
def notNewerThanApplied (correctionSequence : Nat) (correctionTime : Timestamp)
    (w : PropagatedOdometryWorker K) : Bool :=
  let oldSequence := w.lastAppliedCorrectionSequence != 0 &&
    decide (correctionSequence < w.lastAppliedCorrectionSequence)
  let oldTimestamp := w.lastAppliedCorrectionTime.any fun t =>
    correctionTime.nanoseconds < t.nanoseconds
  let duplicate := w.lastAppliedCorrectionSequence != 0 &&
      decide (correctionSequence = w.lastAppliedCorrectionSequence) ||
    w.lastAppliedCorrectionTime.any fun t => correctionTime.nanoseconds = t.nanoseconds
  oldSequence || oldTimestamp || duplicate

def enqueueImu (sample : ImuSample D) (w : PropagatedOdometryWorker K) :
    PropagatedOdometryWorker K × Bool :=
  if !w.accepting then (w, false)
  else if w.config.imuIngressCapacity ≤ w.imuIngress.length then
    ({ w with loadShedRequested := true }, false)
  else ({ w with imuIngress := w.imuIngress ++ [sample] }, true)

/-- The part of `enqueueEstimatorState` that takes a correction of a valid state. -/
def enqueueCorrection (estimate : K.Estimate) (correctionSequence : Nat)
    (w : PropagatedOdometryWorker K) : PropagatedOdometryWorker K × Bool :=
  if correctionSequence = 0 ∨ !K.estimateFinite estimate then (w, false)
  else if w.lastCorrectionTime.any fun t => !estimate.time.sameClockDomain t then (w, false)
  else if w.pendingCorrection.any fun held =>
      !estimate.time.sameClockDomain held.estimate.time then (w, false)
  else if w.notNewerThanApplied correctionSequence estimate.time then (w, true)
  else if w.pendingCorrection.any fun held => correctionSequence ≤ held.correctionSequence ∨
      estimate.time.nanoseconds < held.estimate.time.nanoseconds then (w, true)
  else
    ({ w with
        pendingCorrection :=
          some ⟨estimate, correctionSequence, w.controlGeneration, w.log.length⟩
        lastCorrectionTime := some estimate.time
        correctionRequested := true }, true)

def enqueueEstimatorState (update : EstimatorStateUpdate K) (w : PropagatedOdometryWorker K) :
    PropagatedOdometryWorker K × Bool :=
  if !w.accepting then (w, false)
  else
    let w := { w with
      mainStatus := update.status
      navigationValid := update.navigationValid }
    if update.status ≠ .tracking ∨ !update.navigationValid then
      match w.advanceControlGeneration with
      | (w, false) => (w, false)
      | (w, true) => ({ w.discardPendingCorrection with invalidationRequested := true }, true)
    else
      match update.correctedEstimate with
      | none => (w, true)
      | some estimate => w.enqueueCorrection estimate update.correctionSequence

def requestLoadShedding (w : PropagatedOdometryWorker K) : PropagatedOdometryWorker K :=
  { w with loadShedRequested := true }

def reset (w : PropagatedOdometryWorker K) : PropagatedOdometryWorker K :=
  if !w.accepting then w else { w with resetRequested := true }

def stop (w : PropagatedOdometryWorker K) : PropagatedOdometryWorker K :=
  { w with accepting := false, stopRequested := true }

def handle (w : PropagatedOdometryWorker K) : ProducerCall K → PropagatedOdometryWorker K
  | .enqueueImu sample => (w.enqueueImu sample).1
  | .enqueueEstimatorState update => (w.enqueueEstimatorState update).1
  | .requestLoadShedding => w.requestLoadShedding
  | .reset => w.reset
  | .stop => w.stop

def produce (w : PropagatedOdometryWorker K) (call : ProducerCall K) :
    PropagatedOdometryWorker K := { w with log := w.log ++ [call] }.handle call

/-! ## The sections of the worker -/

def ready (w : PropagatedOdometryWorker K) : Bool :=
  w.stopRequested || !w.imuIngress.isEmpty || w.loadShedRequested || w.resetRequested ||
    w.invalidationRequested || w.correctionRequested

def drain (w : PropagatedOdometryWorker K) : PropagatedOdometryWorker K :=
  if w.stopRequested || !w.ready then w
  else { w with correctionRequested := false, imuIngress := [] }

/-- The section of a reset, behind `propagator_.reset()`. -/
def finishReset (w : PropagatedOdometryWorker K) : PropagatedOdometryWorker K :=
  match { w with imuIngress := [] }.discardPendingCorrection.advanceControlGeneration with
  | (w, false) => w
  | (w, true) =>
    { w with
      suspended := true
      loadShedRequested := false
      invalidationRequested := false
      correctionRequested := false }

/-- The section of load shedding; only an output that is not suspended is suspended. -/
def shed (w : PropagatedOdometryWorker K) : PropagatedOdometryWorker K × Bool :=
  if w.suspended then (w, true)
  else
    let advanced := { w with suspended := true }.advanceControlGeneration
    ({ advanced.1.discardPendingCorrection with shedAt := w.log.length }, advanced.2)

def handleContinuityReset (w : PropagatedOdometryWorker K) : PropagatedOdometryWorker K :=
  match { w with suspended := true }.advanceControlGeneration with
  | (w, false) => w
  | (w, true) => w.discardPendingCorrection

/-- The first section of `processPendingCorrection`. -/
def takePendingCorrection (w : PropagatedOdometryWorker K) :
    PropagatedOdometryWorker K × Option (PendingCorrection K) :=
  match w.pendingCorrection with
  | none => (w, none)
  | some pending =>
    let w := w.discardPendingCorrection
    if pending.controlGeneration ≠ w.controlGeneration ∨ w.mainStatus ≠ .tracking ∨
        !w.navigationValid then (w, none)
    else if w.notNewerThanApplied pending.correctionSequence pending.estimate.time then (w, none)
    else ({ w with replayInProgress := true, inFlight := some pending }, some pending)

/-- `propagator_.reanchorAndReplay`, outside the mutex. -/
def replay (correction : PendingCorrection K) (w : PropagatedOdometryWorker K) :
    PropagatedOdometryWorker K :=
  { w with
    propagator := (w.propagator.reanchorAndReplay correction.estimate).1
    replayed :=
      match (w.propagator.reanchorAndReplay correction.estimate).2 with
      | .ok _ => some ⟨correction, w.log.length⟩
      | .error _ => none }

/-- `requeuePendingCorrectionLocked`. -/
def requeue (correction : PendingCorrection K) (w : PropagatedOdometryWorker K) :
    PropagatedOdometryWorker K :=
  if w.pendingCorrection.any fun held =>
      correction.correctionSequence ≤ held.correctionSequence ∨
        correction.estimate.time.nanoseconds < held.estimate.time.nanoseconds then w
  else { w with pendingCorrection := some correction }

/-- A correction that came in during the replay of another one and goes beyond it. -/
def supersedes (correction : PendingCorrection K) (w : PropagatedOdometryWorker K) : Bool :=
  w.pendingCorrection.any fun held =>
    held.controlGeneration = correction.controlGeneration ∧
      correction.correctionSequence < held.correctionSequence ∧
      correction.estimate.time.nanoseconds ≤ held.estimate.time.nanoseconds

/-- The last section of `processPendingCorrection`; it returns whether the correction is
applied. -/
def completeReplay (correction : PendingCorrection K) (status : Except Status Unit)
    (w : PropagatedOdometryWorker K) : PropagatedOdometryWorker K × Bool :=
  let w := { w with replayInProgress := false, inFlight := none }
  if w.controlGeneration ≠ correction.controlGeneration then (w, false)
  else if (w.mainStatus ≠ .tracking ∨ !w.navigationValid) ∨ w.loadShedRequested ∨
      w.invalidationRequested then (w, false)
  else
    match status with
    | .ok _ =>
      if w.supersedes correction then
        ({ w with
            suspended := true
            propagator := w.propagator.invalidate .waitingForCorrection }, false)
      else
        let w := { w with
          suspended := false
          lastAppliedCorrectionTime := some correction.estimate.time
          lastAppliedCorrectionSequence := correction.correctionSequence }
        if w.pendingCorrection.any fun held =>
            held.controlGeneration = correction.controlGeneration ∧
              w.notNewerThanApplied held.correctionSequence held.estimate.time then
          (w.discardPendingCorrection, true)
        else (w, true)
    | .error failure =>
      if failure.code = .missingEndBracket then (w.requeue correction, false) else (w, false)

/-- The deadline behind the time of the sample; there is none when it overflows. -/
def deadlineBehind (config : PropagatedOdometryWorkerConfig) (time deadline : Timestamp) :
    Option Timestamp :=
  match _h : checkedAdd deadline config.publishPeriodNs with
  | .error _ => none
  | .ok next =>
    if next.nanoseconds ≤ time.nanoseconds then deadlineBehind config time next else some next
termination_by (time.nanoseconds - deadline.nanoseconds).toNat
decreasing_by
  have hNext := checkedAdd_ok _h
  have hPeriod := config.periodPositive
  omega

end PropagatedOdometryWorker

inductive WorkerSection (K : FilterKernel D) where
  | drain
  | takeReset
  | resetPropagator
  | finishReset
  | takeLoadShed
  | shed
  | takeInvalidation
  | suspend
  | invalidate (status : PropagatedOdometryStatus)
  | acceptImu (sample : ImuSample D)
  | recordImuForReplay (sample : ImuSample D)
  | continuityReset
  | take
  | replay (correction : PendingCorrection K)
  | complete (correction : PendingCorrection K) (status : Except Status Unit)
  | flush
  /-- A load of a flag, or a section that only reads. -/
  | look
  | startDeadline (time : Timestamp)
  | notePublished (time : Timestamp)
  | setDeadline (deadline : Timestamp)

/-- What the worker does not decide: whether the callback throws. -/
structure Moment where
  callbackThrows : Bool := false

namespace PropagatedOdometryWorker
variable {K : FilterKernel D}

def effect (w : PropagatedOdometryWorker K) : WorkerSection K → PropagatedOdometryWorker K
  | .drain => w.drain
  | .takeReset => { w with resetRequested := false }
  | .resetPropagator => { w with propagator := w.propagator.reset }
  | .finishReset => w.finishReset
  | .takeLoadShed => { w with loadShedRequested := false }
  | .shed => w.shed.1
  | .takeInvalidation => { w with invalidationRequested := false }
  | .suspend => { w with suspended := true }
  | .invalidate status => { w with propagator := w.propagator.invalidate status }
  | .acceptImu sample => { w with propagator := (w.propagator.acceptImu sample).1 }
  | .recordImuForReplay sample =>
    { w with propagator := (w.propagator.recordImuForReplay sample).1 }
  | .continuityReset => w.handleContinuityReset
  | .take => w.takePendingCorrection.1
  | .replay correction => w.replay correction
  | .complete correction status => (w.completeReplay correction status).1
  | .flush => { w with propagator := w.propagator.flushPendingPrediction.1 }
  | .look => w
  | .startDeadline time => { w with nextPublishDeadline := w.nextPublishDeadline.or (some time) }
  | .notePublished time => { w with lastPublishedTime := some time }
  | .setDeadline deadline => { w with nextPublishDeadline := some deadline }

/-! ## The worker's cycle -/

abbrev WorkerProgram (K : FilterKernel D) :=
  Program (PropagatedOdometryWorker K) Moment (WorkerSection K) (WorkerOutput K)

/-- `processPendingCorrection`; what comes behind it learns the time of an applied correction. -/
def processPendingCorrection (next : Option Timestamp → WorkerProgram K) : WorkerProgram K :=
  .lock .take fun w _ =>
    match w.takePendingCorrection.2 with
    | none => next none
    | some correction =>
      .lock (.replay correction) fun u _ =>
        let status := (u.propagator.reanchorAndReplay correction.estimate).2
        .lock (.complete correction status) fun v _ =>
          if (v.completeReplay correction status).2 then
            .emit (.applied correction) (next (some correction.estimate.time))
          else next none

/-- The loop over the batch, up to the first sample that is rejected. What comes behind it
learns the latest sample recorded and whether the loop has come to the end. -/
def recordBatch (next : Option (ImuSample D) → Bool → WorkerProgram K) :
    List (ImuSample D) → Bool → Option (ImuSample D) → WorkerProgram K
  | [], _, latest => next latest true
  | sample :: rest, suspended, latest =>
    .lock (if suspended then .recordImuForReplay sample else .acceptImu sample) fun w _ =>
      let record := (w.propagator.validateAndRecordImu sample !suspended).2
      if record.disposition = .continuityRestarted then
        .lock .continuityReset fun _ _ => recordBatch next rest true (some sample)
      else if record.fault.isSome then next latest false
      else recordBatch next rest suspended (some sample)

def loadTransition (next : PropagatedOdometryWorker K → Bool → WorkerProgram K) : WorkerProgram K :=
  .lock .look fun w _ =>
    if w.loadShedRequested then next w true
    else .lock .look fun u _ => next w u.invalidationRequested

def correctionStale (w : PropagatedOdometryWorker K) : Bool :=
  match w.propagator.latestImuTime, w.lastAppliedCorrectionTime with
  | some latest, some applied =>
    match checkedDifference latest applied with
    | .ok age => w.config.maximumCorrectionAgeNs < age
    | .error _ => false
  | _, _ => false

def controlView (w : PropagatedOdometryWorker K) : ControlView where
  mainStatus := w.mainStatus
  navigationValid := w.navigationValid
  suspended := w.suspended
  correctionPending := w.pendingCorrection.isSome
  replayInProgress := w.replayInProgress

/-- What a cycle knows when it comes to its publication. -/
structure CycleFacts (D : Type) where
  sample : ImuSample D
  control : ControlView
  startedAt : Nat
  checkedAt : Nat

def maybePublishOnImu (facts : CycleFacts D) : WorkerProgram K :=
  .lock .look fun w _ =>
    if w.stopRequested then .done
    else
      .lock .look fun u _ =>
        if u.pendingCorrection.isSome || u.correctionRequested || u.replayInProgress then .done
        else if u.propagator.requiresReanchor then .done
        else
          .lock (.startDeadline facts.sample.time) fun v moment =>
            let deadline := v.nextPublishDeadline.getD facts.sample.time
            if facts.sample.time.nanoseconds < deadline.nanoseconds then .done
            else
              match v.propagator.kinematicEstimate with
              | none => .done
              | some estimate =>
                if v.lastPublishedTime.any fun t =>
                    estimate.estimate.time.nanoseconds ≤ t.nanoseconds then .done
                else if moment.callbackThrows then .lock .suspend fun _ _ => .done
                else
                  .emit (.published ⟨estimate, v.replayed, facts.control, facts.startedAt,
                      facts.checkedAt⟩)
                    (.lock (.notePublished estimate.estimate.time) fun x _ =>
                      match deadlineBehind x.config facts.sample.time deadline with
                      | none => .lock .suspend fun _ _ => .done
                      | some next => .lock (.setDeadline next) fun _ _ => .done)

/-- The recheck of the control channel immediately before the publication. -/
def recheckControl (startedAt cycleGeneration : Nat) (latest : Option (ImuSample D)) (ok : Bool)
    (applied : Option Timestamp) : WorkerProgram K :=
  loadTransition fun w requested =>
    .lock .look fun u _ =>
      let pending := requested || u.controlGeneration != cycleGeneration ||
        u.mainStatus != .tracking || !u.navigationValid || u.pendingCorrection.isSome ||
        u.replayInProgress || u.correctionRequested
      .lock .look fun v _ =>
        match latest with
        | none => .done
        | some sample =>
          if !pending && !v.suspended && ok && v.propagator.valid &&
              applied.all fun t => t.nanoseconds < sample.time.nanoseconds then
            maybePublishOnImu ⟨sample, u.controlView, startedAt, w.log.length⟩
          else .done

/-- The part of `processImuBatch` behind `processPendingCorrection`. -/
def finishBatch (startedAt cycleGeneration : Nat) (latest : Option (ImuSample D)) (ok : Bool)
    (applied : Option Timestamp) : WorkerProgram K :=
  loadTransition fun _ requested =>
    .lock .look fun w _ =>
      let transitionPending := requested || w.controlGeneration != cycleGeneration
      .lock .look fun u _ =>
        .lock .look fun v _ =>
          let checkAge (ok : Bool) : WorkerProgram K :=
            .lock .look fun x _ =>
              if !transitionPending && ok && x.correctionStale then
                .lock (.invalidate .staleCorrection) fun _ _ =>
                  recheckControl startedAt cycleGeneration latest false applied
              else recheckControl startedAt cycleGeneration latest ok applied
          if !transitionPending && !u.suspended && ok && latest.any fun sample =>
              v.nextPublishDeadline.all fun t => t.nanoseconds ≤ sample.time.nanoseconds then
            .lock .flush fun x _ => checkAge x.propagator.flushPendingPrediction.2.isOk
          else checkAge ok

def processImuBatch (startedAt : Nat) (batch : List (ImuSample D)) : WorkerProgram K :=
  .lock .look fun w _ =>
    .lock .look fun u _ =>
      recordBatch (fun latest ok =>
        processPendingCorrection (finishBatch startedAt u.controlGeneration latest ok))
        batch w.suspended none

def processInputs (startedAt : Nat) (batch : List (ImuSample D)) : WorkerProgram K :=
  match batch with
  | [] => processPendingCorrection fun _ => .done
  | sample :: rest => processImuBatch startedAt (sample :: rest)

def handleInvalidation (next : WorkerProgram K) : WorkerProgram K :=
  .lock .takeInvalidation fun w _ =>
    if w.invalidationRequested then
      .lock .suspend fun _ _ => .lock (.invalidate .mainEstimatorInvalid) fun _ _ => next
    else next

def handleLoadShedding (next : WorkerProgram K) : WorkerProgram K :=
  .lock .takeLoadShed fun w _ =>
    if w.loadShedRequested then
      .lock .shed fun u _ =>
        if u.shed.2 then .lock (.invalidate .queueOverflow) fun _ _ => next else .done
    else next

/-- One turn of the loop of `run`. A worker that has to stop does nothing in it. -/
def runCycle : WorkerProgram K :=
  .lock .drain fun w _ =>
    if w.stopRequested || !w.ready then .done
    else
      .lock .takeReset fun u _ =>
        if u.resetRequested then
          .lock .resetPropagator fun _ _ => .lock .finishReset fun _ _ => .done
        else
          handleLoadShedding (handleInvalidation (processInputs u.log.length w.imuIngress))

def system : System (PropagatedOdometryWorker K) Moment (WorkerSection K) (WorkerOutput K) Unit
    (ProducerCall K) where
  effect := fun label w _ => w.effect label
  callback := fun _ _ => runCycle
  input := produce

abbrev WorkerStep (K : FilterKernel D) :=
  System.Step (PropagatedOdometryWorker K) Moment (WorkerSection K) (WorkerOutput K) Unit
    (ProducerCall K)

def runSteps (config : PropagatedOdometryWorkerConfig)
    (ops : List (Operation Unit (ProducerCall K) Moment)) : List (WorkerStep K) :=
  Runs.events system.step ⟨create config, .done⟩ ops

end PropagatedOdometryWorker

end UavNavigation.FastLio
