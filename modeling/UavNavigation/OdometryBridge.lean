import UavNavigation.FrameConverter
import UavNavigation.Runs

/-!
# The PX4 odometry bridge

`px4_odometry_bridge_node.cpp` with its time validator and ring buffer. Every
callback is one step; the node runs on one thread. The two reset histories are
sorted by time stamp. Diagnostics are the pairs of state and message that the
callback publishes.
-/

namespace UavNavigation

set_option autoImplicit false

open FloatOps Runs

structure VehicleOdometry (D : Type) where
  timestampSample : Nat
  poseFrame : Nat
  velocityFrame : Nat
  position : Vec3 D
  q : Quaternion D
  velocity : Vec3 D
  angularVelocity : Vec3 D
  positionVariance : Vec3 D
  orientationVariance : Vec3 D
  velocityVariance : Vec3 D
  resetCounter : Nat
deriving DecidableEq

structure VehicleLocalPosition (D : Type) where
  timestampSample : Nat
  deltaXy : D × D
  deltaZ : D
  deltaVxy : D × D
  deltaVz : D
  deltaHeading : D
  xyResetCounter : Nat
  zResetCounter : Nat
  vxyResetCounter : Nat
  vzResetCounter : Nat
  headingResetCounter : Nat
deriving DecidableEq

structure VehicleAttitude (D : Type) where
  timestampSample : Nat
  deltaQReset : Quaternion D
  quatResetCounter : Nat
deriving DecidableEq

/-- `nav_msgs/Odometry`; the covariances are six by six, by rows. -/
structure RosOdometry (D : Type) where
  stampNs : Int
  frameId : String
  childFrameId : String
  position : Vec3 D
  orientation : Quaternion D
  linear : Vec3 D
  angular : Vec3 D
  poseCovariance : List D
  twistCovariance : List D
deriving DecidableEq

structure TimeValidationConfig where
  maxStaleNs : Int := 200000000
  maxFutureNs : Int := 200000000
  probableRestartRegressionNs : Int := 1000000000
  restartLowEpochMaxNs : Int := 10000000000
deriving DecidableEq

inductive TimestampEvent where
  | accepted
  | duplicate
  | smallRegression
  | probableSourceRestart
  | stale
  | future
  | invalid
deriving DecidableEq

structure TimeValidationResult where
  accepted : Bool
  generation : Nat
  reason : String
  event : TimestampEvent
deriving DecidableEq

structure TimestampValidator where
  config : TimeValidationConfig := {}
  lastTimestampNs : Option Int := none
  generation : Nat := 0
deriving DecidableEq

namespace TimestampValidator

def reject (v : TimestampValidator) (reason : String) (event : TimestampEvent) :
    TimestampValidator × TimeValidationResult :=
  (v, ⟨false, v.generation, reason, event⟩)

def observeRegression (v : TimestampValidator) (last timestampNs : Int) :
    TimestampValidator × TimeValidationResult :=
  match checkedDifference last timestampNs with
  | none => v.reject "timestamp delta is not representable" .invalid
  | some regressionNs =>
    if v.config.probableRestartRegressionNs ≤ regressionNs &&
        v.config.restartLowEpochMaxNs < last && timestampNs ≤ v.config.restartLowEpochMaxNs then
      if v.generation == 2 ^ 64 - 1 then v.reject "timestamp generation exhausted" .invalid
      else
        ({ v with generation := v.generation + 1, lastTimestampNs := some timestampNs },
          ⟨true, v.generation + 1, "probable PX4 source restart", .probableSourceRestart⟩)
    else v.reject "small PX4 timestamp regression" .smallRegression

def observeAdvance (v : TimestampValidator) (timestampNs nowNs : Int) :
    TimestampValidator × TimeValidationResult :=
  match checkedDifference nowNs timestampNs, checkedDifference timestampNs nowNs with
  | none, _ => v.reject "timestamp delta is not representable" .invalid
  | some age, future =>
    if v.config.maxStaleNs < age then v.reject "stale PX4 sample timestamp" .stale
    else
      match future with
      | none => v.reject "timestamp delta is not representable" .invalid
      | some future =>
        if v.config.maxFutureNs < future then v.reject "future PX4 sample timestamp" .future
        else
          ({ v with lastTimestampNs := some timestampNs }, ⟨true, v.generation, "", .accepted⟩)

def observe (v : TimestampValidator) (timestampUs : Nat) (nowNs : Int) :
    TimestampValidator × TimeValidationResult :=
  if nowNs ≤ 0 then v.reject "invalid current time" .invalid
  else
    match microsecondsToNanoseconds timestampUs with
    | none => v.reject "timestamp conversion overflow/zero" .invalid
    | some timestampNs =>
      match v.lastTimestampNs with
      | none => v.observeAdvance timestampNs nowNs
      | some last =>
        if timestampNs == last then v.reject "duplicate PX4 sample timestamp" .duplicate
        else if timestampNs < last then v.observeRegression last timestampNs
        else v.observeAdvance timestampNs nowNs

end TimestampValidator

structure RingBufferConfig where
  durationNs : Int := 2000000000
  capacity : Nat := 512
  maxGapNs : Int := 50000000
  stableSamples : Nat := 3
deriving DecidableEq

structure OdometryRingBuffer (D : Type) where
  config : RingBufferConfig
  samples : List (ConvertedOdometry D) := []
  currentGeneration : Nat := 0
  generationInitialized : Bool := false
  stableSampleCount : Nat := 0
  postResetStable : Bool := false
deriving DecidableEq

namespace OdometryRingBuffer
variable {D : Type} [FloatOps D]

def trim (config : RingBufferConfig) : List (ConvertedOdometry D) → List (ConvertedOdometry D)
  | [] => []
  | front :: rest =>
    let back := (front :: rest).getLast?.getD front
    let outside :=
      match checkedDifference back.timestampNs front.timestampNs with
      | none => true
      | some span => config.durationNs < span
    if config.capacity < rest.length + 1 || outside then trim config rest else front :: rest

def notAfter (samples : List (ConvertedOdometry D)) (timestampNs : Int) : Bool :=
  match samples.getLast? with
  | some back => timestampNs ≤ back.timestampNs
  | none => false

def validConvertedOdometry (s : ConvertedOdometry D) : Bool :=
  0 < s.timestampNs && s.frameGeneration != 0 && ResetCompensator.validMotion s

/-- `push`: the buffer and whether the sample is in it and stable. -/
def push (b : OdometryRingBuffer D) (s : ConvertedOdometry D) : OdometryRingBuffer D × Bool :=
  if !validConvertedOdometry s || notAfter b.samples s.timestampNs then
    ({ b with samples := [], postResetStable := false, stableSampleCount := 0 }, false)
  else
    let b :=
      if !b.generationInitialized || s.frameGeneration != b.currentGeneration then
        { b with
          samples := if b.generationInitialized then [] else b.samples
          currentGeneration := s.frameGeneration
          generationInitialized := true
          stableSampleCount := 0
          postResetStable := false }
      else b
    let b := { b with stableSampleCount := b.stableSampleCount + 1 }
    if b.stableSampleCount < b.config.stableSamples then (b, false)
    else
      ({ b with postResetStable := true, samples := trim b.config (b.samples ++ [s]) }, true)

def clear (b : OdometryRingBuffer D) : OdometryRingBuffer D := { config := b.config }

end OdometryRingBuffer

/-! ## The node -/

def frameGenerationAfterSourceRestart (currentGeneration : Nat) (publicFrameExists : Bool) :
    Option Nat :=
  if currentGeneration == 0 then none
  else if !publicFrameExists then some currentGeneration
  else if currentGeneration == 2 ^ 64 - 1 then none
  else some (currentGeneration + 1)

structure OdometryBridge (D : Type) where
  maximumMetadataAgeNs : Int
  maximumMetadataAssociationGapNs : Int
  converter : Option (Quaternion D) := none
  compensator : ResetCompensator D
  validator : TimestampValidator := {}
  history : OdometryRingBuffer D
  localResetHistory : List (DetailedResetMetadata D) := []
  attitudeResetHistory : List (DetailedResetMetadata D) := []
  outputValid : Bool := false
  continuityValid : Bool := true
  startupOriginRebased : Bool := false
  lastValidSampleTimeNs : Int := 0
  lastTimeGeneration : Nat := 0
  frameGeneration : Nat := 1
  resetEventGeneration : Nat := 0
  lastInputResetCounter : Option Nat := none
  lastWorldConvention : WorldConvention := .unknown
deriving DecidableEq

structure BridgeOutput (D : Type) where
  diagnostics : List (String × String) := []
  odometry : Option (RosOdometry D) := none
deriving DecidableEq

namespace OdometryBridge
variable {D : Type} [FloatOps D]

/-- The parameters are checked; at least one stable sample is required. -/
def create (maximumMetadataAgeS maximumMetadataAssociationGapS : Option Int)
    (stableSamplesAfterReset : Int) : Option (OdometryBridge D) :=
  match maximumMetadataAgeS, maximumMetadataAssociationGapS with
  | some age, some gap =>
    if age ≤ 0 || gap < 0 || stableSamplesAfterReset ≤ 0 then none
    else some {
      maximumMetadataAgeNs := age
      maximumMetadataAssociationGapNs := gap
      compensator := .clear
      history := { config := { stableSamples := stableSamplesAfterReset.toNat } } }
  | _, _ => none

/-- The entry goes after those that are not later; the oldest beyond 64 leave. -/
def insertMetadata (history : List (DetailedResetMetadata D)) (m : DetailedResetMetadata D) :
    List (DetailedResetMetadata D) :=
  let inserted := history.takeWhile (·.timestampNs ≤ m.timestampNs) ++ m ::
    history.dropWhile (·.timestampNs ≤ m.timestampNs)
  inserted.drop (inserted.length - 64)

def recordLocalResetMetadata (b : OdometryBridge D) (message : VehicleLocalPosition D) :
    OdometryBridge D :=
  match microsecondsToNanoseconds message.timestampSample with
  | none => b
  | some timestampNs =>
    { b with
      localResetHistory := insertMetadata b.localResetHistory
        { DetailedResetMetadata.default with
          timestampNs
          matchedOdometryTimestampNs := timestampNs
          positionDeltaSource := ⟨message.deltaXy.1, message.deltaXy.2, message.deltaZ⟩
          velocityDeltaSource := ⟨message.deltaVxy.1, message.deltaVxy.2, message.deltaVz⟩
          headingDeltaRad := message.deltaHeading
          xyResetCounter := message.xyResetCounter
          zResetCounter := message.zResetCounter
          vxyResetCounter := message.vxyResetCounter
          vzResetCounter := message.vzResetCounter
          headingResetCounter := message.headingResetCounter } }

def recordAttitudeResetMetadata (b : OdometryBridge D) (message : VehicleAttitude D) :
    OdometryBridge D :=
  match microsecondsToNanoseconds message.timestampSample with
  | none => b
  | some timestampNs =>
    { b with
      attitudeResetHistory := insertMetadata b.attitudeResetHistory
        { DetailedResetMetadata.default with
          timestampNs
          matchedOdometryTimestampNs := timestampNs
          attitudeDelta := message.deltaQReset
          attitudeResetCounter := message.quatResetCounter } }

/-- The flags of an entry are the counters that moved by one since the entry before it. -/
def compareMetadata (previous current : DetailedResetMetadata D) : DetailedResetMetadata D :=
  let xy := counterDelta previous.xyResetCounter current.xyResetCounter
  let z := counterDelta previous.zResetCounter current.zResetCounter
  let vxy := counterDelta previous.vxyResetCounter current.vxyResetCounter
  let vz := counterDelta previous.vzResetCounter current.vzResetCounter
  let heading := counterDelta previous.headingResetCounter current.headingResetCounter
  let attitude := counterDelta previous.attitudeResetCounter current.attitudeResetCounter
  if 1 < xy || 1 < z || 1 < vxy || 1 < vz || 1 < heading || 1 < attitude then
    { current with associationInvalid := true, available := false }
  else
    let flagged :=
      { current with
        positionXyReset := xy == 1
        positionZReset := z == 1
        velocityXyReset := vxy == 1
        velocityZReset := vz == 1
        headingReset := heading == 1
        attitudeReset := attitude == 1 }
    { flagged with available := !flagged.associationInvalid && flagged.hasReset }

/-- The latest entry that is not after the time stamp and not too old. -/
def metadataAt (maximumAgeNs : Int) (history : List (DetailedResetMetadata D))
    (timestampNs : Int) : Option (DetailedResetMetadata D) :=
  match (history.takeWhile (·.timestampNs ≤ timestampNs)).reverse with
  | [] => none
  | current :: earlier =>
    if maximumAgeNs < timestampNs - current.timestampNs then none
    else
      let matched := { current with matchedOdometryTimestampNs := timestampNs }
      match earlier with
      | [] => some matched
      | previous :: _ => some (compareMetadata previous matched)

def disagree (gapNs : Int) (position attitude : Option (DetailedResetMetadata D)) : Bool :=
  match position, attitude with
  | some p, some a => p.hasReset && a.hasReset && gapNs < (p.timestampNs - a.timestampNs).natAbs
  | _, _ => false

def detailedMetadataFor (b : OdometryBridge D) (timestampNs : Int) :
    Option (DetailedResetMetadata D) :=
  let position := metadataAt b.maximumMetadataAgeNs b.localResetHistory timestampNs
  let attitude := metadataAt b.maximumMetadataAgeNs b.attitudeResetHistory timestampNs
  if position.isNone && attitude.isNone then none
  else
    let base : DetailedResetMetadata D :=
      { DetailedResetMetadata.default with
        matchedOdometryTimestampNs := timestampNs
        associationInvalid := position.any (·.associationInvalid) ||
          attitude.any (·.associationInvalid) ||
          disagree b.maximumMetadataAssociationGapNs position attitude }
    let withPosition :=
      match position with
      | none => base
      | some p =>
        { base with
          positionXyReset := p.positionXyReset
          positionZReset := p.positionZReset
          velocityXyReset := p.velocityXyReset
          velocityZReset := p.velocityZReset
          headingReset := p.headingReset
          positionDeltaSource := p.positionDeltaSource
          velocityDeltaSource := p.velocityDeltaSource
          headingDeltaRad := p.headingDeltaRad
          xyResetCounter := p.xyResetCounter
          zResetCounter := p.zResetCounter
          vxyResetCounter := p.vxyResetCounter
          vzResetCounter := p.vzResetCounter
          headingResetCounter := p.headingResetCounter }
    let withAttitude :=
      match attitude with
      | none => withPosition
      | some a =>
        { withPosition with
          attitudeReset := a.attitudeReset
          attitudeDelta := a.attitudeDelta
          attitudeResetCounter := a.attitudeResetCounter }
    some { withAttitude with
      available := !withAttitude.associationInvalid && withAttitude.hasReset }

/-! ## Odometry -/

def toRos (s : ConvertedOdometry D) : RosOdometry D where
  stampNs := s.timestampNs
  frameId := "px4_odom"
  childFrameId := "base_link"
  position := s.position
  orientation := s.orientation
  linear := s.velocityBody
  angular := s.angularVelocityBody
  poseCovariance := diagonal (s.positionCovarianceAvailable, s.positionVariance)
    (s.orientationCovarianceAvailable, s.orientationVariance)
  twistCovariance := diagonal (s.velocityCovarianceAvailable, s.velocityVariance)
    (true, ⟨lit (-1), lit (-1), lit (-1)⟩)
where
  entry (block : Bool × Vec3 D) (value : Vec3 D → D) : D :=
    if block.1 then value block.2 else lit 0
  line (index : Nat) (value : D) : List D :=
    List.replicate index (lit 0) ++ value :: List.replicate (5 - index) (lit 0)
  diagonal (first second : Bool × Vec3 D) : List D :=
    line 0 (entry first (·.x)) ++ line 1 (entry first (·.y)) ++ line 2 (entry first (·.z)) ++
      line 3 (entry second (·.x)) ++ line 4 (entry second (·.y)) ++ line 5 (entry second (·.z))

def sampleOf (message : VehicleOdometry D) (timestampNs : Int) : Px4OdometrySample D where
  timestampNs
  poseFrame := .ofMessage message.poseFrame
  velocityFrame := .ofMessage message.velocityFrame
  position := message.position
  orientation := message.q
  velocity := message.velocity
  angularVelocity := message.angularVelocity
  positionVariance := message.positionVariance
  velocityVariance := message.velocityVariance
  orientationVariance := message.orientationVariance
  resetCounter := message.resetCounter
  angularVelocityValid := message.angularVelocity.allFinite

def restartCompensation (b : OdometryBridge D) : OdometryBridge D :=
  { b with
    history := b.history.clear
    compensator := .clear
    converter := none
    startupOriginRebased := false
    continuityValid := false }

def exhaust (b : OdometryBridge D) (message : String) (diagnostics : List (String × String)) :
    OdometryBridge D × BridgeOutput D :=
  ({ b with outputValid := false, continuityValid := false },
    { diagnostics := diagnostics ++ [("rejected", message)] })

def restartTime (b : OdometryBridge D) (generation : Nat) (frameGeneration : Nat) :
    OdometryBridge D :=
  { b.restartCompensation with
    frameGeneration
    localResetHistory := []
    attitudeResetHistory := []
    outputValid := false
    lastValidSampleTimeNs := 0
    lastTimeGeneration := generation }

def publishContinuous (b : OdometryBridge D) (generation : Nat) (resetCounter : Nat)
    (convention : WorldConvention) (accepted : ConvertedOdometry D)
    (diagnostics : List (String × String)) : OdometryBridge D × BridgeOutput D :=
  let continuous :=
    { accepted with
      frameGeneration := b.frameGeneration
      resetGeneration := b.resetEventGeneration
      resetEventGeneration := b.resetEventGeneration }
  let rebased : Option (OdometryBridge D × ConvertedOdometry D) :=
    if b.startupOriginRebased then some (b, continuous)
    else
      match b.compensator.rebasePositionAtCurrentOutput with
      | (_, none) => none
      | (compensator, some origin) =>
        some ({ b with compensator, startupOriginRebased := true },
          { continuous with position := continuous.position - origin })
  match rebased with
  | none =>
    ({ b with continuityValid := false },
      { diagnostics := diagnostics ++ [("suppressed", "PX4 startup origin was not finite")] })
  | some (b, continuous) =>
    let continuous := { continuous with timeGeneration := generation }
    match b.history.push continuous with
    | (history, false) =>
      ({ b with history, continuityValid := false },
        { diagnostics :=
            diagnostics ++ [("stabilizing", "PX4 post-reset stable sample gate active")] })
    | (history, true) =>
      ({ b with
          history
          continuityValid := true
          outputValid := true
          lastWorldConvention := convention
          lastValidSampleTimeNs := continuous.timestampNs
          lastTimeGeneration := generation
          lastInputResetCounter := some resetCounter },
        { diagnostics := diagnostics ++ [("running", "VehicleOdometry converted and published")]
          odometry := some (toRos continuous) })

section Observation
variable [Trigonometry D]

/-- Before the first output a sample without its metadata becomes the baseline. -/
def rebaselineStartup (b : OdometryBridge D) (converted : ConvertedOdometry D)
    (metadata : DetailedResetMetadata D) (observation : ResetObservation D) :
    OdometryBridge D × ResetObservation D × List (String × String) :=
  if !observation.accepted && !b.outputValid && observation.status == .metadataPending &&
      !metadata.associationInvalid then
    let b := { b.restartCompensation with lastValidSampleTimeNs := 0 }
    let (compensator, observation) := b.compensator.observe converted .default
    ({ b with compensator }, observation,
      [("stabilizing", "PX4 startup baseline reinitialized before reset metadata")])
  else (b, observation, [])

/-- The end of the old public frame, when a reset of it cannot be compensated. -/
def endsFrame (b : OdometryBridge D) (counterChanged : Bool) (observation : ResetObservation D) :
    Bool :=
  counterChanged && b.outputValid &&
    (observation.status == .invalidMetadata || observation.status == .counterDiscontinuity ||
      observation.status == .invalidResetRotation)

def endFrame (b : OdometryBridge D) (converted : ConvertedOdometry D) :
    OdometryBridge D × ResetObservation D :=
  let b := { b.restartCompensation with frameGeneration := b.frameGeneration + 1 }
  let (compensator, observation) := b.compensator.observe converted .default
  ({ b with compensator }, observation)

def conclude (b : OdometryBridge D) (generation : Nat) (converted : ConvertedOdometry D)
    (observation : ResetObservation D) (diagnostics : List (String × String)) :
    OdometryBridge D × BridgeOutput D :=
  match observation.sample with
  | none =>
    ({ b with continuityValid := false },
      { diagnostics := diagnostics ++
          [("suppressed", "PX4 reset observation: " ++ observation.status.text)] })
  | some accepted =>
    b.publishContinuous generation converted.resetCounter converted.worldConvention accepted
      diagnostics

def settle (b : OdometryBridge D) (generation : Nat) (counterChanged : Bool)
    (converted : ConvertedOdometry D) (metadata : DetailedResetMetadata D)
    (observation : ResetObservation D) (diagnostics : List (String × String)) :
    OdometryBridge D × BridgeOutput D :=
  let ends := b.endsFrame counterChanged observation
  if ends && b.frameGeneration == 2 ^ 64 - 1 then
    b.exhaust "public frame generation exhausted" diagnostics
  else
    let framed := if ends then b.endFrame converted else (b, observation)
    let started := framed.1.rebaselineStartup converted metadata framed.2
    started.1.conclude generation converted started.2.1 (diagnostics ++ started.2.2)

def observeConverted (b : OdometryBridge D) (generation : Nat) (converted : ConvertedOdometry D)
    (metadata : DetailedResetMetadata D) (diagnostics : List (String × String)) :
    OdometryBridge D × BridgeOutput D :=
  let counterChanged := b.lastInputResetCounter.any (· != converted.resetCounter)
  let (compensator, observation) := b.compensator.observe converted metadata
  let b := { b with compensator }
  if observation.status == .resetTransitionSuppressed then
    if b.resetEventGeneration == 2 ^ 64 - 1 then
      b.exhaust "reset event generation exhausted" diagnostics
    else
      { b with resetEventGeneration := b.resetEventGeneration + 1 }.settle generation
        counterChanged converted metadata observation diagnostics
  else b.settle generation counterChanged converted metadata observation diagnostics

def convertSample (b : OdometryBridge D) (generation : Nat) (message : VehicleOdometry D)
    (timestampNs : Int) (diagnostics : List (String × String)) :
    OdometryBridge D × BridgeOutput D :=
  match FrameConverter.convert b.converter (sampleOf message timestampNs) with
  | (converter, .error _) =>
    ({ b with converter },
      { diagnostics :=
          diagnostics ++ [("rejected", "PX4 frame conversion rejected sample")] })
  | (converter, .ok converted) =>
    let b := { b with converter }
    b.observeConverted generation converted
      ((b.detailedMetadataFor timestampNs).getD .default) diagnostics

def onOdometry (b : OdometryBridge D) (message : VehicleOdometry D) (nowNs : Int) :
    OdometryBridge D × BridgeOutput D :=
  match microsecondsToNanoseconds message.timestampSample with
  | none => (b, { diagnostics := [("rejected", "invalid PX4 timestamp")] })
  | some timestampNs =>
    let (validator, time) := b.validator.observe message.timestampSample nowNs
    let b := { b with validator }
    if !time.accepted then (b, { diagnostics := [("rejected", time.reason)] })
    else if time.event == .probableSourceRestart then
      match frameGenerationAfterSourceRestart b.frameGeneration b.outputValid with
      | none => b.exhaust "public frame generation exhausted" []
      | some frameGeneration =>
        (b.restartTime time.generation frameGeneration).convertSample time.generation message
          timestampNs [("restarting_time_generation", time.reason)]
    else b.convertSample time.generation message timestampNs []

inductive Operation (D : Type) where
  | odometry (message : VehicleOdometry D) (nowNs : Int)
  | localPosition (message : VehicleLocalPosition D)
  | attitude (message : VehicleAttitude D)
deriving DecidableEq

def step (b : OdometryBridge D) : Operation D → OdometryBridge D × BridgeOutput D
  | .odometry message nowNs => b.onOdometry message nowNs
  | .localPosition message => (b.recordLocalResetMetadata message, {})
  | .attitude message => (b.recordAttitudeResetMetadata message, {})

end Observation

/-! ## What the bridge can publish -/

variable [Trigonometry D]

structure Refused (o : ResetObservation D) : Prop where
  status : o.status = .invalidMetadata
  sample : o.sample = none

variable {converted : ConvertedOdometry D}

theorem endFrame_refused (b : OdometryBridge D) (h : converted.frameGeneration = 0) :
    Refused (b.endFrame converted).2 := by
  simp only [endFrame, ResetCompensator.observe_without_generation _ _ h]
  exact ⟨rfl, rfl⟩

theorem rebaselineStartup_refused (b : OdometryBridge D) (converted : ConvertedOdometry D)
    (m : DetailedResetMetadata D) {o : ResetObservation D} (h : Refused o) :
    b.rebaselineStartup converted m o = (b, o, []) := by
  simp [rebaselineStartup, h.status]

omit [Trigonometry D] in
theorem conclude_refused (b : OdometryBridge D) (generation : Nat) (converted : ConvertedOdometry D)
    {o : ResetObservation D} (h : Refused o) (diagnostics : List (String × String)) :
    (b.conclude generation converted o diagnostics).2.odometry = none := by
  simp only [conclude, h.sample]

section
variable (b : OdometryBridge D)

section
variable (generation : Nat) (message : VehicleOdometry D)

theorem settle_refused (counterChanged : Bool)
    (hConverted : converted.frameGeneration = 0) (m : DetailedResetMetadata D)
    {o : ResetObservation D} (h : Refused o) (diagnostics : List (String × String)) :
    (b.settle generation counterChanged converted m o diagnostics).2.odometry = none := by
  have hFramed : Refused
      (if b.endsFrame counterChanged o then b.endFrame converted else (b, o)).2 := by
    split
    · exact endFrame_refused b hConverted
    · exact h
  unfold settle
  dsimp only
  split
  · rfl
  · rw [rebaselineStartup_refused _ converted m hFramed]
    exact conclude_refused _ generation converted hFramed _

theorem observeConverted_silent (h : converted.frameGeneration = 0)
    (m : DetailedResetMetadata D) (diagnostics : List (String × String)) :
    (b.observeConverted generation converted m diagnostics).2.odometry = none := by
  simp only [observeConverted, ResetCompensator.observe_without_generation _ _ h]
  exact settle_refused _ generation _ h m ⟨rfl, rfl⟩ diagnostics

theorem convertSample_silent (timestampNs : Int) (diagnostics : List (String × String)) :
    (b.convertSample generation message timestampNs diagnostics).2.odometry = none := by
  unfold convertSample
  split
  · rfl
  · rename_i converter converted hConvert
    have hOk : (FrameConverter.convert b.converter (sampleOf message timestampNs)).2 =
        .ok converted := by
      rw [hConvert]
    have hZero : converted.frameGeneration = 0 := FrameConverter.convert_frameGeneration hOk
    exact observeConverted_silent _ generation hZero _ diagnostics

theorem onOdometry_silent (nowNs : Int) : (b.onOdometry message nowNs).2.odometry = none := by
  fun_cases onOdometry
  case case4 => exact convertSample_silent _ _ message _ _
  case case5 => exact convertSample_silent _ _ message _ _
  all_goals rfl

end

theorem odometry_never_published (ops : List (Operation D)) :
    ∀ e ∈ events step b ops, e.result.odometry = none := by
  intro e he
  obtain ⟨before, op, after, rfl, rfl⟩ := exists_split_of_mem_events he
  cases op with
  | odometry message nowNs => exact onOdometry_silent _ message nowNs
  | localPosition message => rfl
  | attitude message => rfl

end

omit [Trigonometry D] in
theorem detailedMetadataFor_timestampNs {b : OdometryBridge D} {timestampNs : Int}
    {m : DetailedResetMetadata D} (h : b.detailedMetadataFor timestampNs = some m) :
    m.timestampNs = 0 := by
  unfold detailedMetadataFor at h
  dsimp only at h
  split at h
  · cases h
  · cases h
    cases metadataAt b.maximumMetadataAgeNs b.attitudeResetHistory timestampNs <;>
      cases metadataAt b.maximumMetadataAgeNs b.localResetHistory timestampNs <;> rfl

/-- A reset that the histories declare compensable is refused. -/
theorem assembled_reset_refused {b : OdometryBridge D} {timestampNs : Int}
    {m : DetailedResetMetadata D} (hMetadata : b.detailedMetadataFor timestampNs = some m)
    {c : ResetCompensator D} (hInitialized : c.initialized = true) {sample : ConvertedOdometry D}
    (hCounter : counterDelta c.lastCounter sample.resetCounter = 1) :
    (c.observe sample m).1 = c ∧ (c.observe sample m).2.status ≠ .resetTransitionSuppressed := by
  have hStamp : m.timestampNs ≤ 0 := Int.le_of_eq (detailedMetadataFor_timestampNs hMetadata)
  cases ResetCompensator.observe_observed c sample m with
  | refused hSame _ hSuppressed => exact ⟨hSame, hSuppressed⟩
  | started hFresh =>
    rw [hInitialized] at hFresh
    cases hFresh
  | continued _ hContinues =>
    rw [hContinues] at hCounter
    cases hCounter
  | compensated _ _ _ hPositive => exact absurd hPositive (Int.not_lt.mpr hStamp)

/-! ## On one stream -/

section Stream

/-- The cosine and sine of zero, and of no other angle. -/
@[reducible] def trigonometryAtZero : Trigonometry (ExactReal ℚ) where
  cos angle := if angle = .finite 0 then .finite 1 else .nonFinite
  sin angle := if angle = .finite 0 then .finite 0 else .nonFinite

attribute [local instance] trigonometryAtZero

def restingOdometry (timestampSample resetCounter : Nat) : VehicleOdometry (ExactReal ℚ) where
  timestampSample
  poseFrame := 1
  velocityFrame := 1
  position := .zero
  q := .identity
  velocity := .zero
  angularVelocity := .zero
  positionVariance := ⟨lit 1, lit 1, lit 1⟩
  orientationVariance := ⟨lit 1, lit 1, lit 1⟩
  velocityVariance := ⟨lit 1, lit 1, lit 1⟩
  resetCounter

/-- A local position whose last reset, if it had one, moved it north by one metre. -/
def shiftedLocalPosition (timestampSample xyResetCounter : Nat) :
    VehicleLocalPosition (ExactReal ℚ) where
  timestampSample
  deltaXy := (lit 1, lit 0)
  deltaZ := lit 0
  deltaVxy := (lit 0, lit 0)
  deltaVz := lit 0
  deltaHeading := lit 0
  xyResetCounter
  zResetCounter := 0
  vxyResetCounter := 0
  vzResetCounter := 0
  headingResetCounter := 0

def freshBridge : OdometryBridge (ExactReal ℚ) where
  maximumMetadataAgeNs := 100000000
  maximumMetadataAssociationGapNs := 5000000
  compensator := .clear
  history := { config := { stableSamples := 3 } }

/-- Four fresh samples with one counter and no reset pending, and nothing is published. -/
theorem resting_samples_not_published :
    let stamps := [1000000, 1010000, 1020000, 1030000]
    let ops := stamps.map fun t => Operation.odometry (restingOdometry t 0) (t * 1000)
    OdometryBridge.create (some 100000000) (some 5000000) 3 = some freshBridge ∧
    -- every sample is fresh and converts, and no metadata is pending
    (∀ e ∈ events step freshBridge ops, ∀ t ∈ stamps,
      e.op = .odometry (restingOdometry t 0) (t * 1000) →
      (e.before.validator.observe t (t * 1000)).2.event = .accepted ∧
      (FrameConverter.convert e.before.converter
        (sampleOf (restingOdometry t 0) (t * 1000))).2.toBool = true ∧
      e.before.detailedMetadataFor (t * 1000) = none) ∧
    ∀ e ∈ events step freshBridge ops, e.result.odometry = none ∧
      e.result.diagnostics = [("suppressed", "PX4 reset observation: invalid_metadata")] := by
  decide +kernel

theorem odometry_never_published_resting : ((eventAt step freshBridge
      (.odometry (restingOdometry 1000000 0) 1000000000)).result : BridgeOutput (ExactReal ℚ)).odometry =
        none :=
  odometry_never_published freshBridge [.odometry (restingOdometry 1000000 0) 1000000000] _
    List.mem_cons_self

/-- The bridge after a local position of one counter and one of the next. -/
def resetBridge : OdometryBridge (ExactReal ℚ) :=
  run step freshBridge [.localPosition (shiftedLocalPosition 1000000 0),
    .localPosition (shiftedLocalPosition 1010000 1)]

/-- The resting vehicle as the converter gives it, in the first public frame. -/
def restingSample (timestampNs : Int) (resetCounter : Nat) : ConvertedOdometry (ExactReal ℚ) where
  timestampNs
  sourcePoseFrame := .ned
  sourceVelocityFrame := .ned
  worldConvention := .rosEnu
  position := .zero
  orientation := .identity
  velocityWorld := .zero
  velocityBody := .zero
  angularVelocityBody := .zero
  positionVariance := ⟨lit 1, lit 1, lit 1⟩
  velocityVariance := ⟨lit 1, lit 1, lit 1⟩
  orientationVariance := ⟨lit 1, lit 1, lit 1⟩
  resetCounter
  frameGeneration := 1
  positionCovarianceAvailable := true
  velocityCovarianceAvailable := true
  orientationCovarianceAvailable := true
  angularVelocityValid := true

def restingCompensator : ResetCompensator (ExactReal ℚ) :=
  (ResetCompensator.clear.observe (restingSample 1000000000 0) .default).1

/-- A position reset with complete metadata is not compensated. -/
theorem shifted_position_not_compensated :
    ∃ m, resetBridge.detailedMetadataFor 1010000000 = some m ∧
      m.available = true ∧ m.positionDeltaSource.allFinite = true ∧
      m.velocityDeltaSource.allFinite = true ∧ FloatOps.isFinite m.headingDeltaRad = true ∧
      ResetCompensator.unitNorm m.attitudeDelta = true ∧
      restingCompensator.lastOutput.isSome = true ∧
      ResetCompensator.validSample (restingSample 1010000000 1) = true ∧
      (restingSample 1010000000 1).resetCounter = (restingCompensator.lastCounter + 1) % 256 ∧
      restingCompensator.observe (restingSample 1010000000 1) m =
        (restingCompensator, { status := .invalidMetadata, resetGeneration := 0 }) :=
  ⟨(resetBridge.detailedMetadataFor 1010000000).get (by decide +kernel), by simp,
    by decide +kernel⟩

theorem assembled_reset_refused_shifted : (restingCompensator.observe (restingSample 1010000000 1)
      ((resetBridge.detailedMetadataFor 1010000000).getD .default)).1 = restingCompensator ∧
    (restingCompensator.observe (restingSample 1010000000 1)
      ((resetBridge.detailedMetadataFor 1010000000).getD .default)).2.status ≠
        .resetTransitionSuppressed :=
  assembled_reset_refused
    (show resetBridge.detailedMetadataFor 1010000000 = some _ by decide +kernel)
    (by decide +kernel) (by decide +kernel)

end Stream

end OdometryBridge

end UavNavigation
