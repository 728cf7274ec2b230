import UavNavigation.CommandContract

/-!
# From PX4 frames to the local world

`px4_odometry_bridge/frame_converter.cpp` with the two constant matrices of
`navigation_common/frame_conventions.hpp`.
-/

namespace UavNavigation

set_option autoImplicit false

open FloatOps

section Conventions
variable {D : Type} [FloatOps D]

def cEnuNed : Matrix3 D :=
  ⟨⟨lit 0, lit 1, lit 0⟩, ⟨lit 1, lit 0, lit 0⟩, ⟨lit 0, lit 0, lit (-1)⟩⟩

def cFluFrd : Matrix3 D :=
  ⟨⟨lit 1, lit 0, lit 0⟩, ⟨lit 0, lit (-1), lit 0⟩, ⟨lit 0, lit 0, lit (-1)⟩⟩

end Conventions

inductive PoseFrame where
  | unknown
  | ned
  | frd
deriving DecidableEq

/-- Every other value of the message falls under the default branches. -/
def PoseFrame.ofMessage : Nat → PoseFrame
  | 1 => .ned
  | 2 => .frd
  | _ => .unknown

inductive VelocityFrame where
  | unknown
  | ned
  | frd
  | bodyFrd
deriving DecidableEq

def VelocityFrame.ofMessage : Nat → VelocityFrame
  | 1 => .ned
  | 2 => .frd
  | 3 => .bodyFrd
  | _ => .unknown

inductive WorldConvention where
  | unknown
  | rosEnu
  | px4FrdLocal
deriving DecidableEq

structure Px4OdometrySample (D : Type) where
  timestampNs : Int
  poseFrame : PoseFrame
  velocityFrame : VelocityFrame
  position : Vec3 D
  orientation : Quaternion D
  velocity : Vec3 D
  angularVelocity : Vec3 D
  positionVariance : Vec3 D
  velocityVariance : Vec3 D
  orientationVariance : Vec3 D
  resetCounter : Nat
  angularVelocityValid : Bool
deriving DecidableEq

/-- The counters and generations that a conversion leaves alone are zero in its result. -/
structure ConvertedOdometry (D : Type) where
  timestampNs : Int
  sourcePoseFrame : PoseFrame
  sourceVelocityFrame : VelocityFrame
  worldConvention : WorldConvention
  position : Vec3 D
  orientation : Quaternion D
  velocityWorld : Vec3 D
  velocityBody : Vec3 D
  angularVelocityBody : Vec3 D
  positionVariance : Vec3 D
  velocityVariance : Vec3 D
  orientationVariance : Vec3 D
  resetCounter : Nat
  resetEventGeneration : Nat := 0
  frameGeneration : Nat := 0
  resetGeneration : Nat := 0
  timeGeneration : Nat := 0
  positionCovarianceAvailable : Bool
  velocityCovarianceAvailable : Bool
  orientationCovarianceAvailable : Bool
  angularVelocityValid : Bool
deriving DecidableEq

namespace FrameConverter
variable {D : Type} [FloatOps D]

def rotateVariance (rotation : Matrix3 D) (variance : Vec3 D) : Vec3 D :=
  let component (value : D) (row : Vec3 D) : D :=
    if value < lit 0 || !isFinite value then lit (-1) else Matrix3.rotatedVariance row variance
  if !variance.allFinite then ⟨lit (-1), lit (-1), lit (-1)⟩
  else
    ⟨component variance.x rotation.row0, component variance.y rotation.row1,
      component variance.z rotation.row2⟩

def available (variance : Vec3 D) : Bool :=
  variance.allFinite && lit 0 ≤ variance.x && lit 0 ≤ variance.y && lit 0 ≤ variance.z

/-- The attitude is kept on the side of the previous one, which is the converter's state. -/
def continuous (previous : Option (Quaternion D)) (q : Quaternion D) : Quaternion D :=
  match previous with
  | some p => if p.dot q < lit 0 then q.flip else q
  | none => q

/-- The part of `convert` after the switches over the two frames. -/
def assemble (sample : Px4OdometrySample D) (worldFromFlu : Matrix3 D)
    (positionWorld velocityWorld : Vec3 D) : ConvertedOdometry D :=
  let positionVariance := rotateVariance cEnuNed sample.positionVariance
  let velocityVariance :=
    match sample.velocityFrame with
    | .bodyFrd => rotateVariance cFluFrd sample.velocityVariance
    | _ => rotateVariance worldFromFlu.transpose (rotateVariance cEnuNed sample.velocityVariance)
  let orientationVariance :=
    rotateVariance (worldFromFlu.mul cFluFrd) sample.orientationVariance
  { timestampNs := sample.timestampNs
    sourcePoseFrame := sample.poseFrame
    sourceVelocityFrame := sample.velocityFrame
    worldConvention :=
      match sample.poseFrame with
      | .ned => .rosEnu
      | _ => .px4FrdLocal
    position := positionWorld
    orientation := (Quaternion.ofRotationMatrix worldFromFlu).normalized
    velocityWorld
    velocityBody := worldFromFlu.transpose.apply velocityWorld
    angularVelocityBody := cFluFrd.apply sample.angularVelocity
    positionVariance, velocityVariance, orientationVariance
    resetCounter := sample.resetCounter
    positionCovarianceAvailable := available positionVariance
    velocityCovarianceAvailable := available velocityVariance
    orientationCovarianceAvailable := available orientationVariance
    angularVelocityValid := true }

/-- `FrameConverter::convert`: the new previous attitude, and the sample or why it is refused. -/
def convert (previous : Option (Quaternion D)) (sample : Px4OdometrySample D) :
    Option (Quaternion D) × Except String (ConvertedOdometry D) :=
  if sample.timestampNs ≤ 0 || !sample.position.allFinite || !sample.velocity.allFinite ||
      !sample.angularVelocity.allFinite then
    (previous, .error "timestamp or vector contains a non-finite/invalid value")
  else if !sample.angularVelocityValid then
    (previous, .error "PX4 angular velocity is invalid")
  else if !isFinite sample.orientation.norm || sample.orientation.norm < lit (1 / 10 ^ 9) then
    (previous, .error "PX4 quaternion is near zero or non-finite")
  else
    let q := continuous previous sample.orientation.normalized
    match sample.poseFrame with
    | .ned =>
      let worldFromFlu := (cEnuNed.mul q.toRotationMatrix).mul cFluFrd
      let positionWorld := cEnuNed.apply sample.position
      match sample.velocityFrame with
      | .ned =>
        (some q, .ok (assemble sample worldFromFlu positionWorld (cEnuNed.apply sample.velocity)))
      | .frd => (some q, .error "PX4 FRD world velocity requires an explicit world alignment")
      | .bodyFrd =>
        (some q, .ok (assemble sample worldFromFlu positionWorld
          ((worldFromFlu.mul cFluFrd).apply sample.velocity)))
      | .unknown => (some q, .error "unsupported PX4 velocity frame")
    | .frd => (some q, .error "PX4 FRD pose frame requires an explicit world alignment")
    | .unknown => (some q, .error "unsupported PX4 pose frame")

theorem convert_frameGeneration {previous : Option (Quaternion D)} {sample : Px4OdometrySample D}
    {converted : ConvertedOdometry D} (h : (convert previous sample).2 = .ok converted) :
    converted.frameGeneration = 0 := by
  unfold convert at h
  split at h
  · cases h
  split at h
  · cases h
  split at h
  · cases h
  · dsimp only at h
    split at h
    · split at h <;> cases h <;> rfl
    · cases h
    · cases h

end FrameConverter

/-! ## From the local world to PX4 frames

`external_odometry_conversion.cpp`. The eigenvalues of a symmetric matrix come from the
matrix library and are a parameter. -/

namespace Matrix3
variable {D : Type} [FloatOps D]

def inverse (a : Matrix3 D) : Matrix3 D :=
  let c00 := a.row1.y * a.row2.z - a.row1.z * a.row2.y
  let c10 := a.row2.y * a.row0.z - a.row2.z * a.row0.y
  let c20 := a.row0.y * a.row1.z - a.row0.z * a.row1.y
  let invdet := lit 1 / (c00 * a.row0.x + c10 * a.row1.x + c20 * a.row2.x)
  ⟨⟨c00 * invdet, c10 * invdet, c20 * invdet⟩,
    ⟨(a.row1.z * a.row2.x - a.row1.x * a.row2.z) * invdet,
      (a.row2.z * a.row0.x - a.row2.x * a.row0.z) * invdet,
      (a.row0.z * a.row1.x - a.row0.x * a.row1.z) * invdet⟩,
    ⟨(a.row1.x * a.row2.y - a.row1.y * a.row2.x) * invdet,
      (a.row2.x * a.row0.y - a.row2.y * a.row0.x) * invdet,
      (a.row0.x * a.row1.y - a.row0.y * a.row1.x) * invdet⟩⟩

def diagonal (a : Matrix3 D) : Vec3 D := ⟨a.row0.x, a.row1.y, a.row2.z⟩

/-- `(a - a.transpose()).cwiseAbs().maxCoeff()`; the entries of the diagonal come once. -/
def asymmetry (a : Matrix3 D) : D :=
  let gap (x y : D) : D := FloatOps.abs (x - y)
  [gap a.row1.x a.row0.y, gap a.row2.x a.row0.z, gap a.row0.y a.row1.x, gap a.row1.y a.row1.y,
    gap a.row2.y a.row1.z, gap a.row0.z a.row2.x, gap a.row1.z a.row2.y,
    gap a.row2.z a.row2.z].foldl FloatOps.max (gap a.row0.x a.row0.x)

end Matrix3

/-- `SelfAdjointEigenSolver`: the smallest eigenvalue, when the solver succeeds. -/
class SelfAdjointEigenSolver (D : Type) where
  minEigenvalue : Matrix3 D → Option D

/-- `nav_msgs/Odometry` as it is received; the covariances are six by six, by rows. -/
structure LioOdometry (D : Type) where
  stamp : NavigationMode.Stamp
  frameId : String
  childFrameId : String
  position : Vec3 D
  orientation : Quaternion D
  linear : Vec3 D
  angular : Vec3 D
  poseCovariance : Fin 36 → D
  twistCovariance : Fin 36 → D

structure ExternalOdometryFrame (D : Type) where
  timestampNs : Int
  positionNed : Vec3 D
  orientationNed : Quaternion D
  velocityNed : Vec3 D
  angularVelocityBodyFrd : Vec3 D
  positionVariance : Vec3 D
  orientationVariance : Vec3 D
  velocityVariance : Vec3 D
  frameValid : Bool
  covarianceValid : Bool
deriving DecidableEq

namespace ExternalOdometry
variable {D : Type} [FloatOps D]

def symmetryTolerance : D := lit (1 / 10 ^ 10)

def psdTolerance : D := lit (1 / 10 ^ 10)

def validVariance (value : D) : Bool := isFinite value && lit 0 < value

def blockOf (covariance : Fin 36 → D) (blockOffset : Nat) : Matrix3 D :=
  let entry (row column : Nat) : D :=
    covariance (Fin.ofNat 36 ((blockOffset + row) * 6 + blockOffset + column))
  ⟨⟨entry 0 0, entry 0 1, entry 0 2⟩, ⟨entry 1 0, entry 1 1, entry 1 2⟩,
    ⟨entry 2 0, entry 2 1, entry 2 2⟩⟩

def validDiagonal (block : Matrix3 D) : Bool :=
  validVariance block.diagonal.x && validVariance block.diagonal.y && validVariance block.diagonal.z

section Covariances
variable [SelfAdjointEigenSolver D]

def validatedBlock (covariance : Fin 36 → D) (blockOffset : Nat) : Option (Matrix3 D) :=
  if 3 < blockOffset then none
  else
    let block := blockOf covariance blockOffset
    if !block.allFinite || symmetryTolerance < block.asymmetry then none
    else if !validDiagonal block then none
    else
      match SelfAdjointEigenSolver.minEigenvalue block with
      | none => none
      | some smallest => if smallest < -psdTolerance then none else some block

def transformedCovarianceDiagonal (covariance : Fin 36 → D) (blockOffset : Nat)
    (transform : Matrix3 D) : Option (Vec3 D) :=
  match validatedBlock covariance blockOffset with
  | none => none
  | some block =>
    if !transform.allFinite then none
    else
      let transformed := (transform.mul block).mul transform.transpose
      if !transformed.allFinite then none
      else if !validDiagonal transformed then none
      else some transformed.diagonal

/-- The diagonals of position, orientation and velocity in the frames of PX4. -/
def transformedCovariances (message : LioOdometry D) (rotationEnuFlu : Matrix3 D) :
    Option (Vec3 D × Vec3 D × Vec3 D) :=
  match transformedCovarianceDiagonal message.poseCovariance 0 cEnuNed,
    transformedCovarianceDiagonal message.poseCovariance 3 (cFluFrd.mul rotationEnuFlu.transpose),
    transformedCovarianceDiagonal message.twistCovariance 0 (cEnuNed.mul rotationEnuFlu) with
  | some position, some orientation, some velocity => some (position, orientation, velocity)
  | _, _, _ => none

/-- `convert_ros_lio_odometry`. -/
def convertRosLioOdometry (message : LioOdometry D) : Option (ExternalOdometryFrame D) :=
  if message.frameId ≠ "lio_odom" ∨ message.childFrameId ≠ "base_link" then none
  else
    match rosTimeToNanoseconds message.stamp.sec message.stamp.nanosec with
    | none => none
    | some timestampNs =>
      if timestampNs ≤ 0 then none
      else if !message.orientation.allFinite ||
          message.orientation.norm < lit (1 / 10 ^ 9) then none
      else
        let rotationEnuFlu := message.orientation.normalized.toRotationMatrix
        let rotationNedFrd := (cEnuNed.mul rotationEnuFlu).mul cFluFrd.inverse
        let rotationNedFromBodyFlu := cEnuNed.mul rotationEnuFlu
        match transformedCovariances message rotationEnuFlu with
        | none => none
        | some (positionVariance, orientationVariance, velocityVariance) =>
          let positionNed := cEnuNed.apply message.position
          let orientationNed := (Quaternion.ofRotationMatrix rotationNedFrd).normalized
          let velocityNed := rotationNedFromBodyFlu.apply message.linear
          let angularVelocityBodyFrd := cFluFrd.apply message.angular
          let frameValid := positionNed.allFinite && orientationNed.allFinite &&
            velocityNed.allFinite && angularVelocityBodyFrd.allFinite
          let covarianceValid := positionVariance.allFinite && orientationVariance.allFinite &&
            velocityVariance.allFinite
          if !frameValid || !covarianceValid then none
          else
            some { timestampNs, positionNed, orientationNed, velocityNed, angularVelocityBodyFrd,
                   positionVariance, orientationVariance, velocityVariance, frameValid,
                   covarianceValid }

end Covariances

end ExternalOdometry

/-! ## Reset compensation -/

structure DetailedResetMetadata (D : Type) where
  timestampNs : Int
  matchedOdometryTimestampNs : Int
  available : Bool
  associationInvalid : Bool
  positionXyReset : Bool
  positionZReset : Bool
  velocityXyReset : Bool
  velocityZReset : Bool
  headingReset : Bool
  attitudeReset : Bool
  positionDeltaSource : Vec3 D
  velocityDeltaSource : Vec3 D
  headingDeltaRad : D
  attitudeDelta : Quaternion D
  xyResetCounter : Nat
  zResetCounter : Nat
  vxyResetCounter : Nat
  vzResetCounter : Nat
  headingResetCounter : Nat
  attitudeResetCounter : Nat
deriving DecidableEq

namespace DetailedResetMetadata
variable {D : Type}

def default [FloatOps D] : DetailedResetMetadata D where
  timestampNs := 0
  matchedOdometryTimestampNs := 0
  available := false
  associationInvalid := false
  positionXyReset := false
  positionZReset := false
  velocityXyReset := false
  velocityZReset := false
  headingReset := false
  attitudeReset := false
  positionDeltaSource := .zero
  velocityDeltaSource := .zero
  headingDeltaRad := lit 0
  attitudeDelta := .identity
  xyResetCounter := 0
  zResetCounter := 0
  vxyResetCounter := 0
  vzResetCounter := 0
  headingResetCounter := 0
  attitudeResetCounter := 0

def hasReset (m : DetailedResetMetadata D) : Bool :=
  m.positionXyReset || m.positionZReset || m.velocityXyReset || m.velocityZReset ||
    m.headingReset || m.attitudeReset

end DetailedResetMetadata

inductive ResetObservationStatus where
  | accepted
  | resetTransitionSuppressed
  | metadataPending
  | invalidMetadata
  | counterDiscontinuity
  | invalidResetRotation
  | invalidCompensatedOutput
  | probableSourceRestart
  | generationExhausted
deriving DecidableEq

def ResetObservationStatus.text : ResetObservationStatus → String
  | .accepted => "accepted"
  | .resetTransitionSuppressed => "reset_transition_suppressed"
  | .metadataPending => "metadata_pending"
  | .invalidMetadata => "invalid_metadata"
  | .counterDiscontinuity => "counter_discontinuity"
  | .invalidResetRotation => "invalid_reset_rotation"
  | .invalidCompensatedOutput => "invalid_compensated_output"
  | .probableSourceRestart => "probable_source_restart"
  | .generationExhausted => "generation_exhausted"

structure ResetObservation (D : Type) where
  status : ResetObservationStatus
  sample : Option (ConvertedOdometry D) := none
  resetGeneration : Nat
deriving DecidableEq

def ResetObservation.accepted {D : Type} (o : ResetObservation D) : Bool := o.sample.isSome

/-- A difference of two `uint8_t` counters. -/
def counterDelta (before after : Nat) : Nat := (256 + after % 256 - before % 256) % 256

structure ResetCompensator (D : Type) where
  initialized : Bool
  lastCounter : Nat
  resetGeneration : Nat
  continuityRotation : Matrix3 D
  continuityTranslation : Vec3 D
  continuityVelocityTranslation : Vec3 D
  lastOutput : Option (ConvertedOdometry D)
deriving DecidableEq

namespace ResetCompensator
variable {D : Type} [FloatOps D]

/-- The state after construction and after `clear`. -/
def clear : ResetCompensator D where
  initialized := false
  lastCounter := 0
  resetGeneration := 0
  continuityRotation := .identity
  continuityTranslation := .zero
  continuityVelocityTranslation := .zero
  lastOutput := none

def knownPoseFrame (frame : PoseFrame) : Bool := frame == .ned || frame == .frd

def knownVelocityFrame (frame : VelocityFrame) : Bool :=
  frame == .ned || frame == .frd || frame == .bodyFrd

def knownWorldConvention (convention : WorldConvention) : Bool :=
  convention == .rosEnu || convention == .px4FrdLocal

def validVariance (value : Vec3 D) (available : Bool) : Bool :=
  value.allFinite && (!available || (lit 0 ≤ value.x && lit 0 ≤ value.y && lit 0 ≤ value.z))

def unitNorm (q : Quaternion D) : Bool :=
  q.allFinite && isFinite q.squaredNorm &&
    !(lit (1 / 10 ^ 6) < FloatOps.abs (q.squaredNorm - lit 1))

/-- The checks that a sample has to pass both before and after the compensation. -/
def validMotion (s : ConvertedOdometry D) : Bool :=
  s.position.allFinite && s.velocityWorld.allFinite && s.velocityBody.allFinite &&
    s.angularVelocityBody.allFinite && unitNorm s.orientation &&
    validVariance s.positionVariance s.positionCovarianceAvailable &&
    validVariance s.velocityVariance s.velocityCovarianceAvailable &&
    validVariance s.orientationVariance s.orientationCovarianceAvailable

def validSample (s : ConvertedOdometry D) : Bool :=
  0 < s.timestampNs && s.frameGeneration != 0 && knownPoseFrame s.sourcePoseFrame &&
    knownVelocityFrame s.sourceVelocityFrame && knownWorldConvention s.worldConvention &&
    validMotion s

def rotateDiagonalVariance (rotation : Matrix3 D) (variance : Vec3 D) : Vec3 D :=
  let component (value : D) (row : Vec3 D) : D :=
    if lit 0 ≤ value && isFinite value then Matrix3.rotatedVariance row variance else lit (-1)
  if !variance.allFinite then variance
  else
    ⟨component variance.x rotation.row0, component variance.y rotation.row1,
      component variance.z rotation.row2⟩

section Transition
variable [Trigonometry D]

def finiteDeltas (m : DetailedResetMetadata D) : Bool :=
  (!(m.positionXyReset || m.positionZReset) || m.positionDeltaSource.allFinite) &&
    (!(m.velocityXyReset || m.velocityZReset) || m.velocityDeltaSource.allFinite) &&
    (!m.headingReset || isFinite m.headingDeltaRad)

/-- The reset's rotation of the world; an attitude reset takes precedence. -/
def resetRotationWorld (m : DetailedResetMetadata D) : Option (Matrix3 D) :=
  if m.attitudeReset then
    if unitNorm m.attitudeDelta then
      some ((cEnuNed.mul m.attitudeDelta.normalized.toRotationMatrix).mul cEnuNed.transpose)
    else none
  else if m.headingReset then
    some ((cEnuNed.mul (angleAxisMatrix m.headingDeltaRad ⟨lit 0, lit 0, lit 1⟩)).mul
      cEnuNed.transpose)
  else some .identity

def advance (c : ResetCompensator D) (m : DetailedResetMetadata D) (rotationWorld : Matrix3 D) :
    ResetCompensator D :=
  let rotation := c.continuityRotation.mul rotationWorld.transpose
  { c with
    continuityRotation := rotation
    continuityTranslation :=
      if m.positionXyReset || m.positionZReset then
        c.continuityTranslation - rotation.apply (cEnuNed.apply m.positionDeltaSource)
      else c.continuityTranslation
    continuityVelocityTranslation :=
      if m.velocityXyReset || m.velocityZReset then
        c.continuityVelocityTranslation - rotation.apply (cEnuNed.apply m.velocityDeltaSource)
      else c.continuityVelocityTranslation }

/-- The branch of `observe` for a counter that differs from the last one. -/
def observeTransition (c : ResetCompensator D) (sample : ConvertedOdometry D)
    (m : DetailedResetMetadata D) : ResetCompensator D × ResetObservation D :=
  let refuse (status : ResetObservationStatus) : ResetCompensator D × ResetObservation D :=
    (c, { status, resetGeneration := c.resetGeneration })
  if counterDelta c.lastCounter sample.resetCounter != 1 then refuse .counterDiscontinuity
  else if m.associationInvalid then refuse .invalidMetadata
  else if !m.available || !m.hasReset then refuse .metadataPending
  else if c.resetGeneration == 2 ^ 64 - 1 then refuse .generationExhausted
  else if c.lastOutput.isNone || m.timestampNs ≤ 0 || !finiteDeltas m then refuse .invalidMetadata
  else
    match resetRotationWorld m with
    | none => refuse .invalidResetRotation
    | some rotationWorld =>
      let next := c.advance m rotationWorld
      if !next.continuityRotation.allFinite || !next.continuityTranslation.allFinite ||
          !next.continuityVelocityTranslation.allFinite then
        refuse .invalidCompensatedOutput
      else
        ({ next with
            resetGeneration := c.resetGeneration + 1, lastCounter := sample.resetCounter },
          { status := .resetTransitionSuppressed, resetGeneration := c.resetGeneration + 1 })

end Transition

def compensated (c : ResetCompensator D) (sample : ConvertedOdometry D) : ConvertedOdometry D :=
  let orientation := (Quaternion.ofRotationMatrix
    (c.continuityRotation.mul sample.orientation.toRotationMatrix)).normalized
  let velocityWorld :=
    c.continuityVelocityTranslation + c.continuityRotation.apply sample.velocityWorld
  { sample with
    position := c.continuityTranslation + c.continuityRotation.apply sample.position
    orientation
    positionVariance := rotateDiagonalVariance c.continuityRotation sample.positionVariance
    velocityWorld
    velocityBody := orientation.toRotationMatrix.transpose.apply velocityWorld
    resetGeneration := c.resetGeneration
    resetEventGeneration := c.resetGeneration }

/-- The part of `observe` for a counter that is the last one. -/
def observeContinuing (c : ResetCompensator D) (sample : ConvertedOdometry D) :
    ResetCompensator D × ResetObservation D :=
  let output := c.compensated sample
  if validMotion output then
    ({ c with lastOutput := some output },
      { status := .accepted, sample := some output, resetGeneration := c.resetGeneration })
  else (c, { status := .invalidCompensatedOutput, resetGeneration := c.resetGeneration })

def observe [Trigonometry D] (c : ResetCompensator D) (sample : ConvertedOdometry D)
    (m : DetailedResetMetadata D) : ResetCompensator D × ResetObservation D :=
  if !validSample sample then
    (c, { status := .invalidMetadata, resetGeneration := c.resetGeneration })
  else if m.matchedOdometryTimestampNs != 0 &&
      m.matchedOdometryTimestampNs != sample.timestampNs then
    (c, { status := .invalidMetadata, resetGeneration := c.resetGeneration })
  else if !c.initialized then
    observeContinuing { c with initialized := true, lastCounter := sample.resetCounter } sample
  else if counterDelta c.lastCounter sample.resetCounter != 0 then c.observeTransition sample m
  else c.observeContinuing sample

/-- The origin that the continuous frame is moved to, when there is one. -/
def rebasePositionAtCurrentOutput (c : ResetCompensator D) : ResetCompensator D × Option (Vec3 D) :=
  match c.lastOutput with
  | none => (c, none)
  | some output =>
    let translation := c.continuityTranslation - output.position
    let position := output.position - output.position
    if output.position.allFinite && translation.allFinite && position.allFinite then
      ({ c with
          continuityTranslation := translation, lastOutput := some { output with position } },
        some output.position)
    else (c, none)

/-! ## What an observation can do -/

section Observation
variable [Trigonometry D] {c : ResetCompensator D} {sample : ConvertedOdometry D}
  {m : DetailedResetMetadata D}

theorem observe_without_generation (c : ResetCompensator D) (m : DetailedResetMetadata D)
    (h : sample.frameGeneration = 0) :
    c.observe sample m = (c, { status := .invalidMetadata, resetGeneration := c.resetGeneration }) := by
  simp [observe, validSample, h]

inductive Observed (c : ResetCompensator D) (sample : ConvertedOdometry D)
    (m : DetailedResetMetadata D) (seen : ResetCompensator D × ResetObservation D) : Prop where
  | refused (same : seen.1 = c) (accepted : seen.2.status ≠ .accepted)
      (suppressed : seen.2.status ≠ .resetTransitionSuppressed) (sample : seen.2.sample = none)
      (generation : seen.2.resetGeneration = c.resetGeneration)
  | started (initialized : c.initialized = false) (after : seen = observeContinuing
        { c with initialized := true, lastCounter := sample.resetCounter } sample)
  | continued (initialized : c.initialized = true)
      (counter : counterDelta c.lastCounter sample.resetCounter = 0)
      (after : seen = c.observeContinuing sample)
  | compensated (initialized : c.initialized = true)
      (counter : counterDelta c.lastCounter sample.resetCounter = 1)
      (available : m.available = true) (stamp : 0 < m.timestampNs) {rotationWorld : Matrix3 D}
      (rotation : resetRotationWorld m = some rotationWorld)
      (after : seen =
        ({ c.advance m rotationWorld with
            resetGeneration := c.resetGeneration + 1, lastCounter := sample.resetCounter },
          { status := .resetTransitionSuppressed, resetGeneration := c.resetGeneration + 1 }))

section
variable (c : ResetCompensator D) (sample : ConvertedOdometry D) (m : DetailedResetMetadata D)

theorem observeTransition_observed (hInitialized : c.initialized = true) :
    Observed c sample m (c.observeTransition sample m) := by
  unfold observeTransition
  dsimp only
  split
  · exact .refused rfl (by simp) (by simp) rfl rfl
  rename_i hCounter
  split
  · exact .refused rfl (by simp) (by simp) rfl rfl
  split
  · exact .refused rfl (by simp) (by simp) rfl rfl
  rename_i hAvailable
  split
  · exact .refused rfl (by simp) (by simp) rfl rfl
  split
  · exact .refused rfl (by simp) (by simp) rfl rfl
  rename_i hUsable
  split
  · exact .refused rfl (by simp) (by simp) rfl rfl
  rename_i rotationWorld hRotation
  split
  · exact .refused rfl (by simp) (by simp) rfl rfl
  · refine .compensated hInitialized ?_ ?_ ?_ hRotation rfl
    · simpa using hCounter
    · simp only [Bool.or_eq_true, Bool.not_eq_true', not_or, Bool.not_eq_false] at hAvailable
      exact hAvailable.1
    · simp only [Bool.or_eq_true, decide_eq_true_eq, not_or, Int.not_le] at hUsable
      exact hUsable.1.2

theorem observe_observed : Observed c sample m (c.observe sample m) := by
  unfold observe
  split
  · exact .refused rfl (by simp) (by simp) rfl rfl
  split
  · exact .refused rfl (by simp) (by simp) rfl rfl
  split
  · rename_i hInitialized
    exact .started (by simpa using hInitialized) rfl
  rename_i hInitialized
  have hTrue : c.initialized = true := by simpa using hInitialized
  split
  · exact observeTransition_observed c sample m hTrue
  · rename_i hCounter
    exact .continued hTrue (by simpa using hCounter) rfl

end

section
omit [Trigonometry D]

theorem observeContinuing_cases (c : ResetCompensator D) (sample : ConvertedOdometry D) :
    (c.observeContinuing sample = ({ c with lastOutput := some (c.compensated sample) },
        { status := .accepted, sample := some (c.compensated sample),
          resetGeneration := c.resetGeneration })) ∨
      c.observeContinuing sample =
        (c, { status := .invalidCompensatedOutput, resetGeneration := c.resetGeneration }) := by
  unfold observeContinuing
  dsimp only
  split
  · exact .inl rfl
  · exact .inr rfl

theorem continuing_same (c : ResetCompensator D) (reported : ConvertedOdometry D) :
    (c.observeContinuing reported).1 =
        { c with lastOutput := (c.observeContinuing reported).1.lastOutput } ∧
      ((c.observeContinuing reported).2.status == .resetTransitionSuppressed) = false := by
  rcases observeContinuing_cases c reported with h | h
  · rw [h]
    exact ⟨rfl, rfl⟩
  · rw [h]
    exact ⟨rfl, rfl⟩

theorem observeContinuing_resetGeneration (c : ResetCompensator D)
    (reported : ConvertedOdometry D) :
    (c.observeContinuing reported).2.resetGeneration =
      (c.observeContinuing reported).1.resetGeneration := by
  rcases observeContinuing_cases c reported with h | h <;> rw [h]

end

theorem observe_transform (hSuppressed : (c.observe sample m).2.status ≠ .resetTransitionSuppressed) :
    (c.observe sample m).1.continuityRotation = c.continuityRotation ∧
      (c.observe sample m).1.continuityTranslation = c.continuityTranslation ∧
      (c.observe sample m).1.continuityVelocityTranslation = c.continuityVelocityTranslation := by
  cases observe_observed c sample m with
  | refused hSame =>
    rw [hSame]
    exact ⟨rfl, rfl, rfl⟩
  | started _ hSeen =>
    rw [hSeen, (continuing_same _ sample).1]
    exact ⟨rfl, rfl, rfl⟩
  | continued _ _ hSeen =>
    rw [hSeen, (continuing_same _ sample).1]
    exact ⟨rfl, rfl, rfl⟩
  | compensated _ _ _ _ _ hSeen =>
    rw [hSeen] at hSuppressed
    exact absurd rfl hSuppressed

theorem observe_resetGeneration (c : ResetCompensator D) (sample : ConvertedOdometry D)
    (m : DetailedResetMetadata D) :
    (c.observe sample m).2.resetGeneration = (c.observe sample m).1.resetGeneration := by
  cases observe_observed c sample m with
  | refused hSame _ _ _ hGeneration =>
    rw [hSame]
    exact hGeneration
  | started _ hSeen =>
    rw [hSeen]
    exact observeContinuing_resetGeneration _ sample
  | continued _ _ hSeen =>
    rw [hSeen]
    exact observeContinuing_resetGeneration _ sample
  | compensated _ _ _ _ _ hSeen =>
    rw [hSeen]

end Observation

end ResetCompensator

end UavNavigation
