import UavNavigation.FrameConverter

/-!
# The velocity limiter

`px4_navigation_external_mode/velocity_only_continuity.hpp`: the next acceleration is
projected onto four balls; when the projection does not converge, a braking step takes
its place.
-/

namespace UavNavigation.VelocityOnly

set_option autoImplicit false

open FloatOps

inductive Role where
  | main
  | backup
  | emergency
deriving DecidableEq

structure Identity where
  missionId : String
  waypointIndex : Nat
  requestId : Nat
  bundleGeneration : Nat
  role : Role
deriving DecidableEq

structure Policy (D : Type) where
  maximumVelocityMps : D
  maximumAccelerationMps2 : D
  maximumJerkMps3 : D
deriving DecidableEq

structure Previous (D : Type) where
  identity : Identity
  velocityEnu : Vec3 D
  accelerationEnu : Vec3 D
  stampNs : Int
deriving DecidableEq

inductive Failure where
  | none
  | invalidPolicy
  | invalidInput
  | nonPositiveDelta
  | identityBoundary
  | accelerationLimit
  | jerkLimit
  | velocityLimit
  | velocityViabilityLimit
deriving DecidableEq

def failureName : Failure → String
  | .none => "none"
  | .invalidPolicy => "invalid_policy"
  | .invalidInput => "invalid_input"
  | .nonPositiveDelta => "non_positive_delta"
  | .identityBoundary => "identity_boundary"
  | .accelerationLimit => "acceleration_limit"
  | .jerkLimit => "jerk_limit"
  | .velocityLimit => "velocity_limit"
  | .velocityViabilityLimit => "velocity_viability_limit"

structure Result (D : Type) where
  velocityEnu : Vec3 D
  accelerationEnu : Vec3 D
  requestedVelocityEnu : Vec3 D
  previousVelocityEnu : Vec3 D
  previousAccelerationEnu : Vec3 D
  deltaS : D
  velocityResidualMps : D
  velocityViabilityResidualMps : D
  radialAccelerationResidualMps2 : D
  accelerationResidualMps2 : D
  jerkResidualMps3 : D
  projectionIterations : Nat
  projectionConverged : Bool
  brakingRecovery : Bool
  limited : Bool
  failure : Failure
deriving DecidableEq

def Result.success {D : Type} (r : Result D) : Bool := r.failure == .none

def validIdentity (identity : Identity) : Bool :=
  !identity.missionId.isEmpty && 0 < identity.requestId && 0 < identity.bundleGeneration

def roleContinuity : Role → Role → Bool
  | .main, .main => true
  | .main, .backup => true
  | .backup, .backup => true
  | _, .emergency => true
  | _, _ => false

def sameContinuityOwner (previous current : Identity) : Bool :=
  if previous.missionId != current.missionId ||
      current.bundleGeneration < previous.bundleGeneration then false
  else if !roleContinuity previous.role current.role then false
  else
    let sameWaypoint := previous.waypointIndex == current.waypointIndex &&
      previous.requestId ≤ current.requestId
    let authorizedNextWaypoint := previous.waypointIndex < 2 ^ 32 - 1 &&
      current.waypointIndex == previous.waypointIndex + 1 && previous.requestId < current.requestId
    (sameWaypoint || authorizedNextWaypoint) && 0 < current.requestId

section Limiter
variable {D : Type} [FloatOps D]

def validPolicy (policy : Policy D) : Bool :=
  isFinite policy.maximumVelocityMps && lit 0 < policy.maximumVelocityMps &&
    isFinite policy.maximumAccelerationMps2 && lit 0 < policy.maximumAccelerationMps2 &&
    isFinite policy.maximumJerkMps3 && lit 0 < policy.maximumJerkMps3

def negate (a : Vec3 D) : Vec3 D := ⟨-a.x, -a.y, -a.z⟩

def unitX : Vec3 D := ⟨lit 1, lit 0, lit 0⟩

/-- `normalize()`. -/
def normalize (a : Vec3 D) : Vec3 D :=
  if lit 0 < a.squaredNorm then a.divide (sqrt a.squaredNorm) else a

def projectToBall (value center : Vec3 D) (radius : D) : Vec3 D :=
  let offset := value - center
  let norm := offset.norm
  if !isFinite norm || norm ≤ radius then value
  else center + Vec3.scale (radius / norm) offset

def Result.requested (desired : Vec3 D) : Result D where
  velocityEnu := .zero
  accelerationEnu := .zero
  requestedVelocityEnu := desired
  previousVelocityEnu := .zero
  previousAccelerationEnu := .zero
  deltaS := lit 0
  velocityResidualMps := lit 0
  velocityViabilityResidualMps := lit 0
  radialAccelerationResidualMps2 := lit 0
  accelerationResidualMps2 := lit 0
  jerkResidualMps3 := lit 0
  projectionIterations := 0
  projectionConverged := false
  brakingRecovery := false
  limited := false
  failure := .none

/-- The quantities that a step from one sample to the next is made of. -/
structure StepGeometry (D : Type) where
  policy : Policy D
  velocity : Vec3 D
  acceleration : Vec3 D
  dtS : D
  jerkRadius : D
  velocityCenter : Vec3 D
  velocityRadius : D
  viabilityDirection : Vec3 D
  viabilityCenter : Vec3 D
  viabilityRadius : D
  radialDirection : Vec3 D
  accelerationEnvelopeLimit : D

def requestedAcceleration (previous : Previous D) (desired : Vec3 D) (dtS : D) : Vec3 D :=
  (desired - previous.velocityEnu).divide dtS

/-- The direction of the velocity, else of the request, else the first axis. -/
def viabilityDirectionOf (velocity requested : Vec3 D) : Vec3 D :=
  let direction := if velocity.norm ≤ lit (1 / 10 ^ 12) then requested else velocity
  if direction.norm ≤ lit (1 / 10 ^ 12) then unitX else normalize direction

def radialDirectionOf (velocity requested : Vec3 D) : Vec3 D :=
  let direction := if velocity.norm ≤ lit (1 / 10 ^ 12) then requested else velocity
  normalize (if direction.norm ≤ lit (1 / 10 ^ 12) then unitX else direction)

def geometry (policy : Policy D) (previous : Previous D) (requested : Vec3 D) (dtS : D) :
    StepGeometry D :=
  let jerkRadius := policy.maximumJerkMps3 * dtS
  let velocityRadius := policy.maximumVelocityMps / dtS
  let viabilityDirection := viabilityDirectionOf previous.velocityEnu requested
  let speedHeadroom := max (lit 0) (policy.maximumVelocityMps - previous.velocityEnu.norm)
  { policy
    velocity := previous.velocityEnu
    acceleration := previous.accelerationEnu
    dtS
    jerkRadius
    velocityCenter := (negate previous.velocityEnu).divide dtS
    velocityRadius
    viabilityDirection
    viabilityCenter := (negate previous.velocityEnu).divide (lit 2 * dtS) +
      Vec3.scale (lit (1 / 2) * jerkRadius) viabilityDirection
    viabilityRadius := lit (1 / 2) * velocityRadius
    radialDirection := radialDirectionOf previous.velocityEnu requested
    accelerationEnvelopeLimit := max (lit 0) (-jerkRadius + sqrt (jerkRadius * jerkRadius +
        lit 2 * policy.maximumJerkMps3 * speedHeadroom)) }

namespace StepGeometry

def shaped (g : StepGeometry D) (requested : Vec3 D) : Vec3 D :=
  let norm := requested.norm
  if isFinite norm && g.accelerationEnvelopeLimit < norm && lit (1 / 10 ^ 12) < norm then
    Vec3.scale (g.accelerationEnvelopeLimit / norm) requested
  else requested

def velocityAfter (g : StepGeometry D) (acceleration : Vec3 D) : Vec3 D :=
  g.velocity + Vec3.scale g.dtS acceleration

/-- The velocity one step later, after the largest radial braking. -/
def velocityAfterBraking (g : StepGeometry D) (acceleration : Vec3 D) : Vec3 D :=
  g.velocity + Vec3.scale g.dtS
    (Vec3.scale (lit 2) acceleration - Vec3.scale g.jerkRadius g.viabilityDirection)

def accelerationError (g : StepGeometry D) (acceleration : Vec3 D) : D :=
  max (lit 0) (acceleration.norm - g.policy.maximumAccelerationMps2)

def jerkError (g : StepGeometry D) (acceleration : Vec3 D) : D :=
  max (lit 0) ((acceleration - g.acceleration).norm - g.jerkRadius)

def velocityError (g : StepGeometry D) (acceleration : Vec3 D) : D :=
  max (lit 0) ((g.velocityAfter acceleration).norm - g.policy.maximumVelocityMps)

def viabilityError (g : StepGeometry D) (acceleration : Vec3 D) : D :=
  max (lit 0) ((g.velocityAfterBraking acceleration).norm - g.policy.maximumVelocityMps)

/-- The largest violation is within the tolerance of the projection. -/
def converged (g : StepGeometry D) (acceleration : Vec3 D) : Bool :=
  max (max (max (g.accelerationError acceleration) (g.jerkError acceleration))
    (g.velocityError acceleration)) (g.viabilityError acceleration) ≤ lit (1 / 10 ^ 13)

end StepGeometry

structure Projection (D : Type) where
  acceleration : Vec3 D
  accelerationCorrection : Vec3 D
  jerkCorrection : Vec3 D
  velocityCorrection : Vec3 D
  viabilityCorrection : Vec3 D
  iterations : Nat
  converged : Bool

def projectShifted (value correction center : Vec3 D) (radius : D) : Vec3 D × Vec3 D :=
  let shifted := value + correction
  let projected := projectToBall shifted center radius
  (projected, shifted - projected)

def Projection.round (g : StepGeometry D) (p : Projection D) : Projection D :=
  let a := projectShifted p.acceleration p.accelerationCorrection .zero
    g.policy.maximumAccelerationMps2
  let b := projectShifted a.1 p.jerkCorrection g.acceleration g.jerkRadius
  let c := projectShifted b.1 p.velocityCorrection g.velocityCenter g.velocityRadius
  let d := projectShifted c.1 p.viabilityCorrection g.viabilityCenter g.viabilityRadius
  { acceleration := d.1
    accelerationCorrection := a.2
    jerkCorrection := b.2
    velocityCorrection := c.2
    viabilityCorrection := d.2
    iterations := p.iterations + 1
    converged := g.converged d.1 }

def Projection.iterate (g : StepGeometry D) : Nat → Projection D → Projection D
  | 0, p => p
  | n + 1, p => if (p.round g).converged then p.round g else iterate g n (p.round g)

def project (g : StepGeometry D) (shaped : Vec3 D) : Projection D :=
  Projection.iterate g 4096
    { acceleration := shaped
      accelerationCorrection := .zero
      jerkCorrection := .zero
      velocityCorrection := .zero
      viabilityCorrection := .zero
      iterations := 0
      converged := false }

namespace StepGeometry

def exceedsAcceleration (g : StepGeometry D) (acceleration : Vec3 D) : Bool :=
  g.policy.maximumAccelerationMps2 + lit (1 / 10 ^ 10) < acceleration.norm

def exceedsJerk (g : StepGeometry D) (acceleration : Vec3 D) : Bool :=
  g.policy.maximumJerkMps3 + lit (1 / 10 ^ 10) < (acceleration - g.acceleration).norm / g.dtS

def radialBraking (g : StepGeometry D) : Vec3 D :=
  g.acceleration - Vec3.scale g.jerkRadius g.radialDirection

/-- When the radial braking is too large, the previous acceleration is reduced instead. -/
def brakingAcceleration (g : StepGeometry D) : Vec3 D :=
  if (g.exceedsAcceleration g.radialBraking || g.exceedsJerk g.radialBraking) &&
      lit (1 / 10 ^ 12) < g.acceleration.norm then
    (Vec3.scale (max (lit 0) (g.acceleration.norm - g.jerkRadius)) g.acceleration).divide
      g.acceleration.norm
  else g.radialBraking

def brakingStepValid (g : StepGeometry D) : Bool :=
  g.brakingAcceleration.allFinite && (g.velocityAfter g.brakingAcceleration).allFinite &&
    g.brakingAcceleration.norm ≤ g.policy.maximumAccelerationMps2 + lit (1 / 10 ^ 10) &&
    (g.brakingAcceleration - g.acceleration).norm / g.dtS ≤
      g.policy.maximumJerkMps3 + lit (1 / 10 ^ 10) &&
    (g.velocityAfter g.brakingAcceleration).norm ≤ g.policy.maximumVelocityMps + lit (1 / 10 ^ 10)

end StepGeometry

/-- The part of `limit` behind the projection. -/
def conclude (g : StepGeometry D) (requested acceleration : Vec3 D) (brakingRecovery : Bool)
    (result : Result D) : Result D :=
  let velocity := g.velocityAfter acceleration
  let viabilityResidual := g.viabilityError acceleration
  let filled :=
    { result with
      brakingRecovery
      limited := lit (1 / 10 ^ 12) < (acceleration - requested).norm
      accelerationEnu := acceleration
      velocityEnu := velocity
      velocityResidualMps := max (lit 0) (velocity.norm - g.policy.maximumVelocityMps)
      accelerationResidualMps2 :=
        max (lit 0) (acceleration.norm - g.policy.maximumAccelerationMps2)
      jerkResidualMps3 := max (lit 0)
        ((acceleration - g.acceleration).norm / g.dtS - g.policy.maximumJerkMps3)
      velocityViabilityResidualMps := viabilityResidual
      radialAccelerationResidualMps2 :=
        max (lit 0) (acceleration.dot g.radialDirection - g.accelerationEnvelopeLimit) }
  if g.policy.maximumVelocityMps + lit (1 / 10 ^ 12) < velocity.norm then
    { filled with failure := .velocityLimit }
  else if g.exceedsAcceleration acceleration then { filled with failure := .accelerationLimit }
  else if g.exceedsJerk acceleration then { filled with failure := .jerkLimit }
  else if !brakingRecovery && lit (1 / 10 ^ 10) < viabilityResidual then
    { filled with failure := .velocityViabilityLimit }
  else if !velocity.allFinite || !acceleration.allFinite then
    { filled with failure := .invalidInput }
  else filled

/-- The part of `limit` behind the checks of the inputs. -/
def advance (g : StepGeometry D) (requested : Vec3 D) (result : Result D) : Result D :=
  let projection := project g (g.shaped requested)
  let result :=
    { result with
      projectionIterations := projection.iterations
      projectionConverged := projection.converged }
  if projection.converged then conclude g requested projection.acceleration false result
  else if g.brakingStepValid then conclude g requested g.brakingAcceleration true result
  else
    { result with
      accelerationEnu := projection.acceleration
      velocityEnu := g.velocityAfter projection.acceleration
      jerkResidualMps3 := max (lit 0)
        ((projection.acceleration - g.acceleration).norm / g.dtS - g.policy.maximumJerkMps3)
      failure := .jerkLimit }

def checkRequest (desired : Vec3 D) (nowNs : Int) (identity : Identity) (policy : Policy D) :
    Failure :=
  if !validPolicy policy then .invalidPolicy
  else if !validIdentity identity || !desired.allFinite || nowNs ≤ 0 then .invalidInput
  else if policy.maximumVelocityMps + lit (1 / 10 ^ 12) < desired.norm then .velocityLimit
  else .none

def validPrevious (previous : Previous D) : Bool :=
  validIdentity previous.identity && previous.velocityEnu.allFinite &&
    previous.accelerationEnu.allFinite && 0 < previous.stampNs

def checkPrevious (identity : Identity) (policy : Policy D) (previous : Previous D) : Failure :=
  if !sameContinuityOwner previous.identity identity then .identityBoundary
  else if policy.maximumVelocityMps + lit (1 / 10 ^ 12) < previous.velocityEnu.norm then
    .velocityLimit
  else if policy.maximumAccelerationMps2 + lit (1 / 10 ^ 12) < previous.accelerationEnu.norm then
    .accelerationLimit
  else .none

def deltaSeconds (nowNs stampNs : Int) : D := ofInt (nowNs - stampNs) * lit (1 / 10 ^ 9)

/-- `limit` with a previous sample that is well formed. -/
def limitFrom (desired : Vec3 D) (nowNs : Int) (identity : Identity) (policy : Policy D)
    (previous : Previous D) (result : Result D) : Result D :=
  let result :=
    { result with
      previousVelocityEnu := previous.velocityEnu
      previousAccelerationEnu := previous.accelerationEnu }
  if checkPrevious identity policy previous != .none then
    { result with failure := checkPrevious identity policy previous }
  else if nowNs ≤ previous.stampNs then { result with failure := .nonPositiveDelta }
  else
    let dtS : D := deltaSeconds nowNs previous.stampNs
    if !isFinite dtS || dtS ≤ lit 0 || lit 1 < dtS then
      { result with failure := .nonPositiveDelta }
    else
      let requested := requestedAcceleration previous desired dtS
      let result := { result with deltaS := dtS }
      if !requested.allFinite then { result with failure := .invalidInput }
      else advance (geometry policy previous requested dtS) requested result

def limit (desired : Vec3 D) (nowNs : Int) (identity : Identity) (policy : Policy D)
    (previous : Option (Previous D)) : Result D :=
  let result := Result.requested desired
  if checkRequest desired nowNs identity policy != .none then
    { result with failure := checkRequest desired nowNs identity policy }
  else
    let result := { result with velocityEnu := desired }
    match previous with
    | none => result
    | some previous =>
      if !validPrevious previous then { result with failure := .invalidInput }
      else limitFrom desired nowNs identity policy previous result

end Limiter

end UavNavigation.VelocityOnly
