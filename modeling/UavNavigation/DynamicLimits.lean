import UavNavigation.CandidateBundle

/-!
# Polynomial pieces

The evaluation part of `polynomial/piece.cpp` and `polynomial/trajectory.cpp`.
A coefficient matrix is the list of its columns, the highest power first, so the
degree is one less than the length and the matrix of a default piece is empty.
-/

namespace UavNavigation

set_option autoImplicit false

open FloatOps

structure Piece (D : Type) where
  duration : D
  coeffMat : List (Vec3 D)
deriving DecidableEq

namespace Piece
variable {D : Type} [FloatOps D]

/-- `validPieceData`, and `validPiece` of the trajectory. -/
def valid (piece : Piece D) : Bool :=
  isFinite piece.duration && (lit 0 : D) < piece.duration && !piece.coeffMat.isEmpty &&
    piece.coeffMat.all Vec3.allFinite

/-- `invalidVector`. -/
def invalidVector : Vec3 D := ⟨nan, nan, nan⟩

/-- The loop over the columns, here from the lowest power on. `factor` is what the `i`-th power of
the time is multiplied with. -/
def addTerms (t : D) (factor : Nat → D → D) : Nat → D → Vec3 D → List (Vec3 D) → Vec3 D
  | _, _, sum, [] => sum
  | i, tn, sum, column :: rest =>
    addTerms t factor (i + 1) (tn * t) (sum + Vec3.scale (factor i tn) column) rest

def evaluate (piece : Piece D) (factor : Nat → D → D) (order : Nat) (t : D) : Vec3 D :=
  if !piece.valid || !isFinite t then invalidVector
  else addTerms t factor 0 (lit 1) Vec3.zero (piece.coeffMat.reverse.drop order)

def getPos (piece : Piece D) (t : D) : Vec3 D := piece.evaluate (fun _ tn => tn) 0 t

def getVel (piece : Piece D) (t : D) : Vec3 D := piece.evaluate (fun i tn => ofInt (i + 1) * tn) 1 t

def getAcc (piece : Piece D) (t : D) : Vec3 D :=
  piece.evaluate (fun i tn => ofInt ((i + 1) * (i + 2)) * tn) 2 t

def getJer (piece : Piece D) (t : D) : Vec3 D :=
  piece.evaluate (fun i tn => ofInt ((i + 1) * (i + 2) * (i + 3)) * tn) 3 t

def getState (piece : Piece D) (t : D) : StatePVAJ D :=
  ⟨piece.getPos t, piece.getVel t, piece.getAcc t, piece.getJer t⟩

end Piece

/-- `Trajectory`: its pieces and its start on the wall clock. -/
structure PieceTrajectory (D : Type) where
  pieces : List (Piece D)
  startWT : D
deriving DecidableEq

namespace PieceTrajectory
variable {D : Type} [FloatOps D]

def none : PieceTrajectory D := ⟨[], lit 0⟩

def empty (trajectory : PieceTrajectory D) : Bool := trajectory.pieces.isEmpty

/-- The loop of `getTotalDuration`. -/
def addDurations : D → List (Piece D) → D
  | total, [] => total
  | total, piece :: rest =>
    if !piece.valid then nan
    else if !isFinite (total + piece.duration) then nan
    else addDurations (total + piece.duration) rest

def getTotalDuration (trajectory : PieceTrajectory D) : D := addDurations (lit 0) trajectory.pieces

/-- The loop of `locatePieceIdx`: the piece and the time in it. Beyond the last piece the time is
its end. -/
def locate : D → List (Piece D) → Option (Piece D × D)
  | _, [] => Option.none
  | t, piece :: rest =>
    if !piece.valid then Option.none
    else if t ≤ piece.duration then some (piece, t)
    else if rest.isEmpty then some (piece, piece.duration)
    else locate (t - piece.duration) rest

def locatePiece (trajectory : PieceTrajectory D) (t : D) : Option (Piece D × D) :=
  if trajectory.empty || !isFinite t || t < lit 0 then Option.none else locate t trajectory.pieces

/-- `invalidState`. -/
def invalidState : StatePVAJ D :=
  ⟨Piece.invalidVector, Piece.invalidVector, Piece.invalidVector, Piece.invalidVector⟩

def getState (trajectory : PieceTrajectory D) (t : D) : StatePVAJ D :=
  match trajectory.locatePiece t with
  | Option.none => invalidState
  | some (piece, time) => piece.getState time

def toTrajectory (trajectory : PieceTrajectory D) : Trajectory D where
  empty := trajectory.empty
  startWT := trajectory.startWT
  totalDuration := trajectory.getTotalDuration
  getState := trajectory.getState

end PieceTrajectory

/-! ## The extrema of a piece

The rates of `polynomial/piece.cpp` and the checks against a limit. The square of a rate
is a polynomial of the normalized time with its extrema at roots of the derivative. The
root finder is a parameter. -/

/-- `RootFinder::solvePolynomial` and `RootFinder::countRoots`. -/
structure RootFinder (D : Type) where
  solvePolynomial : List D → D → D → D → List D
  countRoots : List D → D → D → Int

variable {D : Type} [FloatOps D]

/-- `DBL_EPSILON`. -/
def doubleEpsilon : D := lit (1 / 2 ^ 52)

/-- `FLT_EPSILON`. -/
def floatEpsilon : D := lit (1 / 2 ^ 23)

namespace RootFinder

def polySqr (coef : List D) : List D :=
  (List.range (2 * coef.length - 1)).map fun i =>
    let at_ (j : Nat) : D := coef.getD j (lit 0)
    let lbound := i + 1 - coef.length
    let rbound := Nat.min coef.length (i + 1) + lbound
    let middle := rbound / 2
    let temp := if rbound % 2 = 1 then lit 0 + at_ middle * at_ middle else lit 0
    (List.range' lbound (middle - lbound)).foldl
      (fun temp j => temp + lit 2 * at_ j * at_ (i - j)) temp

/-- The loop of `polyVal` from the lowest power on. -/
def addPowers (x : D) : D → D → List D → D
  | _, value, [] => value
  | xn, value, c :: rest => addPowers x (xn * x) (value + c * xn) rest

def polyVal (coeffs : List D) (x : D) : D :=
  match coeffs.getLast? with
  | none => lit 0
  | some last =>
    if FloatOps.abs x < doubleEpsilon then last
    else if equal x (lit 1) then coeffs.foldl (· + ·) (lit 0)
    else addPowers x (lit 1) (lit 0) coeffs.reverse

end RootFinder

namespace Piece

def degree (piece : Piece D) : Nat := piece.coeffMat.length - 1

/-- The loop of a `normalize…CoeffMat`, from the lowest power on. -/
def normalizeColumns (duration : D) (factor : Nat → Int) : Nat → D → List (Vec3 D) → List (Vec3 D)
  | _, _, [] => []
  | i, t, column :: rest =>
    Vec3.scale t (Vec3.scale (ofInt (factor i)) column) ::
      normalizeColumns duration factor (i + 1) (t * duration) rest

/-- What the three matrices have in common: the order of the derivative and the power of the
duration its lowest column is scaled with. -/
def normalizeCoeffMat (order : Nat) (factor : Nat → Int) (t : D) (piece : Piece D) :
    List (Vec3 D) :=
  if !piece.valid || piece.degree < order then []
  else (normalizeColumns piece.duration factor 0 t (piece.coeffMat.reverse.drop order)).reverse

def normalizeVelCoeffMat (piece : Piece D) : List (Vec3 D) :=
  piece.normalizeCoeffMat 1 (fun i => i + 1) piece.duration

def normalizeAccCoeffMat (piece : Piece D) : List (Vec3 D) :=
  piece.normalizeCoeffMat 2 (fun i => (i + 2) * (i + 1)) (piece.duration * piece.duration)

def normalizeJerCoeffMat (piece : Piece D) : List (Vec3 D) :=
  piece.normalizeCoeffMat 3 (fun i => (i + 3) * (i + 2) * (i + 1))
    (piece.duration * piece.duration * piece.duration)

def sumOfSquares (columns : List (Vec3 D)) : List D :=
  List.zipWith (· + ·) (List.zipWith (· + ·) (RootFinder.polySqr (columns.map Vec3.x))
      (RootFinder.polySqr (columns.map Vec3.y)))
    (RootFinder.polySqr (columns.map Vec3.z))

/-- Every coefficient times its power, without the constant one: `coeff.head(N - 1)`. -/
def differentiate (coeff : List D) : List D :=
  ((List.range coeff.length).map fun i =>
    coeff.getD i (lit 0) * ofInt (coeff.length - 1 - i : Nat)).dropLast

/-- `squaredNorm` of a coefficient vector. -/
def squaredNorm (coeff : List D) : D := coeff.foldl (fun sum c => sum + c * c) (lit 0)

/-- One of the two loops of `moveRootSearchBoundsAwayFromZeros`. -/
def moveBound (coeff : List D) (next : D → D) : Nat → D → Option D
  | 0, _ => none
  | iterations + 1, bound =>
    let value := RootFinder.polyVal coeff bound
    if !isFinite value then none
    else if doubleEpsilon ≤ FloatOps.abs value then some bound
    else if equal (next bound) bound then none
    else moveBound coeff next iterations (next bound)

def moveRootSearchBoundsAwayFromZeros (coeff : List D) (leftBound rightBound : D) :
    Option (D × D) :=
  match moveBound coeff (fun bound => lit 2 * bound) 128 leftBound,
    moveBound coeff (fun bound => lit 1 + lit 2 * (bound - lit 1)) 128 rightBound with
  | some left, some right => some (left, right)
  | _, _ => none

def largest : List D → Option D
  | [] => none
  | value :: rest => some (rest.foldl (fun best next => if best < next then next else best) value)

/-- What `getMaxVelRate`, `getMaxAccRate` and `getMaxJerRate` have in common. Below `constant`
the rate is taken to be the one at the start. -/
def getMaxRate (finder : RootFinder D) (order : Nat) (evaluate : D → Vec3 D)
    (normalized : List (Vec3 D)) (constant : D) (piece : Piece D) : D :=
  if !piece.valid then nan
  else if piece.degree < order then (evaluate (lit 0)).norm
  else
    let coeff := differentiate (sumOfSquares normalized)
    if squaredNorm coeff < constant then (evaluate (lit 0)).norm
    else
      match moveRootSearchBoundsAwayFromZeros coeff (lit (-1 / 16)) (lit (17 / 16)) with
      | none => nan
      | some (left, right) =>
        let candidates := lit 0 :: lit 1 ::
          finder.solvePolynomial coeff left right (floatEpsilon / piece.duration)
        match largest ((candidates.filter fun c => lit 0 ≤ c && c ≤ lit 1).map fun c =>
            (evaluate (c * piece.duration)).squaredNorm) with
        | none => nan
        | some largest => sqrt largest

def getMaxVelRate (finder : RootFinder D) (piece : Piece D) : D :=
  piece.getMaxRate finder 1 piece.getVel piece.normalizeVelCoeffMat (lit (1 / 10 ^ 6))

def getMaxAccRate (finder : RootFinder D) (piece : Piece D) : D :=
  piece.getMaxRate finder 2 piece.getAcc piece.normalizeAccCoeffMat doubleEpsilon

def getMaxJerRate (finder : RootFinder D) (piece : Piece D) : D :=
  piece.getMaxRate finder 3 piece.getJer piece.normalizeJerCoeffMat doubleEpsilon

def subtractLast (coeff : List D) (amount : D) : List D :=
  match coeff.getLast? with
  | none => []
  | some last => coeff.dropLast ++ [last - amount]

/-- What `checkMaxVelRate` and `checkMaxAccRate` have in common. `scale` is the power of the
duration in the square of the normalized derivative. -/
def checkMaxRate (finder : RootFinder D) (order : Nat) (evaluate : D → Vec3 D)
    (normalized : List (Vec3 D)) (scale limit : D) (piece : Piece D) : Bool :=
  if !piece.valid || !isFinite limit || limit ≤ lit 0 then false
  else
    let sqrLimit := limit * limit
    if !isFinite sqrLimit then false
    else if piece.degree < order then (evaluate (lit 0)).norm < limit
    else if sqrLimit ≤ (evaluate (lit 0)).squaredNorm ||
        sqrLimit ≤ (evaluate piece.duration).squaredNorm then false
    else
      finder.countRoots (subtractLast (sumOfSquares normalized) (sqrLimit * scale))
        (lit 0) (lit 1) = 0

def checkMaxVelRate (finder : RootFinder D) (piece : Piece D) (maxVelRate : D) : Bool :=
  piece.checkMaxRate finder 1 piece.getVel piece.normalizeVelCoeffMat
    (piece.duration * piece.duration) maxVelRate

def checkMaxAccRate (finder : RootFinder D) (piece : Piece D) (maxAccRate : D) : Bool :=
  let t2 := piece.duration * piece.duration
  piece.checkMaxRate finder 2 piece.getAcc piece.normalizeAccCoeffMat (t2 * t2) maxAccRate

end Piece

namespace PieceTrajectory

/-- The loop over the pieces; `none` stands for the infinity it starts from. -/
def foldRates (rate : Piece D → D) : Option D → List (Piece D) → D
  | best, [] => best.getD (-infinity)
  | best, piece :: rest =>
    if !isFinite (rate piece) || rate piece < lit 0 then nan
    else
      foldRates rate (match best with
          | Option.none => some (rate piece)
          | some best => some (if best < rate piece then rate piece else best)) rest

def getMaxVelRate (finder : RootFinder D) (trajectory : PieceTrajectory D) : D :=
  foldRates (Piece.getMaxVelRate finder) Option.none trajectory.pieces

def getMaxAccRate (finder : RootFinder D) (trajectory : PieceTrajectory D) : D :=
  foldRates (Piece.getMaxAccRate finder) Option.none trajectory.pieces

def getMaxJerRate (finder : RootFinder D) (trajectory : PieceTrajectory D) : D :=
  foldRates (Piece.getMaxJerRate finder) Option.none trajectory.pieces

end PieceTrajectory

def withinNumericalDynamicLimit (value limit : D) : Bool :=
  if !isFinite value || !isFinite limit || limit < lit 0 then false
  else
    let scale := FloatOps.max (FloatOps.max (lit 1) (FloatOps.abs value)) (FloatOps.abs limit)
    value ≤ limit + lit 64 * doubleEpsilon * scale

/-- `candidateYawRateWithinLimit` of the yaw trajectory of a candidate. -/
def candidateYawRateWithinLimit (finder : RootFinder D) (yaw : PieceTrajectory D)
    (maxYawRateRadS : D) : Bool :=
  if !isFinite maxYawRateRadS || maxYawRateRadS ≤ lit 0 || yaw.empty then false
  else
    let maximumYawRate := yaw.getMaxVelRate finder
    isFinite maximumYawRate && maximumYawRate ≤ maxYawRateRadS + lit (1 / 10 ^ 6)

end UavNavigation
