import Mathlib.Data.Rat.Floor
import Mathlib.Data.Rat.Sqrt
import UavNavigation.Literals

/-!
# Floating arithmetic as an interface

A program over `double` uses a fixed list of operations. `FloatOps` is that
list, with no law attached, so a definition written over it reads the same for
IEEE arithmetic and for exact arithmetic. `Floating` adds the wider type used
for time conversions and the few facts about zero and finite values which
both arithmetics share.

`ExactReal K` is exact arithmetic over an ordered field with one extra value
for everything that is not finite. Every comparison with that value is false.
-/

namespace UavNavigation

set_option autoImplicit false

class FloatOps (D : Type) extends Add D, Sub D, Mul D, Div D, Neg D, LT D, LE D where
  decidableLT : DecidableLT D
  decidableLE : DecidableLE D
  isFinite : D → Bool
  /-- A literal of the source. -/
  lit : ℚ → D
  ofInt : Int → D
  /-- The truncating conversion to a signed integer. -/
  toInt : D → Int
  /-- `std::round`, halves away from zero. -/
  round : D → D
  ceil : D → D
  sqrt : D → D
  abs : D → D
  nan : D
  infinity : D

instance instDecidableLtFloatOps {D : Type} [FloatOps D] (x y : D) : Decidable (x < y) := FloatOps.decidableLT x y

instance instDecidableLeFloatOps {D : Type} [FloatOps D] (x y : D) : Decidable (x ≤ y) := FloatOps.decidableLE x y

/-- `double` together with `long double`. -/
class Floating (D : Type) extends FloatOps D where
  LongDouble : Type
  long : FloatOps LongDouble
  widen : D → LongDouble
  isFinite_zero : isFinite (lit 0) = true
  le_of_not_lt : ∀ {x y : D}, isFinite x = true → isFinite y = true → ¬ x < y → y ≤ x
  /-- A finite value that is neither negative nor positive is a zero, and stays one. -/
  toInt_scaled_zero : ∀ {x : D} (scale : ℚ), isFinite x = true → ¬ x < lit 0 → ¬ lit 0 < x →
    long.toInt (long.round (widen x * long.lit scale)) = 0

instance {D : Type} [Floating D] : FloatOps (Floating.LongDouble D) := Floating.long

namespace FloatOps
variable {D : Type} [FloatOps D]

/-- `std::min` and `std::max` return their first argument unless the second is better. -/
def min (x y : D) : D := if y < x then y else x

def max (x y : D) : D := if x < y then y else x

def clamp (x low high : D) : D := if x < low then low else if high < x then high else x

/-- `std::floor`. -/
def floor (x : D) : D := -ceil (-x)

/-- `==`, which is false on a value that is not a number. -/
def equal (x y : D) : Bool := x ≤ y && y ≤ x

end FloatOps

/-- The conversion of a `long double` back to a `double`. -/
class Narrowing (D : Type) [Floating D] where
  narrow : Floating.LongDouble D → D

/-- `std::numeric_limits`. A parameter of the definitions that use it, since exact
arithmetic has no distance to a next value. -/
structure NumericLimits (D : Type) where
  epsilon : D
  max : D
  lowest : D
deriving DecidableEq

def NumericLimits.double {D : Type} [FloatOps D] : NumericLimits D where
  epsilon := FloatOps.lit (1 / 2 ^ 52)
  max := FloatOps.lit ((2 ^ 53 - 1) * 2 ^ 971)
  lowest := FloatOps.lit (-((2 ^ 53 - 1) * 2 ^ 971))

structure Vec3 (D : Type) where
  x : D
  y : D
  z : D
deriving DecidableEq

namespace Vec3
variable {D : Type} [FloatOps D]

instance : Add (Vec3 D) := ⟨fun a b => ⟨a.x + b.x, a.y + b.y, a.z + b.z⟩⟩

instance : Sub (Vec3 D) := ⟨fun a b => ⟨a.x - b.x, a.y - b.y, a.z - b.z⟩⟩

def zero : Vec3 D := ⟨FloatOps.lit 0, FloatOps.lit 0, FloatOps.lit 0⟩

def scale (k : D) (a : Vec3 D) : Vec3 D := ⟨k * a.x, k * a.y, k * a.z⟩

def divide (a : Vec3 D) (k : D) : Vec3 D := ⟨a.x / k, a.y / k, a.z / k⟩

def dot (a b : Vec3 D) : D := a.x * b.x + a.y * b.y + a.z * b.z

def squaredNorm (a : Vec3 D) : D := a.dot a

def norm (a : Vec3 D) : D := FloatOps.sqrt a.squaredNorm

def allFinite (a : Vec3 D) : Bool :=
  FloatOps.isFinite a.x && FloatOps.isFinite a.y && FloatOps.isFinite a.z

end Vec3

class SquareRoot (K : Type) where
  squareRoot : K → K

instance : SquareRoot ℚ := ⟨Rat.sqrt⟩

/-- A number, or the outcome of an operation that has none. -/
inductive ExactReal (K : Type) where
  | finite (x : K)
  | nonFinite
deriving DecidableEq

namespace ExactReal
variable {K : Type}

def map (f : K → K) : ExactReal K → ExactReal K
  | finite x => finite (f x)
  | nonFinite => nonFinite

def map₂ (f : K → K → K) : ExactReal K → ExactReal K → ExactReal K
  | finite x, finite y => finite (f x y)
  | _, _ => nonFinite

def compares (r : K → K → Prop) : ExactReal K → ExactReal K → Prop
  | finite x, finite y => r x y
  | _, _ => False

instance (r : K → K → Prop) [DecidableRel r] : DecidableRel (compares r)
  | finite x, finite y => inferInstanceAs (Decidable (r x y))
  | finite _, nonFinite => .isFalse id
  | nonFinite, finite _ => .isFalse id
  | nonFinite, nonFinite => .isFalse id

variable [Field K] [LinearOrder K] [FloorRing K]

def divide : ExactReal K → ExactReal K → ExactReal K
  | finite x, finite y => if y = 0 then nonFinite else finite (x / y)
  | _, _ => nonFinite

def truncate (x : K) : Int := if 0 ≤ x then ⌊x⌋ else ⌈x⌉

def roundAway (x : K) : Int := if 0 ≤ x then ⌊x + 1 / 2⌋ else ⌈x - 1 / 2⌉

instance [SquareRoot K] : FloatOps (ExactReal K) where
  add := map₂ (· + ·)
  sub := map₂ (· - ·)
  mul := map₂ (· * ·)
  div := divide
  neg := map (- ·)
  lt := compares (· < ·)
  le := compares (· ≤ ·)
  decidableLT := inferInstanceAs (DecidableRel (compares _))
  decidableLE := inferInstanceAs (DecidableRel (compares _))
  isFinite
    | finite _ => true
    | nonFinite => false
  lit q := finite (q : K)
  ofInt n := finite (n : K)
  toInt
    | finite x => truncate x
    | nonFinite => 0
  round := map fun x => (roundAway x : K)
  ceil := map fun x => (⌈x⌉ : K)
  sqrt
    | finite x => if x < 0 then nonFinite else finite (SquareRoot.squareRoot x)
    | nonFinite => nonFinite
  abs := map fun x => |x|
  nan := nonFinite
  infinity := nonFinite

theorem isFinite_iff [SquareRoot K] {x : ExactReal K} : FloatOps.isFinite x = true ↔ ∃ k, x = finite k := by
  cases x with
  | finite k => exact ⟨fun _ => ⟨k, rfl⟩, fun _ => rfl⟩
  | nonFinite => exact ⟨fun h => Bool.noConfusion h, fun ⟨_, h⟩ => nomatch h⟩

theorem roundAway_zero [IsStrictOrderedRing K] : roundAway (0 : K) = 0 := by
  have hHalf : ⌊(1 / 2 : K)⌋ = 0 := by
    rw [Int.floor_eq_iff]
    constructor <;> norm_num
  simp only [roundAway, le_refl, if_true, zero_add, hHalf]

/-- In exact arithmetic a long double is no wider than a double. -/
instance [IsStrictOrderedRing K] [SquareRoot K] : Floating (ExactReal K) where
  LongDouble := ExactReal K
  long := inferInstance
  widen x := x
  isFinite_zero := rfl
  le_of_not_lt := by
    intro x y hx hy hNot
    obtain ⟨a, rfl⟩ := isFinite_iff.mp hx
    obtain ⟨b, rfl⟩ := isFinite_iff.mp hy
    exact not_lt.mp (show ¬ a < b from hNot)
  toInt_scaled_zero := by
    intro x scale hx hNeg hPos
    obtain ⟨a, rfl⟩ := isFinite_iff.mp hx
    have hNeg' : ¬ a < ((0 : ℚ) : K) := hNeg
    have hPos' : ¬ ((0 : ℚ) : K) < a := hPos
    simp only [Rat.cast_zero, not_lt] at hNeg' hPos'
    have ha : a = 0 := le_antisymm hPos' hNeg'
    subst a
    change truncate ((roundAway (0 * (scale : K)) : Int) : K) = 0
    simp [roundAway_zero, truncate]

instance [IsStrictOrderedRing K] [SquareRoot K] : Narrowing (ExactReal K) where
  narrow x := x

end ExactReal

/-! ## Quaternions and matrices -/

open FloatOps

def Vec3.cross {D : Type} [FloatOps D] (a b : Vec3 D) : Vec3 D :=
  ⟨a.y * b.z - a.z * b.y, a.z * b.x - a.x * b.z, a.x * b.y - a.y * b.x⟩

structure Quaternion (D : Type) where
  x : D
  y : D
  z : D
  w : D
deriving DecidableEq

namespace Quaternion
variable {D : Type} [FloatOps D]

def identity : Quaternion D := ⟨lit 0, lit 0, lit 0, lit 1⟩

def vec (q : Quaternion D) : Vec3 D := ⟨q.x, q.y, q.z⟩

def allFinite (q : Quaternion D) : Bool :=
  isFinite q.x && isFinite q.y && isFinite q.z && isFinite q.w

def conjugate (q : Quaternion D) : Quaternion D := ⟨-q.x, -q.y, -q.z, q.w⟩

def norm (q : Quaternion D) : D := sqrt (q.x * q.x + q.y * q.y + q.z * q.z + q.w * q.w)

def rotate (q : Quaternion D) (v : Vec3 D) : Vec3 D :=
  let uv := q.vec.cross v
  let uv := uv + uv
  v + Vec3.scale q.w uv + q.vec.cross uv

def mul (a b : Quaternion D) : Quaternion D where
  w := a.w * b.w - a.x * b.x - a.y * b.y - a.z * b.z
  x := a.w * b.x + a.x * b.w + a.y * b.z - a.z * b.y
  y := a.w * b.y + a.y * b.w + a.z * b.x - a.x * b.z
  z := a.w * b.z + a.z * b.w + a.x * b.y - a.y * b.x

def squaredNorm (q : Quaternion D) : D := q.x * q.x + q.y * q.y + q.z * q.z + q.w * q.w

def dot (a b : Quaternion D) : D := a.x * b.x + a.y * b.y + a.z * b.z + a.w * b.w

def divide (q : Quaternion D) (k : D) : Quaternion D := ⟨q.x / k, q.y / k, q.z / k, q.w / k⟩

def normalized (q : Quaternion D) : Quaternion D :=
  let squaredNorm := q.squaredNorm
  if lit 0 < squaredNorm then q.divide (sqrt squaredNorm) else q

/-- `coeffs() *= -1`. -/
def flip (q : Quaternion D) : Quaternion D :=
  ⟨q.x * lit (-1), q.y * lit (-1), q.z * lit (-1), q.w * lit (-1)⟩

end Quaternion

/-- `Quaterniond::slerp`. -/
class Slerp (D : Type) where
  slerp : Quaternion D → D → Quaternion D → Quaternion D

structure Matrix3 (D : Type) where
  row0 : Vec3 D
  row1 : Vec3 D
  row2 : Vec3 D
deriving DecidableEq

namespace Matrix3
variable {D : Type} [FloatOps D]

def identity : Matrix3 D :=
  ⟨⟨lit 1, lit 0, lit 0⟩, ⟨lit 0, lit 1, lit 0⟩, ⟨lit 0, lit 0, lit 1⟩⟩

def transpose (a : Matrix3 D) : Matrix3 D :=
  ⟨⟨a.row0.x, a.row1.x, a.row2.x⟩, ⟨a.row0.y, a.row1.y, a.row2.y⟩, ⟨a.row0.z, a.row1.z, a.row2.z⟩⟩

def apply (a : Matrix3 D) (v : Vec3 D) : Vec3 D := ⟨a.row0.dot v, a.row1.dot v, a.row2.dot v⟩

def mul (a b : Matrix3 D) : Matrix3 D :=
  let c := b.transpose
  ⟨c.apply a.row0, c.apply a.row1, c.apply a.row2⟩

def allFinite (a : Matrix3 D) : Bool :=
  a.row0.allFinite && a.row1.allFinite && a.row2.allFinite

/-- A diagonal covariance in the rotated basis: `(row.square() * variance).sum()`. -/
def rotatedVariance (row variance : Vec3 D) : D :=
  row.x * row.x * variance.x + row.y * row.y * variance.y + row.z * row.z * variance.z

end Matrix3

/-- `std::cos` and `std::sin`. -/
class Trigonometry (D : Type) where
  cos : D → D
  sin : D → D

section Conversions
variable {D : Type} [FloatOps D]

def Quaternion.toRotationMatrix (q : Quaternion D) : Matrix3 D :=
  let tx := lit 2 * q.x
  let ty := lit 2 * q.y
  let tz := lit 2 * q.z
  let twx := tx * q.w
  let twy := ty * q.w
  let twz := tz * q.w
  let txx := tx * q.x
  let txy := ty * q.x
  let txz := tz * q.x
  let tyy := ty * q.y
  let tyz := tz * q.y
  let tzz := tz * q.z
  ⟨⟨lit 1 - (tyy + tzz), txy - twz, txz + twy⟩, ⟨txy + twz, lit 1 - (txx + tzz), tyz - twx⟩,
    ⟨txz - twy, tyz + twx, lit 1 - (txx + tyy)⟩⟩

/-- The quaternion of a rotation matrix, from the trace or the largest diagonal entry. -/
def Quaternion.ofRotationMatrix (a : Matrix3 D) : Quaternion D :=
  let trace := a.row0.x + a.row1.y + a.row2.z
  if lit 0 < trace then
    let t := sqrt (trace + lit 1)
    let s := lit (1 / 2) / t
    ⟨(a.row2.y - a.row1.z) * s, (a.row0.z - a.row2.x) * s, (a.row1.x - a.row0.y) * s,
      lit (1 / 2) * t⟩
  else if a.row0.x < a.row1.y then
    if a.row1.y < a.row2.z then
      let t := sqrt (a.row2.z - a.row0.x - a.row1.y + lit 1)
      let s := lit (1 / 2) / t
      ⟨(a.row0.z + a.row2.x) * s, (a.row1.z + a.row2.y) * s, lit (1 / 2) * t,
        (a.row1.x - a.row0.y) * s⟩
    else
      let t := sqrt (a.row1.y - a.row2.z - a.row0.x + lit 1)
      let s := lit (1 / 2) / t
      ⟨(a.row0.y + a.row1.x) * s, lit (1 / 2) * t, (a.row2.y + a.row1.z) * s,
        (a.row0.z - a.row2.x) * s⟩
  else if a.row0.x < a.row2.z then
    let t := sqrt (a.row2.z - a.row0.x - a.row1.y + lit 1)
    let s := lit (1 / 2) / t
    ⟨(a.row0.z + a.row2.x) * s, (a.row1.z + a.row2.y) * s, lit (1 / 2) * t,
      (a.row1.x - a.row0.y) * s⟩
  else
    let t := sqrt (a.row0.x - a.row1.y - a.row2.z + lit 1)
    let s := lit (1 / 2) / t
    ⟨lit (1 / 2) * t, (a.row1.x + a.row0.y) * s, (a.row2.x + a.row0.z) * s,
      (a.row2.y - a.row1.z) * s⟩

/-- `AngleAxisd(angle, axis).toRotationMatrix()`. -/
def angleAxisMatrix [Trigonometry D] (angle : D) (axis : Vec3 D) : Matrix3 D :=
  let s := Vec3.scale (Trigonometry.sin angle) axis
  let c := Trigonometry.cos angle
  let u := Vec3.scale (lit 1 - c) axis
  ⟨⟨u.x * axis.x + c, u.x * axis.y - s.z, u.x * axis.z + s.y⟩,
    ⟨u.x * axis.y + s.z, u.y * axis.y + c, u.y * axis.z - s.x⟩,
    ⟨u.x * axis.z - s.y, u.y * axis.z + s.x, u.z * axis.z + c⟩⟩

end Conversions

end UavNavigation
