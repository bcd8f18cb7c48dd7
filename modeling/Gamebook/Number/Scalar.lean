import Gamebook.Number.Decimal

/-!
# Scalars of the story rules

The values that rules compare and store: truth values, whole numbers without
bound, and floating-point numbers. In arithmetic and comparison a truth value
counts as zero or one. Comparison is exact across the two number types, and an
undefined number compares with nothing. Arithmetic on two whole numbers is exact;
with a floating-point operand the other one is converted first, which can fail.
-/

namespace Gamebook

/-- A truth value, a whole number or a floating-point number. -/
inductive Scalar
  | bool (value : Bool)
  | int (value : Int)
  | float (value : Binary64)
  deriving DecidableEq, Repr

namespace Scalar

/-- A truth value counted as zero or one. -/
def countOf (b : Bool) : Int := if b then 1 else 0

/-- The order of two scalars; none when one of them is undefined. -/
def order? : Scalar → Scalar → Option Ordering
  | bool a, bool b => some (compare (countOf a) (countOf b))
  | bool a, int n => some (compare (countOf a) n)
  | int m, bool b => some (compare m (countOf b))
  | int m, int n => some (compare m n)
  | bool a, float y => Binary64.orderInt? (countOf a) y
  | int m, float y => Binary64.orderInt? m y
  | float x, bool b => (Binary64.orderInt? (countOf b) x).map Ordering.swap
  | float x, int n => (Binary64.orderInt? n x).map Ordering.swap
  | float x, float y => Binary64.order? x y

/-- Whether the first scalar is the smaller one. -/
def isLess (x y : Scalar) : Bool := order? x y == some .lt

/-- Whether two scalars are the same number. -/
def isEqual (x y : Scalar) : Bool := order? x y == some .eq

/-- Whether a scalar is a number and not a truth value. -/
def isNumber : Scalar → Bool
  | bool _ => false
  | _ => true

/-- Whether a scalar is a truth value. -/
def isBool : Scalar → Bool
  | bool _ => true
  | _ => false

/-- Whether a scalar is a whole number that counts something. -/
def isCount : Scalar → Bool
  | int n => 0 ≤ n
  | _ => false

/-- A scalar as an exact whole number or a floating-point number. -/
def asNumber : Scalar → Int ⊕ Binary64
  | bool b => .inl (countOf b)
  | int n => .inl n
  | float x => .inr x

/-- Combines two scalars, exactly when both are whole. -/
def combine (onInts : Int → Int → Int) (onFloats : Binary64 → Binary64 → Binary64)
    (x y : Scalar) : Except NumberFault Scalar :=
  match asNumber x, asNumber y with
  | .inl m, .inl n => .ok (int (onInts m n))
  | .inl m, .inr y => (Binary64.ofInt m).map fun x => float (onFloats x y)
  | .inr x, .inl n => (Binary64.ofInt n).map fun y => float (onFloats x y)
  | .inr x, .inr y => .ok (float (onFloats x y))

/-- The sum. -/
def add : Scalar → Scalar → Except NumberFault Scalar := combine (· + ·) Binary64.add

/-- The difference. -/
def sub : Scalar → Scalar → Except NumberFault Scalar := combine (· - ·) Binary64.sub

/-- The product. -/
def mul : Scalar → Scalar → Except NumberFault Scalar := combine (· * ·) Binary64.mul

/-- The scalar when it exceeds zero, otherwise zero. -/
def clamp (x : Scalar) : Scalar := if isLess (int 0) x then x else int 0

/-- The whole part, toward zero. -/
def toWhole : Scalar → Except NumberFault Int
  | bool b => .ok (countOf b)
  | int n => .ok n
  | float x => x.truncate

/-- Whether a scalar counts as true: anything but false and the zeros. -/
def isTrue : Scalar → Bool
  | bool b => b
  | int n => n != 0
  | float x => x.isNonzero

/-- The text of a scalar. -/
def text : Scalar → Except NumberFault String
  | bool b => .ok (if b then "True" else "False")
  | int n => Numeral.write n
  | float x => .ok (Decimal.text x)

end Scalar

end Gamebook
