import Gamebook.Number.Fault

/-!
# Binary floating-point numbers of 64 bits

A finite number is a sign and a magnitude counted in units of the smallest
positive number, 2 to the power -1074. A magnitude is representable when it has at
most 53 significant bits and lies below 2 to the power 2098 units. Equal magnitudes
have equal unit counts, so comparing numbers is comparing counts, and every
operation computes the exact result first and rounds once: to the nearest
representable magnitude, a tie going to the one with the even last bit.
-/

namespace Gamebook

/-- How many low bits a magnitude must leave clear to have 53 significant bits. -/
def spareBits (units : Nat) : Nat := units.log2 - 52

/-- The magnitudes that a finite number can have. -/
def Representable (units : Nat) : Prop :=
  units < Nat.pow 2 2098 ∧ units % Nat.pow 2 (spareBits units) = 0

instance (units : Nat) : Decidable (Representable units) := by
  unfold Representable; infer_instance

/-- A floating-point number: undefined, infinite, or finite with a representable magnitude. -/
inductive Binary64
  | nan
  | infinity (negative : Bool)
  | finite (negative : Bool) (units : Nat) (representable : Representable units)
  deriving DecidableEq, Repr

/-- The whole number nearest to a quotient; a tie goes to the even neighbour. -/
def roundQuotient (numerator denominator : Nat) : Nat :=
  let quotient := numerator / denominator
  let twice := 2 * (numerator % denominator)
  if twice < denominator || (twice == denominator && quotient % 2 == 0) then quotient
  else quotient + 1

/-- The magnitude with 53 significant bits nearest to a quotient of units. -/
def roundUnits (numerator denominator : Nat) : Nat :=
  let spare := Nat.pow 2 (spareBits (numerator / denominator))
  roundQuotient numerator (denominator * spare) * spare

namespace Binary64

/-- The number of units in one. -/
def one : Nat := Nat.pow 2 1074

/-- The number with a given magnitude, infinite when no finite number has it. -/
def ofUnits (negative : Bool) (units : Nat) : Binary64 :=
  if h : Representable units then finite negative units h else infinity negative

/-- The number nearest to a quotient of units. -/
def ofQuotient (negative : Bool) (numerator denominator : Nat) : Binary64 :=
  ofUnits negative (roundUnits numerator denominator)

/-- The number nearest to a signed count of units; zero has the sign asked for. -/
def ofSigned (zeroSign : Bool) (units : Int) : Binary64 :=
  ofQuotient (if units = 0 then zeroSign else units < 0) units.natAbs 1

/-- The signed unit count of a finite number. -/
def signed (negative : Bool) (units : Nat) : Int := if negative then -(units : Int) else units

/-- Positive zero. -/
def zeroNumber : Binary64 := ofUnits false 0

/-- The number nearest to a whole number; one beyond the finite numbers is a fault. -/
def ofInt (n : Int) : Except NumberFault Binary64 :=
  match ofSigned false (n * one) with
  | finite negative units h => .ok (finite negative units h)
  | _ => .error .beyondFloat

/-- The number nearest to decimal digits times a power of ten. Exponents that leave the
range whatever the digits are decided without computing the power. -/
def ofDecimal (negative : Bool) (digits : Nat) (digitCount : Nat) (exponent : Int) : Binary64 :=
  if digits = 0 then ofUnits negative 0
  else if 400 < exponent then infinity negative
  else if exponent + digitCount < -400 then ofUnits negative 0
  else if 0 ≤ exponent then ofQuotient negative (digits * Nat.pow 10 exponent.toNat * one) 1
  else ofQuotient negative (digits * one) (Nat.pow 10 (-exponent).toNat)

/-- The quotient of two counts, rounded; a zero divisor gives zero. -/
def ofCounts (numerator denominator : Nat) : Binary64 :=
  ofQuotient false (numerator * one) denominator

/-- The whole part of a number, toward zero. -/
def truncate : Binary64 → Except NumberFault Int
  | nan => .error .undefinedWhole
  | infinity _ => .error .infiniteWhole
  | finite negative units _ => .ok (signed negative (units / one))

/-- The number with the other sign. -/
def negate : Binary64 → Binary64
  | nan => nan
  | infinity negative => infinity !negative
  | finite negative units h => finite (!negative) units h

/-- The rounded sum. Opposite infinities have none; equal magnitudes of opposite signs
give positive zero. -/
def add : Binary64 → Binary64 → Binary64
  | nan, _ | _, nan => nan
  | infinity a, infinity b => if a = b then infinity a else nan
  | infinity a, _ => infinity a
  | _, infinity b => infinity b
  | finite a u _, finite b v _ => ofSigned (a && b) (signed a u + signed b v)

/-- The rounded difference. -/
def sub (x y : Binary64) : Binary64 := add x (negate y)

/-- The rounded product. Zero times an infinity is undefined. -/
def mul : Binary64 → Binary64 → Binary64
  | nan, _ | _, nan => nan
  | infinity a, infinity b => infinity (a != b)
  | infinity a, finite b v _ => if v = 0 then nan else infinity (a != b)
  | finite a u _, infinity b => if u = 0 then nan else infinity (a != b)
  | finite a u _, finite b v _ => ofQuotient (a != b) (u * v) one

/-- The order of two numbers; none when one is undefined. The two zeros are equal. -/
def order? : Binary64 → Binary64 → Option Ordering
  | nan, _ | _, nan => none
  | infinity a, infinity b => some (compare (!a) (!b))
  | infinity a, finite .. => some (if a then .lt else .gt)
  | finite .., infinity b => some (if b then .gt else .lt)
  | finite a u _, finite b v _ => some (compare (signed a u) (signed b v))

/-- The exact order of a whole number and a number. -/
def orderInt? (n : Int) : Binary64 → Option Ordering
  | nan => none
  | infinity negative => some (if negative then .gt else .lt)
  | finite negative units _ => some (compare (n * one) (signed negative units))

/-- Whether a number differs from zero. -/
def isNonzero : Binary64 → Bool
  | finite _ units _ => units != 0
  | _ => true

/-- Whether a number is neither undefined nor infinite. -/
def isFinite : Binary64 → Bool
  | finite .. => true
  | _ => false

end Binary64

end Gamebook
