import Gamebook.Number.Binary64

/-!
# Powers of floating-point numbers

A power is computed by repeated squaring on numbers with 256 significant bits, far
more than the 53 that the rounded result keeps, and rounded once at the end. A
finite base whose power leaves the finite range is a fault.
-/

namespace Gamebook

/-- A magnitude with room for many bits: a mantissa times a power of two. -/
structure WideNumber where
  mantissa : Nat
  exponent : Int
  deriving DecidableEq, Repr

namespace WideNumber

/-- Keeps the 256 leading bits, rounded to nearest. -/
def trim (w : WideNumber) : WideNumber :=
  let excess := w.mantissa.log2 - 255
  ⟨roundQuotient w.mantissa (Nat.pow 2 excess), w.exponent + excess⟩

/-- The trimmed product. -/
def mul (v w : WideNumber) : WideNumber :=
  trim ⟨v.mantissa * w.mantissa, v.exponent + w.exponent⟩

/-- A power by halving the exponent. -/
def power (w : WideNumber) (n : Nat) : WideNumber :=
  if h : n = 0 then ⟨1, 0⟩
  else
    let half := power w (n / 2)
    let square := mul half half
    if n % 2 = 0 then square else mul square w
termination_by n
decreasing_by omega

/-- A count of units as a wide magnitude. -/
def ofUnits (units : Nat) : WideNumber := trim ⟨units, -1074⟩

/-- The number nearest to a wide magnitude; none when it is beyond the finite numbers. -/
def round? (negative : Bool) (w : WideNumber) : Option Binary64 :=
  let exponent := w.exponent + 1074
  if w.mantissa = 0 then some (Binary64.ofUnits negative 0)
  else if 2200 < exponent then none
  else if exponent < -400 then some (Binary64.ofUnits negative 0)
  else
    let rounded :=
      if 0 ≤ exponent then
        Binary64.ofQuotient negative (w.mantissa * Nat.pow 2 exponent.toNat) 1
      else Binary64.ofQuotient negative w.mantissa (Nat.pow 2 (-exponent).toNat)
    if rounded.isFinite then some rounded else none

end WideNumber

namespace Binary64

/-- A number to a power counted by a natural number. The power zero of anything is one. -/
def power (x : Binary64) (n : Nat) : Except NumberFault Binary64 :=
  if n = 0 then .ok (ofUnits false one)
  else
    match x with
    | nan => .ok nan
    | infinity negative => .ok (infinity (negative && n % 2 == 1))
    | finite negative units _ =>
      match ((WideNumber.ofUnits units).power n).round? (negative && n % 2 == 1) with
      | some result => .ok result
      | none => .error .powerRange

end Binary64

end Gamebook
