/-! Floating-point numbers with a fixed number of decimal places. The number is taken at its
exact binary value; a value halfway between two neighbours goes to the even one. -/

namespace Typecase.Decimal

/-- The quotient to the nearest whole number, halves to the even one. -/
def roundDiv (numerator denominator : Nat) : Nat :=
  let quotient := numerator / denominator
  let twice := 2 * (numerator % denominator)
  if denominator < twice ∨ twice = denominator ∧ quotient % 2 = 1 then quotient + 1
  else quotient

inductive Binary where
  | finite (negative : Bool) (significand : Nat) (exponent : Int)
  | infinite (negative : Bool)
  | notANumber
  deriving DecidableEq

/-- Takes the 64 bits of a double apart: the significand times two to the exponent. -/
def Binary.ofBits (bits : UInt64) : Binary :=
  let negative := 0x8000000000000000 ≤ bits
  let exponent := (bits >>> 52 &&& 0x7ff).toNat
  let fraction := (bits &&& 0xfffffffffffff).toNat
  if exponent = 0x7ff then
    if fraction = 0 then .infinite negative else .notANumber
  else if exponent = 0 then .finite negative fraction (-1074)
  else .finite negative (0x10000000000000 + fraction) ((exponent : Int) - 1075)

def Binary.isPositive : Binary → Bool
  | finite negative significand _ => !negative && significand != 0
  | infinite negative => !negative
  | notANumber => false

/-- The whole number nearest to `significand * 2 ^ exponent * 10 ^ places`. -/
def scaled (significand : Nat) (exponent : Int) (places : Nat) : Nat :=
  match exponent with
  | .ofNat power => significand * Nat.pow 10 places * Nat.pow 2 power
  | .negSucc power => roundDiv (significand * Nat.pow 10 places) (Nat.pow 2 (power + 1))

/-- A whole number of units in the last of the given decimal places. -/
def withPoint (units places : Nat) : String :=
  let one := Nat.pow 10 places
  let digits := toString (units % one)
  toString (units / one) ++ "." ++ String.ofList (digits.toList.leftpad places '0')

/-- The sign of a negative number stays even when all digits are zero. -/
def fixed (places : Nat) (number : Binary) : String :=
  let sign (negative : Bool) := if negative then "-" else ""
  match number with
  | .notANumber => "NaN"
  | .infinite negative => sign negative ++ "inf"
  | .finite negative significand exponent =>
    sign negative ++ withPoint (scaled significand exponent places) places

end Typecase.Decimal
