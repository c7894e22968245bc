import Typecase.Decimal.Fixed

/-! Numbers in extended precision, whose significands have 64 bits, and the ways to write
them: with a fixed number of places, with a power of ten, whichever of these is shorter, or
in hexadecimal digits with a power of two. All of them round the exact value, halves to the
even neighbour. -/

namespace Typecase.Rehearsal

/-- A number without its sign. -/
inductive Extended where
  | finite (significand : Nat) (exponent : Int)
  | infinite
  | notANumber

/-- The whole number nearest to a quotient times a power of a base. -/
def quotient (numerator denominator base : Nat) (power : Int) : Nat :=
  match power with
  | .ofNat power => Decimal.roundDiv (numerator * Nat.pow base power) denominator
  | .negSucc power => Decimal.roundDiv numerator (denominator * Nat.pow base (power + 1))

namespace Extended

/-- The first significand that needs more than 64 bits. -/
def limit : Nat := Nat.pow 2 64

def smallestExponent : Int := -16445

def largestExponent : Int := 16320

/-- The number nearest to a quotient. -/
def nearest (numerator denominator : Nat) : Extended :=
  if numerator = 0 then .finite 0 0
  else
    let lead : Int := numerator.log2 - denominator.log2
    let exponent := max (lead - 64) smallestExponent
    let significand := quotient numerator denominator 2 (-exponent)
    let exponent := if limit ≤ significand then exponent + 1 else exponent
    let significand := quotient numerator denominator 2 (-exponent)
    let (significand, exponent) :=
      if significand = limit then (significand / 2, exponent + 1) else (significand, exponent)
    if largestExponent < exponent then .infinite else .finite significand exponent

/-- Whether a quotient is out of range: too large, or rounded although it is smaller than all
numbers with 64 bits. Such a quotient stays smaller when it is rounded to 64 bits. -/
def isOutOfRange (numerator denominator : Nat) : Bool :=
  match nearest numerator denominator with
  | finite _ _ =>
    numerator * Nat.pow 2 16447 < (Nat.pow 2 65 - 1) * denominator
      && numerator * Nat.pow 2 16445 % denominator != 0
  | _ => true

/-- A text with a point before its last places. Without places there is a point only if it
is asked for. -/
def withPlaces (sharp : Bool) (places : Nat) (digits : List Char) : List Char :=
  let digits := digits.leftpad (places + 1) '0'
  let whole := digits.take (digits.length - places)
  if places = 0 then if sharp then whole ++ ['.'] else whole
  else whole ++ '.' :: digits.drop (digits.length - places)

/-- Zeros at the end of the places say nothing, nor does a point without places unless it
is asked for. -/
def withoutZeros (sharp : Bool) (text : List Char) : List Char :=
  if text.contains '.' then
    let short := text.reverse.dropWhile (· = '0')
    (if sharp then short else short.dropWhile (· = '.')).reverse
  else text

def fixed (sharp : Bool) (places significand : Nat) (exponent : Int) : List Char :=
  withPlaces sharp places
    (toString (Decimal.scaled significand exponent places)).toList

/-- The digits of a number, one of them before the point, and the power of ten. -/
def leading (places significand : Nat) (exponent : Int) : Nat × Int :=
  if significand = 0 then (0, 0)
  else
    let numerator := significand * Nat.pow 2 exponent.toNat
    let denominator := Nat.pow 2 (-exponent).toNat
    let size (number : Nat) : Int := (Nat.toDigits 10 number).length
    let guess := size numerator - size denominator
    let power :=
      if numerator * Nat.pow 10 (-guess).toNat < denominator * Nat.pow 10 guess.toNat then
        guess - 1
      else guess
    let digits := quotient numerator denominator 10 (places - power)
    if digits = Nat.pow 10 (places + 1) then (digits / 10, power + 1) else (digits, power)

def signed (power : Int) (width : Nat) : List Char :=
  (if power < 0 then '-' else '+') :: (Nat.toDigits 10 power.natAbs).leftpad width '0'

def scientific (sharp : Bool) (places significand : Nat) (exponent : Int) : List Char :=
  let (digits, power) := leading places significand exponent
  withPlaces sharp places (toString digits).toList ++ 'e' :: signed power 2

/-- More digits than any number has that are not zeros at its end. -/
def manyDigits : Nat := 20000

/-- The shorter way to write a number with so many digits that count. -/
def general (sharp : Bool) (digits significand : Nat) (exponent : Int) : List Char :=
  let places := max 1 (if sharp then digits else min digits manyDigits) - 1
  let (number, power) := leading places significand exponent
  let tidy (text : List Char) := if sharp then text else withoutZeros sharp text
  if power < -4 ∨ (places : Int) < power then
    tidy (withPlaces sharp places (toString number).toList) ++ 'e' :: signed power 2
  else tidy (fixed sharp (places - power).toNat significand exponent)

/-- Hexadecimal digits, the first of which holds the four highest bits, as far as the
exponent can be lowered for it. Unless their number is given, as many are written as are
needed. -/
def hexadecimal (sharp : Bool) (places : Option Nat) (significand : Nat) (exponent : Int) :
    List Char :=
  let shift :=
    if significand = 0 then 0
    else min (63 - significand.log2) (exponent - smallestExponent).toNat
  let significand := significand * Nat.pow 2 shift
  let given := places.getD 15
  let kept := min given 15
  let digits := Decimal.roundDiv significand (Nat.pow 16 (15 - kept))
  let power := if significand = 0 then 0 else exponent - shift + 60
  let (digits, power) :=
    if digits = Nat.pow 16 (kept + 1) then (digits / 16, power + 4) else (digits, power)
  let text := withPlaces sharp given
    (Nat.toDigits 16 digits ++ List.replicate (given - kept) '0')
  let text := if places.isNone then withoutZeros sharp text else text
  text ++ 'p' :: signed power 1

end Extended

end Typecase.Rehearsal
