/-! Numerals in ASCII digits: single digits in any base up to sixteen, and the decimal
numerals that people type into a setting, with at most one plus sign before them. -/

namespace Typecase.Numeral

/-- The value of a digit in a base, where letters of either case follow the nine. -/
def digit? (base : Nat) (char : Char) : Option Nat :=
  let value :=
    if '0' ≤ char ∧ char ≤ '9' then some (char.toNat - '0'.toNat)
    else if 'a' ≤ char ∧ char ≤ 'f' then some (char.toNat - 'a'.toNat + 10)
    else if 'A' ≤ char ∧ char ≤ 'F' then some (char.toNat - 'A'.toNat + 10)
    else none
  value.filter (· < base)

/-- The digits of a base at the front of a text. -/
def leadingDigits (base : Nat) : List Char → List Nat
  | [] => []
  | char :: rest =>
    match digit? base char with
    | some digit => digit :: leadingDigits base rest
    | none => []

/-- The number that digits of a base spell. -/
def ofDigits (base : Nat) (digits : List Nat) : Nat :=
  digits.foldl (fun number digit => base * number + digit) 0

def digitValue (digit : Char) : Nat := digit.toNat - '0'.toNat

def isDigit (char : Char) : Bool := '0' ≤ char && char ≤ '9'

/-- The number that digits spell behind a number already read. -/
def valueFrom (sofar : Nat) (digits : List Char) : Nat :=
  digits.foldl (fun number digit => 10 * number + digitValue digit) sofar

/-- The digits of a numeral, without its sign. -/
def unsigned : List Char → List Char
  | '+' :: digits => digits
  | digits => digits

/-- Reads a number below `limit`. No digit at all is no number. -/
def read? (limit : Nat) (text : List Char) : Option Nat :=
  let digits := unsigned text
  if digits ≠ [] ∧ digits.all isDigit then
    let number := valueFrom 0 digits
    if number < limit then some number else none
  else none

end Typecase.Numeral
