import Typecase.Rehearsal.Extended
import Typecase.Rehearsal.Quoting
import Typecase.Text.Numeral
import Typecase.Word

/-! Arguments read as numbers. An argument counts as far as it can be read; what is wrong
with it is remarked upon. A quote stands for the number of the byte behind it. -/

namespace Typecase.Rehearsal

structure Remark where
  text : String
  /-- Whether the program fails for it in the end. -/
  fails : Bool

structure Reading (α : Type) where
  value : α
  remark : Option Remark := none

/-- An argument between quotes, in remarks. -/
def quoted (argument : List Char) : String :=
  "'" ++ String.ofList (argument.flatMap Quoting.remarked) ++ "'"

def wrong (argument : List Char) (reason : String) : Option Remark :=
  some ⟨quoted argument ++ ": " ++ reason, true⟩

def outOfRange (argument : List Char) : Option Remark :=
  wrong argument "Numerical result out of range"

/-- Remarks upon an argument without a number. Nothing at all counts as zero. -/
def noNumber (argument : List Char) : Option Remark :=
  if argument.isEmpty then none else wrong argument "expected a numeric value"

/-- Remarks upon what is left of an argument behind its number. -/
def leftOver (argument rest : List Char) : Option Remark :=
  if rest.isEmpty then none else wrong argument "value not completely converted"

/-- Remarks upon what is left behind a quoted byte. -/
def behindQuoted (rest : List Char) : Option Remark :=
  if rest.isEmpty then none
  else some ⟨"warning: " ++ String.ofList rest
    ++ ": character(s) following character constant have been ignored", false⟩

/-- The sign of a number, and what stands behind it and the blanks before it. -/
def takeSign (argument : List Char) : Bool × List Char :=
  match argument.dropWhile fun char => char = ' ' ∨ '\t' ≤ char ∧ char ≤ '\r' with
  | '-' :: text => (true, text)
  | '+' :: text => (false, text)
  | text => (false, text)

/-- The base that shows in the first digits of a whole number, and the text behind what says
so. Letters that say so count only if digits follow. -/
def baseOf (text : List Char) : Nat × List Char :=
  let behind (base : Nat) (rest : List Char) :=
    if (Numeral.leadingDigits base rest).isEmpty then (8, text) else (base, rest)
  match text with
  | '0' :: 'x' :: rest | '0' :: 'X' :: rest => behind 16 rest
  | '0' :: 'b' :: rest | '0' :: 'B' :: rest => behind 2 rest
  | '0' :: _ => (8, text)
  | _ => (10, text)

/-- A whole number within bounds. One below them counts as the given number instead, one
above them as the largest. -/
def readWhole (low high below : Int) (argument : List Char) : Reading Int :=
  match argument with
  | '"' :: byte :: rest | '\'' :: byte :: rest => ⟨byte.toNat, behindQuoted rest⟩
  | _ =>
    let (negative, text) := takeSign argument
    let (base, text) := baseOf text
    let digits := Numeral.leadingDigits base text
    let magnitude : Int := Numeral.ofDigits base digits
    let number := if negative then -magnitude else magnitude
    if digits.isEmpty then ⟨0, noNumber argument⟩
    else if number < low then ⟨below, outOfRange argument⟩
    else if high < number then ⟨high, outOfRange argument⟩
    else ⟨number, leftOver argument (text.drop digits.length)⟩

def readSigned (argument : List Char) : Reading Int :=
  let low := -9223372036854775808
  readWhole low 9223372036854775807 low argument

/-- A word. A negative number wraps around, unless it is too small for that. -/
def readUnsigned (argument : List Char) : Reading Nat :=
  let limit : Int := Word.limit64
  let reading := readWhole (1 - limit) (limit - 1) (limit - 1) argument
  ⟨(reading.value % limit).toNat, reading.remark⟩

/-- Reads a keyword in any case. -/
def dropKeyword? (keyword : String) (text : List Char) : Option (List Char) :=
  let size := keyword.length
  if (text.take size).map Char.toLower = keyword.toList then some (text.drop size) else none

/-- Digits with a point among them: their number, how many stand behind the point, and what
follows. -/
def takeDigits? (base : Nat) (text : List Char) : Option (Nat × Nat × List Char) :=
  let whole := Numeral.leadingDigits base text
  let rest := text.drop whole.length
  let (places, rest) :=
    match rest with
    | '.' :: behind =>
      let places := Numeral.leadingDigits base behind
      if whole.isEmpty && places.isEmpty then ([], rest)
      else (places, behind.drop places.length)
    | _ => ([], rest)
  if whole.isEmpty && places.isEmpty then none
  else some (Numeral.ofDigits base (whole ++ places), places.length, rest)

/-- The exponent behind a letter, zero if there is none, and what follows. -/
def takePower (letter : Char) (text : List Char) : Int × List Char :=
  match text with
  | first :: behind =>
    let (sign, behind) : Int × List Char :=
      match behind with
      | '-' :: rest => (-1, rest)
      | '+' :: rest => (1, rest)
      | rest => (1, rest)
    let digits := Numeral.leadingDigits 10 behind
    if first.toLower = letter ∧ ¬digits.isEmpty then
      (sign * Numeral.ofDigits 10 digits, behind.drop digits.length)
    else (0, text)
  | [] => (0, [])

/-- The powers beyond which a number is too large or too small whatever its digits are. -/
def farPower : Int := 40000

/-- The number that digits times a power of a base come to. -/
def scale (number base : Nat) (power : Int) (argument rest : List Char) : Reading Extended :=
  if number = 0 then ⟨.finite 0 0, leftOver argument rest⟩
  else
    let power := max (-farPower) (min farPower power)
    let numerator := number * Nat.pow base power.toNat
    let denominator := Nat.pow base (-power).toNat
    let remark :=
      if Extended.isOutOfRange numerator denominator then outOfRange argument
      else leftOver argument rest
    ⟨Extended.nearest numerator denominator, remark⟩

/-- Drops the word in parentheses that may stand behind what is not a number. -/
def dropPayload (text : List Char) : List Char :=
  match text with
  | '(' :: behind =>
    match behind.dropWhile fun char => char.isAlphanum || char == '_' with
    | ')' :: rest => rest
    | _ => text
  | _ => text

/-- A number without its sign, read behind the sign. -/
def readMagnitude? (argument text : List Char) : Option (Reading Extended) :=
  match dropKeyword? "infinity" text <|> dropKeyword? "inf" text, dropKeyword? "nan" text with
  | some rest, _ => some ⟨.infinite, leftOver argument rest⟩
  | _, some rest => some ⟨.notANumber, leftOver argument (dropPayload rest)⟩
  | _, _ =>
    match (dropKeyword? "0x" text).bind (takeDigits? 16) with
    | some (number, places, rest) =>
      let (power, rest) := takePower 'p' rest
      some (scale number 2 (power - 4 * places) argument rest)
    | none =>
      (takeDigits? 10 text).map fun (number, places, rest) =>
        let (power, rest) := takePower 'e' rest
        scale number 10 (power - places) argument rest

/-- A number with its sign. -/
def readExtended (argument : List Char) : Reading (Bool × Extended) :=
  match argument with
  | '"' :: byte :: rest | '\'' :: byte :: rest =>
    ⟨(false, .finite byte.toNat 0), behindQuoted rest⟩
  | _ =>
    let (negative, text) := takeSign argument
    match readMagnitude? argument text with
    | some reading => ⟨(negative, reading.value), reading.remark⟩
    | none => ⟨(false, .finite 0 0), noNumber argument⟩

end Typecase.Rehearsal
