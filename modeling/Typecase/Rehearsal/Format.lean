import Typecase.Rehearsal.Argument
import Typecase.Rehearsal.Escape
import Typecase.Rehearsal.Quoting

/-! Formats in the manner of `printf`: plain text, escapes, and fields that take an argument
each. A format is read again as long as arguments are left over. -/

namespace Typecase.Rehearsal

/-- A place for one argument. -/
structure Field where
  /-- The field as it stands in the format. -/
  written : List Char
  flags : List Char
  width : Nat
  places : Option Nat
  kind : Char

inductive Piece where
  | printed (bytes : List Char)
  | stop
  | malformed (complaint : String)
  /-- A field, and whether arguments say how wide it is and how many places it has. -/
  | field (field : Field) (asksWidth asksPlaces : Bool)

namespace Field

def has (field : Field) (flag : Char) : Bool := field.flags.contains flag

/-- Whether the flags and the places are such as a kind of field can have. -/
def isSensible (field : Field) (asksPlaces : Bool) : Bool :=
  let grouped := field.has '\'' || field.has 'I'
  match field.kind with
  | 'b' | 'q' => field.written.length == 2
  | 'd' | 'i' | 'u' => !field.has '#'
  | 'f' | 'F' | 'g' | 'G' => true
  | 'o' | 'x' | 'X' | 'e' | 'E' | 'a' | 'A' => !grouped
  | 's' => !grouped && !field.has '#' && !field.has '0'
  | 'c' =>
    !grouped && !field.has '#' && !field.has '0' && field.places.isNone && !asksPlaces
  | _ => false

/-- The largest width and number of places. -/
def largestSize : Int := 2147483647

/-- Whether a field cannot be printed for its size. Places that do not fill the field may be
as many as there can be. -/
def isTooLarge (field : Field) : Bool :=
  let places : Int := field.places.getD 0
  let filling := field.kind != 's' && (field.kind.toLower != 'g' || field.has '#')
  largestSize - 32 ≤ field.width
    || (if filling then largestSize - 32 else largestSize) < places

/-- Fills a field up to its width: on the right, with zeros behind the sign, or on the
left. -/
def pad (field : Field) (zeros : Bool) (sign body : List Char) : List Char :=
  let missing := field.width - (sign.length + body.length)
  if field.has '-' then sign ++ body ++ List.replicate missing ' '
  else if zeros && field.has '0' then sign ++ List.replicate missing '0' ++ body
  else List.replicate missing ' ' ++ sign ++ body

def sign (field : Field) (negative : Bool) : List Char :=
  if negative then ['-']
  else if field.has '+' then ['+']
  else if field.has ' ' then [' ']
  else []

/-- A whole number in digits of a base, with leading zeros up to the number of places. -/
def wholeNumber (field : Field) (sign : List Char) (base number : Nat) : List Char :=
  let digits := if number = 0 ∧ field.places = some 0 then [] else Nat.toDigits base number
  let digits := digits.leftpad (field.places.getD 0) '0'
  let digits :=
    if base = 8 && field.has '#' && digits.head? != some '0' then '0' :: digits else digits
  field.pad field.places.isNone sign digits

/-- A word in a base other than ten. -/
def word (field : Field) (base number : Nat) : List Char :=
  let sign := if base = 16 && field.has '#' && number != 0 then ['0', 'x'] else []
  field.wholeNumber sign base number

def extended (field : Field) (negative : Bool) (number : Extended) : List Char :=
  let sign := field.sign negative
  let sharp := field.has '#'
  let places := field.places.getD 6
  match number, field.kind.toLower with
  | .infinite, _ => field.pad false sign "inf".toList
  | .notANumber, _ => field.pad false sign "nan".toList
  | .finite significand exponent, 'f' =>
    field.pad true sign (Extended.fixed sharp places significand exponent)
  | .finite significand exponent, 'e' =>
    field.pad true sign (Extended.scientific sharp places significand exponent)
  | .finite significand exponent, 'g' =>
    field.pad true sign (Extended.general sharp places significand exponent)
  | .finite significand exponent, _ =>
    field.pad true (sign ++ ['0', 'x'])
      (Extended.hexadecimal sharp field.places significand exponent)

/-- What stands in the field for an argument. -/
def fill (field : Field) (argument : List Char) : List Char :=
  match field.kind with
  | 'q' => Quoting.quote argument
  | 's' => field.pad false [] (argument.take (field.places.getD argument.length))
  | 'c' => field.pad false [] [argument.headD '\x00']
  | 'd' | 'i' =>
    let number := (readSigned argument).value
    field.wholeNumber (field.sign (number < 0)) 10 number.natAbs
  | 'u' => field.word 10 (readUnsigned argument).value
  | 'o' => field.word 8 (readUnsigned argument).value
  | 'x' => field.word 16 (readUnsigned argument).value
  | 'X' => (field.word 16 (readUnsigned argument).value).map Char.toUpper
  | kind =>
    let (negative, number) := (readExtended argument).value
    let bytes := field.extended negative number
    if kind.isUpper then bytes.map Char.toUpper else bytes

/-- What is remarked upon an argument in the field. -/
def remark? (field : Field) (argument : List Char) : Option Remark :=
  match field.kind with
  | 'q' | 's' | 'c' => none
  | 'd' | 'i' => (readSigned argument).remark
  | 'u' | 'o' | 'x' | 'X' => (readUnsigned argument).remark
  | _ => (readExtended argument).remark

end Field

/-- What a printing program has done so far. -/
structure Printing where
  /-- Whether only failures are remarked upon. -/
  strict : Bool
  printed : List Char := []
  remarks : List Remark := []
  unused : List (List Char)
  /-- Whether a field could not be printed. -/
  broken : Bool := false
  /-- The exit code, if the program is over. -/
  exit : Option Nat := none

namespace Printing

def print (printing : Printing) (bytes : List Char) : Printing :=
  { printing with printed := printing.printed ++ bytes }

/-- Adds what was remarked upon an argument. -/
def remark (printing : Printing) (remark : Option Remark) : Printing :=
  let remarks := remark.toList.filter fun remark => remark.fails || !printing.strict
  { printing with remarks := printing.remarks ++ remarks }

/-- Ends with a complaint. -/
def giveUp (printing : Printing) (complaint : String) : Printing :=
  { printing.remark (some ⟨complaint, true⟩) with exit := some 1 }

/-- The exit code when all has been printed. -/
def code (printing : Printing) : Nat :=
  if printing.broken then 1
  else printing.exit.getD (if printing.remarks.any Remark.fails then 1 else 0)

/-- Prints an argument with its escapes read. -/
def printExpanded (printing : Printing) (argument : List Char) : Printing :=
  let expansion := expand Escape.takeZeroed argument.length argument
  let printing := printing.print expansion.printed
  match expansion.cut with
  | some (.malformed complaint) => printing.giveUp complaint
  | some _ => { printing with exit := some 0 }
  | none => printing

def fill (printing : Printing) (field : Field) (argument : List Char) : Printing :=
  if field.kind = 'b' then printing.printExpanded argument
  else
    let printing := printing.remark (field.remark? argument)
    if field.isTooLarge then { printing with broken := true }
    else printing.print (field.fill argument)

/-- The next argument, and the printing without it. -/
def next (printing : Printing) : List Char × Printing :=
  (printing.unused.headD [], { printing with unused := printing.unused.drop 1 })

/-- Takes the width of a field from an argument. A negative one turns to the left. -/
def askWidth (printing : Printing) (field : Field) : Field × Printing :=
  let (argument, printing) := printing.next
  let reading := readSigned argument
  let printing := printing.remark reading.remark
  if reading.value < -Field.largestSize - 1 ∨ Field.largestSize < reading.value then
    (field, printing.giveUp ("invalid field width: " ++ quoted argument))
  else
    let flags := if reading.value < 0 then '-' :: field.flags else field.flags
    ({ field with flags := flags, width := reading.value.natAbs }, printing)

/-- Takes the number of places from an argument. A negative one says nothing. -/
def askPlaces (printing : Printing) (field : Field) : Field × Printing :=
  let (argument, printing) := printing.next
  let reading := readSigned argument
  let printing := printing.remark reading.remark
  if Field.largestSize < reading.value then
    (field, printing.giveUp ("invalid precision: " ++ quoted argument))
  else
    let places := if reading.value < 0 then none else some reading.value.toNat
    ({ field with places := places }, printing)

def step (printing : Printing) (piece : Piece) : Printing :=
  if printing.exit.isSome then printing
  else
    match piece with
    | .printed bytes => printing.print bytes
    | .stop => { printing with exit := some 0 }
    | .malformed complaint => printing.giveUp complaint
    | .field field asksWidth asksPlaces =>
      let (field, printing) :=
        if asksWidth then printing.askWidth field else (field, printing)
      let (field, printing) :=
        if asksPlaces && printing.exit.isNone then printing.askPlaces field
        else (field, printing)
      if printing.exit.isSome then printing
      else if !field.isSensible asksPlaces then
        printing.giveUp (String.ofList field.written ++ ": invalid conversion specification")
      else if field.kind = 'q' ∧ printing.unused.isEmpty then printing
      else
        let (argument, printing) := printing.next
        printing.fill field argument

/-- Runs the format, and again while it uses up arguments and some are left. -/
def passes (format : List Piece) : Nat → Printing → Printing
  | 0, printing => printing
  | rounds + 1, printing =>
    let after := format.foldl step printing
    if after.exit.isSome || after.unused.isEmpty
      || after.unused.length = printing.unused.length then after
    else passes format rounds after

end Printing

def isFlag (char : Char) : Bool := "-+ #0'I".toList.contains char

def isSizeLetter (char : Char) : Bool := "lLhjtz".toList.contains char

/-- Reads a width or a number of places, and whether an argument says it. -/
def takeSize (text : List Char) : Nat × Bool × List Char :=
  match text with
  | '*' :: rest => (0, true, rest)
  | _ =>
    let digits := Numeral.leadingDigits 10 text
    (Numeral.ofDigits 10 digits, false, text.drop digits.length)

/-- Reads the field behind a percent sign. -/
def takeField (text : List Char) : Piece × List Char :=
  let flags := text.takeWhile isFlag
  let (width, asksWidth, rest) := takeSize (text.drop flags.length)
  let (places, asksPlaces, rest) : Option Nat × Bool × List Char :=
    match rest with
    | '.' :: rest =>
      let (places, asksPlaces, rest) := takeSize rest
      (some places, asksPlaces, rest)
    | rest => (none, false, rest)
  let rest := rest.dropWhile isSizeLetter
  let written := '%' :: text.take (text.length - rest.length + 1)
  let field : Field := ⟨written, flags, width, places, rest.headD '\x00'⟩
  (.field field asksWidth asksPlaces, rest.drop 1)

/-- Cuts a format into pieces. Each round takes a character at least. -/
def piecesOf : Nat → List Char → List Piece
  | 0, _ => []
  | _ + 1, [] => []
  | rounds + 1, '%' :: '%' :: text => .printed ['%'] :: piecesOf rounds text
  | rounds + 1, '%' :: text =>
    let (piece, rest) := takeField text
    piece :: piecesOf rounds rest
  | rounds + 1, '\\' :: text =>
    match Escape.take text with
    | (.bytes printed, rest) => .printed printed :: piecesOf rounds rest
    | (.stop, _) => [.stop]
    | (.malformed complaint, _) => [.malformed complaint]
  | rounds + 1, char :: text => .printed [char] :: piecesOf rounds text

/-- Prints arguments by a format until the format uses no more of them. -/
def printFormatted (strict : Bool) (format : List Char) (arguments : List (List Char)) :
    Printing :=
  let printing := Printing.passes (piecesOf format.length format) (arguments.length + 1)
    { strict := strict, unused := arguments }
  let excess : List Remark :=
    match printing.exit, printing.unused with
    | none, extra :: _ =>
      [⟨"warning: ignoring excess arguments, starting with " ++ quoted extra, false⟩]
    | _, _ => []
  let broken : List Remark := if printing.broken then [⟨"write error", true⟩] else []
  { printing with remarks := printing.remarks ++ excess ++ broken }

end Typecase.Rehearsal
