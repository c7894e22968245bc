import Typecase.Text.Numeral

/-! Backslash escapes as printing programs read them. Programs print bytes; here a byte is
written as the character of its number, so that bytes can be read like text. -/

namespace Typecase.Rehearsal

/-- The bytes of a text in UTF-8, each as a character. -/
def bytesOf (text : String) : List Char :=
  text.toUTF8.toList.map fun byte => Char.ofNat byte.toNat

def toBytes (printed : List Char) : List UInt8 :=
  printed.map fun byte => byte.toNat.toUInt8

/-- What stands behind a backslash. -/
inductive Escape where
  | bytes (printed : List Char)
  /-- Nothing is printed from here on. -/
  | stop
  | malformed (complaint : String)

namespace Escape

/-- The control that a letter stands for. -/
def control? : Char → Option Char
  | 'a' => some '\x07'
  | 'b' => some '\x08'
  | 'e' => some '\x1b'
  | 'f' => some '\x0c'
  | 'n' => some '\n'
  | 'r' => some '\r'
  | 't' => some '\t'
  | 'v' => some '\x0b'
  | _ => none

/-- The byte that the leading digits of a text spell, with the text behind them. A number
too large for a byte loses its high bits. -/
def takeByte (base count : Nat) (text : List Char) : Option (Char × List Char) :=
  match Numeral.leadingDigits base (text.take count) with
  | [] => none
  | digits =>
    some (Char.ofNat (Numeral.ofDigits base digits % 256), text.drop digits.length)

/-- Hexadecimal digits, at least as many as asked for. -/
def hexadecimal (count number : Nat) : List Char :=
  (Nat.toDigits 16 number).leftpad count '0'

/-- A character by its number, which has to be spelled in full. Beyond ASCII it stays
spelled out. -/
def takeScalar (letter : Char) (count : Nat) (text : List Char) : Escape × List Char :=
  let digits := Numeral.leadingDigits 16 (text.take count)
  let number := Numeral.ofDigits 16 digits
  let rest := text.drop digits.length
  if digits.length < count then (.malformed "missing hexadecimal number in escape", rest)
  else if 0xd800 ≤ number ∧ number ≤ 0xdfff then
    (.malformed (String.ofList
      ("invalid universal character name \\".toList ++ letter :: hexadecimal count number)), rest)
  else if number < 0x80 then (.bytes [Char.ofNat number], rest)
  else if number < 0x10000 then
    (.bytes ('\\' :: 'u' :: (hexadecimal 4 number).map Char.toUpper), rest)
  else (.bytes ('\\' :: 'U' :: (hexadecimal 8 number).map Char.toUpper), rest)

/-- Reads an escape that is spelled with letters and digits. -/
def take : List Char → Escape × List Char
  | 'c' :: rest => (.stop, rest)
  | 'u' :: rest => takeScalar 'u' 4 rest
  | 'U' :: rest => takeScalar 'U' 8 rest
  | '\\' :: rest => (.bytes ['\\'], rest)
  | '"' :: rest => (.bytes ['"'], rest)
  | 'x' :: rest =>
    match takeByte 16 2 rest with
    | some (byte, rest) => (.bytes [byte], rest)
    | none => (.malformed "missing hexadecimal number in escape", rest)
  | text =>
    match takeByte 8 3 text, text with
    | some (byte, rest), _ => (.bytes [byte], rest)
    | none, [] => (.bytes ['\\'], [])
    | none, letter :: rest =>
      match control? letter with
      | some char => (.bytes [char], rest)
      | none => (.bytes ['\\', letter], rest)

/-- Reads an escape where a zero may stand before three octal digits. -/
def takeZeroed : List Char → Escape × List Char
  | '0' :: rest =>
    match takeByte 8 3 rest with
    | some (byte, rest) => (.bytes [byte], rest)
    | none => (.bytes ['\x00'], rest)
  | text => take text

/-- Reads an escape where what is malformed or unusual stands for itself. -/
def takeLenient (text : List Char) : Escape × List Char :=
  match text with
  | 'u' :: rest => (.bytes ['\\', 'u'], rest)
  | 'U' :: rest => (.bytes ['\\', 'U'], rest)
  | '"' :: rest => (.bytes ['\\', '"'], rest)
  | _ =>
    match takeZeroed text with
    | (.malformed _, _) => (.bytes ('\\' :: text.take 1), text.drop 1)
    | taken => taken

end Escape

/-- What becomes of a text when its escapes are read. -/
structure Expansion where
  printed : List Char
  /-- What printing ended at before the end of the text, if at anything. -/
  cut : Option Escape := none

/-- Reads the escapes of a text with the given reader. Each round takes a character at
least. -/
def expand (read : List Char → Escape × List Char) : Nat → List Char → Expansion
  | 0, _ => ⟨[], none⟩
  | _ + 1, [] => ⟨[], none⟩
  | rounds + 1, '\\' :: text =>
    match read text with
    | (.bytes printed, rest) =>
      let behind := expand read rounds rest
      { behind with printed := printed ++ behind.printed }
    | (escape, _) => ⟨[], some escape⟩
  | rounds + 1, char :: text =>
    let behind := expand read rounds text
    { behind with printed := char :: behind.printed }

end Typecase.Rehearsal
