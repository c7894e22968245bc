/-! Words quoted so that a shell reads them back, in the shortest of three ways: as they
stand, between double quotes, or between single quotes with the unprintable spelled out. -/

namespace Typecase.Rehearsal.Quoting

def letter? : Char → Option Char
  | '\x07' => some 'a'
  | '\x08' => some 'b'
  | '\t' => some 't'
  | '\n' => some 'n'
  | '\x0b' => some 'v'
  | '\x0c' => some 'f'
  | '\r' => some 'r'
  | _ => none

def isPrintable (byte : Char) : Bool := ' ' ≤ byte && byte ≤ '~'

def isBrace (byte : Char) : Bool := byte == '{' || byte == '}'

/-- Bytes that a shell always reads as they are. -/
def isPlain (byte : Char) : Bool := byte.isAlphanum || "%+,-./:]_@".toList.contains byte

/-- Bytes that are special in one place only: a lone brace, or the first of a word. -/
def isPlainAt (word : List Char) (place : Nat) (byte : Char) : Bool :=
  isPlain byte || isBrace byte && word.length != 1
    || "#~".toList.contains byte && place != 0

/-- Bytes that mean the same between double quotes and between single quotes. -/
def isNeutralAt (word : List Char) (place : Nat) (byte : Char) : Bool :=
  isPlain byte || " '".toList.contains byte
    || isBrace byte && word.length == 1 && place == 0
    || "#~".toList.contains byte && place == 0

def octal (byte : Char) : List Char := (Nat.toDigits 8 byte.toNat).leftpad 3 '0'

/-- The bytes between single quotes. Unprintable ones stand between quotes of their own,
which are `opened` or not. -/
def spell (opened : Bool) : List Char → List Char
  | [] => []
  | '\'' :: rest => ['\'', '\\', '\'', '\''] ++ spell false rest
  | byte :: rest =>
    let spelled :=
      match letter? byte with
      | some letter => some ['\\', letter]
      | none => if isPrintable byte then none else some ('\\' :: octal byte)
    match spelled with
    | some text =>
      (if opened then text else ['\'', '$', '\''] ++ text) ++ spell true rest
    | none => (if opened then ['\'', '\'', byte] else [byte]) ++ spell false rest

/-- A byte in a remark. -/
def remarked (byte : Char) : List Char :=
  match letter? byte with
  | some letter => ['\\', letter]
  | none =>
    if byte = '\'' ∨ byte = '\\' then ['\\', byte]
    else if isPrintable byte then [byte]
    else '\\' :: octal byte

/-- Whether a byte cannot stand for itself between single quotes. -/
def isSpelled (byte : Char) : Bool := (letter? byte).isSome || !isPrintable byte

/-- The word in the way that suits it. If it holds a single quote and its last byte is
spelled out, the quotes of spelled out bytes count as opened from the start. -/
def quote (word : List Char) : List Char :=
  let indexed := word.zipIdx
  if !word.isEmpty && indexed.all fun (byte, place) => isPlainAt word place byte then word
  else if word.contains '\'' && indexed.all fun (byte, place) => isNeutralAt word place byte then
    '"' :: (word ++ ['"'])
  else
    let opened := word.contains '\'' && word.getLast?.any isSpelled
    '\'' :: (spell opened word ++ ['\''])

end Typecase.Rehearsal.Quoting
