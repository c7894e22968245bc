import Typecase.Text.Hidden

/-! Text between double quotes, with a backslash before what would end or break it, and
words for a command line, which are quoted only when they need it. -/

namespace Typecase.Text

/-- A character as it stands between double quotes. -/
def escape (char : Char) : List Char :=
  if char = '\x00' then ['\\', '0']
  else if char = '\t' then ['\\', 't']
  else if char = '\r' then ['\\', 'r']
  else if char = '\n' then ['\\', 'n']
  else if char = '\\' then ['\\', '\\']
  else if char = '"' then ['\\', '"']
  else if isHidden char then
    '\\' :: 'u' :: '\x7b' :: (Nat.toDigits 16 char.toNat ++ ['\x7d'])
  else [char]

def quote (text : List Char) : List Char := '"' :: (text.flatMap escape ++ ['"'])

/-- An ASCII letter or digit, or one of a few marks that no shell reads specially. -/
def isPlain (char : Char) : Bool := char.isAlphanum || "-_./:=".toList.contains char

/-- A word for a command line. -/
def shellWord (word : List Char) : List Char :=
  if word.all isPlain then word else quote word

def shellText (word : String) : String := String.ofList (shellWord word.toList)

/-- Words for a command line with single spaces between them. -/
def shellLine (words : List (List Char)) : List Char :=
  [' '].intercalate (words.map shellWord)

end Typecase.Text
