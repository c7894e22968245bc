import Typecase.Text.Blank
import Typecase.Text.Numeral
import Typecase.Word

/-! The scales of a benchmark run as given on a command line: numbers with commas between
them. Blanks around a number and empty pieces do not matter. -/

namespace Typecase.Bench

/-- The scales of a run that was not given any. -/
def defaultScales : List Nat := [10000, 50000]

/-- The pieces between commas that are left when blanks are taken away. -/
def scalePieces (text : List Char) : List (List Char) :=
  ((text.splitOn ',').map Text.trim).filter (· ≠ [])

structure BadScales where
  text : String

def BadScales.message (bad : BadScales) : String :=
  s!"bench-report scales must be like 10000,50000; got {bad.text}"

/-- Reads scales. One piece that is no number spoils them all. -/
def readScales (text : String) : Except BadScales (List Nat) :=
  match (scalePieces text.toList).mapM (Numeral.read? Word.limit64) with
  | none => .error ⟨text⟩
  | some [] => .ok defaultScales
  | some scales => .ok scales

def scalesOrDefault (text : Option String) : Except BadScales (List Nat) :=
  match text with
  | none => .ok defaultScales
  | some text => readScales text

end Typecase.Bench
