/-! A candidate is one case of a switch: the type that a value is tried as. -/

namespace Typecase

structure Candidate (τ : Type) where
  type : τ
  /-- The full name of the type, with the path that leads to it. -/
  name : String
  deriving DecidableEq

namespace Candidate

variable {τ : Type}

/-- What follows the last pair of colons in the rest of a name, or the best answer so far
if there is no further pair. -/
def segmentAfter (best : List Char) : List Char → List Char
  | ':' :: rest@(':' :: segment) => segmentAfter segment rest
  | _ :: rest => segmentAfter best rest
  | [] => best

/-- The part of the name behind its last pair of colons, for logs. -/
def label (candidate : Candidate τ) : String :=
  let name := candidate.name.toList
  String.ofList (segmentAfter name name)

def text (candidate : Candidate τ) : String := "Candidate(" ++ candidate.label ++ ")"

end Candidate

end Typecase
