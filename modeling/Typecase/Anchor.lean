import Typecase.Text.Quoted
import Typecase.Token

/-! A named place in memory set aside for one type. Its address identifies the type and
serves as its token. -/

namespace Typecase

structure Anchor where
  name : String
  address : UInt64

def Anchor.token (anchor : Anchor) : Token := ⟨anchor.address⟩

def Anchor.text (anchor : Anchor) : String :=
  "TypeAnchor \x7b name: " ++ String.ofList (Text.quote anchor.name.toList) ++ ", addr: "
    ++ Token.hexText anchor.address ++ " \x7d"

end Typecase
