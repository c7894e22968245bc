import Typecase.Adjustment
import Typecase.Token

/-! The values that a switch classifies, known only by what they answer. A value names its
type, carries the token of the type and perhaps a kind, and offers views of itself: the
value itself or a part of it, under the type of that part.

Most values come from a layout, which fixes where the parts of a type lie. What a value
of such a type offers can then be told without a value at hand: these are the fixed
views of the layout. -/

namespace Typecase

variable {τ : Type}

/-- A place in memory and the type found there. -/
structure View (τ : Type) where
  type : τ
  address : UInt64
  deriving DecidableEq

/-- What all values of a type offer as `type`, at a fixed distance from the value. -/
structure FixedView (τ : Type) where
  type : τ
  adjustment : Adjustment
  deriving DecidableEq

structure Value (τ : Type) where
  token : Token
  type : τ
  name : String
  kind : Option Nat
  address : UInt64
  /-- The answer to being asked for a view as a type. Nothing forces the view to be of
  that type. -/
  view : τ → Option (View τ)

/-- A part of a type, as many bytes behind its start. -/
structure Part (τ : Type) where
  type : τ
  offset : UInt64
  deriving DecidableEq

structure Layout (τ : Type) where
  token : Token
  type : τ
  name : String
  kind : Option Nat
  parts : List (Part τ)

variable [DecidableEq τ]

/-- Adds a view unless an earlier one has its type. -/
def FixedView.insertNew (views : List (FixedView τ)) (view : FixedView τ) :
    List (FixedView τ) :=
  if views.any (·.type == view.type) then views else views ++ [view]

/-- The view that a value offers as a type, if what it offers is of that type. -/
def Value.viewAs (value : Value τ) (type : τ) : Option (View τ) :=
  (value.view type).filter (·.type == type)

namespace Layout

/-- The view as its own type is the value itself; any other type goes to the first part of
that type. -/
def viewAt (layout : Layout τ) (address : UInt64) (type : τ) : Option (View τ) :=
  if type = layout.type then some ⟨type, address⟩
  else
    (layout.parts.find? (·.type == type)).map fun part =>
      ⟨part.type, address + part.offset⟩

def valueAt (layout : Layout τ) (address : UInt64) : Value τ where
  token := layout.token
  type := layout.type
  name := layout.name
  kind := layout.kind
  address := address
  view := layout.viewAt address

def fixedViews (layout : Layout τ) : List (FixedView τ) :=
  layout.parts.foldl
    (fun views part => FixedView.insertNew views ⟨part.type, .ofOffset part.offset⟩)
    [⟨layout.type, .zero⟩]

end Layout

end Typecase
