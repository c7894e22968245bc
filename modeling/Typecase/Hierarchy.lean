import Typecase.Candidate
import Typecase.Event
import Typecase.Failure
import Typecase.Value

/-! What is known about the types of a hierarchy before any switch uses it. An open
hierarchy knows nothing. A closed one gives each of its types a small number, the kind,
which every value of the type carries. -/

namespace Typecase

variable {τ : Type}

/-- The type behind a kind, with the views that its layout fixes. -/
structure Member (τ : Type) where
  candidate : Candidate τ
  views : List (FixedView τ)
  deriving DecidableEq

/-- The view that values of the member offer as a type. -/
def Member.view [DecidableEq τ] (member : Member τ) (type : τ) :
    Option (FixedView τ) :=
  member.views.find? (·.type == type)

/-- The members by kind, with gaps for the kinds that nobody declared. -/
structure Kinds (τ : Type) where
  byKind : List (Option (Member τ))
  deriving DecidableEq

/-- The largest kind, since kinds index a table without gaps. -/
def maxKind : Nat := 4095

namespace Kinds

def empty : Kinds τ := ⟨[]⟩

def member (kinds : Kinds τ) (kind : Nat) : Option (Member τ) :=
  kinds.byKind[kind]?.join

def candidate (kinds : Kinds τ) (kind : Nat) : Option (Candidate τ) :=
  (kinds.member kind).map Member.candidate

/-- The declared kinds in ascending order, each with its type. -/
def toList (kinds : Kinds τ) : List (Nat × Candidate τ) :=
  kinds.byKind.zipIdx.filterMap fun (member, kind) =>
    member.map fun member => (kind, member.candidate)

/-- The number of declared kinds. -/
def size (kinds : Kinds τ) : Nat := kinds.byKind.countP Option.isSome

def isEmpty (kinds : Kinds τ) : Bool := kinds.size == 0

/-- Gives a kind to a member. The kind has to be small and still free. -/
def declare (kinds : Kinds τ) (kind : Nat) (member : Member τ) :
    Except Refusal (Kinds τ) :=
  if maxKind < kind then .error (.kindOutOfRange kind maxKind)
  else if (kinds.member kind).isSome then .error (.duplicateKind kind)
  else .ok ⟨(kinds.byKind.rightpad (kind + 1) none).set kind (some member)⟩

def declareAll (kinds : Kinds τ) (members : List (Nat × Member τ)) :
    Except Refusal (Kinds τ) :=
  members.foldlM (fun kinds (kind, member) => kinds.declare kind member) kinds

end Kinds

inductive Hierarchy (τ : Type) where
  | openWorld
  | closedWorld (kinds : Kinds τ)
  deriving DecidableEq

namespace Hierarchy

instance : Inhabited (Hierarchy τ) := ⟨openWorld⟩

/-- A closed hierarchy of the given kinds. The first pair that breaks a rule decides the
error; a hierarchy without kinds is refused last. -/
def ofMembers (members : List (Nat × Member τ)) : Except Refusal (Hierarchy τ) := do
  let kinds ← Kinds.empty.declareAll members
  if kinds.byKind.isEmpty then .error .emptyHierarchy
  return .closedWorld kinds

def kind : Hierarchy τ → World
  | openWorld => .openWorld
  | closedWorld _ => .closedWorld

end Hierarchy

end Typecase
