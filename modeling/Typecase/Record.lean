import Typecase.Token
import Typecase.Adjustment

/-! What a switch remembers about one concrete type: the case it goes to and how far the
view of that case lies from the handle. Cases count from one; zero says that nothing is
known yet, and the largest 32-bit number that no case applies. -/

namespace Typecase

def unresolvedCase : Nat := 0

def noMatchCase : Nat := 4294967295

/-- The largest number of candidates whose cases stay below the reserved one. -/
def maxCases : Nat := noMatchCase - 1

structure Record where
  case : Nat
  adjustment : Adjustment
  deriving DecidableEq

namespace Record

def unresolved : Record := ⟨unresolvedCase, .zero⟩

def noMatch : Record := ⟨noMatchCase, .zero⟩

instance : Inhabited Record := ⟨unresolved⟩

def isUnresolved (record : Record) : Bool := record.case == unresolvedCase

def isNoMatch (record : Record) : Bool := record.case == noMatchCase

def isResolved (record : Record) : Bool := !record.isUnresolved && !record.isNoMatch

/-- The record, unless it says that nothing is known. -/
def settled? (record : Record) : Option Record :=
  if record.isUnresolved then none else some record

theorem isUnresolved_iff (record : Record) :
    record.isUnresolved = true ↔ record.case = unresolvedCase := by simp [isUnresolved]

theorem settled?_eq_none_iff (record : Record) :
    record.settled? = none ↔ record.isUnresolved = true := by simp [settled?]

theorem settled?_eq_some_iff (record known : Record) :
    record.settled? = some known ↔ record.isUnresolved = false ∧ record = known := by
  simp [settled?]

/-- The position of the matched candidate, counted from zero. -/
def position? (record : Record) : Option Nat :=
  if record.isResolved then some (record.case - 1) else none

inductive State where
  | unresolved
  | resolved (case : Nat) (adjustment : Adjustment)
  | noMatch
  deriving DecidableEq

def state (record : Record) : State :=
  if record.isUnresolved then .unresolved
  else if record.isNoMatch then .noMatch
  else .resolved record.case record.adjustment

def text (record : Record) : String :=
  "DispatchRecord \x7b case: " ++ toString record.case ++ ", adjustment: "
    ++ record.adjustment.text ++ " \x7d"

end Record

end Typecase
