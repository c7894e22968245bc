import Typecase.Record

/-! Two ways an operation can end without an answer. A `Refusal` refuses a request
that the caller may repair: a hierarchy, a configuration or a candidate list that breaks
the rules. A `Fault` is a broken promise inside a running switch: a settled record that
was about to change, a size that no machine word holds. -/

namespace Typecase

inductive Refusal where
  | tooManyCandidates (count max : Nat)
  | duplicateKind (kind : Nat)
  | kindOutOfRange (kind max : Nat)
  | invalidCacheBits (min max : Nat)
  | invalidShift (shift max : Nat)
  | emptyHierarchy
  deriving DecidableEq

namespace Refusal

def message : Refusal → String
  | tooManyCandidates count max =>
    s!"type switch declares {count} candidates, at most {max} are supported"
  | duplicateKind kind => s!"kind {kind} is declared more than once in a closed hierarchy"
  | kindOutOfRange kind max =>
    s!"kind {kind} exceeds the largest closed-hierarchy kind {max}"
  | invalidCacheBits min max => s!"invalid cache size range: min_bits={min} max_bits={max}"
  | invalidShift shift max => s!"invalid token shift {shift}, at most {max} is allowed"
  | emptyHierarchy => "closed hierarchy declares no kinds"

def name : Refusal → String
  | tooManyCandidates .. => "TooManyCandidates"
  | duplicateKind .. => "DuplicateKind"
  | kindOutOfRange .. => "KindOutOfRange"
  | invalidCacheBits .. => "InvalidCacheBits"
  | invalidShift .. => "InvalidShift"
  | emptyHierarchy => "EmptyHierarchy"

/-- The named quantities of an error, in the order in which they are written. -/
def details : Refusal → List (String × Nat)
  | tooManyCandidates count max => [("count", count), ("max", max)]
  | duplicateKind kind => [("kind", kind)]
  | kindOutOfRange kind max => [("kind", kind), ("max", max)]
  | invalidCacheBits min max => [("min", min), ("max", max)]
  | invalidShift shift max => [("shift", shift), ("max", max)]
  | emptyHierarchy => []

/-- The error for a developer: its name and its quantities. -/
def text (error : Refusal) : String :=
  match error.details with
  | [] => error.name
  | details =>
    error.name ++ " \x7b "
      ++ ", ".intercalate (details.map fun (label, value) => label ++ ": " ++ toString value)
      ++ " \x7d"

end Refusal

inductive Fault where
  /-- A resolved record was asked for at a case that is reserved. -/
  | reservedCase (case : Nat)
  /-- A settled token was about to get another record. -/
  | settledConflict (token : Token) (stored offered : Record)
  /-- Twice the expected number of types has no power of two above it in a word. -/
  | sizeOverflow (expected : Nat)
  /-- A size had to be clamped to a range whose ends are swapped. -/
  | invertedBits (min max : Nat)
  /-- More entries were asked for than a store has room for. -/
  | capacityOverflow (capacity : Nat)
  /-- A sum of counters leaves the 64-bit range. -/
  | counterOverflow
  deriving DecidableEq

/-- The record of a match. A match never has one of the two reserved cases. -/
def Record.resolved (case : Nat) (adjustment : Adjustment) : Except Fault Record :=
  if case = unresolvedCase ∨ case = noMatchCase then .error (.reservedCase case)
  else .ok ⟨case, adjustment⟩

theorem Record.resolved_of_isResolved (record : Record) (matched : record.isResolved = true) :
    Record.resolved record.case record.adjustment = .ok record := by
  simp only [isResolved, isUnresolved, isNoMatch, Bool.and_eq_true, Bool.not_eq_true',
    beq_eq_false_iff_ne] at matched
  simp [resolved, matched]

/-- No position among so few candidates has a reserved case. -/
theorem Record.resolved_succ (position : Nat) (adjustment : Adjustment)
    (few : position < maxCases) :
    Record.resolved (position + 1) adjustment = .ok ⟨position + 1, adjustment⟩ := by
  apply if_neg
  unfold maxCases at few
  unfold unresolvedCase
  omega

inductive Failure where
  | refused (error : Refusal)
  | fault (fault : Fault)
  deriving DecidableEq

end Typecase
