import Typecase.Hierarchy
import Typecase.Memory

/-! Dispatch for a closed hierarchy. The kind of a value leads straight to the cases of its
type, which the fixed views of the type decide beforehand, so nothing is probed and
nothing has to be remembered. A kind is trusted only on a value of the type that declared
it. -/

namespace Typecase

variable {τ : Type}

/-- A declared type with the cases it can be viewed as, in the order of the candidates. -/
structure JumpEntry (τ : Type) where
  type : τ
  cases : List Record

structure JumpTable (τ : Type) where
  entries : List (Option (JumpEntry τ))

namespace JumpTable

def get? (table : JumpTable τ) (kind : Nat) : Option (JumpEntry τ) :=
  table.entries[kind]?.join

/-- The cases within reach of a kind, the first match first. -/
def casesOfKind (table : JumpTable τ) (kind : Nat) : List Nat :=
  match table.get? kind with
  | some entry => entry.cases.map Record.case
  | none => []

variable [DecidableEq τ]

/-- The cases of the candidates that a member has views for. -/
def memberCases (member : Member τ) (candidates : List (Candidate τ)) : List Record :=
  candidates.zipIdx.filterMap fun (candidate, position) =>
    (member.view candidate.type).map fun view => ⟨position + 1, view.adjustment⟩

/-- Among so few candidates every record passes the check of `Record.resolved`. -/
theorem memberCases_checked (member : Member τ) (candidates : List (Candidate τ))
    (few : candidates.length ≤ maxCases) (record : Record)
    (listed : record ∈ memberCases member candidates) :
    Record.resolved record.case record.adjustment = .ok record := by
  obtain ⟨⟨candidate, position⟩, placed, found⟩ := List.mem_filterMap.1 listed
  obtain ⟨view, -, rfl⟩ := Option.map_eq_some_iff.1 found
  have inside := List.snd_lt_of_mem_zipIdx placed
  exact Record.resolved_succ position view.adjustment (by omega)

def ofKinds (kinds : Kinds τ) (candidates : List (Candidate τ)) : JumpTable τ where
  entries := kinds.byKind.map fun declared =>
    declared.map fun member => ⟨member.candidate.type, memberCases member candidates⟩

/-- The entry that applies to a value. A kind on a value of another type is logged and
ignored. -/
def entryFor (table : JumpTable τ) (value : Value τ) :
    Option (JumpEntry τ) × List Event :=
  match value.kind with
  | none => (none, [])
  | some kind =>
    match table.get? kind with
    | none => (none, [])
    | some entry =>
      if entry.type = value.type then (some entry, [])
      else (none, [.kindMismatch kind value.name])

/-- The first case of a value whose number is above `after`. -/
def choose (table : JumpTable τ) (value : Value τ) (after : Nat) :
    Record × List Event :=
  let (entry, events) := table.entryFor value
  ((entry.bind fun entry => entry.cases.find? (after < ·.case)).getD .noMatch, events)

end JumpTable

end Typecase
