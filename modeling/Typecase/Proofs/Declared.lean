import Mathlib.Data.List.Basic
import Typecase.Hierarchy

/-! Declaring kinds one by one is writing into a partial map from kinds to members. A kind
that is taken is refused, so the map holds exactly the pairs that were declared. -/

namespace Typecase

variable {τ : Type}

namespace Kinds

theorem declare_eq_ok_iff (kinds later : Kinds τ) (kind : Nat) (member : Member τ) :
    kinds.declare kind member = .ok later ↔
      kind ≤ maxKind ∧ kinds.member kind = none ∧
        later = ⟨(kinds.byKind.rightpad (kind + 1) none).set kind (some member)⟩ := by
  unfold declare
  by_cases large : maxKind < kind
  · rw [if_pos large]
    constructor
    · exact fun refused => nomatch refused
    · exact fun ⟨small, _⟩ => absurd small (by omega)
  · rw [if_neg large]
    cases taken : kinds.member kind with
    | some other => simp
    | none => simp [Nat.le_of_not_lt large, eq_comm]

/-- Padding gives no kind a member. -/
theorem join_getElem?_rightpad (kinds : Kinds τ) (size kind : Nat) :
    (kinds.byKind.rightpad size none)[kind]?.join = kinds.member kind := by
  unfold member List.rightpad
  by_cases inside : kind < kinds.byKind.length
  · rw [List.getElem?_append_left inside]
  · have outside : kinds.byKind.length ≤ kind := Nat.le_of_not_lt inside
    rw [List.getElem?_append_right outside, List.getElem?_eq_none outside,
      List.getElem?_replicate]
    split <;> rfl

theorem member_declare (kinds later : Kinds τ) (kind : Nat) (member : Member τ)
    (declared : kinds.declare kind member = .ok later) (other : Nat) :
    later.member other = if kind = other then some member else kinds.member other := by
  obtain ⟨-, -, rfl⟩ := (kinds.declare_eq_ok_iff later kind member).1 declared
  have room : kind < (kinds.byKind.rightpad (kind + 1) none).length := by
    rw [List.rightpad, List.length_append, List.length_replicate]
    omega
  by_cases same : kind = other
  · subst same
    rw [if_pos rfl, Kinds.member, List.getElem?_set_self room, Option.join_some]
  · rw [if_neg same, Kinds.member, List.getElem?_set_ne same, join_getElem?_rightpad]

@[simp] theorem member_empty (kind : Nat) : (empty : Kinds τ).member kind = none := by
  simp [empty, member]

theorem declareAll_cons (kinds : Kinds τ) (kind : Nat) (member : Member τ)
    (members : List (Nat × Member τ)) :
    kinds.declareAll ((kind, member) :: members) =
      (kinds.declare kind member).bind (·.declareAll members) := rfl

theorem member_declareAll (kinds later : Kinds τ) (members : List (Nat × Member τ))
    (declared : kinds.declareAll members = .ok later) (kind : Nat) (member : Member τ) :
    later.member kind = some member ↔
      kinds.member kind = some member ∨ (kind, member) ∈ members := by
  induction members generalizing kinds with
  | nil =>
    cases Except.ok.inj declared
    simp
  | cons first rest ih =>
    obtain ⟨number, named⟩ := first
    rw [declareAll_cons] at declared
    cases step : kinds.declare number named with
    | error refusal => simp [step, Except.bind] at declared
    | ok next =>
      simp only [step, Except.bind] at declared
      rw [ih next declared, kinds.member_declare next number named step]
      obtain ⟨-, vacant, -⟩ := (kinds.declare_eq_ok_iff next number named).1 step
      by_cases same : number = kind
      · subst same
        simp [vacant, eq_comm]
      · simp [same, Ne.symm same]

end Kinds

theorem Hierarchy.ofMembers_eq_ok (members : List (Nat × Member τ)) (hierarchy : Hierarchy τ)
    (accepted : ofMembers members = .ok hierarchy) :
    ∃ kinds, hierarchy = .closedWorld kinds ∧
      ∀ kind member, kinds.member kind = some member ↔ (kind, member) ∈ members := by
  unfold ofMembers at accepted
  cases declared : Kinds.empty.declareAll members with
  | error refusal => simp [declared, bind, Except.bind] at accepted
  | ok kinds =>
    refine ⟨kinds, ?_, fun kind member => ?_⟩
    · simp only [declared, bind, Except.bind] at accepted
      split at accepted
      next => cases accepted
      next => exact (Except.ok.inj accepted).symm
    · simpa using Kinds.empty.member_declareAll kinds members declared kind member

end Typecase
