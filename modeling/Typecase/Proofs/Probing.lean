import Mathlib.Data.List.Basic
import Typecase.Site

/-! Where a probe stops, and what its record is made of. Only the offsets of the views that a
value offers decide the record, so values that offer views at the same offsets share it, and
from the record each of them gets its own target back. -/

namespace Typecase

variable {τ : Type} [DecidableEq τ]

namespace Value

/-- How far the view as a type lies from the value, if what the value offers is of that
type. -/
def offsetAs (value : Value τ) (type : τ) : Option Adjustment :=
  (value.viewAs type).map fun view => .measure value.address view.address

theorem viewAs_eq_some_iff (value : Value τ) (type : τ) (view : View τ) :
    value.viewAs type = some view ↔ value.view type = some view ∧ view.type = type := by
  simp [viewAs, Option.filter_eq_some_iff]

theorem viewAs_type (value : Value τ) (type : τ) (view : View τ)
    (offered : value.viewAs type = some view) : view.type = type :=
  ((value.viewAs_eq_some_iff type view).1 offered).2

end Value

namespace Probe

/-- A probe stops at the first candidate that the value offers a view as, or asks all of them
in vain. -/
theorem run_cases (value : Value τ) (position : Nat) (candidates : List (Candidate τ)) :
    (∃ (index : Nat) (candidate : Candidate τ) (view : View τ),
      candidates[index]? = some candidate ∧
      value.viewAs candidate.type = some view ∧
      (∀ other ∈ candidates.take index, value.viewAs other.type = none) ∧
      run value position candidates =
        ⟨⟨position + index + 1, .measure value.address view.address⟩, some view, index + 1⟩) ∨
    ((∀ other ∈ candidates, value.viewAs other.type = none) ∧
      run value position candidates = ⟨.noMatch, none, candidates.length⟩) := by
  induction candidates generalizing position with
  | nil => exact Or.inr ⟨by simp, rfl⟩
  | cons candidate rest ih =>
    cases offered : value.viewAs candidate.type with
    | some view =>
      left
      exact ⟨0, candidate, view, rfl, offered, by simp, by simp only [run, offered, Nat.add_zero]⟩
    | none =>
      rcases ih (position + 1) with ⟨index, found, view, place, matched, before, later⟩ |
        ⟨none, later⟩
      · left
        refine ⟨index + 1, found, view, by simpa using place, matched, ?_, ?_⟩
        · simpa [offered] using before
        · simp only [run, offered, later]
          rw [show position + 1 + index + 1 = position + (index + 1) + 1 by omega]
      · right
        exact ⟨by simpa [offered] using none, by simp only [run, offered, later, List.length_cons]⟩

theorem run_record_congr (first second : Value τ) (position : Nat)
    (candidates : List (Candidate τ))
    (alike : ∀ candidate ∈ candidates,
      first.offsetAs candidate.type = second.offsetAs candidate.type) :
    (run first position candidates).record = (run second position candidates).record := by
  induction candidates generalizing position with
  | nil => rfl
  | cons candidate rest ih =>
    have here := alike candidate (List.mem_cons_self ..)
    have later := ih (position + 1) fun other member => alike other (List.mem_cons_of_mem _ member)
    unfold Value.offsetAs at here
    cases own : first.viewAs candidate.type with
    | none =>
      cases other : second.viewAs candidate.type with
      | none => simpa only [run, own, other] using later
      | some view => simp [own, other] at here
    | some view =>
      cases other : second.viewAs candidate.type with
      | none => simp [own, other] at here
      | some view' =>
        simp only [own, other, Option.map_some, Option.some.injEq] at here
        simp only [run, own, other, here]

end Probe

theorem probe_record_congr (first second : Value τ) (candidates : List (Candidate τ))
    (after : Nat)
    (alike : ∀ candidate ∈ candidates,
      first.offsetAs candidate.type = second.offsetAs candidate.type) :
    (probe candidates first after).record = (probe candidates second after).record := by
  unfold probe
  split
  next => rfl
  next =>
    exact Probe.run_record_congr first second after _ fun candidate member =>
      alike candidate (List.mem_of_mem_drop member)

theorem probe_outside (candidates : List (Candidate τ)) (value : Value τ) (after : Nat)
    (outside : after = noMatchCase ∨ candidates.length ≤ after) :
    probe candidates value after = .noMatch := by
  unfold probe
  split
  next => rfl
  next unreserved =>
    rw [List.drop_eq_nil_of_le (outside.resolve_left unreserved), Probe.run]

/-- A probe never leaves a type open. -/
theorem probe_record_settled (candidates : List (Candidate τ)) (value : Value τ)
    (after : Nat) : (probe candidates value after).record.isUnresolved = false := by
  unfold probe
  split
  next => rfl
  next =>
    rcases Probe.run_cases value after (candidates.drop after) with
      ⟨index, _, _, -, -, -, found⟩ | ⟨-, found⟩
    · rw [found]
      simp [Record.isUnresolved, unresolvedCase]
    · rw [found]
      rfl

/-- What a probe found, as the answer of a site. -/
def Probe.dispatch (found : Probe τ) : Dispatch τ := ⟨found.record, found.target⟩

/-- From the record of its own probe a value gets back the very target that the probe
found. -/
theorem rebuild_probe (site : Site τ) (few : site.candidates.length ≤ maxCases)
    (value : Value τ) (after : Nat) :
    site.rebuild value (probe site.candidates value after).record =
      (probe site.candidates value after).dispatch := by
  unfold probe
  split
  next => rfl
  next =>
    rcases Probe.run_cases value after (site.candidates.drop after) with
      ⟨index, candidate, view, place, offered, -, found⟩ | ⟨-, found⟩
    · rw [List.getElem?_drop] at place
      rw [found]
      have inside : after + index < site.candidates.length :=
        (List.getElem?_eq_some_iff.1 place).1
      have unreserved : after + index + 1 ≠ noMatchCase := by
        unfold maxCases noMatchCase at few
        unfold noMatchCase
        omega
      have position : (⟨after + index + 1, .measure value.address view.address⟩ :
          Record).position? = some (after + index) := by
        simp [Record.position?, Record.isResolved, Record.isUnresolved, Record.isNoMatch,
          unresolvedCase, unreserved]
      have type := value.viewAs_type _ _ offered
      simp only [Site.rebuild, Probe.dispatch, position, bind, Option.bind, place, pure, ← type,
        Adjustment.replay_measure]
    · rw [found]
      rfl

end Typecase
