import Typecase.Candidate
import Typecase.Failure
import Typecase.Value

/-! Probing is the plain meaning of a switch: ask the value for a view as each candidate in
order and stop at the first that it gives. All that a site remembers has to agree with it. -/

namespace Typecase

variable {τ : Type}

structure Probe (τ : Type) where
  record : Record
  target : Option (View τ)
  /-- How many candidates were asked. -/
  attempts : Nat

namespace Probe

def noMatch : Probe τ := ⟨.noMatch, none, 0⟩

variable [DecidableEq τ]

/-- Asks the candidates that stand at `position` and behind it. -/
def run (value : Value τ) (position : Nat) : List (Candidate τ) → Probe τ
  | [] => noMatch
  | candidate :: rest =>
    match value.viewAs candidate.type with
    | some view =>
      ⟨⟨position + 1, .measure value.address view.address⟩, some view, 1⟩
    | none =>
      let later := run value (position + 1) rest
      { later with attempts := later.attempts + 1 }

/-- Among so few candidates a match has a record that passes the check of `Record.resolved`. -/
theorem run_record_checked (value : Value τ) (position : Nat) (candidates : List (Candidate τ))
    (few : position + candidates.length ≤ maxCases) :
    (run value position candidates).record = .noMatch ∨
    ∃ case adjustment,
      Record.resolved case adjustment = .ok (run value position candidates).record := by
  induction candidates generalizing position with
  | nil => exact Or.inl rfl
  | cons candidate rest ih =>
    rw [List.length_cons, ← Nat.add_assoc, Nat.add_right_comm] at few
    unfold run
    split
    next => exact Or.inr ⟨_, _, Record.resolved_succ position _ (by omega)⟩
    next => exact ih (position + 1) few

end Probe

/-- Asks the candidates declared after a case; after case zero these are all of them, and
after the reserved case there are none. -/
def probe [DecidableEq τ] (candidates : List (Candidate τ)) (value : Value τ)
    (after : Nat) : Probe τ :=
  if after = noMatchCase then .noMatch
  else Probe.run value after (candidates.drop after)

theorem probe_record_checked [DecidableEq τ] (candidates : List (Candidate τ)) (value : Value τ)
    (after : Nat) (few : candidates.length ≤ maxCases) :
    (probe candidates value after).record = .noMatch ∨
    ∃ case adjustment,
      Record.resolved case adjustment = .ok (probe candidates value after).record := by
  unfold probe
  split
  next => exact Or.inl rfl
  next =>
    by_cases within : after ≤ candidates.length
    · apply Probe.run_record_checked
      rwa [List.length_drop, Nat.add_sub_cancel' within]
    · rw [List.drop_of_length_le (Nat.le_of_not_le within)]
      exact Or.inl rfl

end Typecase
