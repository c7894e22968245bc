import Typecase.Proofs.Probing

/-! All matches of a value, in the order of the candidates. A probe behind a case finds the first
of those behind it, so that going on behind each match just found meets all of them. -/

namespace Typecase

variable {τ : Type} [DecidableEq τ]

/-- The matches among candidates of which the first stands at `position`. -/
def matchesFrom (value : Value τ) (position : Nat) : List (Candidate τ) → List (Dispatch τ)
  | [] => []
  | candidate :: rest =>
    match value.viewAs candidate.type with
    | some view =>
      ⟨⟨position + 1, .measure value.address view.address⟩, some view⟩ ::
        matchesFrom value (position + 1) rest
    | none => matchesFrom value (position + 1) rest

def matchesBehind (candidates : List (Candidate τ)) (value : Value τ) (after : Nat) :
    List (Dispatch τ) :=
  matchesFrom value after (candidates.drop after)

section From
variable (value : Value τ) (position : Nat) (candidates : List (Candidate τ))

theorem mem_matchesFrom_iff (dispatch : Dispatch τ) :
    dispatch ∈ matchesFrom value position candidates ↔
      ∃ (index : Nat) (candidate : Candidate τ) (view : View τ),
        candidates[index]? = some candidate ∧ value.viewAs candidate.type = some view ∧
        dispatch = ⟨⟨position + index + 1, .measure value.address view.address⟩, some view⟩ := by
  induction candidates generalizing position with
  | nil => simp [matchesFrom]
  | cons candidate rest ih =>
    have split (index : Nat) : position + 1 + index + 1 = position + (index + 1) + 1 := by omega
    simp only [matchesFrom]
    constructor
    · intro member
      cases offered : value.viewAs candidate.type with
      | none =>
        rw [offered] at member
        obtain ⟨index, found, view, place, own, same⟩ := (ih (position + 1)).1 member
        exact ⟨index + 1, found, view, place, own, split index ▸ same⟩
      | some view =>
        rw [offered] at member
        rcases List.mem_cons.1 member with here | later
        · exact ⟨0, candidate, view, rfl, offered, here⟩
        · obtain ⟨index, found, other, place, own, same⟩ := (ih (position + 1)).1 later
          exact ⟨index + 1, found, other, place, own, split index ▸ same⟩
    · rintro ⟨index, found, view, place, own, same⟩
      cases index with
      | zero =>
        cases Option.some.inj place
        rw [own]
        exact same ▸ List.mem_cons_self ..
      | succ index =>
        have later := (ih (position + 1)).2 ⟨index, found, view, place, own, split index ▸ same⟩
        cases value.viewAs candidate.type with
        | none => exact later
        | some other => exact List.mem_cons_of_mem _ later

theorem lt_case_of_mem_matchesFrom (dispatch : Dispatch τ)
    (member : dispatch ∈ matchesFrom value position candidates) :
    position < dispatch.case ∧ dispatch.case ≤ position + candidates.length := by
  obtain ⟨index, candidate, view, place, -, rfl⟩ :=
    (mem_matchesFrom_iff value position candidates dispatch).1 member
  have inside := (List.getElem?_eq_some_iff.1 place).1
  constructor
  · show position < position + index + 1
    omega
  · show position + index + 1 ≤ position + candidates.length
    omega

theorem pairwise_matchesFrom :
    ((matchesFrom value position candidates).map Dispatch.case).Pairwise (· < ·) := by
  induction candidates generalizing position with
  | nil => exact .nil
  | cons candidate rest ih =>
    cases offered : value.viewAs candidate.type with
    | none => simpa only [matchesFrom, offered] using ih (position + 1)
    | some view =>
      simp only [matchesFrom, offered, List.map_cons, List.pairwise_cons]
      refine ⟨fun case later => ?_, ih (position + 1)⟩
      obtain ⟨dispatch, member, rfl⟩ := List.mem_map.1 later
      exact (lt_case_of_mem_matchesFrom value (position + 1) rest dispatch member).1

theorem length_matchesFrom_le :
    (matchesFrom value position candidates).length ≤ candidates.length := by
  induction candidates generalizing position with
  | nil => exact Nat.le_refl _
  | cons candidate rest ih =>
    have later := ih (position + 1)
    cases offered : value.viewAs candidate.type with
    | none =>
      simp only [matchesFrom, offered, List.length_cons]
      omega
    | some view =>
      simp only [matchesFrom, offered, List.length_cons]
      omega

/-- The first match is where a probe stops. -/
theorem matchesFrom_cases :
    (matchesFrom value position candidates = [] ∧
      Probe.run value position candidates = ⟨.noMatch, none, candidates.length⟩) ∨
    ∃ (index : Nat) (dispatch : Dispatch τ), index < candidates.length ∧
      dispatch.case = position + index + 1 ∧
      matchesFrom value position candidates =
        dispatch :: matchesFrom value (position + index + 1) (candidates.drop (index + 1)) ∧
      (Probe.run value position candidates).dispatch = dispatch ∧
      (Probe.run value position candidates).attempts = index + 1 := by
  induction candidates generalizing position with
  | nil => exact Or.inl ⟨rfl, rfl⟩
  | cons candidate rest ih =>
    cases offered : value.viewAs candidate.type with
    | some view =>
      right
      refine ⟨0, ⟨⟨position + 1, .measure value.address view.address⟩, some view⟩,
        Nat.succ_pos _, rfl, ?_, ?_, ?_⟩
      · simp only [matchesFrom, offered, Nat.add_zero, List.drop_succ_cons, List.drop_zero]
      · simp only [Probe.run, offered]
        rfl
      · simp only [Probe.run, offered]
    | none =>
      simp only [matchesFrom, offered, Probe.run]
      rcases ih (position + 1) with ⟨none, vain⟩ |
        ⟨index, dispatch, inside, case, more, found, tried⟩
      · left
        rw [none, vain]
        exact ⟨rfl, rfl⟩
      · right
        have split : position + 1 + index + 1 = position + (index + 1) + 1 := by omega
        rw [split] at case more
        refine ⟨index + 1, dispatch, Nat.succ_lt_succ inside, case, more, ?_, ?_⟩
        · exact found
        · rw [tried]

end From

/-- All matches of a value, each once and in order, with the views that the value offers. -/
structure Enumerates (candidates : List (Candidate τ)) (value : Value τ)
    (found : List (Dispatch τ)) : Prop where
  increasing : (found.map Dispatch.case).Pairwise (· < ·)
  exactly : ∀ dispatch, dispatch ∈ found ↔
    ∃ (index : Nat) (candidate : Candidate τ) (view : View τ),
      candidates[index]? = some candidate ∧ value.view candidate.type = some view ∧
      view.type = candidate.type ∧
      dispatch = ⟨⟨index + 1, .measure value.address view.address⟩, some view⟩
  few : found.length ≤ candidates.length

theorem enumerates_matchesBehind (candidates : List (Candidate τ)) (value : Value τ) :
    Enumerates candidates value (matchesBehind candidates value unresolvedCase) where
  increasing := pairwise_matchesFrom ..
  exactly dispatch := by
    have member := mem_matchesFrom_iff value unresolvedCase candidates dispatch
    simp only [Value.viewAs_eq_some_iff, and_assoc, unresolvedCase, Nat.zero_add] at member
    exact member
  few := length_matchesFrom_le ..

/-- A probe behind a case asks up to the next match, behind which the others are, or asks in
vain. -/
theorem matchesBehind_cases (candidates : List (Candidate τ))
    (few : candidates.length ≤ maxCases) (value : Value τ) (after : Nat) :
    (matchesBehind candidates value after = [] ∧
      (probe candidates value after).dispatch = .noMatch ∧
      (probe candidates value after).attempts = candidates.length - after) ∨
    ∃ dispatch, matchesBehind candidates value after =
        dispatch :: matchesBehind candidates value dispatch.case ∧
      (probe candidates value after).dispatch = dispatch ∧
      after < dispatch.case ∧ dispatch.case ≤ candidates.length ∧
      (probe candidates value after).attempts = dispatch.case - after := by
  by_cases reserved : after = noMatchCase
  · left
    have outside : candidates.length ≤ after := by
      unfold maxCases at few
      omega
    rw [probe_outside candidates value after (Or.inl reserved), matchesBehind,
      List.drop_eq_nil_of_le outside, Nat.sub_eq_zero_of_le outside]
    exact ⟨rfl, rfl, rfl⟩
  · unfold matchesBehind probe
    rw [if_neg reserved]
    rcases matchesFrom_cases value after (candidates.drop after) with ⟨none, vain⟩ |
      ⟨index, dispatch, inside, case, more, found, tried⟩
    · left
      rw [none, vain, List.length_drop]
      exact ⟨rfl, rfl, rfl⟩
    · right
      rw [List.length_drop] at inside
      rw [List.drop_drop, ← Nat.add_assoc, ← case] at more
      exact ⟨dispatch, more, found, by omega, by omega, by omega⟩

end Typecase
