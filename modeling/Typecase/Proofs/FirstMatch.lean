import Typecase.Proofs.Probing

/-! What a probe has to find, told without asking one candidate after the other: the first candidate
from a position on that describes the value. A probe finds it with the view that the value offers
there, and asks no candidate that it need not ask. -/

namespace Typecase

variable {τ : Type}

/-- The candidate at a position describes the value: as the type of the candidate the value offers a
view that really is of that type. -/
def Value.MatchesAt (value : Value τ) (candidates : List (Candidate τ)) (position : Nat)
    (view : View τ) : Prop :=
  ∃ candidate, candidates[position]? = some candidate ∧
    value.view candidate.type = some view ∧ view.type = candidate.type

/-- The first match from a position on. -/
structure Value.FirstMatch (value : Value τ) (candidates : List (Candidate τ))
    (after position : Nat) (view : View τ) : Prop where
  behind : after ≤ position
  matched : value.MatchesAt candidates position view
  earliest : ∀ earlier, after ≤ earlier → earlier < position →
    ∀ other, ¬value.MatchesAt candidates earlier other

section FirstMatch
variable {value : Value τ} {candidates : List (Candidate τ)} {after position : Nat} {view : View τ}

theorem Value.MatchesAt.view_eq {other : View τ}
    (matched : value.MatchesAt candidates position view)
    (again : value.MatchesAt candidates position other) : view = other := by
  obtain ⟨candidate, place, offered, -⟩ := matched
  obtain ⟨same, samePlace, offeredAgain, -⟩ := again
  cases Option.some.inj (place.symm.trans samePlace)
  exact Option.some.inj (offered.symm.trans offeredAgain)

theorem Value.MatchesAt.lt_length (matched : value.MatchesAt candidates position view) :
    position < candidates.length := by
  obtain ⟨candidate, place, -⟩ := matched
  exact (List.getElem?_eq_some_iff.1 place).1

/-- The case of a match is never one of the reserved ones. -/
theorem Value.MatchesAt.resolved (few : candidates.length ≤ maxCases)
    (matched : value.MatchesAt candidates position view) (adjustment : Adjustment) :
    Record.resolved (position + 1) adjustment = .ok ⟨position + 1, adjustment⟩ :=
  Record.resolved_succ position adjustment (Nat.lt_of_lt_of_le matched.lt_length few)

theorem Value.FirstMatch.unique {place : Nat} {other : View τ}
    (found : value.FirstMatch candidates after position view)
    (again : value.FirstMatch candidates after place other) : position = place ∧ view = other := by
  have same : position = place := by
    rcases Nat.lt_trichotomy position place with earlier | same | later
    · exact absurd found.matched (again.earliest position found.behind earlier view)
    · exact same
    · exact absurd again.matched (found.earliest place again.behind later other)
  subst same
  exact ⟨rfl, found.matched.view_eq again.matched⟩

/-- Positions without a match may be put before. -/
theorem Value.FirstMatch.widen {start : Nat}
    (found : value.FirstMatch candidates after position view) (earlier : start ≤ after)
    (gap : ∀ place, start ≤ place → place < after →
      ∀ other, ¬value.MatchesAt candidates place other) :
    value.FirstMatch candidates start position view where
  behind := Nat.le_trans earlier found.behind
  matched := found.matched
  earliest place started before := by
    by_cases skipped : place < after
    · exact gap place started skipped
    · exact found.earliest place (Nat.le_of_not_lt skipped) before

/-- Positions behind a case are counted from that case on. -/
theorem Value.matchesAt_drop {index : Nat} :
    value.MatchesAt (candidates.drop after) index view ↔
      value.MatchesAt candidates (after + index) view := by
  unfold Value.MatchesAt
  rw [List.getElem?_drop]

theorem Value.FirstMatch.of_drop {index : Nat}
    (found : value.FirstMatch (candidates.drop after) 0 index view) :
    value.FirstMatch candidates after (after + index) view where
  behind := Nat.le_add_right after index
  matched := Value.matchesAt_drop.1 found.matched
  earliest place behind before other matched := by
    obtain ⟨distance, rfl⟩ := Nat.exists_eq_add_of_le behind
    apply found.earliest distance (Nat.zero_le distance) (Nat.lt_of_add_lt_add_left before) other
    exact Value.matchesAt_drop.2 matched

end FirstMatch

variable [DecidableEq τ]

section Probe
variable (candidates : List (Candidate τ)) (value : Value τ)

theorem Value.matchesAt_iff (position : Nat) (view : View τ) :
    value.MatchesAt candidates position view ↔
      ∃ candidate, candidates[position]? = some candidate ∧
        value.viewAs candidate.type = some view := by
  unfold Value.MatchesAt
  apply exists_congr
  intro candidate
  rw [Value.viewAs_eq_some_iff]

theorem Value.not_matchesAt_of_viewAs (position : Nat) (view : View τ)
    (refused : ∀ candidate, candidates[position]? = some candidate →
      value.viewAs candidate.type = none) : ¬value.MatchesAt candidates position view := by
  intro matched
  obtain ⟨candidate, place, offered⟩ := (value.matchesAt_iff candidates position view).1 matched
  rw [refused candidate place] at offered
  cases offered

/-- Asking candidates in turn finds the first match among them or asks them all in vain. -/
theorem Probe.run_firstMatch (start : Nat) :
    (∃ index view, value.FirstMatch candidates 0 index view ∧
      Probe.run value start candidates =
        ⟨⟨start + index + 1, .measure value.address view.address⟩, some view, index + 1⟩) ∨
    ((∀ index view, ¬value.MatchesAt candidates index view) ∧
      Probe.run value start candidates = ⟨.noMatch, none, candidates.length⟩) := by
  rcases Probe.run_cases value start candidates with
    ⟨index, candidate, view, place, offered, before, found⟩ | ⟨nowhere, found⟩
  · left
    have matched : value.MatchesAt candidates index view :=
      (value.matchesAt_iff candidates index view).2 ⟨candidate, place, offered⟩
    refine ⟨index, view, ⟨Nat.zero_le index, matched, ?_⟩, found⟩
    intro earlier _ sooner other
    apply value.not_matchesAt_of_viewAs
    intro asked there
    apply before asked
    apply List.mem_of_getElem? (i := earlier)
    rw [List.getElem?_take, if_pos sooner]
    exact there
  · right
    refine ⟨fun index view => ?_, found⟩
    apply value.not_matchesAt_of_viewAs
    intro asked there
    exact nowhere asked (List.mem_of_getElem? there)

/-- Asking behind the reserved case is asking behind all candidates. -/
theorem probe_eq_run (few : candidates.length ≤ maxCases) (after : Nat) :
    probe candidates value after = Probe.run value after (candidates.drop after) := by
  by_cases reserved : after = noMatchCase
  · have outside : candidates.length ≤ after := by
      unfold maxCases at few
      omega
    rw [probe_outside candidates value after (Or.inl reserved), List.drop_eq_nil_of_le outside]
    rfl
  · rw [probe, if_neg reserved]

/-- A probe finds the first match or asks all candidates in vain. -/
theorem probe_cases (few : candidates.length ≤ maxCases) (after : Nat) :
    (∃ position view, value.FirstMatch candidates after position view ∧
      probe candidates value after =
        ⟨⟨position + 1, .measure value.address view.address⟩, some view, position + 1 - after⟩) ∨
    ((∀ position view, after ≤ position → ¬value.MatchesAt candidates position view) ∧
      probe candidates value after = ⟨.noMatch, none, candidates.length - after⟩) := by
  rw [probe_eq_run candidates value few after]
  rcases Probe.run_firstMatch (candidates.drop after) value after with
    ⟨index, view, first, found⟩ | ⟨nowhere, found⟩
  · left
    have cost : after + index + 1 - after = index + 1 := by omega
    exact ⟨after + index, view, first.of_drop, by rw [found, cost]⟩
  · right
    rw [found, List.length_drop]
    refine ⟨fun position view behind matched => ?_, rfl⟩
    obtain ⟨distance, rfl⟩ := Nat.exists_eq_add_of_le behind
    exact nowhere distance view (Value.matchesAt_drop.2 matched)

theorem probe_of_firstMatch (few : candidates.length ≤ maxCases) (after position : Nat)
    (view : View τ) (first : value.FirstMatch candidates after position view) :
    probe candidates value after =
      ⟨⟨position + 1, .measure value.address view.address⟩, some view, position + 1 - after⟩ := by
  rcases probe_cases candidates value few after with ⟨place, other, found, probed⟩ | ⟨nowhere, -⟩
  · obtain ⟨rfl, rfl⟩ := first.unique found
    exact probed
  · exact absurd first.matched (nowhere position view first.behind)

theorem probe_of_no_match (few : candidates.length ≤ maxCases) (after : Nat)
    (nowhere : ∀ position view, after ≤ position → ¬value.MatchesAt candidates position view) :
    probe candidates value after = ⟨.noMatch, none, candidates.length - after⟩ := by
  rcases probe_cases candidates value few after with ⟨place, other, found, -⟩ | ⟨-, probed⟩
  · exact absurd found.matched (nowhere place other found.behind)
  · exact probed

/-- Where no candidate from `first` up to `second` matches, it makes no difference behind which of
the two a probe starts. -/
theorem probe_skip (few : candidates.length ≤ maxCases) (first second : Nat)
    (ordered : first ≤ second)
    (gap : ∀ position, first ≤ position → position < second →
      ∀ view, ¬value.MatchesAt candidates position view) :
    (probe candidates value first).record = (probe candidates value second).record ∧
    (probe candidates value first).target = (probe candidates value second).target := by
  rcases probe_cases candidates value few second with
    ⟨position, view, found, probed⟩ | ⟨nowhere, probed⟩
  · have widened := found.widen ordered gap
    rw [probed, probe_of_firstMatch candidates value few first position view widened]
    exact ⟨rfl, rfl⟩
  · have widened : ∀ position view, first ≤ position →
        ¬value.MatchesAt candidates position view := by
      intro position view behind
      by_cases skipped : position < second
      · exact gap position behind skipped view
      · exact nowhere position view (Nat.le_of_not_lt skipped)
    rw [probed, probe_of_no_match candidates value few first widened]
    exact ⟨rfl, rfl⟩

/-- Behind any number of candidates a probe finds the first match there is, with the view that the
value offers for it, and asks the candidates up to that match. If there is none it says so once it
has asked all that are left. Candidates that do not match may be left out at the start. -/
theorem probe_finds_first_match (few : candidates.length ≤ maxCases) :
    (∀ after,
      ((∃ position view, after ≤ position ∧ value.MatchesAt candidates position view) →
        ∃ position view, value.FirstMatch candidates after position view ∧
          (probe candidates value after).record =
            ⟨position + 1, .measure value.address view.address⟩ ∧
          Record.resolved (position + 1) (.measure value.address view.address) =
            .ok (probe candidates value after).record ∧
          (probe candidates value after).target = some view ∧
          (probe candidates value after).attempts = position + 1 - after) ∧
      ((¬∃ position view, after ≤ position ∧ value.MatchesAt candidates position view) →
        (probe candidates value after).record = ⟨noMatchCase, .zero⟩ ∧
        (probe candidates value after).target = none ∧
        (probe candidates value after).attempts = candidates.length - after)) ∧
    (∀ after, after = noMatchCase ∨ candidates.length ≤ after →
      (probe candidates value after).attempts = 0) ∧
    ∀ first second, first ≤ second →
      (∀ position, first ≤ position → position < second →
        ∀ view, ¬value.MatchesAt candidates position view) →
      (probe candidates value first).record = (probe candidates value second).record ∧
      (probe candidates value first).target = (probe candidates value second).target := by
  refine ⟨fun after => ⟨?_, ?_⟩, ?_, ?_⟩
  · rintro ⟨place, other, behind, matched⟩
    rcases probe_cases candidates value few after with
      ⟨position, view, found, probed⟩ | ⟨nowhere, -⟩
    · rw [probed]
      exact ⟨position, view, found, rfl, found.matched.resolved few _, rfl, rfl⟩
    · exact absurd matched (nowhere place other behind)
  · intro unmatched
    have nowhere : ∀ position view, after ≤ position →
        ¬value.MatchesAt candidates position view :=
      fun position view behind matched => unmatched ⟨position, view, behind, matched⟩
    rw [probe_of_no_match candidates value few after nowhere]
    exact ⟨rfl, rfl, rfl⟩
  · intro after outside
    rw [probe_outside candidates value after outside]
    rfl
  · exact probe_skip candidates value few

end Probe

/-- A value that answers for most types with a view of some other type, and for one type not at all.
Its answer for the first candidate does not count, so a probe of all candidates goes where a probe
behind that one goes. -/
theorem probe_finds_first_match_mislabelled :
    let value : Value Nat := ⟨⟨16⟩, 0, "Mislabelled", none, 64, fun type =>
      if type = 3 then some ⟨3, 72⟩ else if type = 2 then none else some ⟨9, 64⟩⟩
    let candidates : List (Candidate Nat) := [⟨1, "One"⟩, ⟨3, "Three"⟩, ⟨2, "Two"⟩, ⟨3, "Three"⟩]
    candidates.length ≤ maxCases ∧
    value.FirstMatch candidates 2 3 ⟨3, 72⟩ ∧
    (probe candidates value 2).record = ⟨4, ⟨8⟩⟩ ∧
    (probe candidates value 2).attempts = 2 ∧
    (∀ position, 0 ≤ position → position < 1 →
      ∀ view, ¬value.MatchesAt candidates position view) ∧
    (probe candidates value 0).record = (probe candidates value 1).record := by
  intro value candidates
  have few : candidates.length ≤ maxCases := by decide
  have first : value.FirstMatch candidates 2 3 ⟨3, 72⟩ := by
    refine ⟨by decide, ⟨⟨3, "Three"⟩, rfl, rfl, rfl⟩, ?_⟩
    rintro earlier behind before other ⟨candidate, place, offered, -⟩
    obtain rfl : earlier = 2 := by omega
    cases place
    cases offered
  have mislabelled : ∀ position, 0 ≤ position → position < 1 →
      ∀ view, ¬value.MatchesAt candidates position view := by
    rintro position - before view ⟨candidate, place, offered, own⟩
    obtain rfl : position = 0 := by omega
    cases place
    cases offered
    exact absurd own (by decide)
  obtain ⟨found, -, skip⟩ := probe_finds_first_match candidates value few
  obtain ⟨position, view, reported, record, -, -, attempts⟩ :=
    (found 2).1 ⟨3, ⟨3, 72⟩, first.behind, first.matched⟩
  obtain ⟨rfl, rfl⟩ := reported.unique first
  have offset : Adjustment.measure 64 72 = ⟨8⟩ := by decide
  exact ⟨few, first, record.trans (congrArg (Record.mk 4) offset), attempts, mislabelled,
    (skip 0 1 (by decide) mislabelled).1⟩

end Typecase
