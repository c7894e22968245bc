import Mathlib.Algebra.BigOperators.Group.Finset.Basic
import Mathlib.Algebra.GroupWithZero.Nat
import Typecase.Proofs.FirstCalls

/-! What a run of calls should cost, told from the calls alone. If each type is probed once for its
first match and once behind each case, the bill adds up what the first calls on all topics cost;
the full bill charges every call. -/

namespace Typecase

section Firsts
variable {α κ : Type} [DecidableEq κ] (key : α → κ) (cost : α → Nat) (items : List α) (item : α)

/-- A quantity summed over distinct keys, each taken at the first item that has the key. -/
def sumOfFirsts : Nat :=
  ∑ one ∈ (items.map key).toFinset, ((items.find? (key · = one)).map cost).getD 0

theorem toFinset_map_concat :
    ((items ++ [item]).map key).toFinset = insert (key item) (items.map key).toFinset := by
  simp

theorem card_keys_concat :
    ((items ++ [item]).map key).toFinset.card =
      (items.map key).toFinset.card + if key item ∈ items.map key then 0 else 1 := by
  rw [toFinset_map_concat]
  by_cases known : key item ∈ items.map key
  · rw [if_pos known, Finset.insert_eq_of_mem (List.mem_toFinset.2 known), Nat.add_zero]
  · rw [if_neg known, Finset.card_insert_of_notMem (mt List.mem_toFinset.1 known)]

/-- A further item counts only if its key is new. -/
theorem sumOfFirsts_concat :
    sumOfFirsts key cost (items ++ [item]) =
      sumOfFirsts key cost items + if key item ∈ items.map key then 0 else cost item := by
  have earlier : ∀ one ∈ (items.map key).toFinset,
      (((items ++ [item]).find? (key · = one)).map cost).getD 0 =
        ((items.find? (key · = one)).map cost).getD 0 := by
    intro one member
    obtain ⟨same, place, own⟩ := List.mem_map.1 (List.mem_toFinset.1 member)
    have present : (items.find? (key · = one)).isSome := by
      rw [List.find?_isSome]
      exact ⟨same, place, by simpa using own⟩
    rw [List.find?_append, Option.or_of_isSome present]
  unfold sumOfFirsts
  rw [toFinset_map_concat]
  by_cases known : key item ∈ items.map key
  · rw [if_pos known, Finset.insert_eq_of_mem (List.mem_toFinset.2 known), Nat.add_zero]
    exact Finset.sum_congr rfl earlier
  · have absent : items.find? (key · = key item) = none := by
      rw [List.find?_eq_none]
      intro other place
      simpa using fun same => known (List.mem_map.2 ⟨other, place, same⟩)
    rw [if_neg known, Finset.sum_insert (mt List.mem_toFinset.1 known),
      Finset.sum_congr rfl earlier, List.find?_append, absent, Nat.add_comm]
    simp

end Firsts

variable {τ : Type}

namespace Call

def token (call : Call τ) : Token := call.value.token

/-- The calls that ask for a first match. -/
def resolutions (calls : List (Call τ)) : List (Call τ) :=
  calls.filter (·.after = unresolvedCase)

/-- The calls that ask behind a case which has some of the candidates behind it. -/
def continuations (count : Nat) (calls : List (Call τ)) : List (Call τ) :=
  calls.filter fun call => 1 ≤ call.after ∧ call.after < count

theorem resolutions_concat (calls : List (Call τ)) (call : Call τ) :
    resolutions (calls ++ [call]) =
      resolutions calls ++ if call.after = unresolvedCase then [call] else [] := by
  unfold resolutions
  rw [List.filter_append]
  by_cases start : call.after = unresolvedCase <;> simp [start]

theorem length_resolutions_concat (calls : List (Call τ)) (call : Call τ) :
    (resolutions (calls ++ [call])).length =
      (resolutions calls).length + if call.after = unresolvedCase then 1 else 0 := by
  rw [resolutions_concat, List.length_append]
  split <;> rfl

theorem continuations_concat (count : Nat) (calls : List (Call τ)) (call : Call τ) :
    continuations count (calls ++ [call]) =
      continuations count calls ++
        if 1 ≤ call.after ∧ call.after < count then [call] else [] := by
  unfold continuations
  rw [List.filter_append]
  by_cases inside : 1 ≤ call.after ∧ call.after < count <;> simp [inside]

/-- A call asks for a first match, asks behind a case, or has nothing to ask. -/
theorem concat_cases (count : Nat) (calls : List (Call τ)) (call : Call τ) :
    (call.after = unresolvedCase ∧ Asked count call.after ∧
      resolutions (calls ++ [call]) = resolutions calls ++ [call] ∧
      continuations count (calls ++ [call]) = continuations count calls) ∨
    ((1 ≤ call.after ∧ call.after < count) ∧ Asked count call.after ∧
      resolutions (calls ++ [call]) = resolutions calls ∧
      continuations count (calls ++ [call]) = continuations count calls ++ [call]) ∨
    (¬Asked count call.after ∧ resolutions (calls ++ [call]) = resolutions calls ∧
      continuations count (calls ++ [call]) = continuations count calls) := by
  rw [resolutions_concat, continuations_concat]
  unfold Asked unresolvedCase
  by_cases start : call.after = 0
  · left
    simp [start]
  · right
    by_cases inside : call.after < count
    · left
      simp [start, inside, Nat.one_le_iff_ne_zero]
    · right
      simp [start, inside]

theorem token_mem_resolutions (calls : List (Call τ)) (call : Call τ)
    (start : call.after = unresolvedCase) :
    call.token ∈ (resolutions calls).map token ↔ firstOn calls call.topic ≠ none := by
  rw [ne_eq, firstOn_eq_none_iff]
  constructor
  · intro member none
    obtain ⟨other, place, same⟩ := List.mem_map.1 member
    obtain ⟨listed, first⟩ := List.mem_filter.1 place
    have topic : other.topic = call.topic := by
      rw [topic, topic, start, of_decide_eq_true first]
      exact congrArg (Topic.mk · unresolvedCase) same
    exact none other listed topic
  · intro some
    push Not at some
    obtain ⟨other, listed, same⟩ := some
    obtain ⟨token, after⟩ := Topic.mk.inj same
    exact List.mem_map.2
      ⟨other, List.mem_filter.2 ⟨listed, decide_eq_true (after.trans start)⟩, token⟩

theorem topic_mem_continuations (count : Nat) (calls : List (Call τ)) (call : Call τ)
    (inside : 1 ≤ call.after ∧ call.after < count) :
    call.topic ∈ (continuations count calls).map topic ↔ firstOn calls call.topic ≠ none := by
  rw [ne_eq, firstOn_eq_none_iff]
  constructor
  · intro member none
    obtain ⟨other, place, same⟩ := List.mem_map.1 member
    exact none other (List.mem_filter.1 place).1 same
  · intro some
    push Not at some
    obtain ⟨other, listed, same⟩ := some
    have after : other.after = call.after := (Topic.mk.inj same).2
    exact List.mem_map.2
      ⟨other, List.mem_filter.2 ⟨listed, decide_eq_true (after ▸ inside)⟩, same⟩

/-- How many candidates a probe asks to answer the call. -/
def attempts [DecidableEq τ] (candidates : List (Candidate τ)) (call : Call τ) : Nat :=
  (call.found candidates).attempts

end Call

/-- The types that were resolved. -/
def resolvedTokens (calls : List (Call τ)) : Finset Token :=
  ((Call.resolutions calls).map Call.token).toFinset

theorem card_resolvedTokens_concat (calls : List (Call τ)) (call : Call τ) :
    (resolvedTokens (calls ++ [call])).card = (resolvedTokens calls).card +
      if call.after = unresolvedCase ∧ firstOn calls call.topic = none then 1 else 0 := by
  unfold resolvedTokens
  rw [Call.resolutions_concat]
  by_cases start : call.after = unresolvedCase
  · rw [if_pos start, card_keys_concat]
    simp only [Call.token_mem_resolutions calls call start, start, true_and, ne_eq, ite_not]
  · rw [if_neg start, List.append_nil, if_neg fun both => start both.1, Nat.add_zero]

variable [DecidableEq τ]

/-- The candidates asked in a run of calls if each topic is probed once, for the first call on
it. -/
def bill (candidates : List (Candidate τ)) (calls : List (Call τ)) : Nat :=
  sumOfFirsts Call.token (Call.attempts candidates) (Call.resolutions calls) +
    sumOfFirsts Call.topic (Call.attempts candidates)
      (Call.continuations candidates.length calls)

section Further
variable (candidates : List (Candidate τ)) (calls : List (Call τ)) (call : Call τ)

/-- A further call is charged only if it is the first on its topic. -/
theorem bill_concat :
    bill candidates (calls ++ [call]) = bill candidates calls +
      if Asked candidates.length call.after ∧ firstOn calls call.topic = none
        then call.attempts candidates else 0 := by
  unfold bill
  rcases Call.concat_cases candidates.length calls call with ⟨start, asked, resolved, continued⟩ |
    ⟨inside, asked, resolved, continued⟩ | ⟨unasked, resolved, continued⟩
  · rw [resolved, continued, sumOfFirsts_concat]
    simp only [Call.token_mem_resolutions calls call start, asked, true_and, ne_eq, ite_not]
    exact Nat.add_right_comm ..
  · rw [resolved, continued, sumOfFirsts_concat]
    simp only [Call.topic_mem_continuations _ calls call inside, asked, true_and, ne_eq, ite_not]
    exact (Nat.add_assoc ..).symm
  · rw [resolved, continued, if_neg fun both => unasked both.1, Nat.add_zero]

/-- The candidates asked in a run of calls if every call probes. -/
def fullBill : Nat :=
  ((Call.resolutions calls).map (Call.attempts candidates)).sum +
    ((Call.continuations candidates.length calls).map (Call.attempts candidates)).sum

theorem fullBill_concat :
    fullBill candidates (calls ++ [call]) = fullBill candidates calls +
      if Asked candidates.length call.after then call.attempts candidates else 0 := by
  have single (some : List (Call τ)) : ((some ++ [call]).map (Call.attempts candidates)).sum =
      (some.map (Call.attempts candidates)).sum + call.attempts candidates := by simp
  unfold fullBill
  rcases Call.concat_cases candidates.length calls call with ⟨-, asked, resolved, continued⟩ |
    ⟨-, asked, resolved, continued⟩ | ⟨unasked, resolved, continued⟩
  · rw [resolved, continued, single, if_pos asked]
    exact Nat.add_right_comm ..
  · rw [resolved, continued, single, if_pos asked]
    exact (Nat.add_assoc ..).symm
  · rw [resolved, continued, if_neg unasked, Nat.add_zero]

end Further

end Typecase
