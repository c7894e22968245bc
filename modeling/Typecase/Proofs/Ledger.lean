import Mathlib.Data.List.Nodup
import Mathlib.Logic.Function.Basic
import Typecase.Store

/-! The plain meaning of everything that remembers first answers: a partial map from tokens
to settled records, where the first settled record of a token stays. A store means the map
of its settled tokens. -/

namespace Typecase

/-- What each token was settled to, if it was. -/
abbrev Ledger := Token → Option Record

namespace Ledger

def blank : Ledger := fun _ => none

/-- The first settled record of a token stays; a record that says nothing is passed over. -/
def settle (ledger : Ledger) (token : Token) (record : Record) : Ledger :=
  if record.isUnresolved = true ∨ (ledger token).isSome = true then ledger
  else Function.update ledger token (some record)

theorem settle_of_unresolved (ledger : Ledger) (token : Token) (record : Record)
    (silent : record.isUnresolved = true) : ledger.settle token record = ledger :=
  if_pos (Or.inl silent)

theorem settle_of_known (ledger : Ledger) (token : Token) (record known : Record)
    (settled : ledger token = some known) : ledger.settle token record = ledger :=
  if_pos (Or.inr (by simp [settled]))

theorem settle_of_unknown (ledger : Ledger) (token : Token) (record : Record)
    (telling : record.isUnresolved = false) (unknown : ledger token = none) :
    ledger.settle token record = Function.update ledger token (some record) :=
  if_neg (by simp [telling, unknown])

theorem settle_keeps (ledger : Ledger) (token other : Token) (record known : Record)
    (settled : ledger other = some known) : ledger.settle token record other = some known := by
  unfold settle
  split
  next => exact settled
  next changed =>
    have different : other ≠ token := by
      rintro rfl
      simp [settled] at changed
    rw [Function.update_of_ne different, settled]

/-- What is known comes first, then what the record tells. -/
theorem settle_apply (ledger : Ledger) (token other : Token) (record : Record) :
    ledger.settle token record other =
      (ledger other).or (if token = other then record.settled? else none) := by
  cases telling : record.isUnresolved with
  | true => simp [settle_of_unresolved _ _ _ telling, Record.settled?, telling]
  | false =>
    have settled : record.settled? = some record := by simp [Record.settled?, telling]
    rw [settled]
    cases known : ledger token with
    | some stored =>
      rw [settle_of_known _ _ _ stored known]
      by_cases same : token = other
      · rw [← same, known]
        rfl
      · rw [if_neg same, Option.or_none]
    | none =>
      rw [settle_of_unknown _ _ _ telling known, Function.update_apply]
      by_cases same : token = other
      · rw [if_pos same, if_pos same.symm, ← same, known]
        rfl
      · rw [if_neg same, if_neg (Ne.symm same), Option.or_none]

/-- Whatever a token is settled to was reported for that very token. -/
theorem settle_source (ledger : Ledger) (token other : Token) (record known : Record)
    (settled : ledger.settle token record other = some known) :
    ledger other = some known ∨ (other = token ∧ record = known) := by
  unfold settle at settled
  split at settled
  next => exact Or.inl settled
  next =>
    by_cases same : other = token
    · subst same
      rw [Function.update_self] at settled
      exact Or.inr ⟨rfl, Option.some.inj settled⟩
    · rw [Function.update_of_ne same] at settled
      exact Or.inl settled

end Ledger

namespace Store

theorem get?_insertNew (store : Store) (token other : Token) (record : Record)
    (fresh : token ∉ store.tokens) :
    (store.insertNew token record fresh).get? other =
      if other = token then some record else store.get? other := by
  by_cases same : other = token
  · subst same
    have absent := (store.get?_eq_none_iff other).2 fresh
    simp only [get?, Option.map_eq_none_iff] at absent
    simp [get?, insertNew, absent]
  · simp [get?, insertNew, same, Ne.symm same]

theorem get?_replace (store : Store) (token other : Token) (record : Record) :
    (store.replace token record).get? other =
      if other = token then (store.get? token).map fun _ => record else store.get? other := by
  have sameTokens : ((fun entry : Entry => entry.token == other) ∘ fun entry : Entry =>
      if entry.token = token then { entry with record := record } else entry) =
      fun entry => entry.token == other := by
    funext entry
    simp only [Function.comp]
    split <;> rfl
  simp only [get?, replace, List.find?_map, sameTokens, Option.map_map]
  by_cases same : other = token
  · subst same
    rw [if_pos rfl]
    apply Option.map_congr
    intro entry found
    have own : entry.token = other := by simpa using List.find?_some found
    simp [own]
  · rw [if_neg same]
    apply Option.map_congr
    intro entry found
    have own : entry.token = other := by simpa using List.find?_some found
    simp [own, same]

theorem mem_entries_iff (store : Store) (entry : Entry) :
    entry ∈ store.entries ↔ store.get? entry.token = some entry.record := by
  constructor
  · intro member
    have present : (store.entries.find? (·.token == entry.token)).isSome := by
      rw [List.find?_isSome]
      exact ⟨entry, member, by simp⟩
    obtain ⟨found, lookup⟩ := Option.isSome_iff_exists.1 present
    have own : found.token = entry.token := by simpa using List.find?_some lookup
    have same : found = entry :=
      List.inj_on_of_nodup_map store.distinct (List.mem_of_find?_eq_some lookup) member own
    rw [get?, lookup, same]
    rfl
  · intro known
    obtain ⟨found, lookup, record⟩ := Option.map_eq_some_iff.1 known
    have own : found.token = entry.token := by simpa using List.find?_some lookup
    have same : found = entry := by
      cases found
      cases entry
      simp_all
    exact same ▸ List.mem_of_find?_eq_some lookup

theorem fetch_record (store : Store) (token : Token) :
    (store.fetch token).1 = (store.get? token).getD .unresolved := by
  unfold fetch
  split
  next record found => simp [found]
  next absent => simp [absent]

/-- After a fetch the store knows the token by the fetched record. -/
theorem get?_fetch (store : Store) (token other : Token) :
    (store.fetch token).2.get? other =
      if other = token then some (store.fetch token).1 else store.get? other := by
  unfold fetch
  split
  next record found =>
    by_cases same : other = token
    · rw [if_pos same, same, found]
    · rw [if_neg same]
  next absent => rw [get?_insertNew]

/-- An accepted record changes nothing, or is that of a new token, or takes the place of an
unresolved one. -/
theorem settle_cases (store later : Store) (token : Token) (record : Record)
    (accepted : store.settle token record = .ok later) :
    (later = store ∧ (record.isUnresolved = true ∨ store.get? token = some record)) ∨
    (record.isUnresolved = false ∧ ∃ fresh, later = store.insertNew token record fresh) ∨
    (record.isUnresolved = false ∧ (store.get? token).isSome = true ∧
      later = store.replace token record) := by
  unfold settle at accepted
  split at accepted
  next silent =>
    cases accepted
    exact Or.inl ⟨rfl, Or.inl silent⟩
  next telling =>
    simp only [Bool.not_eq_true] at telling
    split at accepted
    next absent =>
      cases accepted
      exact Or.inr (Or.inl ⟨telling, _, rfl⟩)
    next stored found =>
      split at accepted
      next =>
        cases accepted
        exact Or.inr (Or.inr ⟨telling, by rw [found]; rfl, rfl⟩)
      next =>
        split at accepted
        next same =>
          cases accepted
          exact Or.inl ⟨rfl, Or.inr (same ▸ found)⟩
        next => cases accepted

/-- An accepted settled record is what the store says from then on. -/
theorem get?_settle (store later : Store) (token other : Token) (record : Record)
    (accepted : store.settle token record = .ok later) :
    later.get? other =
      if other = token ∧ record.isUnresolved = false then some record else store.get? other := by
  rcases store.settle_cases later token record accepted with
    ⟨rfl, silent | found⟩ | ⟨telling, fresh, rfl⟩ | ⟨telling, known, rfl⟩
  · simp [silent]
  · split
    next own => rw [own.1, found]
    next => rfl
  · simp only [telling, and_true]
    exact get?_insertNew ..
  · obtain ⟨stored, found⟩ := Option.isSome_iff_exists.1 known
    simp only [telling, and_true]
    rw [get?_replace, found, Option.map_some]

/-- The settled tokens of a store. -/
def ledger (store : Store) : Ledger := fun token => (store.get? token).bind Record.settled?

theorem ledger_eq_some_iff (store : Store) (token : Token) (record : Record) :
    store.ledger token = some record ↔
      store.get? token = some record ∧ record.isUnresolved = false := by
  simp only [ledger, Option.bind_eq_some_iff, Record.settled?_eq_some_iff]
  constructor
  · rintro ⟨_, found, telling, rfl⟩
    exact ⟨found, telling⟩
  · rintro ⟨found, telling⟩
    exact ⟨record, found, telling, rfl⟩

theorem ledger_eq_none_iff (store : Store) (token : Token) :
    store.ledger token = none ↔ ∀ record, store.get? token = some record →
      record.isUnresolved = true := by
  simp only [ledger, Option.bind_eq_none_iff, Record.settled?_eq_none_iff]

theorem ledger_empty : empty.ledger = Ledger.blank := rfl

theorem ledger_fetch (store : Store) (token : Token) :
    (store.fetch token).2.ledger = store.ledger := by
  funext other
  simp only [ledger, get?_fetch, fetch_record]
  by_cases same : other = token
  · rw [if_pos same, same]
    cases store.get? token <;> rfl
  · rw [if_neg same]

/-- Exactly a second, different settled record is refused. -/
theorem settle_error_iff (store : Store) (token : Token) (record : Record) (fault : Fault) :
    store.settle token record = .error fault ↔
      ∃ stored, store.ledger token = some stored ∧ record.isUnresolved = false ∧
        stored ≠ record ∧ fault = .settledConflict token stored record := by
  unfold settle
  split
  next silent => simp [silent]
  next telling =>
    simp only [Bool.not_eq_true] at telling
    split
    next absent => simp [ledger, absent]
    next stored found =>
      split
      next silent => simp [ledger, found, Record.settled?, silent]
      next settled =>
        simp only [Bool.not_eq_true] at settled
        split
        next same => simp [ledger, found, Record.settled?, same]
        next different =>
          have known := (store.ledger_eq_some_iff token stored).2 ⟨found, settled⟩
          constructor
          · rintro ⟨⟩
            exact ⟨stored, known, telling, different, rfl⟩
          · rintro ⟨other, same, -, -, rfl⟩
            rw [Option.some.inj (known.symm.trans same)]

theorem ledger_settle (store later : Store) (token : Token) (record : Record)
    (accepted : store.settle token record = .ok later) :
    later.ledger = store.ledger.settle token record := by
  funext other
  have after := get?_settle store later token other record accepted
  cases telling : record.isUnresolved with
  | true =>
    rw [Ledger.settle_of_unresolved _ _ _ telling]
    simp only [ledger, after, telling, Bool.true_eq_false, and_false, ↓reduceIte]
  | false =>
    simp only [telling, and_true] at after
    have settled : record.settled? = some record :=
      (Record.settled?_eq_some_iff record record).2 ⟨telling, rfl⟩
    cases known : store.ledger token with
    | none =>
      rw [Ledger.settle_of_unknown _ _ _ telling known]
      by_cases same : other = token
      · subst same
        simp [ledger, after, settled]
      · simp [ledger, after, same]
    | some stored =>
      rw [Ledger.settle_of_known _ _ _ stored known]
      -- The store accepted a second settled record, so it is the stored one.
      have agreed : stored = record := by
        by_contra different
        have refused := (settle_error_iff store token record _).2
          ⟨stored, known, telling, different, rfl⟩
        rw [refused] at accepted
        cases accepted
      by_cases same : other = token
      · subst same
        rw [known, agreed]
        simp [ledger, after, settled]
      · simp [ledger, after, same]

end Store

end Typecase
