import Typecase.Proofs.CacheSteps
import Typecase.Proofs.FreshCache

/-! What a cache holds for each token, in its store and in its slots. Records come in by a report or
move between the two, so what was true of them when they came in stays true. -/

namespace Typecase

theorem Entry.eq_vacant (entry : Entry) (vacant : entry.isVacant = true)
    (blank : entry.record = .unresolved) : entry = .vacant := by
  rw [isVacant, Token.isEmpty_iff] at vacant
  cases entry
  cases vacant
  cases blank
  rfl

namespace Cache

/-- Every record that the cache holds for a token is allowed for it. -/
structure Holds (allowed : Token → Record → Prop) (cache : Cache) : Prop where
  stored : ∀ token record, cache.store.get? token = some record → allowed token record
  slotted : ∀ index, cache.slots.getD index .vacant = .vacant ∨
    allowed (cache.slots.getD index .vacant).token (cache.slots.getD index .vacant).record

section Holds
variable {allowed : Token → Record → Prop} {cache : Cache}

theorem Holds.mono {wider : Token → Record → Prop} (holds : cache.Holds allowed)
    (widens : ∀ token record, allowed token record → wider token record) :
    cache.Holds wider where
  stored token record known := widens token record (holds.stored token record known)
  slotted index := (holds.slotted index).imp_right (widens _ _)

theorem holds_fresh (allowed : Token → Record → Prop) (hint : Nat) (config : Config)
    (backing : Backing) : (fresh hint config backing).Holds allowed where
  stored _ _ known := by cases known
  slotted index := Or.inl (vacant_fresh hint config backing index)

theorem Holds.occupy (holds : cache.Holds allowed) (formed : cache.Formed) (token : Token)
    (record : Record) (fits : allowed token record) :
    (cache.occupy token record).Holds allowed where
  stored := holds.stored
  slotted index := by
    rw [getD_occupy cache formed]
    split
    next => exact Or.inr fits
    next => exact holds.slotted index

theorem Holds.rehash (holds : cache.Holds allowed) : cache.rehash.Holds allowed where
  stored := holds.stored
  slotted index := by
    by_cases inside : index < slotsOf cache.rehash.bits
    · rcases cache.filled_rehash.filled index inside with ⟨member, -⟩ | ⟨vacant, -⟩
      · right
        have listed := ((cache.backing.perm _ _).mem_iff).1 member
        exact holds.stored _ _ ((cache.store.mem_entries_iff _).1 listed)
      · exact Or.inl vacant
    · left
      rw [← cache.filled_rehash.full] at inside
      simp [inside]

theorem Holds.readied (holds : cache.Holds allowed) (token : Token)
    (fits : allowed token (cache.store.fetch token).1) : (cache.readied token).Holds allowed := by
  have missed : (cache.missed token).Holds allowed := by
    refine ⟨fun other record known => ?_, holds.slotted⟩
    change (cache.store.fetch token).2.get? other = some record at known
    rw [Store.get?_fetch] at known
    split at known
    next same =>
      cases known
      exact same ▸ fits
    next => exact holds.stored other record known
  unfold Cache.readied
  split
  next => exact missed.rehash
  next => exact missed

/-- A look-up answers that nothing is known, or a record that is allowed. -/
theorem Holds.looked (holds : cache.Holds allowed) (token : Token) :
    (cache.lookup token).record = .unresolved ∨ allowed token (cache.lookup token).record := by
  by_cases present : (cache.resident token).token = token
  · rw [lookup_hit cache token present]
    rcases holds.slotted (cache.slotNumber token) with vacant | fits
    · left
      change (cache.slots.getD (cache.slotNumber token) .vacant).record = .unresolved
      rw [vacant]
      rfl
    · right
      change allowed (cache.resident token).token (cache.resident token).record at fits
      rwa [present] at fits
  · rw [lookup_miss_record cache token present, Store.fetch_record]
    cases known : cache.store.get? token with
    | none => exact Or.inl rfl
    | some record => exact Or.inr (holds.stored token record known)

theorem Holds.lookup (holds : cache.Holds allowed) (formed : cache.Formed) (token : Token)
    (fits : allowed token (cache.lookup token).record) :
    (cache.lookup token).cache.Holds allowed := by
  by_cases present : (cache.resident token).token = token
  · rw [lookup_hit cache token present]
    exact ⟨holds.stored, holds.slotted⟩
  · rw [lookup_miss_record cache token present] at fits
    rw [lookup_miss_cache cache token present]
    exact (holds.readied token fits).occupy (cache.formed_readied formed token) token _ fits

theorem Formed.own_or_vacant (formed : cache.Formed) (index : Nat) :
    cache.slotNumber (cache.slots.getD index .vacant).token = index ∨
      (cache.slots.getD index .vacant).isVacant = true := by
  by_cases inside : index < cache.slots.size
  · cases taken : (cache.slots.getD index .vacant).isVacant with
    | true => exact Or.inr rfl
    | false => exact Or.inl (formed.placed index inside taken)
  · right
    simp [inside]
    rfl

/-- An accepted report replaces what a look-up without an answer had left behind. -/
theorem Holds.report {token : Token}
    (holds : cache.Holds fun other record =>
      allowed other record ∨ (other = token ∧ record = .unresolved))
    (formed : cache.Formed) (record : Record) (telling : record.isUnresolved = false)
    (fits : allowed token record) (accepted : (cache.report token record).result = .ok ()) :
    (cache.report token record).state.Holds allowed := by
  rcases cache.report_cases token record with ⟨_, -, report⟩ | ⟨store, settled, report⟩
  · rw [report] at accepted
    cases accepted
  have after (other : Token) := Store.get?_settle _ _ _ other _ settled
  have own : store.get? token = some record := by rw [after, if_pos ⟨rfl, telling⟩]
  rw [report, own, Option.getD_some]
  refine ⟨fun other kept known => ?_, fun index => ?_⟩
  · rw [store_occupy, after] at known
    split at known
    next same =>
      cases known
      exact same.1 ▸ fits
    next different =>
      refine (holds.stored other kept known).resolve_right fun pending => ?_
      exact different ⟨pending.1, telling⟩
  · have shaped : { cache with store := store }.Formed := formed.congr rfl rfl rfl rfl
    rw [getD_occupy _ shaped]
    split
    next => exact Or.inr fits
    next elsewhere =>
      rcases holds.slotted index with vacant | slot | ⟨same, pending⟩
      · exact Or.inl vacant
      · exact Or.inr slot
      · left
        -- Only the slot that was just taken over is the token's own, so this one is vacant.
        rcases formed.own_or_vacant index with own | vacant
        · rw [same] at own
          exact absurd own.symm elsewhere
        · exact Entry.eq_vacant _ vacant pending

end Holds

end Cache

end Typecase
