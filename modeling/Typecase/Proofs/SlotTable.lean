import Typecase.Proofs.FirstWrite

/-! The slots of a cache as a faithful extract of its store. As long as only settled records
are reported, a token in a slot is in the slot that it falls into, and its record there is
the record that the store has. The table only grows, and the store forgets no token. -/

namespace Typecase

/-- A slot holds exactly what the store says. Only the zero token may be in its slot, which
then is vacant, without the store having met it. -/
def Agreement.exact : Agreement where
  holds token known record :=
    known = some record ∨ (token = .empty ∧ known = none ∧ record = .unresolved)
  stored _ _ := Or.inl rfl
  vacant := Or.inr ⟨rfl, rfl, rfl⟩

namespace Store

/-- A fetch adds at most the fetched token, behind all others. -/
theorem tokens_fetch (store : Store) (token : Token) :
    store.tokens <+: (store.fetch token).2.tokens := by
  unfold fetch
  split
  next => exact List.prefix_refl _
  next => exact (List.prefix_append _ _).map Entry.token

theorem tokens_replace (store : Store) (token : Token) (record : Record) :
    (store.replace token record).tokens = store.tokens := by
  unfold tokens replace
  rw [List.map_map]
  apply List.map_congr_left
  intro entry _
  simp only [Function.comp]
  split <;> rfl

theorem tokens_settle (store later : Store) (token : Token) (record : Record)
    (accepted : store.settle token record = .ok later) : store.tokens <+: later.tokens := by
  rcases store.settle_cases later token record accepted with
    ⟨rfl, -⟩ | ⟨-, fresh, rfl⟩ | ⟨-, -, rfl⟩
  · exact List.prefix_rfl
  · exact (List.prefix_append _ _).map Entry.token
  · exact store.tokens_replace token record ▸ List.prefix_rfl

theorem mem_tokens_of_get? (store : Store) (token : Token) (record : Record)
    (found : store.get? token = some record) : token ∈ store.tokens := by
  by_contra unknown
  rw [(store.get?_eq_none_iff token).2 unknown] at found
  cases found

theorem mem_tokens_fetch_iff (store : Store) (token other : Token) :
    other ∈ (store.fetch token).2.tokens ↔ other ∈ store.tokens ∨ other = token := by
  rw [← not_iff_not, not_or, ← get?_eq_none_iff, ← get?_eq_none_iff, get?_fetch]
  by_cases same : other = token <;> simp [same]

theorem mem_tokens_settle_iff (store later : Store) (token other : Token) (record : Record)
    (telling : record.isUnresolved = false) (accepted : store.settle token record = .ok later) :
    other ∈ later.tokens ↔ other ∈ store.tokens ∨ other = token := by
  rw [← not_iff_not, not_or, ← get?_eq_none_iff, ← get?_eq_none_iff,
    get?_settle _ _ _ _ _ accepted]
  by_cases same : other = token <;> simp [same, telling]

theorem length_tokens (store : Store) : store.tokens.length = store.size := List.length_map ..

end Store

namespace Cache

/-- A request that reports no record without an answer. -/
def Request.Telling : Request → Prop
  | .settle _ record => record.isUnresolved = false
  | .lookup _ | .peek _ | .rehash => True

instance : (request : Request) → Decidable request.Telling
  | .settle _ record => inferInstanceAs (Decidable (record.isUnresolved = false))
  | .lookup _ | .peek _ | .rehash => .isTrue trivial

/-- The slots are those that the size promises, and each holds its own token with the record
of the store. -/
structure Consistent (cache : Cache) : Prop where
  count : cache.slots.size = slotsOf cache.bits
  least : cache.config.minBits ≤ cache.bits
  most : cache.bits ≤ cache.config.maxBits
  shifted : cache.shift ≤ cache.config.maxShift
  inside : ∀ token, cache.slotNumber token < cache.slots.size
  own : ∀ (index : Nat) (inside : index < cache.slots.size),
    cache.slots[index].token ≠ .empty →
    cache.slotNumber cache.slots[index].token = index ∧
      cache.store.get? cache.slots[index].token = some cache.slots[index].record

theorem consistent_of_faithful (cache : Cache) (formed : cache.Formed)
    (faithful : cache.Faithful .exact) : cache.Consistent where
  count := formed.full
  least := formed.least
  most := formed.most
  shifted := formed.shifted
  inside := cache.slotNumber_lt formed
  own index inside taken := by
    have held : cache.slots.getD index .vacant = cache.slots[index] := by simp [inside]
    have occupied : (cache.slots.getD index .vacant).isVacant = false := by
      rw [held, Entry.isVacant, Bool.eq_false_iff, ne_eq, Token.isEmpty_iff]
      exact taken
    have placed := formed.placed index inside occupied
    rw [held] at placed
    have resident : cache.resident cache.slots[index].token = cache.slots[index] := by
      rw [Cache.resident, placed, held]
    have agreed := faithful cache.slots[index].token
    rw [AgreesAt, resident] at agreed
    rcases agreed rfl with known | ⟨zero, -⟩
    · exact ⟨placed, known⟩
    · exact absurd zero taken

/-- The table is at least as large, and no token was forgotten. -/
structure Grown (earlier later : Cache) : Prop where
  bits : earlier.bits ≤ later.bits
  tokens : ∀ token ∈ earlier.store.tokens, token ∈ later.store.tokens

theorem Grown.refl (cache : Cache) : cache.Grown cache := ⟨Nat.le_refl _, fun _ => id⟩

theorem Grown.trans {first second third : Cache} (before : first.Grown second)
    (after : second.Grown third) : first.Grown third where
  bits := Nat.le_trans before.bits after.bits
  tokens token member := after.tokens token (before.tokens token member)

/-- The store keeps every token in its place and adds new ones behind. -/
theorem tokens_perform (cache : Cache) (request : Request) :
    cache.store.tokens <+: (cache.perform request).state.store.tokens := by
  cases request with
  | lookup token =>
    change cache.store.tokens <+: (cache.lookup token).cache.store.tokens
    by_cases present : (cache.resident token).token = token
    · rw [lookup_hit cache token present]
      exact List.prefix_refl _
    · rw [lookup_miss_cache cache token present, store_occupy, store_readied]
      exact cache.store.tokens_fetch token
  | settle token record =>
    change cache.store.tokens <+: (cache.report token record).state.store.tokens
    rcases cache.report_cases token record with ⟨_, -, report⟩ | ⟨store, accepted, report⟩
    · exact report ▸ List.prefix_rfl
    · rw [report]
      exact cache.store.tokens_settle store token record accepted
  | peek token => exact List.prefix_refl _
  | rehash => exact List.prefix_refl _

theorem formed_perform (cache : Cache) (formed : cache.Formed) (request : Request) :
    (cache.perform request).state.Formed := by
  cases request with
  | lookup token => exact cache.formed_lookup formed token
  | settle token record => exact cache.formed_report formed token record
  | peek token => exact formed
  | rehash => exact cache.formed_rehash formed

theorem bits_le_perform (cache : Cache) (formed : cache.Formed) (request : Request) :
    cache.bits ≤ (cache.perform request).state.bits := by
  cases request with
  | lookup token =>
    change cache.bits ≤ (cache.lookup token).cache.bits
    by_cases present : (cache.resident token).token = token
    · rw [lookup_hit cache token present]
      exact Nat.le_refl _
    · rw [lookup_miss_cache cache token present]
      exact cache.bits_le_readied formed token
  | settle token record =>
    change cache.bits ≤ (cache.report token record).state.bits
    rcases cache.report_cases token record with ⟨_, -, report⟩ | ⟨_, -, report⟩
    · exact Nat.le_of_eq (by rw [report])
    · exact Nat.le_of_eq (by rw [report]; rfl)
  | peek token => exact Nat.le_refl _
  | rehash => exact cache.bits_le_rehashedBits formed

theorem grown_perform (cache : Cache) (formed : cache.Formed) (request : Request) :
    cache.Grown (cache.perform request).state where
  bits := cache.bits_le_perform formed request
  tokens _ member := (cache.tokens_perform request).subset member

theorem exact_perform (cache : Cache) (formed : cache.Formed)
    (faithful : cache.Faithful .exact) (request : Request) (telling : request.Telling) :
    (cache.perform request).state.Faithful .exact := by
  cases request with
  | lookup token => exact faithful_lookup _ cache formed faithful token
  | settle token record =>
    refine faithful_report _ cache formed faithful token record fun silent => ?_
    rw [Request.Telling, silent] at telling
    cases telling
  | peek token => exact faithful
  | rehash => exact faithful_rehash _ cache

theorem formed_run (cache : Cache) (formed : cache.Formed) (requests : List Request) :
    (cache.run requests).Formed :=
  Step.run_keeps Formed perform cache requests formed fun request _ state before =>
    state.formed_perform before request

theorem grown_run (cache : Cache) (formed : cache.Formed) (requests : List Request) :
    cache.Grown (cache.run requests) := by
  have both := Step.run_keeps (fun state => state.Formed ∧ cache.Grown state) perform cache
    requests ⟨formed, Grown.refl cache⟩ fun request _ state before =>
      ⟨state.formed_perform before.1 request,
        before.2.trans (grown_perform state before.1 request)⟩
  exact both.2

theorem tokens_run (cache : Cache) (requests : List Request) :
    cache.store.tokens <+: (cache.run requests).store.tokens :=
  Step.run_keeps (fun state => cache.store.tokens <+: state.store.tokens) perform cache requests
    (List.prefix_refl _) fun request _ state before => before.trans (state.tokens_perform request)

theorem exact_run (cache : Cache) (formed : cache.Formed) (faithful : cache.Faithful .exact)
    (requests : List Request) (telling : ∀ request ∈ requests, request.Telling) :
    (cache.run requests).Faithful .exact := by
  have both := Step.run_keeps (fun state => state.Formed ∧ state.Faithful .exact) perform cache
    requests ⟨formed, faithful⟩ fun request member state before =>
      ⟨state.formed_perform before.1 request,
        exact_perform state before.1 before.2 request (telling request member)⟩
  exact both.2

/-- The token is in its slot, so the next look-up of it counts as a hit and changes nothing
else. -/
structure Serves (cache : Cache) (token : Token) : Prop where
  resident : (cache.resident token).token = token
  hit : (cache.lookup token).cache = cache.countHit

theorem serves_of_resident (cache : Cache) (token : Token)
    (present : (cache.resident token).token = token) : cache.Serves token :=
  ⟨present, by rw [lookup_hit cache token present]⟩

theorem serves_lookup (cache : Cache) (formed : cache.Formed) (token : Token) :
    (cache.lookup token).cache.Serves token := by
  apply serves_of_resident
  by_cases present : (cache.resident token).token = token
  · rw [lookup_hit cache token present]
    exact present
  · rw [lookup_miss_cache cache token present,
      resident_occupy_self _ (cache.formed_readied formed token)]

theorem serves_report (cache : Cache) (formed : cache.Formed) (token : Token)
    (record : Record) (accepted : (cache.report token record).result = .ok ()) :
    (cache.report token record).state.Serves token := by
  apply serves_of_resident
  rcases cache.report_cases token record with ⟨_, -, report⟩ | ⟨store, -, report⟩
  · rw [report] at accepted
    cases accepted
  · rw [report]
    have shaped : { cache with store := store }.Formed := formed.congr rfl rfl rfl rfl
    exact congrArg Entry.token (resident_occupy_self _ shaped token _)

theorem get?_report (cache : Cache) (token : Token) (record : Record)
    (telling : record.isUnresolved = false)
    (accepted : (cache.report token record).result = .ok ()) :
    (cache.report token record).state.store.get? token = some record := by
  rcases cache.report_cases token record with ⟨_, -, report⟩ | ⟨store, settled, report⟩
  · rw [report] at accepted
    cases accepted
  · rw [report, store_occupy, Store.get?_settle _ _ _ _ _ settled, if_pos ⟨rfl, telling⟩]

/-- After any run that reports only settled records the slot table is consistent, and it has
only grown. Right after a look-up or an accepted report the token is in its slot, so that it
is served from there, with the record of the store. Only after a look-up of the zero token
may the store not have it. -/
theorem run_keeps_slot_table (hint : Nat) (config : Config) (backing : Backing)
    (cache : Cache) (created : Cache.create hint config backing = .ok cache)
    (requests : List Request) (telling : ∀ request ∈ requests, request.Telling) :
    (cache.run requests).Consistent ∧
    (∀ later, (cache.run requests).Grown (cache.run (requests ++ later))) ∧
    (∀ token, ((cache.run requests).lookup token).cache.Serves token ∧
      (((cache.run requests).lookup token).cache.store.get? token =
          some (((cache.run requests).lookup token).cache.lookup token).record ∨
        (token = .empty ∧
          ((cache.run requests).lookup token).cache.store.get? token = none ∧
          (((cache.run requests).lookup token).cache.lookup token).record = .unresolved))) ∧
    (∀ token record, record.isUnresolved = false →
      ((cache.run requests).report token record).result = .ok () →
      ((cache.run requests).report token record).state.Serves token ∧
      ((cache.run requests).report token record).state.store.get? token =
        some (((cache.run requests).report token record).state.lookup token).record) := by
  obtain ⟨valid, -, -, rfl⟩ := (create_eq_ok_iff hint config backing cache).1 created
  have shaped := formed_fresh hint config backing valid
  have exactly := exact_run _ shaped (faithful_fresh hint config backing .exact) requests telling
  have formed := formed_run _ shaped requests
  have grown (later : List Request) : ((fresh hint config backing).run requests).Grown
      ((fresh hint config backing).run (requests ++ later)) := by
    rw [run_append]
    exact grown_run _ formed later
  generalize (fresh hint config backing).run requests = now at *
  refine ⟨consistent_of_faithful now formed exactly, grown, ?_, ?_⟩
  · intro token
    have serves := serves_lookup now formed token
    have agreed := faithful_lookup _ now formed exactly token token serves.resident
    rw [lookup_hit _ token serves.resident]
    exact ⟨serves, agreed⟩
  · intro token record settled accepted
    have serves := serves_report now formed token record accepted
    have unneeded : record.isUnresolved = true →
        Agreement.exact.holds token none record := by simp [settled]
    have agreed := faithful_report _ now formed exactly token record unneeded token serves.resident
    rw [lookup_hit _ token serves.resident]
    rcases agreed with known | ⟨-, unknown, -⟩
    · exact ⟨serves, known⟩
    · rw [get?_report now token record settled accepted] at unknown
      cases unknown

/-- Two tokens share the only slot. A refused report is part of the run, and after it the other
token is reported. -/
theorem run_keeps_slot_table_shared_slot :
    let requests := [Request.lookup ⟨8⟩, .settle ⟨8⟩ .noMatch, .settle ⟨8⟩ ⟨1, .zero⟩, .rehash,
      .lookup ⟨16⟩]
    ∃ cache,
      Cache.create 1 { Config.default with minBits := 0, maxBits := 0 } .arrival = .ok cache ∧
      (∀ request ∈ requests, request.Telling) ∧ (cache.run requests).Consistent ∧
      ((cache.run requests).report ⟨16⟩ .noMatch).result = .ok () ∧
      ((cache.run requests).report ⟨16⟩ .noMatch).state.Serves ⟨16⟩ := by
  intro requests
  have telling : ∀ request ∈ requests, request.Telling := by decide
  have created := (create_eq_ok_iff 1 { Config.default with minBits := 0, maxBits := 0 } .arrival
    _).2 ⟨by decide, by cbv, by decide, rfl⟩
  obtain ⟨consistent, -, -, served⟩ := run_keeps_slot_table _ _ _ _ created requests telling
  have accepted : (((fresh 1 { Config.default with minBits := 0, maxBits := 0 } .arrival).run
      requests).report ⟨16⟩ .noMatch).result = .ok () := rfl
  exact ⟨_, created, telling, consistent, accepted, (served ⟨16⟩ .noMatch rfl accepted).1⟩

/-- The zero token marks a vacant slot, so in a fresh cache it seems to be in its slot: looking
it up answers without the store ever meeting it. -/
theorem zero_token_answered_unstored :
    ¬∀ (hint : Nat) (config : Config) (backing : Backing) (cache : Cache),
      Cache.create hint config backing = .ok cache → ∀ requests : List Request,
      (∀ request ∈ requests, request.Telling) → ∀ token,
      ((cache.run requests).lookup token).cache.store.get? token =
        some (((cache.run requests).lookup token).cache.lookup token).record := by
  intro always
  obtain ⟨cache, created⟩ :=
    (exists_create_iff 1 .default .arrival).2 ⟨by decide, by cbv, by decide⟩
  obtain ⟨-, -, -, rfl⟩ := (create_eq_ok_iff _ _ _ cache).1 created
  have vacant := vacant_fresh 1 .default .arrival
    ((fresh 1 .default .arrival).slotNumber .empty)
  have answered := always 1 .default .arrival _ created [] (by simp) .empty
  rw [run_nil, lookup_hit _ .empty (by rw [resident, vacant]; rfl), store_countHit] at answered
  cases answered

end Cache

end Typecase
