import Typecase.Proofs.Crowding

/-! Where some shift gives every known token a slot of its own, a rehash finds such a shift and puts
every token into its slot. From then on each known token is served from there: no look-up misses,
so nothing is driven out and nothing sets off another rehash, until a new token arrives. -/

namespace Typecase

theorem repeats_eq_zero_iff (indices : List Nat) : repeats indices = 0 ↔ indices.Nodup := by
  induction indices with
  | nil => simp [repeats]
  | cons index rest ih =>
    rw [repeats, List.nodup_cons, ← ih]
    by_cases again : index ∈ rest <;> simp [again]

/-- Some shift in the range gives every token a slot of its own. -/
def Separable (tokens : List Token) (bits maxShift : Nat) : Prop :=
  ∃ shift ≤ maxShift, (tokens.map fun token => token.slot bits shift).Nodup

theorem Store.tokens_settle_of_mem (store later : Store) (token : Token) (record : Record)
    (known : token ∈ store.tokens) (accepted : store.settle token record = .ok later) :
    later.tokens = store.tokens := by
  rcases store.settle_cases later token record accepted with
    ⟨rfl, -⟩ | ⟨-, fresh, rfl⟩ | ⟨-, -, rfl⟩
  · rfl
  · exact absurd known fresh
  · exact store.tokens_replace token record

namespace Cache

/-- Every known token is in its slot. -/
def Housed (cache : Cache) : Prop :=
  ∀ token ∈ cache.store.tokens, (cache.resident token).token = token

/-- A known token that takes its slot over drives nobody out. -/
theorem housed_occupy (cache : Cache) (formed : cache.Formed) (housed : cache.Housed)
    (token : Token) (known : token ∈ cache.store.tokens) (record : Record) :
    (cache.occupy token record).Housed := by
  intro other listed
  rw [resident_occupy cache formed]
  by_cases shared : cache.slotNumber other = cache.slotNumber token
  · have same : cache.resident other = cache.resident token :=
      congrArg (fun index => cache.slots.getD index .vacant) shared
    rw [if_pos shared]
    calc token = (cache.resident token).token := (housed token known).symm
      _ = (cache.resident other).token := by rw [same]
      _ = other := housed other listed
  · rw [if_neg shared]
    exact housed other listed

theorem housed_rehash (cache : Cache)
    (separable : Separable cache.store.tokens cache.rehash.bits cache.config.maxShift) :
    cache.rehash.Housed := by
  obtain ⟨shift, bounded, apart⟩ := separable
  have least := cache.rehashed_rehash.least shift bounded
  rw [conflicts, conflicts, (repeats_eq_zero_iff _).2 apart] at least
  have chosen := (repeats_eq_zero_iff _).1 (Nat.le_zero.1 least)
  intro token known
  obtain ⟨other, listed, own, shared⟩ := cache.exists_resident token known
  have same : other = token := List.inj_on_of_nodup_map chosen listed known shared
  exact same ▸ own

/-- A request that sets off a rehash leaves every known token in its slot, if at the size it has
chosen some shift keeps them apart. -/
theorem housed_perform (cache : Cache) (formed : cache.Formed) (request : Request)
    (rehashed : cache.counts.rehashes < (cache.perform request).state.counts.rehashes)
    (separable : Separable (cache.perform request).state.store.tokens
      (cache.perform request).state.bits cache.config.maxShift) :
    (cache.perform request).state.Housed := by
  cases request with
  | lookup token =>
    change cache.counts.rehashes < (cache.lookup token).cache.counts.rehashes at rehashed
    change Separable (cache.lookup token).cache.store.tokens (cache.lookup token).cache.bits _
      at separable
    change (cache.lookup token).cache.Housed
    by_cases present : (cache.resident token).token = token
    · rw [lookup_hit cache token present] at rehashed
      exact absurd rehashed (Nat.lt_irrefl _)
    rw [lookup_miss_cache cache token present, readied] at rehashed separable ⊢
    by_cases crowded : (cache.missed token).isCrowded = true
    · rw [if_pos crowded] at separable ⊢
      have known : token ∈ (cache.missed token).store.tokens :=
        (cache.store.mem_tokens_fetch_iff token token).2 (Or.inr rfl)
      exact housed_occupy _ (formed_rehash _ (cache.formed_missed formed token))
        ((cache.missed token).housed_rehash separable) token known _
    · rw [if_neg crowded] at rehashed
      exact absurd rehashed (Nat.lt_irrefl _)
  | settle token record =>
    change _ < (cache.report token record).state.counts.rehashes at rehashed
    rw [cache.counts_report] at rehashed
    exact absurd rehashed (Nat.lt_irrefl _)
  | peek token => exact absurd rehashed (Nat.lt_irrefl _)
  | rehash => exact cache.housed_rehash separable

/-- A request for known tokens, which does not rehash by hand. -/
def Request.Familiar (tokens : List Token) : Request → Prop
  | .lookup token | .settle token _ => token ∈ tokens
  | .peek _ => True
  | .rehash => False

/-- The cache after requests of which every look-up was a hit, and which left everything else in
its place. -/
structure Unmissed (requests : List Request) (before after : Cache) : Prop where
  formed : after.Formed
  housed : after.Housed
  tokens : after.store.tokens = before.store.tokens
  bits : after.bits = before.bits
  shift : after.shift = before.shift
  hits : after.counts.hits = before.counts.hits + requests.countP Request.isLookup
  misses : after.counts.misses = before.counts.misses
  collisions : after.counts.collisions = before.counts.collisions
  rehashes : after.counts.rehashes = before.counts.rehashes

theorem Unmissed.perform {requests : List Request} {before after : Cache}
    (unmissed : before.Unmissed requests after) (request : Request)
    (familiar : request.Familiar before.store.tokens) :
    before.Unmissed (requests ++ [request]) (after.perform request).state := by
  obtain ⟨formed, housed, tokens, bits, shift, hits, misses, collisions, rehashes⟩ := unmissed
  cases request with
  | lookup token =>
    have present := housed token (tokens ▸ familiar)
    have hit : (after.perform (.lookup token)).state = after.countHit :=
      (after.serves_of_resident token present).hit
    rw [hit]
    refine ⟨formed.congr rfl rfl rfl rfl, housed, tokens, bits, shift, ?_, misses, collisions,
      rehashes⟩
    rw [List.countP_append, ← Nat.add_assoc, ← hits]
    rfl
  | settle token record =>
    have known : token ∈ after.store.tokens := tokens ▸ familiar
    have quiet : (requests ++ [Request.settle token record]).countP Request.isLookup =
        requests.countP Request.isLookup := by simp [Request.isLookup]
    change before.Unmissed _ (after.report token record).state
    rcases after.report_cases token record with ⟨_, -, report⟩ | ⟨store, accepted, report⟩
    · rw [report]
      exact ⟨formed, housed, tokens, bits, shift, quiet ▸ hits, misses, collisions, rehashes⟩
    · have still := after.store.tokens_settle_of_mem store token record known accepted
      have shaped : { after with store := store }.Formed := formed.congr rfl rfl rfl rfl
      have placed : { after with store := store }.Housed := fun other listed =>
        housed other (still ▸ listed)
      rw [report]
      exact ⟨formed_occupy _ shaped _ _, housed_occupy _ shaped placed token (still ▸ known) _,
        still.trans tokens, bits, shift, quiet ▸ hits, misses, collisions, rehashes⟩
  | peek token =>
    refine ⟨formed, housed, tokens, bits, shift, ?_, misses, collisions, rehashes⟩
    rw [List.countP_append, ← Nat.add_assoc, ← hits]
    rfl
  | rehash => cases familiar

theorem unmissed_run (cache : Cache) (formed : cache.Formed) (housed : cache.Housed)
    (requests : List Request)
    (familiar : ∀ request ∈ requests, request.Familiar cache.store.tokens) :
    cache.Unmissed requests (cache.run requests) := by
  refine Step.run_follows (fun done state =>
    (∀ request ∈ done, request.Familiar cache.store.tokens) → cache.Unmissed done state)
    perform cache requests (fun _ => ?_) ?_ familiar
  · exact ⟨formed, housed, rfl, rfl, rfl, rfl, rfl, rfl, rfl⟩
  · intro done request state before allowed
    simp only [List.forall_mem_append, List.forall_mem_singleton] at allowed
    exact (before allowed.1).perform request allowed.2

/-- A rehash whose size allows to keep all known tokens apart ends the misses. It may have been
asked for or set off by a look-up, in whatever state the cache was, and in whatever order it filled
the slots. As long as no new token arrives, every look-up is a hit, whether or not the reports
between them are accepted, and the layout stays. -/
theorem separable_tokens_stop_missing (hint : Nat) (config : Config) (backing : Backing)
    (cache : Cache) (created : Cache.create hint config backing = .ok cache)
    (earlier : List Request) (request : Request) :
    let first := ((cache.run earlier).perform request).state
    (cache.run earlier).counts.rehashes < first.counts.rehashes →
    Separable first.store.tokens first.bits config.maxShift →
    ∀ later : List Request, (∀ next ∈ later, next.Familiar first.store.tokens) →
      first.Unmissed later (first.run later) ∧
      ∀ token ∈ first.store.tokens, (first.run later).Serves token := by
  intro first rehashed separable later familiar
  obtain ⟨valid, -, -, rfl⟩ := (create_eq_ok_iff hint config backing cache).1 created
  have formed := formed_run _ (formed_fresh hint config backing valid) earlier
  have configured : ((fresh hint config backing).run earlier).config = config :=
    config_run _ earlier
  have housed : first.Housed := by
    apply housed_perform _ formed request rehashed
    rw [configured]
    exact separable
  have unmissed := unmissed_run first (formed_perform _ formed request) housed later familiar
  refine ⟨unmissed, fun token known => serves_of_resident _ token ?_⟩
  exact unmissed.housed token (unmissed.tokens ▸ known)

/-- Two tokens take turns in one of two slots until a look-up sets off a rehash, which moves to four
slots and to the smallest shift that keeps the tokens apart. Afterwards they are always found, also
around a report that is refused. -/
theorem separable_tokens_stop_missing_two_tokens :
    let config := { Config.default with maxBits := 3, defaultShift := 0, rehashThreshold := 1 }
    let later := [Request.lookup ⟨256⟩, .settle ⟨256⟩ ⟨1, .zero⟩, .settle ⟨256⟩ .noMatch,
      .lookup ⟨512⟩, .peek ⟨768⟩, .lookup ⟨256⟩]
    ∃ cache, Cache.create 1 config .arrival = .ok cache ∧
      let first := ((cache.run [.lookup ⟨256⟩, .lookup ⟨512⟩, .lookup ⟨256⟩]).perform
        (.lookup ⟨512⟩)).state
      first.bits = 2 ∧ first.shift = 7 ∧ first.counts = ⟨0, 4, 3, 1⟩ ∧
      first.Unmissed later (first.run later) ∧ (first.run later).Serves ⟨512⟩ := by
  intro config later
  have created := (create_eq_ok_iff 1 config .arrival _).2 ⟨by decide, by cbv, by decide, rfl⟩
  have counted :
      let cache := fresh 1 config .arrival
      let first := ((cache.run [.lookup ⟨256⟩, .lookup ⟨512⟩, .lookup ⟨256⟩]).perform
        (.lookup ⟨512⟩)).state
      (cache.run [.lookup ⟨256⟩, .lookup ⟨512⟩, .lookup ⟨256⟩]).counts.rehashes = 0 ∧
        first.bits = 2 ∧ first.shift = 7 ∧ first.counts = ⟨0, 4, 3, 1⟩ ∧
        first.store.tokens = [⟨256⟩, ⟨512⟩] := by
    unfold config
    cbv
  generalize fresh 1 config .arrival = cache at created counted
  obtain ⟨never, bits, shift, counts, tokens⟩ := counted
  have stops := separable_tokens_stop_missing 1 config .arrival cache created
    [.lookup ⟨256⟩, .lookup ⟨512⟩, .lookup ⟨256⟩] (.lookup ⟨512⟩)
    (by rw [never, counts]; decide) (by rw [tokens, bits]; exact ⟨7, by decide, by decide⟩)
    later (by rw [tokens]; simp [later, Request.Familiar])
  exact ⟨cache, created, bits, shift, counts, stops.1, stops.2 ⟨512⟩ (by rw [tokens]; simp)⟩

end Cache

end Typecase
