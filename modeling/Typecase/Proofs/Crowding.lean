import Typecase.Proofs.Layouts

/-! A cache rehashes by itself only when the collisions since the last rehash outnumber what its
configuration puts up with for each slot. So every rehash is paid for by collisions of its own. And
once a rehash has found the best layout, the cache keeps it until it meets a new token. -/

namespace Typecase

namespace Cache

namespace Request

/-- The token that a request makes known to the store. -/
def subject? : Request → Option Token
  | .lookup token | .settle token _ => some token
  | .peek _ | .rehash => none

def isLookup : Request → Bool
  | .lookup _ => true
  | .settle .. | .peek _ | .rehash => false

/-- A request of everyday use: it looks no zero token up, reports no record without an answer and
does not rehash by hand. -/
def Routine : Request → Prop
  | .lookup token => token ≠ .empty
  | .settle _ record => record.isUnresolved = false
  | .peek _ => True
  | .rehash => False

instance : (request : Request) → Decidable request.Routine
  | .lookup token => inferInstanceAs (Decidable (token ≠ .empty))
  | .settle _ record => inferInstanceAs (Decidable (record.isUnresolved = false))
  | .peek _ => .isTrue trivial
  | .rehash => .isFalse id

theorem Routine.telling {request : Request} (routine : request.Routine) : request.Telling := by
  cases request with
  | settle token record => exact routine
  | _ => trivial

end Request

/-- Nothing happened to the layout of a cache, nor to what it remembers of its rehashes. -/
structure Calm (before after : Cache) : Prop where
  config : after.config = before.config
  bits : after.bits = before.bits
  shift : after.shift = before.shift
  exhaustedAt : after.exhaustedAt = before.exhaustedAt
  rehashes : after.counts.rehashes = before.counts.rehashes

section Requests
variable (cache : Cache)

/-- A request is calm, or it is a calm change with a rehash after it. That rehash was asked for or
the cache was crowded, and no token arrives afterwards. -/
theorem perform_cases (request : Request) :
    (request ≠ .rehash ∧ cache.Calm (cache.perform request).state) ∨
    ∃ ready : Cache, cache.Calm ready ∧ (request = .rehash ∨ ready.isCrowded = true) ∧
      ready.rehash.Calm (cache.perform request).state ∧
      (cache.perform request).state.store = ready.store := by
  cases request with
  | lookup token =>
    by_cases present : (cache.resident token).token = token
    · refine Or.inl ⟨by simp, ?_⟩
      change cache.Calm (cache.lookup token).cache
      rw [lookup_hit cache token present]
      exact ⟨rfl, rfl, rfl, rfl, rfl⟩
    · change (_ ∧ cache.Calm (cache.lookup token).cache) ∨ ∃ ready : Cache, _ ∧ _ ∧
        ready.rehash.Calm (cache.lookup token).cache ∧ (cache.lookup token).cache.store = _
      rw [lookup_miss_cache cache token present, readied]
      by_cases crowded : (cache.missed token).isCrowded = true
      · rw [if_pos crowded]
        exact Or.inr ⟨cache.missed token, ⟨rfl, rfl, rfl, rfl, rfl⟩, Or.inr crowded,
          ⟨rfl, rfl, rfl, rfl, rfl⟩, rfl⟩
      · rw [if_neg crowded]
        exact Or.inl ⟨by simp, rfl, rfl, rfl, rfl, rfl⟩
  | settle token record =>
    refine Or.inl ⟨by simp, ?_⟩
    change cache.Calm (cache.report token record).state
    rcases cache.report_cases token record with ⟨_, -, report⟩ | ⟨_, -, report⟩
    · rw [report]
      exact ⟨rfl, rfl, rfl, rfl, rfl⟩
    · rw [report]
      exact ⟨rfl, rfl, rfl, rfl, rfl⟩
  | peek token => exact Or.inl ⟨by simp, rfl, rfl, rfl, rfl, rfl⟩
  | rehash =>
    exact Or.inr ⟨cache, ⟨rfl, rfl, rfl, rfl, rfl⟩, Or.inl rfl, ⟨rfl, rfl, rfl, rfl, rfl⟩, rfl⟩

theorem mem_tokens_perform (faithful : cache.Faithful .exact) (request : Request)
    (routine : request.Routine) (other : Token) :
    other ∈ (cache.perform request).state.store.tokens ↔
      other ∈ cache.store.tokens ∨ request.subject? = some other := by
  cases request with
  | lookup token =>
    change other ∈ (cache.lookup token).cache.store.tokens ↔ _ ∨ some token = some other
    rw [Option.some.injEq, eq_comm (a := token)]
    by_cases present : (cache.resident token).token = token
    · have known : token ∈ cache.store.tokens := by
        rcases faithful token present with stored | ⟨zero, -⟩
        · exact cache.store.mem_tokens_of_get? token _ stored
        · exact absurd zero routine
      rw [lookup_hit cache token present, store_countHit]
      exact ⟨Or.inl, fun either => either.elim id fun same => same ▸ known⟩
    · rw [lookup_miss_cache cache token present, store_occupy, store_readied]
      exact cache.store.mem_tokens_fetch_iff token other
  | settle token record =>
    change other ∈ (cache.report token record).state.store.tokens ↔ _ ∨ some token = some other
    rw [Option.some.injEq, eq_comm (a := token)]
    rcases cache.report_cases token record with ⟨fault, refused, report⟩ | ⟨store, accepted, report⟩
    · have known : token ∈ cache.store.tokens := by
        obtain ⟨stored, settled, -⟩ := (Store.settle_error_iff ..).1 refused
        have found := ((Store.ledger_eq_some_iff ..).1 settled).1
        exact cache.store.mem_tokens_of_get? token stored found
      rw [report]
      exact ⟨Or.inl, fun either => either.elim id fun same => same ▸ known⟩
    · rw [report]
      exact cache.store.mem_tokens_settle_iff store token other record routine accepted
  | peek token => simp [perform, Request.subject?]
  | rehash => cases routine

end Requests

/-- Every rehash has used up more collisions than the threshold allows for the smallest table, and
the pressure counts those that no rehash has used up yet. -/
structure Charged (cache : Cache) : Prop where
  paid : cache.counts.rehashes * (cache.config.rehashThreshold * slotsOf cache.config.minBits + 1) +
    cache.pressure ≤ cache.counts.collisions
  collided : cache.counts.collisions ≤ cache.counts.misses
  forbidden : cache.config.rehashThreshold = 0 → cache.counts.rehashes = 0

section Charged
variable {cache : Cache}

theorem Charged.missed (charged : cache.Charged) (token : Token) :
    (cache.missed token).Charged := by
  obtain ⟨paid, collided, forbidden⟩ := charged
  have single : (if (cache.resident token).isVacant then 0 else 1) ≤ 1 := by split <;> decide
  refine ⟨?_, ?_, forbidden⟩
  · change _ + (cache.pressure + _) ≤ cache.counts.collisions + _
    rw [← Nat.add_assoc]
    exact Nat.add_le_add_right paid _
  · exact Nat.add_le_add collided single

/-- A cache that is crowded can pay for a rehash. -/
theorem Charged.rehash (charged : cache.Charged) (formed : cache.Formed)
    (crowded : cache.isCrowded = true) : cache.rehash.Charged := by
  obtain ⟨paid, collided, forbidden⟩ := charged
  simp only [isCrowded, Bool.and_eq_true, decide_eq_true_eq] at crowded
  obtain ⟨⟨allowed, -⟩, pressed⟩ := crowded
  have smallest : slotsOf cache.config.minBits ≤ cache.slotCount := by
    rw [slotCount, formed.full]
    exact Nat.pow_le_pow_right (by decide) formed.least
  have price : cache.config.rehashThreshold * slotsOf cache.config.minBits + 1 ≤ cache.pressure :=
    Nat.lt_of_le_of_lt (Nat.mul_le_mul_left _ smallest) pressed
  refine ⟨?_, collided, fun never => absurd never (Nat.ne_of_gt allowed)⟩
  change (cache.counts.rehashes + 1) * _ + 0 ≤ cache.counts.collisions
  rw [Nat.succ_mul]
  exact Nat.le_trans (Nat.add_le_add_left price _) paid

theorem Charged.lookup (charged : cache.Charged) (formed : cache.Formed) (token : Token) :
    (cache.lookup token).cache.Charged := by
  by_cases present : (cache.resident token).token = token
  · rw [lookup_hit cache token present]
    exact ⟨charged.paid, charged.collided, charged.forbidden⟩
  · have readied : (cache.readied token).Charged := by
      unfold Cache.readied
      split
      next crowded => exact (charged.missed token).rehash (cache.formed_missed formed token) crowded
      next => exact charged.missed token
    rw [lookup_miss_cache cache token present]
    exact ⟨readied.paid, readied.collided, readied.forbidden⟩

theorem Charged.report (charged : cache.Charged) (token : Token) (record : Record) :
    (cache.report token record).state.Charged := by
  rcases cache.report_cases token record with ⟨_, -, report⟩ | ⟨_, -, report⟩
  · rw [report]
    exact charged
  · rw [report]
    exact ⟨charged.paid, charged.collided, charged.forbidden⟩

theorem Charged.perform (charged : cache.Charged) (formed : cache.Formed) (request : Request)
    (routine : request.Routine) : (cache.perform request).state.Charged := by
  cases request with
  | lookup token => exact charged.lookup formed token
  | settle token record => exact charged.report token record
  | peek token => exact charged
  | rehash => cases routine

end Charged

/-- The counters and the size of a cache after a run, told from its requests. -/
structure Amortised (config : Config) (requests : List Request) (cache : Cache) : Prop where
  lookups : cache.counts.hits + cache.counts.misses = requests.countP Request.isLookup
  size : cache.size = (requests.filterMap Request.subject?).toFinset.card
  paid : cache.counts.rehashes * (config.rehashThreshold * slotsOf config.minBits + 1) ≤
    cache.counts.collisions
  collided : cache.counts.collisions ≤ cache.counts.misses
  forbidden : config.rehashThreshold = 0 → cache.counts.rehashes = 0

/-- What a run of everyday requests keeps. -/
structure Tracked (config : Config) (requests : List Request) (cache : Cache) : Prop where
  formed : cache.Formed
  exactly : cache.Faithful .exact
  configured : cache.config = config
  charged : cache.Charged
  lookups : cache.counts.lookups = requests.countP Request.isLookup
  known : ∀ token, token ∈ cache.store.tokens ↔ token ∈ requests.filterMap Request.subject?

theorem lookups_perform (cache : Cache) (request : Request) :
    (cache.perform request).state.counts.lookups =
      cache.counts.lookups + if request.isLookup then 1 else 0 := by
  cases request with
  | lookup token => exact cache.lookups_lookup token
  | settle token record => exact congrArg CacheCounts.lookups (cache.counts_report token record)
  | peek token => rfl
  | rehash => rfl

theorem config_perform (cache : Cache) (request : Request) :
    (cache.perform request).state.config = cache.config := by
  rcases cache.perform_cases request with ⟨-, calm⟩ | ⟨ready, before, -, after, -⟩
  · exact calm.config
  · exact after.config.trans before.config

theorem config_run (cache : Cache) (requests : List Request) :
    (cache.run requests).config = cache.config :=
  Step.run_keeps (fun state => state.config = cache.config) perform cache requests rfl
    fun request _ state before => (state.config_perform request).trans before

theorem Tracked.perform {config : Config} {requests : List Request} {cache : Cache}
    (tracked : cache.Tracked config requests) (request : Request) (routine : request.Routine) :
    (cache.perform request).state.Tracked config (requests ++ [request]) where
  formed := cache.formed_perform tracked.formed request
  exactly := exact_perform cache tracked.formed tracked.exactly request routine.telling
  configured := (cache.config_perform request).trans tracked.configured
  charged := tracked.charged.perform tracked.formed request routine
  lookups := by
    rw [lookups_perform, tracked.lookups, List.countP_append, List.countP_singleton]
  known token := by
    rw [cache.mem_tokens_perform tracked.exactly request routine, tracked.known,
      List.filterMap_append, List.mem_append]
    simp

theorem tracked_run (hint : Nat) (config : Config) (backing : Backing) (valid : config.Valid)
    (requests : List Request) (routine : ∀ request ∈ requests, request.Routine) :
    ((fresh hint config backing).run requests).Tracked config requests := by
  refine Step.run_follows (fun done cache => (∀ request ∈ done, request.Routine) →
    cache.Tracked config done) perform _ requests (fun _ => ?_) ?_ routine
  · exact ⟨formed_fresh hint config backing valid, faithful_fresh hint config backing .exact, rfl,
      ⟨by simp [fresh], Nat.le_refl _, fun _ => rfl⟩, rfl, fun token => by
        simp [fresh, Store.empty, Store.tokens]⟩
  · intro done request cache before allowed
    simp only [List.forall_mem_append, List.forall_mem_singleton] at allowed
    exact (before allowed.1).perform request allowed.2

theorem Tracked.amortised {config : Config} {requests : List Request} {cache : Cache}
    (tracked : cache.Tracked config requests) : cache.Amortised config requests := by
  obtain ⟨-, -, rfl, charged, lookups, known⟩ := tracked
  have used : cache.store.tokens.toFinset = (requests.filterMap Request.subject?).toFinset := by
    ext token
    rw [List.mem_toFinset, List.mem_toFinset, known]
  have distinct : cache.store.tokens.Nodup := cache.store.distinct
  refine ⟨lookups, ?_, ?_, charged.collided, charged.forbidden⟩
  · rw [← used, List.toFinset_card_of_nodup distinct]
    exact cache.store.length_tokens.symm
  · exact Nat.le_trans (Nat.le_add_right _ _) charged.paid

/-- A cache that another rehash would leave as it is. At the largest size it remembers that. -/
structure Balanced (cache : Cache) : Prop where
  bits : cache.rehashedBits = cache.bits
  shift : cache.rehashedShift = cache.shift
  exhausted : cache.bits = cache.config.maxBits → cache.exhaustedAt = some cache.size

section Balanced
variable {cache later : Cache}

theorem balanced_rehash (cache : Cache) : cache.rehash.Balanced := by
  have bits : cache.rehash.rehashedBits = cache.rehash.bits := by
    change min cache.config.maxBits (max cache.rehashedBits (cache.config.bitsFor cache.size)) =
      cache.rehashedBits
    unfold rehashedBits
    omega
  refine ⟨bits, ?_, fun largest => if_pos largest⟩
  have cheapest := cheapest_bestShift cache.store.tokens cache.rehash.bits cache.rehash.shift
    cache.config.maxShift
  rw [rehashedShift, bits]
  exact cheapest.stays fun shift inside =>
    cache.rehashed_rehash.least shift (Nat.le_of_lt_succ inside)

theorem size_eq_of_tokens_eq (same : later.store.tokens = cache.store.tokens) :
    later.size = cache.size := by
  rw [Cache.size, Cache.size, ← Store.length_tokens, ← Store.length_tokens, same]

/-- A calm change without a new token keeps the balance. -/
theorem Balanced.calm (balanced : cache.Balanced) (calm : cache.Calm later)
    (same : later.store.tokens = cache.store.tokens) : later.Balanced := by
  have bits : later.rehashedBits = cache.rehashedBits := by
    rw [rehashedBits, rehashedBits, calm.config, calm.bits, size_eq_of_tokens_eq same]
  refine ⟨?_, ?_, fun largest => ?_⟩
  · rw [bits, balanced.bits, calm.bits]
  · rw [rehashedShift, bits, same, calm.config, calm.shift]
    exact balanced.shift
  · rw [calm.bits, calm.config] at largest
    rw [calm.exhaustedAt, size_eq_of_tokens_eq same, balanced.exhausted largest]

/-- At the largest size a balanced cache does not rehash by itself. -/
theorem Balanced.not_crowded (balanced : cache.Balanced)
    (largest : cache.bits = cache.config.maxBits) : cache.isCrowded = false := by
  simp [isCrowded, balanced.exhausted largest]

/-- The cache after requests that brought no new token: its layout is the one it had, and at the
largest size it rehashed only when it was asked to. -/
structure Rests (requests : List Request) (before after : Cache) : Prop where
  balanced : after.Balanced
  config : after.config = before.config
  tokens : after.store.tokens = before.store.tokens
  bits : after.bits = before.bits
  shift : after.shift = before.shift
  rehashes : before.bits = before.config.maxBits →
    after.counts.rehashes = before.counts.rehashes + requests.count .rehash

theorem Balanced.perform (balanced : cache.Balanced) (request : Request)
    (same : (cache.perform request).state.store.tokens = cache.store.tokens) :
    cache.Rests [request] (cache.perform request).state := by
  rcases cache.perform_cases request with ⟨other, calm⟩ | ⟨ready, before, reason, after, stored⟩
  · refine ⟨balanced.calm calm same, calm.config, same, calm.bits, calm.shift, fun _ => ?_⟩
    rw [calm.rehashes, List.count_singleton, if_neg (by simpa using other)]
    rfl
  · have known : ready.store.tokens = cache.store.tokens := by rw [← same, stored]
    have readyBalanced := balanced.calm before known
    refine ⟨(balanced_rehash ready).calm after (by rw [stored]; rfl),
      after.config.trans before.config, same, ?_, ?_, fun largest => ?_⟩
    · exact after.bits.trans (readyBalanced.bits.trans before.bits)
    · exact after.shift.trans (readyBalanced.shift.trans before.shift)
    · rcases reason with rfl | crowded
      · exact after.rehashes.trans (congrArg (· + 1) before.rehashes)
      · rw [← before.bits, ← before.config] at largest
        rw [readyBalanced.not_crowded largest] at crowded
        cases crowded

/-- A rehash, on whatever occasion, leaves a balanced cache behind. -/
theorem balanced_perform (cache : Cache) (request : Request)
    (rehashed : cache.counts.rehashes < (cache.perform request).state.counts.rehashes) :
    (cache.perform request).state.Balanced := by
  rcases cache.perform_cases request with ⟨-, calm⟩ | ⟨ready, -, -, after, stored⟩
  · rw [calm.rehashes] at rehashed
    exact absurd rehashed (Nat.lt_irrefl _)
  · exact (balanced_rehash ready).calm after (congrArg Store.tokens stored)

theorem Rests.trans {first second third : Cache} {earlier later : List Request}
    (before : first.Rests earlier second) (after : second.Rests later third) :
    first.Rests (earlier ++ later) third where
  balanced := after.balanced
  config := after.config.trans before.config
  tokens := after.tokens.trans before.tokens
  bits := after.bits.trans before.bits
  shift := after.shift.trans before.shift
  rehashes largest := by
    have still : second.bits = second.config.maxBits := by
      rw [before.bits, before.config, largest]
    rw [after.rehashes still, before.rehashes largest, List.count_append, Nat.add_assoc]

/-- As long as no new token arrives, a balanced cache rests. -/
theorem Balanced.run (balanced : cache.Balanced) (requests : List Request)
    (same : (cache.run requests).size = cache.size) :
    cache.Rests requests (cache.run requests) := by
  induction requests using List.reverseRecOn with
  | nil => exact ⟨balanced, rfl, rfl, rfl, rfl, fun _ => rfl⟩
  | append_singleton earlier request ih =>
    rw [run_append] at same ⊢
    change ((cache.run earlier).perform request).state.size = cache.size at same
    change cache.Rests _ ((cache.run earlier).perform request).state
    -- The tokens can only grow, so if there are as many at the end, no step added one.
    have grown := (cache.tokens_run earlier).length_le
    have last := (cache.run earlier).tokens_perform request
    have grownLast := last.length_le
    simp only [Store.length_tokens] at grown grownLast
    unfold Cache.size at ih same
    have rests := ih (by omega)
    have still := last.eq_of_length (by rw [Store.length_tokens, Store.length_tokens]; omega)
    exact rests.trans (rests.balanced.perform request still.symm)

end Balanced

/-- The same layout with the same number of conflicts. -/
structure SameLayout (before after : Cache) : Prop where
  bits : after.bits = before.bits
  shift : after.shift = before.shift
  conflicting : conflicts after.store.tokens after.bits after.shift =
    conflicts before.store.tokens before.bits before.shift

theorem Rests.sameLayout {requests : List Request} {before after : Cache}
    (rests : before.Rests requests after) : before.SameLayout after :=
  ⟨rests.bits, rests.shift, by rw [rests.tokens, rests.bits, rests.shift]⟩

/-- Over any everyday run each rehash is paid for by collisions, and each collision is a miss of its
own. Once a request has set off a rehash, then as long as no new token arrives the layout stays,
also through another rehash, and at the largest size a rehash runs only when it is asked for. -/
theorem rehashes_amortised_and_settle (hint : Nat) (config : Config) (backing : Backing)
    (cache : Cache) (created : Cache.create hint config backing = .ok cache) :
    (∀ requests : List Request, (∀ request ∈ requests, request.Routine) →
      (cache.run requests).Amortised config requests) ∧
    ∀ (earlier : List Request) (request : Request) (later : List Request),
      let first := ((cache.run earlier).perform request).state
      let last := first.run later
      (cache.run earlier).counts.rehashes < first.counts.rehashes →
      last.size = first.size →
      (first.bits = config.maxBits →
        last.counts.rehashes = first.counts.rehashes + later.count .rehash) ∧
      first.SameLayout last ∧ last.SameLayout last.rehash := by
  obtain ⟨valid, -, -, rfl⟩ := (create_eq_ok_iff hint config backing cache).1 created
  constructor
  · intro requests routine
    exact (tracked_run hint config backing valid requests routine).amortised
  · intro earlier request later first last rehashed same
    have configured : first.config = config :=
      (config_perform _ request).trans (config_run _ earlier)
    have balanced : first.Balanced := balanced_perform _ request rehashed
    have rests := balanced.run later same
    have again := rests.balanced.perform .rehash rfl
    refine ⟨fun largest => rests.rehashes ?_, rests.sameLayout, again.sameLayout⟩
    rw [configured, largest]

/-- Two tokens take turns in the only slot. The second collision sets off a rehash, which cannot
tell them apart, and although they go on to collide there is no other. -/
theorem rehashes_amortised_and_settle_one_slot :
    let config :=
      { Config.default with minBits := 0, maxBits := 0, maxShift := 8, rehashThreshold := 1 }
    let turn := [Request.lookup ⟨256⟩, .lookup ⟨512⟩]
    ∃ cache, Cache.create 1 config .arrival = .ok cache ∧
      (cache.run (turn ++ turn ++ turn)).Amortised config (turn ++ turn ++ turn) ∧
      let first := ((cache.run turn).perform (.lookup ⟨256⟩)).state
      let last := first.run (.lookup ⟨512⟩ :: turn)
      first.counts.rehashes = 1 ∧ last.counts.rehashes = 1 ∧ last.counts.collisions = 5 ∧
      first.SameLayout last ∧ last.SameLayout last.rehash := by
  intro config turn
  have created := (create_eq_ok_iff 1 config .arrival _).2 ⟨by decide, by cbv, by decide, rfl⟩
  have counted :
      let cache := fresh 1 config .arrival
      let first := ((cache.run turn).perform (.lookup ⟨256⟩)).state
      let last := first.run (.lookup ⟨512⟩ :: turn)
      (cache.run turn).counts.rehashes = 0 ∧ first.counts.rehashes = 1 ∧ first.bits = 0 ∧
        last.counts.collisions = 5 ∧ last.size = first.size := by
    unfold turn config
    cbv
  generalize fresh 1 config .arrival = cache at created counted
  obtain ⟨never, once, largest, collided, same⟩ := counted
  obtain ⟨amortised, settles⟩ := rehashes_amortised_and_settle 1 config .arrival cache created
  obtain ⟨quiet, layouts⟩ := settles turn (.lookup ⟨256⟩) (.lookup ⟨512⟩ :: turn)
    (by rw [never, once]; decide) same
  refine ⟨cache, created, amortised _ (by decide), once, ?_, collided, layouts⟩
  rw [quiet largest, once]
  rfl

end Cache

end Typecase
