import Typecase.Proofs.FirstWrite
import Typecase.Memory

/-! What a memory answers, and what it is left with. Its slot cache comes into being on the
first use, which never shows: before, it settles nothing, and from then on the cache means
what the memory has settled. -/

namespace Typecase

namespace Memory

/-- What the memory has settled. Without a cache that is nothing. -/
def ledger (memory : Memory) : Ledger :=
  match memory.cache with
  | some cache => cache.store.ledger
  | none => .blank

/-- A memory whose cache can be made when it is needed and means what it has settled. -/
structure Sound (memory : Memory) : Prop where
  valid : memory.config.Valid
  creatable : memory.config.enabled = true →
    ∃ cache, Cache.create memory.hint memory.config memory.backing = .ok cache
  means : ∀ cache, memory.cache = some cache → cache.Means memory.ledger

@[simp] theorem ledger_withCache (memory : Memory) (cache : Cache) :
    (memory.withCache cache).ledger = cache.store.ledger := rfl

theorem sound_withCache (memory : Memory) (sound : memory.Sound) (cache : Cache)
    (ledger : Ledger) (means : cache.Means ledger) : (memory.withCache cache).Sound where
  valid := sound.valid
  creatable := sound.creatable
  means other same := by
    cases same
    exact ⟨means.formed, means.faithful, rfl⟩

/-- The cache that the next use finds: the one at hand, or else a fresh one. -/
def ready (memory : Memory) : Cache :=
  memory.cache.getD (.fresh memory.hint memory.config memory.backing)

/-- What a use logs if it has to make the cache first. -/
def creation (memory : Memory) : List Event :=
  if memory.cache.isNone then
    [.creatingCache memory.hint (memory.config.bitsFor memory.hint)]
  else []

theorem means_ready_of (memory : Memory) (valid : memory.config.Valid)
    (means : ∀ cache, memory.cache = some cache → cache.Means memory.ledger) :
    memory.ready.Means memory.ledger := by
  cases held : memory.cache with
  | some cache =>
    simp only [ready, held, Option.getD_some]
    exact means cache held
  | none =>
    simp only [ready, ledger, held, Option.getD_none]
    exact Cache.means_fresh memory.hint memory.config memory.backing valid

theorem means_ready (memory : Memory) (sound : memory.Sound) :
    memory.ready.Means memory.ledger :=
  memory.means_ready_of sound.valid sound.means

theorem counts_ready (memory : Memory) : memory.ready.counts = memory.cacheCounts := by
  cases held : memory.cache <;> simp only [ready, cacheCounts, held] <;> rfl

/-- Where the cache is not there and cannot be made, a use fails as its making does. -/
theorem onCache_unmade {α : Type} (memory : Memory) (valid : memory.config.Valid)
    (unused : memory.cache = none)
    (never : ¬∃ cache, Cache.create memory.hint memory.config memory.backing = .ok cache)
    (use : Cache → Step Fault Cache α) :
    ∃ fault events, Cache.create memory.hint memory.config memory.backing = .error (.fault fault) ∧
      memory.onCache use = ⟨.error fault, memory, events⟩ := by
  have created : Cache.create memory.hint memory.config memory.backing =
      (Cache.sized memory.hint memory.config memory.backing).mapError .fault := by
    rw [Cache.create, (memory.config.check_eq_ok_iff).2 valid]
  cases sized : Cache.sized memory.hint memory.config memory.backing with
  | ok cache =>
    rw [sized] at created
    exact absurd ⟨cache, created⟩ never
  | error fault =>
    rw [sized] at created
    cases chosen : memory.config.checkedBitsFor memory.hint with
    | error overflow =>
      obtain rfl : overflow = fault := by
        rw [Cache.sized, chosen] at sized
        exact Except.error.inj sized
      exact ⟨overflow, [], created, by simp only [onCache, unused, chosen]⟩
    | ok bits =>
      exact ⟨fault, _, created, by simp only [onCache, unused, chosen, sized]; rfl⟩

/-- A use fails only if the cache cannot be made, and then changes nothing. -/
theorem onCache_cases {α : Type} (memory : Memory) (valid : memory.config.Valid)
    (use : Cache → Step Fault Cache α) :
    (¬(∃ cache, Cache.create memory.hint memory.config memory.backing = .ok cache) ∧
      ∃ fault events, memory.onCache use = ⟨.error fault, memory, events⟩) ∨
    memory.onCache use = ((use memory.ready).embed memory.withCache).after memory.creation := by
  cases held : memory.cache with
  | some cache =>
    right
    simp [onCache, ready, creation, held]
  | none =>
    by_cases creatable : ∃ cache, Cache.create memory.hint memory.config memory.backing = .ok cache
    · right
      obtain ⟨cache, created⟩ := creatable
      obtain ⟨-, room, capacity, rfl⟩ := (Cache.create_eq_ok_iff _ _ _ cache).1 created
      have sized := (Cache.sized_eq_ok_iff _ _ _ _ valid).2 ⟨room, capacity, rfl⟩
      have chosen := memory.config.checkedBitsFor_of_room valid memory.hint room
      simp [onCache, ready, creation, held, chosen, sized]
    · left
      obtain ⟨fault, events, -, failed⟩ := memory.onCache_unmade valid held creatable use
      exact ⟨creatable, fault, events, failed⟩

theorem onCache_eq {α : Type} (memory : Memory) (sound : memory.Sound)
    (enabled : memory.config.enabled = true) (use : Cache → Step Fault Cache α) :
    memory.onCache use = ((use memory.ready).embed memory.withCache).after memory.creation :=
  (memory.onCache_cases sound.valid use).resolve_left fun failed =>
    failed.1 (sound.creatable enabled)

/-- The memory once a token was looked up in its cache. -/
def consulted (memory : Memory) (token : Token) : Memory :=
  memory.withCache (memory.ready.lookup token).cache

/-- The memory once a record was reported to its cache. -/
def informed (memory : Memory) (token : Token) (record : Record) : Memory :=
  memory.withCache (memory.ready.report token record).state

/-- An enabled memory chooses what it has settled. -/
theorem choose_enabled (memory : Memory) (sound : memory.Sound)
    (enabled : memory.config.enabled = true) (token : Token) :
    memory.choose token = ⟨.ok (memory.ledger token), memory.consulted token,
      memory.creation ++ (memory.ready.lookup token).events⟩ := by
  rw [← Cache.settled?_lookup _ _ (memory.means_ready sound) token]
  simp only [choose, if_pos enabled, onCache_eq memory sound enabled]
  rfl

theorem report_held (memory : Memory) (enabled : memory.config.enabled = true) (cache : Cache)
    (held : memory.cache = some cache) (token : Token) (record : Record) :
    memory.report token record = (cache.report token record).embed memory.withCache := by
  simp only [report, if_pos enabled, onCache, held]

/-- An enabled memory refuses to change a settled record and stays as it was. -/
theorem report_conflict (memory : Memory) (enabled : memory.config.enabled = true)
    (token : Token) (record stored : Record) (known : memory.ledger token = some stored)
    (telling : record.isUnresolved = false) (different : stored ≠ record) :
    memory.report token record =
      ⟨.error (.settledConflict token stored record), memory, []⟩ := by
  cases held : memory.cache with
  | none =>
    simp only [ledger, held] at known
    cases known
  | some cache =>
    simp only [ledger, held] at known
    have refused := (cache.report_error_iff token record _).2
      ⟨stored, known, telling, different, rfl⟩
    have same : memory.withCache cache = memory := by
      unfold withCache
      rw [← held]
    rw [report_held memory enabled cache held]
    rcases cache.report_cases token record with ⟨_, -, report⟩ | ⟨_, -, report⟩
    · rw [report] at refused ⊢
      cases refused
      exact congrArg (fun state => Step.mk _ state []) same
    · rw [report] at refused
      cases refused

/-- An enabled memory accepts every report that changes no settled record. -/
theorem report_enabled (memory : Memory) (sound : memory.Sound)
    (enabled : memory.config.enabled = true) (token : Token) (record : Record)
    (peaceful : ¬memory.ledger.Conflict token record) :
    memory.report token record = ⟨.ok (), memory.informed token record,
      memory.creation ++ (memory.ready.report token record).events⟩ := by
  have refused := Cache.report_error _ _ (memory.means_ready sound) token record
  simp only [report, if_pos enabled, onCache_eq memory sound enabled]
  cases result : (memory.ready.report token record).result with
  | error fault => exact absurd (refused.1 ⟨fault, result⟩) peaceful
  | ok answer =>
    simp only [Step.embed, Step.after, result]
    rfl

theorem sound_consulted (memory : Memory) (sound : memory.Sound) (token : Token) :
    (memory.consulted token).Sound :=
  sound_withCache memory sound _ _
    (Cache.means_lookup _ _ (memory.means_ready sound) token)

theorem sound_informed (memory : Memory) (sound : memory.Sound) (token : Token)
    (record : Record) : (memory.informed token record).Sound :=
  sound_withCache memory sound _ _
    (Cache.means_report _ _ (memory.means_ready sound) token record)

/-- Choosing settles nothing. -/
theorem ledger_consulted (memory : Memory) (sound : memory.Sound) (token : Token) :
    (memory.consulted token).ledger = memory.ledger :=
  (Cache.means_lookup _ _ (memory.means_ready sound) token).ledger_eq

theorem ledger_informed (memory : Memory) (sound : memory.Sound) (token : Token)
    (record : Record) :
    (memory.informed token record).ledger = memory.ledger.settle token record :=
  (Cache.means_report _ _ (memory.means_ready sound) token record).ledger_eq

/-- What was unknown when it was looked up can be reported. -/
theorem report_unknown (memory : Memory) (sound : memory.Sound)
    (enabled : memory.config.enabled = true) (token : Token)
    (unknown : memory.ledger token = none) (record : Record) :
    (memory.consulted token).report token record =
      ⟨.ok (), (memory.consulted token).informed token record, []⟩ := by
  have peaceful : ¬(memory.consulted token).ledger.Conflict token record := by
    simp [memory.ledger_consulted sound, Ledger.Conflict, unknown]
  rw [(memory.consulted token).report_enabled (memory.sound_consulted sound token) enabled token
    record peaceful, Cache.events_report]
  rfl

theorem lookups_consulted (memory : Memory) (token : Token) :
    (memory.consulted token).cacheCounts.lookups = memory.cacheCounts.lookups + 1 := by
  rw [← memory.counts_ready]
  exact memory.ready.lookups_lookup token

theorem cacheCounts_informed (memory : Memory) (token : Token) (record : Record) :
    (memory.informed token record).cacheCounts = memory.cacheCounts := by
  rw [← memory.counts_ready]
  exact memory.ready.counts_report token record

theorem cache_reportBehind (memory : Memory) (token : Token) (after : Nat) (record : Record) :
    (memory.reportBehind token after record).cache = memory.cache := by
  unfold reportBehind
  split <;> rfl

theorem ledger_reportBehind (memory : Memory) (token : Token) (after : Nat) (record : Record) :
    (memory.reportBehind token after record).ledger = memory.ledger := by
  unfold reportBehind
  split <;> rfl

theorem sound_reportBehind (memory : Memory) (sound : memory.Sound) (token : Token)
    (after : Nat) (record : Record) : (memory.reportBehind token after record).Sound := by
  unfold reportBehind
  split <;> exact ⟨sound.valid, sound.creatable, sound.means⟩

theorem continuation?_reportBehind (memory : Memory) (enabled : memory.config.enabled = true)
    (token other : Token) (after behind : Nat) (record : Record) :
    (memory.reportBehind token after record).continuation? other behind =
      if other = token ∧ behind = after then
        some ((memory.continuation? token after).getD record)
      else memory.continuation? other behind := by
  cases known : memory.continuation? token after with
  | some stored =>
    simp only [reportBehind, enabled, known, Option.isNone_some, Bool.and_false,
      Bool.false_eq_true, ↓reduceIte, Option.getD_some]
    split
    next same => rw [same.1, same.2, known]
    next => rfl
  | none =>
    simp only [reportBehind, enabled, known, Option.isNone_none, Bool.and_self, ↓reduceIte,
      Option.getD_none]
    simp only [continuation?, Option.map_eq_none_iff] at known
    by_cases same : other = token ∧ behind = after
    · obtain ⟨rfl, rfl⟩ := same
      simp [continuation?, known]
    · have unlike : (token == other && after == behind) = false := by
        rw [Bool.and_eq_false_iff, beq_eq_false_iff_ne, beq_eq_false_iff_ne]
        by_contra equal
        push Not at equal
        exact same ⟨equal.1.symm, equal.2.symm⟩
      rw [if_neg same]
      simp [continuation?, unlike]

end Memory

end Typecase
