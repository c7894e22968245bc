import Typecase.Proofs.Slots

/-! What one operation on a cache does, seen from the outside: which record it answers with,
what it settles, and that it leaves a cache of the same shape whose slots still agree with
its store. Runs of operations follow from that by induction. -/

namespace Typecase

/-- How many look-ups were counted. -/
def CacheCounts.lookups (counts : CacheCounts) : Nat := counts.hits + counts.misses

namespace Cache

theorem Formed.congr {cache other : Cache} (formed : cache.Formed)
    (config : other.config = cache.config) (slots : other.slots = cache.slots)
    (bits : other.bits = cache.bits) (shift : other.shift = cache.shift) : other.Formed := by
  cases cache
  cases other
  cases config
  cases slots
  cases bits
  cases shift
  exact ⟨formed.valid, formed.full, formed.least, formed.most, formed.shifted, formed.placed⟩

/-- The cache once a miss is counted and the store has met the token. -/
def missed (cache : Cache) (token : Token) : Cache :=
  { cache.countMiss (cache.resident token) with store := (cache.store.fetch token).2 }

/-- The cache in which a missed token takes its slot: rehashed if it had grown crowded. -/
def readied (cache : Cache) (token : Token) : Cache :=
  if (cache.missed token).isCrowded then (cache.missed token).rehash else cache.missed token

theorem lookup_hit (cache : Cache) (token : Token)
    (present : (cache.resident token).token = token) :
    cache.lookup token = ⟨(cache.resident token).record, cache.countHit, []⟩ :=
  if_pos present

theorem lookup_miss (cache : Cache) (token : Token)
    (absent : (cache.resident token).token ≠ token) :
    cache.lookup token =
      if (cache.missed token).isCrowded then
        ⟨(cache.store.fetch token).1,
          (cache.missed token).rehash.occupy token (cache.store.fetch token).1,
          [.slotMiss token (cache.slotNumber token) (cache.resident token).token,
            (cache.missed token).rehashEvent]⟩
      else
        ⟨(cache.store.fetch token).1,
          (cache.missed token).occupy token (cache.store.fetch token).1,
          [.slotMiss token (cache.slotNumber token) (cache.resident token).token]⟩ :=
  if_neg absent

theorem lookup_miss_record (cache : Cache) (token : Token)
    (absent : (cache.resident token).token ≠ token) :
    (cache.lookup token).record = (cache.store.fetch token).1 := by
  rw [lookup_miss cache token absent]
  split <;> rfl

theorem lookup_miss_cache (cache : Cache) (token : Token)
    (absent : (cache.resident token).token ≠ token) :
    (cache.lookup token).cache =
      (cache.readied token).occupy token (cache.store.fetch token).1 := by
  rw [lookup_miss cache token absent, readied]
  by_cases crowded : (cache.missed token).isCrowded = true
  · simp only [if_pos crowded]
  · simp only [if_neg crowded]

theorem formed_missed (cache : Cache) (formed : cache.Formed) (token : Token) :
    (cache.missed token).Formed := formed.congr rfl rfl rfl rfl

theorem formed_readied (cache : Cache) (formed : cache.Formed) (token : Token) :
    (cache.readied token).Formed := by
  have missed := cache.formed_missed formed token
  unfold readied
  split
  next => exact formed_rehash _ missed
  next => exact missed

theorem store_readied (cache : Cache) (token : Token) :
    (cache.readied token).store = (cache.store.fetch token).2 := by
  unfold readied
  split <;> rfl

theorem bits_le_readied (cache : Cache) (formed : cache.Formed) (token : Token) :
    cache.bits ≤ (cache.readied token).bits := by
  unfold readied
  split
  next => exact (cache.missed token).bits_le_rehashedBits (cache.formed_missed formed token)
  next => exact Nat.le_refl _

theorem formed_lookup (cache : Cache) (formed : cache.Formed) (token : Token) :
    (cache.lookup token).cache.Formed := by
  by_cases present : (cache.resident token).token = token
  · rw [lookup_hit cache token present]
    exact formed.congr rfl rfl rfl rfl
  · rw [lookup_miss_cache cache token present]
    exact formed_occupy _ (cache.formed_readied formed token) _ _

theorem ledger_lookup (cache : Cache) (token : Token) :
    (cache.lookup token).cache.store.ledger = cache.store.ledger := by
  by_cases present : (cache.resident token).token = token
  · rw [lookup_hit cache token present]
    rfl
  · rw [lookup_miss_cache cache token present, store_occupy, store_readied,
      Store.ledger_fetch]

/-- Before the missed token takes its slot, all others still agree with the store. -/
theorem agreesAt_readied (agreement : Agreement) (cache : Cache)
    (faithful : cache.Faithful agreement) (token other : Token) (different : other ≠ token) :
    (cache.readied token).AgreesAt agreement other := by
  unfold readied
  split
  next => exact faithful_rehash agreement _ other
  next =>
    intro present
    have unchanged : (cache.store.fetch token).2.get? other = cache.store.get? other := by
      rw [Store.get?_fetch, if_neg different]
    change agreement.holds other ((cache.store.fetch token).2.get? other)
      (cache.resident other).record
    rw [unchanged]
    exact faithful other present

theorem faithful_lookup (agreement : Agreement) (cache : Cache) (formed : cache.Formed)
    (faithful : cache.Faithful agreement) (token : Token) :
    (cache.lookup token).cache.Faithful agreement := by
  by_cases present : (cache.resident token).token = token
  · rw [lookup_hit cache token present]
    exact faithful
  · rw [lookup_miss_cache cache token present]
    apply faithful_occupy agreement _ (cache.formed_readied formed token)
    · rw [store_readied, Store.get?_fetch, if_pos rfl]
      exact agreement.stored ..
    · exact fun other different => agreesAt_readied agreement cache faithful token other different

/-- The answer to a look-up agrees with what the store says afterwards. -/
theorem lookup_agrees (agreement : Agreement) (cache : Cache)
    (faithful : cache.Faithful agreement) (token : Token) :
    agreement.holds token ((cache.lookup token).cache.store.get? token)
      (cache.lookup token).record := by
  by_cases present : (cache.resident token).token = token
  · rw [lookup_hit cache token present]
    exact faithful token present
  · rw [lookup_miss_record cache token present, lookup_miss_cache cache token present,
      store_occupy, store_readied, Store.get?_fetch, if_pos rfl]
    exact agreement.stored ..

/-- A report is refused with nothing changed, or the store accepts it and the token takes
its slot with what the store then says. -/
theorem report_cases (cache : Cache) (token : Token) (record : Record) :
    (∃ fault, cache.store.settle token record = .error fault ∧
      cache.report token record = ⟨.error fault, cache, []⟩) ∨
    ∃ store, cache.store.settle token record = .ok store ∧
      cache.report token record = ⟨.ok (),
        { cache with store := store }.occupy token ((store.get? token).getD record), []⟩ := by
  cases outcome : cache.store.settle token record with
  | error fault => exact Or.inl ⟨fault, rfl, by simp [report, settle, outcome, bind, Except.bind]⟩
  | ok store =>
    exact Or.inr ⟨store, rfl, by
      simp [report, settle, outcome, bind, Except.bind, pure, Except.pure]⟩

/-- A report is never logged. -/
theorem events_report (cache : Cache) (token : Token) (record : Record) :
    (cache.report token record).events = [] := by
  rcases cache.report_cases token record with ⟨_, -, report⟩ | ⟨_, -, report⟩ <;> rw [report]

theorem report_error_iff (cache : Cache) (token : Token) (record : Record) (fault : Fault) :
    (cache.report token record).result = .error fault ↔
      ∃ stored, cache.store.ledger token = some stored ∧ record.isUnresolved = false ∧
        stored ≠ record ∧ fault = .settledConflict token stored record := by
  rw [← Store.settle_error_iff]
  rcases cache.report_cases token record with ⟨_, refused, report⟩ | ⟨_, accepted, report⟩
  · simp [report, refused]
  · simp [report, accepted]

theorem report_error_state (cache : Cache) (token : Token) (record : Record) (fault : Fault)
    (refused : (cache.report token record).result = .error fault) :
    (cache.report token record).state = cache := by
  rcases cache.report_cases token record with ⟨_, -, report⟩ | ⟨_, -, report⟩
  · rw [report]
  · rw [report] at refused
    cases refused

theorem formed_report (cache : Cache) (formed : cache.Formed) (token : Token)
    (record : Record) : (cache.report token record).state.Formed := by
  rcases cache.report_cases token record with ⟨_, -, report⟩ | ⟨store, -, report⟩
  · rw [report]
    exact formed
  · rw [report]
    have shaped : { cache with store := store }.Formed := formed.congr rfl rfl rfl rfl
    exact formed_occupy _ shaped _ _

theorem ledger_report (cache : Cache) (token : Token) (record : Record) :
    (cache.report token record).state.store.ledger = cache.store.ledger.settle token record := by
  rcases cache.report_cases token record with ⟨fault, refused, report⟩ | ⟨store, accepted, report⟩
  · obtain ⟨stored, known, -⟩ := (Store.settle_error_iff ..).1 refused
    rw [report, Ledger.settle_of_known _ _ _ stored known]
  · rw [report, store_occupy, Store.ledger_settle _ _ _ _ accepted]

theorem faithful_report (agreement : Agreement) (cache : Cache) (formed : cache.Formed)
    (faithful : cache.Faithful agreement) (token : Token) (record : Record)
    (unknown : record.isUnresolved = true → agreement.holds token none record) :
    (cache.report token record).state.Faithful agreement := by
  rcases cache.report_cases token record with ⟨_, -, report⟩ | ⟨store, accepted, report⟩
  · rw [report]
    exact faithful
  rw [report]
  have shaped : { cache with store := store }.Formed := formed.congr rfl rfl rfl rfl
  have after (other : Token) := Store.get?_settle _ _ _ other _ accepted
  apply faithful_occupy agreement _ shaped
  · change agreement.holds token (store.get? token) ((store.get? token).getD record)
    cases known : store.get? token with
    | some stored => exact agreement.stored ..
    | none =>
      apply unknown
      by_contra telling
      rw [after, if_pos ⟨rfl, by simpa using telling⟩] at known
      cases known
  · intro other different present
    change agreement.holds other (store.get? other) (cache.resident other).record
    rw [after, if_neg (fun both => different both.1)]
    exact faithful other present

theorem lookups_lookup (cache : Cache) (token : Token) :
    (cache.lookup token).cache.counts.lookups = cache.counts.lookups + 1 := by
  by_cases present : (cache.resident token).token = token
  · rw [lookup_hit cache token present]
    exact Nat.add_right_comm ..
  · rw [lookup_miss_cache cache token present]
    unfold readied
    split <;> rfl

theorem counts_report (cache : Cache) (token : Token) (record : Record) :
    (cache.report token record).state.counts = cache.counts := by
  rcases cache.report_cases token record with ⟨_, -, report⟩ | ⟨_, -, report⟩
  · rw [report]
  · rw [report]
    rfl

end Cache

end Typecase
