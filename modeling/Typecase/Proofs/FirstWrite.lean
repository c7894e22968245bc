import Typecase.Proofs.CacheSteps
import Typecase.Proofs.FreshCache

/-! A cache means a map in which the first settled record of a token stays. Slots, evictions
and rehashes never show: whatever was asked of a cache before, it answers as the map that
only listened to the reports. -/

namespace Typecase

namespace Cache

inductive Request where
  | lookup (token : Token)
  | settle (token : Token) (record : Record)
  | peek (token : Token)
  | rehash
  deriving DecidableEq

inductive Reply where
  | record (record : Record)
  | known (record : Option Record)
  | done
  deriving DecidableEq

def perform (cache : Cache) : Request → Step Fault Cache Reply
  | .lookup token =>
    let found := cache.lookup token
    ⟨.ok (.record found.record), found.cache, found.events⟩
  | .settle token record =>
    let reported := cache.report token record
    ⟨reported.result.map fun _ => .done, reported.state, reported.events⟩
  | .peek token => ⟨.ok (.known (cache.known? token)), cache, []⟩
  | .rehash => ⟨.ok .done, cache.rehash, [cache.rehashEvent]⟩

/-- The cache after a run of requests. A refused report does not end the run. -/
def run (cache : Cache) (requests : List Request) : Cache :=
  Step.run perform cache requests

theorem run_nil (cache : Cache) : cache.run [] = cache := rfl

theorem run_append (cache : Cache) (earlier later : List Request) :
    cache.run (earlier ++ later) = (cache.run earlier).run later :=
  Step.run_append ..

end Cache

namespace Ledger
open Cache

def note (ledger : Ledger) : Request → Ledger
  | .settle token record => ledger.settle token record
  | .lookup _ | .peek _ | .rehash => ledger

def ofRequests (requests : List Request) : Ledger := requests.foldl note blank

/-- A report that would change a settled record. -/
def Conflict (ledger : Ledger) (token : Token) (record : Record) : Prop :=
  record.case ≠ unresolvedCase ∧ ∃ known, ledger token = some known ∧ known ≠ record

/-- What a cache that means this map may answer. -/
def Allows (ledger : Ledger) : Request → Except Fault Reply → Prop
  | .lookup token, result => ∃ record, result = .ok (.record record) ∧
      (∀ known, ledger token = some known → record = known) ∧
      (ledger token = none → record.case = unresolvedCase)
  | .peek token, result => ∃ found, result = .ok (.known found) ∧
      (∀ known, ledger token = some known → found = some known) ∧
      (ledger token = none → ∀ record, found = some record → record.case = unresolvedCase)
  | .settle token record, result =>
      (ledger.Conflict token record → ∃ fault, result = .error fault) ∧
      (¬ledger.Conflict token record → result = .ok .done)
  | .rehash, result => result = .ok .done

theorem ofRequests_append (earlier later : List Request) :
    ofRequests (earlier ++ later) = later.foldl note (ofRequests earlier) :=
  List.foldl_append

theorem foldl_note_keeps (ledger : Ledger) (requests : List Request) (token : Token)
    (record : Record) (settled : ledger token = some record) :
    requests.foldl note ledger token = some record := by
  induction requests generalizing ledger with
  | nil => exact settled
  | cons request rest ih =>
    apply ih
    cases request with
    | settle other offered => exact settle_keeps ledger other token offered record settled
    | _ => exact settled

/-- Whatever a token is settled to was reported for that very token. -/
theorem ofRequests_source (requests : List Request) (token : Token) (record : Record)
    (settled : ofRequests requests token = some record) :
    .settle token record ∈ requests := by
  have sources (rest : List Request) (ledger : Ledger)
      (known : rest.foldl note ledger token = some record) :
      ledger token = some record ∨ .settle token record ∈ rest := by
    induction rest generalizing ledger with
    | nil => exact Or.inl known
    | cons request rest ih =>
      rcases ih _ known with before | later
      · cases request with
        | settle other offered =>
          rcases settle_source ledger other token offered record before with old | ⟨rfl, rfl⟩
          · exact Or.inl old
          · exact Or.inr (List.mem_cons_self ..)
        | _ => exact Or.inl before
      · exact Or.inr (List.mem_cons_of_mem _ later)
  rcases sources requests blank settled with never | reported
  · cases never
  · exact reported

end Ledger

namespace Agreement

/-- A slot and the store agree on what a token is settled to. Either may say in its own way
that nothing is known. -/
def settled : Agreement where
  holds _ known record := record.settled? = known.bind Record.settled?
  stored _ _ := rfl
  vacant := rfl

end Agreement

namespace Cache

/-- The cache means the map: its shape is right, its slots agree with its store on what is
settled, and its store has settled what the map has. -/
structure Means (cache : Cache) (ledger : Ledger) : Prop where
  formed : cache.Formed
  faithful : cache.Faithful .settled
  ledger_eq : cache.store.ledger = ledger

theorem means_fresh (hint : Nat) (config : Config) (backing : Backing)
    (valid : config.Valid) : (fresh hint config backing).Means .blank where
  formed := formed_fresh hint config backing valid
  faithful := faithful_fresh hint config backing .settled
  ledger_eq := Store.ledger_empty

theorem means_lookup (cache : Cache) (ledger : Ledger) (means : cache.Means ledger)
    (token : Token) : (cache.lookup token).cache.Means ledger where
  formed := cache.formed_lookup means.formed token
  faithful := faithful_lookup _ cache means.formed means.faithful token
  ledger_eq := by rw [ledger_lookup, means.ledger_eq]

theorem means_report (cache : Cache) (ledger : Ledger) (means : cache.Means ledger)
    (token : Token) (record : Record) :
    (cache.report token record).state.Means (ledger.settle token record) where
  formed := cache.formed_report means.formed token record
  faithful := faithful_report _ cache means.formed means.faithful token record fun silent =>
    (record.settled?_eq_none_iff).2 silent
  ledger_eq := by rw [ledger_report, means.ledger_eq]

theorem means_rehash (cache : Cache) (ledger : Ledger) (means : cache.Means ledger) :
    cache.rehash.Means ledger where
  formed := cache.formed_rehash means.formed
  faithful := faithful_rehash _ cache
  ledger_eq := means.ledger_eq

theorem means_perform (cache : Cache) (ledger : Ledger) (means : cache.Means ledger)
    (request : Request) : (cache.perform request).state.Means (ledger.note request) := by
  cases request with
  | lookup token => exact means_lookup cache ledger means token
  | settle token record => exact means_report cache ledger means token record
  | peek token => exact means
  | rehash => exact means_rehash cache ledger means

theorem means_run (cache : Cache) (ledger : Ledger) (means : cache.Means ledger)
    (requests : List Request) : (cache.run requests).Means (requests.foldl .note ledger) :=
  List.foldl_rel means fun request _ _ _ before => means_perform _ _ before request

theorem settled?_lookup (cache : Cache) (ledger : Ledger) (means : cache.Means ledger)
    (token : Token) : (cache.lookup token).record.settled? = ledger token := by
  have agreed := lookup_agrees .settled cache means.faithful token
  change (cache.lookup token).record.settled? = (cache.lookup token).cache.store.ledger token
    at agreed
  rw [agreed, ledger_lookup, means.ledger_eq]

theorem report_error (cache : Cache) (ledger : Ledger) (means : cache.Means ledger)
    (token : Token) (record : Record) :
    (∃ fault, (cache.report token record).result = .error fault) ↔
      ledger.Conflict token record := by
  simp only [report_error_iff, means.ledger_eq, Ledger.Conflict, ne_eq, ← record.isUnresolved_iff,
    Bool.not_eq_true]
  constructor
  · rintro ⟨-, stored, known, telling, different, -⟩
    exact ⟨telling, stored, known, different⟩
  · rintro ⟨telling, stored, known, different⟩
    exact ⟨_, stored, known, telling, different, rfl⟩

/-- Every answer of a cache is one that its map allows. -/
theorem allows_perform (cache : Cache) (ledger : Ledger) (means : cache.Means ledger)
    (request : Request) : ledger.Allows request (cache.perform request).result := by
  cases request with
  | lookup token =>
    have answer := settled?_lookup cache ledger means token
    refine ⟨_, rfl, fun known settled => ?_, fun unknown => ?_⟩
    · rw [settled, Record.settled?_eq_some_iff] at answer
      exact answer.2
    · rw [unknown, Record.settled?_eq_none_iff, Record.isUnresolved_iff] at answer
      exact answer
  | peek token =>
    have known := congrFun means.ledger_eq token
    refine ⟨_, rfl, fun record settled => ?_, fun unknown record found => ?_⟩
    · exact ((Store.ledger_eq_some_iff ..).1 (known.trans settled)).1
    · have silent := (Store.ledger_eq_none_iff ..).1 (known.trans unknown)
      exact (record.isUnresolved_iff).1 (silent _ found)
  | settle token record =>
    have refused := report_error cache ledger means token record
    constructor
    · intro conflict
      obtain ⟨fault, result⟩ := refused.2 conflict
      exact ⟨fault, by simp [perform, result, Except.map]⟩
    · intro peaceful
      cases result : (cache.report token record).result with
      | error fault => exact absurd (refused.1 ⟨fault, result⟩) peaceful
      | ok answer => simp [perform, result, Except.map]
  | rehash => rfl

theorem perform_error_state (cache : Cache) (request : Request) (fault : Fault)
    (refused : (cache.perform request).result = .error fault) :
    (cache.perform request).state = cache := by
  cases request with
  | settle token record =>
    cases result : (cache.report token record).result with
    | error _ => exact report_error_state cache token record _ result
    | ok answer =>
      simp only [perform, result] at refused
      cases refused
  | _ => cases refused

theorem settled_lookup (cache : Cache) (ledger : Ledger) (means : cache.Means ledger)
    (token : Token) (telling : (cache.lookup token).record.isUnresolved = false) :
    ledger token = some (cache.lookup token).record := by
  rw [← settled?_lookup cache ledger means token, Record.settled?_eq_some_iff]
  exact ⟨telling, rfl⟩

/-- After any run of requests a cache answers as the map of the records that were reported
first. A refused report changes nothing, an answer for a token was reported for that very
token, and a settled answer stays for good. -/
theorem run_means_first_writes (hint : Nat) (config : Config) (backing : Backing)
    (cache : Cache) (created : Cache.create hint config backing = .ok cache)
    (requests : List Request) :
    (∀ request, (Ledger.ofRequests requests).Allows request
      ((cache.run requests).perform request).result) ∧
    (∀ request fault, ((cache.run requests).perform request).result = .error fault →
      ((cache.run requests).perform request).state = cache.run requests) ∧
    (∀ token, ((cache.run requests).lookup token).record.isUnresolved = false →
      .settle token ((cache.run requests).lookup token).record ∈ requests) ∧
    (∀ token later, ((cache.run requests).lookup token).record.isUnresolved = false →
      ((cache.run (requests ++ later)).lookup token).record =
        ((cache.run requests).lookup token).record) := by
  obtain ⟨valid, -, -, rfl⟩ := (create_eq_ok_iff hint config backing cache).1 created
  have means (requests : List Request) :
      ((fresh hint config backing).run requests).Means (.ofRequests requests) :=
    means_run _ .blank (means_fresh hint config backing valid) requests
  refine ⟨?_, ?_, ?_, ?_⟩
  · exact allows_perform _ _ (means requests)
  · exact perform_error_state _
  · intro token telling
    exact Ledger.ofRequests_source _ _ _ (settled_lookup _ _ (means requests) token telling)
  · intro token later telling
    have known := settled_lookup _ _ (means requests) token telling
    have kept := Ledger.foldl_note_keeps _ later _ _ known
    rw [← Ledger.ofRequests_append] at kept
    have answer := settled?_lookup _ _ (means (requests ++ later)) token
    rw [kept, Record.settled?_eq_some_iff] at answer
    exact answer.2

/-- Two tokens share the only slot. The zero token keeps its first record, and a second record
for the other one is refused. -/
theorem run_means_first_writes_shared_slot :
    ∃ cache,
      Cache.create 1 { Config.default with minBits := 0, maxBits := 0 } .arrival = .ok cache ∧
      ((cache.run [.settle ⟨0⟩ .noMatch, .lookup ⟨8⟩, .settle ⟨8⟩ ⟨1, .zero⟩]).perform
        (.lookup ⟨0⟩)).result = .ok (.record .noMatch) ∧
      ∃ fault, ((cache.run [.settle ⟨0⟩ .noMatch, .lookup ⟨8⟩, .settle ⟨8⟩ ⟨1, .zero⟩]).perform
        (.settle ⟨8⟩ ⟨2, .zero⟩)).result = .error fault := by
  obtain ⟨cache, created⟩ :=
    (exists_create_iff 1 { Config.default with minBits := 0, maxBits := 0 } .arrival).2
      ⟨by decide, by cbv, by decide⟩
  obtain ⟨allowed, -⟩ := run_means_first_writes _ _ _ cache created
    [.settle ⟨0⟩ .noMatch, .lookup ⟨8⟩, .settle ⟨8⟩ ⟨1, .zero⟩]
  refine ⟨cache, created, ?_, ?_⟩
  · obtain ⟨record, result, known, -⟩ := allowed (.lookup ⟨0⟩)
    rw [result, known .noMatch (by decide)]
  · exact (allowed (.settle ⟨8⟩ ⟨2, .zero⟩)).1 ⟨by decide, ⟨1, .zero⟩, by decide, by decide⟩

end Cache

end Typecase
