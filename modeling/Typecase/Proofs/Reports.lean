import Typecase.Proofs.Sides

/-! A site asks its strategy first and reports to it what a probe found. But a strategy may be asked
and told in any order, and then an open one is a pair of maps in which what came first stays: the
first settled record reported for a token, and the first record reported for a token behind a case.
Neither map shows in the other, and neither does the cache that is made on the way. -/

namespace Typecase

variable {τ : Type}

namespace Strategy

/-- What a strategy may be asked or told. That no case applies to a value is told like any other
outcome, by the record that says so. -/
inductive Request (τ : Type) where
  | choose (value : Value τ)
  | report (value : Value τ) (record : Record)
  | chooseBehind (value : Value τ) (after : Nat)
  | reportBehind (value : Value τ) (after : Nat) (record : Record)
  | peek (token : Token)
  | counts

inductive Reply where
  | choice (record : Option Record)
  | known (record : Option Record)
  | counted (counts : CacheCounts)
  | done
  deriving DecidableEq

namespace Request

/-- Whether a request is about answers behind a case. -/
def isBehind : Request τ → Bool
  | chooseBehind .. | reportBehind .. => true
  | choose _ | report .. | peek _ | counts => false

/-- The settled record that a request reports for a token. -/
def reported? (request : Request τ) (token : Token) : Option Record :=
  match request with
  | report value record => if value.token = token then record.settled? else none
  | choose _ | chooseBehind .. | reportBehind .. | peek _ | counts => none

/-- The record that a request reports for a token behind a case. -/
def continued? (request : Request τ) (token : Token) (after : Nat) : Option Record :=
  match request with
  | reportBehind value behind record =>
    if token = value.token ∧ after = behind then some record else none
  | choose _ | report .. | chooseBehind .. | peek _ | counts => none

end Request

/-- What the requests settle each token to: the first settled record reported for it. -/
def firstReports (requests : List (Request τ)) : Ledger := fun token =>
  requests.findSome? (·.reported? token)

def firstContinuation (requests : List (Request τ)) (token : Token) (after : Nat) :
    Option Record :=
  requests.findSome? (·.continued? token after)

theorem firstReports_concat (requests : List (Request τ)) (request : Request τ) (token : Token) :
    firstReports (requests ++ [request]) token =
      (firstReports requests token).or (request.reported? token) := by
  simp [firstReports, List.findSome?_append]

theorem firstContinuation_concat (requests : List (Request τ)) (request : Request τ)
    (token : Token) (after : Nat) :
    firstContinuation (requests ++ [request]) token after =
      (firstContinuation requests token after).or (request.continued? token after) := by
  simp [firstContinuation, List.findSome?_append]

/-- What a request makes of a memory: it adds what it reports, unless something was known there
before. -/
structure Hears (request : Request τ) (memory later : Memory) : Prop where
  sound : later.Sound
  config : later.config = memory.config
  settled : ∀ token, later.ledger token = (memory.ledger token).or (request.reported? token)
  continued : ∀ token after, later.continuation? token after =
    (memory.continuation? token after).or (request.continued? token after)

/-- An enabled memory after the requests, whatever they were: it has settled what was reported
first, and keeps behind each case what was reported first there. -/
structure Told (requests : List (Request τ)) (memory : Memory) : Prop where
  sound : memory.Sound
  enabled : memory.config.enabled = true
  settled : memory.ledger = firstReports requests
  continued : memory.continuation? = firstContinuation requests

theorem Told.hears {requests : List (Request τ)} {memory later : Memory}
    (told : Told requests memory) {request : Request τ} (hears : Hears request memory later) :
    Told (requests ++ [request]) later where
  sound := hears.sound
  enabled := hears.config ▸ told.enabled
  settled := by
    funext token
    rw [hears.settled, told.settled, firstReports_concat]
  continued := by
    funext token after
    rw [hears.continued, told.continued, firstContinuation_concat]

section Hearing
variable (memory : Memory) (sound : memory.Sound)
include sound

theorem hears_nothing (request : Request τ) (unreported : ∀ token, request.reported? token = none)
    (uncontinued : ∀ token after, request.continued? token after = none) :
    Hears request memory memory where
  sound := sound
  config := rfl
  settled token := by rw [unreported, Option.or_none]
  continued token after := by rw [uncontinued, Option.or_none]

variable (enabled : memory.config.enabled = true)
include enabled

/-- A report that changes no settled record is accepted, and any other leaves everything as it was.
Either way the memory has settled what the map would. -/
theorem hears_report (value : Value τ) (record : Record) :
    Hears (.report value record) memory (memory.report value.token record).state := by
  have told (token : Token) := memory.ledger.settle_apply value.token token record
  by_cases conflict : memory.ledger.Conflict value.token record
  · obtain ⟨telling, stored, known, different⟩ := conflict
    have settled : record.isUnresolved = false := by simpa [Record.isUnresolved] using telling
    have same := Ledger.settle_of_known _ _ record stored known
    rw [memory.report_conflict enabled _ record stored known settled different]
    exact ⟨sound, rfl, fun token => (congrFun same token).symm.trans (told token),
      fun _ _ => (Option.or_none).symm⟩
  · rw [memory.report_enabled sound enabled _ record conflict]
    refine ⟨memory.sound_informed sound _ _, rfl, fun token => ?_,
      fun _ _ => (Option.or_none).symm⟩
    rw [memory.ledger_informed sound]
    exact told token

theorem hears_reportBehind (value : Value τ) (after : Nat) (record : Record) :
    Hears (.reportBehind value after record) memory
      (memory.reportBehind value.token after record) where
  sound := memory.sound_reportBehind sound _ _ _
  config := by
    unfold Memory.reportBehind
    split <;> rfl
  settled token := by
    rw [memory.ledger_reportBehind]
    exact (Option.or_none).symm
  continued token behind := by
    rw [memory.continuation?_reportBehind enabled, Request.continued?]
    by_cases own : token = value.token ∧ behind = after
    · rw [if_pos own, if_pos own, own.1, own.2]
      cases memory.continuation? value.token after <;> rfl
    · rw [if_neg own, if_neg own, Option.or_none]

end Hearing

variable [DecidableEq τ]

def perform (strategy : Strategy τ) : Request τ → Step Fault (Strategy τ) Reply
  | .choose value =>
    let chosen := strategy.choose value
    ⟨chosen.result.map .choice, chosen.state, chosen.events⟩
  | .report value record =>
    let reported := strategy.report value record
    ⟨reported.result.map fun _ => .done, reported.state, reported.events⟩
  | .chooseBehind value after =>
    let chosen := strategy.chooseBehind value after
    ⟨.ok (.choice chosen.1), strategy, chosen.2⟩
  | .reportBehind value after record =>
    ⟨.ok .done, strategy.reportBehind value after record, []⟩
  | .peek token => ⟨.ok (.known (strategy.known? token)), strategy, []⟩
  | .counts => ⟨.ok (.counted strategy.cacheCounts), strategy, []⟩

/-- The strategy after a run of requests. A refused report does not end the run. -/
def run (strategy : Strategy τ) (requests : List (Request τ)) : Strategy τ :=
  Step.run perform strategy requests

/-- The requests of a run, each with what it was answered. -/
def replies (strategy : Strategy τ) (requests : List (Request τ)) :
    List (Request τ × Except Fault Reply) :=
  Step.replies perform strategy requests

theorem choose_openWorld (memory : Memory) (sound : memory.Sound)
    (enabled : memory.config.enabled = true) (value : Value τ) :
    (openWorld memory).choose value =
      ⟨.ok (memory.ledger value.token), openWorld (memory.consulted value.token),
        memory.creation ++ (memory.ready.lookup value.token).events⟩ := by
  simp only [choose, memory.choose_enabled sound enabled]
  rfl

theorem hears_perform (memory : Memory) (sound : memory.Sound)
    (enabled : memory.config.enabled = true) (request : Request τ) :
    ∃ later, ((openWorld memory).perform request).state = openWorld later ∧
      Hears request memory later := by
  have nothing := hears_nothing memory sound request
  cases request with
  | choose value =>
    refine ⟨memory.consulted value.token, ?_, memory.sound_consulted sound _, rfl,
      fun token => ?_, fun _ _ => (Option.or_none).symm⟩
    · simp only [perform, choose_openWorld memory sound enabled]
    · rw [memory.ledger_consulted sound]
      exact (Option.or_none).symm
  | report value record => exact ⟨_, rfl, hears_report memory sound enabled value record⟩
  | chooseBehind value after => exact ⟨memory, rfl, nothing (fun _ => rfl) fun _ _ => rfl⟩
  | reportBehind value after record =>
    exact ⟨_, rfl, hears_reportBehind memory sound enabled value after record⟩
  | peek token => exact ⟨memory, rfl, nothing (fun _ => rfl) fun _ _ => rfl⟩
  | counts => exact ⟨memory, rfl, nothing (fun _ => rfl) fun _ _ => rfl⟩

theorem told_run (memory : Memory) (told : Told ([] : List (Request τ)) memory)
    (requests : List (Request τ)) :
    ∃ later, (openWorld memory).run requests = openWorld later ∧ Told requests later := by
  refine Step.run_follows (fun done strategy => ∃ later, strategy = openWorld later ∧
    Told done later) perform _ requests ⟨memory, rfl, told⟩ ?_
  rintro done request _ ⟨now, rfl, before⟩
  obtain ⟨later, state, hears⟩ := hears_perform now before.sound before.enabled request
  exact ⟨later, state, before.hears hears⟩

/-- A strategy that answers as the two maps of what was reported first. -/
structure Recites (requests : List (Request τ)) (strategy : Strategy τ) : Prop where
  chooses : ∀ value, (strategy.choose value).result = .ok (firstReports requests value.token)
  refuses : ∀ value record, (firstReports requests).Conflict value.token record →
    ∃ stored, firstReports requests value.token = some stored ∧
      strategy.report value record =
        ⟨.error (.settledConflict value.token stored record), strategy, []⟩
  accepts : ∀ value record, ¬(firstReports requests).Conflict value.token record →
    (strategy.report value record).result = .ok ()
  continues : ∀ value after,
    (strategy.chooseBehind value after).1 = firstContinuation requests value.token after
  knows : ∀ token, (strategy.known? token).bind Record.settled? = firstReports requests token

theorem Told.recites {requests : List (Request τ)} {memory : Memory}
    (told : Told requests memory) : Recites requests (openWorld memory) := by
  obtain ⟨sound, enabled, settled, continued⟩ := told
  refine ⟨fun value => ?_, fun value record conflict => ?_, fun value record peaceful => ?_,
    fun value after => ?_, fun token => ?_⟩
  · rw [choose_openWorld memory sound enabled, settled]
  · obtain ⟨telling, stored, known, different⟩ := conflict
    have refused := memory.report_conflict enabled value.token record stored (settled ▸ known)
      (by simpa [Record.isUnresolved] using telling) different
    exact ⟨stored, known, by simp only [report, refused]; rfl⟩
  · rw [← settled] at peaceful
    simp only [report, memory.report_enabled sound enabled _ record peaceful]
    rfl
  · simp only [chooseBehind, Memory.chooseBehind, if_pos enabled, continued]
  · rw [← settled]
    change (memory.known? token).bind Record.settled? = memory.ledger token
    cases held : memory.cache <;> simp only [Memory.known?, Memory.ledger, held] <;> rfl

/-- A strategy that never knows anything and refuses nothing: no request changes it, and it makes no
cache. -/
structure Oblivious (strategy : Strategy τ) : Prop where
  uncached : ∀ memory, strategy = openWorld memory → memory.cache = none
  accepts : ∀ request, ∃ reply, strategy.perform request = ⟨.ok reply, strategy, []⟩
  chooses : ∀ value, (strategy.choose value).result = .ok none
  continues : ∀ value after, (strategy.chooseBehind value after).1 = none
  knows : ∀ token, strategy.known? token = none

theorem oblivious_disabled (memory : Memory) (disabled : memory.config.enabled = false)
    (uncached : memory.cache = none) : Oblivious (openWorld memory : Strategy τ) := by
  have blind : ¬memory.config.enabled = true := by simp [disabled]
  have chosen (value : Value τ) :
      (openWorld memory).choose value = ⟨.ok none, openWorld memory, []⟩ := by
    simp only [choose, Memory.choose, if_neg blind, Step.embed]
  refine ⟨fun other same => ?_, fun request => ?_, fun value => ?_, fun value after => ?_,
    fun token => ?_⟩
  · cases same
    exact uncached
  · cases request with
    | choose value =>
      refine ⟨.choice none, ?_⟩
      simp only [perform, chosen]
      rfl
    | report value record =>
      refine ⟨.done, ?_⟩
      simp only [perform, report, Memory.report, if_neg blind, Step.embed]
      rfl
    | reportBehind value after record =>
      refine ⟨.done, ?_⟩
      simp [perform, reportBehind, Memory.reportBehind, disabled]
    | chooseBehind value after => exact ⟨_, rfl⟩
    | peek token => exact ⟨_, rfl⟩
    | counts => exact ⟨_, rfl⟩
  · rw [chosen]
  · simp only [chooseBehind, Memory.chooseBehind, if_neg blind]
  · simp only [known?, Memory.known?, uncached]
    rfl

theorem Oblivious.run {strategy : Strategy τ} (oblivious : Oblivious strategy)
    (requests : List (Request τ)) : strategy.run requests = strategy := by
  refine Step.run_keeps (· = strategy) perform strategy requests rfl fun request _ state same => ?_
  obtain ⟨reply, performed⟩ := oblivious.accepts request
  rw [same, performed]

/-- First answers are told from the first side of a strategy. -/
theorem side_first : Step.Side (perform (τ := τ)) (!·.isBehind) firstSide where
  result strategy request first := by
    cases request with
    | choose value => simp only [perform, strategy.choose_firstSide, Step.embed]
    | report value record => simp only [perform, strategy.report_firstSide, Step.embed]
    | peek token => cases strategy <;> rfl
    | counts => cases strategy <;> rfl
    | chooseBehind value after => cases first
    | reportBehind value after record => cases first
  next strategy request first := by
    cases request with
    | choose value =>
      simp only [perform, strategy.choose_firstSide, Step.embed, firstSide_firstSide]
    | report value record =>
      simp only [perform, strategy.report_firstSide, Step.embed, firstSide_firstSide]
    | peek token => exact strategy.firstSide_firstSide
    | counts => exact strategy.firstSide_firstSide
    | chooseBehind value after => cases first
    | reportBehind value after record => cases first
  still strategy request behind := by
    cases request with
    | chooseBehind value after => rfl
    | reportBehind value after record => exact strategy.firstSide_reportBehind ..
    | choose value => cases behind
    | report value record => cases behind
    | peek token => cases behind
    | counts => cases behind

/-- Answers behind a case are told from the other side. -/
theorem side_behind : Step.Side (perform (τ := τ)) Request.isBehind behindSide where
  result strategy request behind := by
    cases request with
    | chooseBehind value after => simp only [perform, strategy.chooseBehind_behindSide]
    | reportBehind value after record => rfl
    | choose value => cases behind
    | report value record => cases behind
    | peek token => cases behind
    | counts => cases behind
  next strategy request behind := by
    cases request with
    | chooseBehind value after => exact strategy.behindSide_behindSide
    | reportBehind value after record =>
      simp only [perform, strategy.behindSide_reportBehind, behindSide_behindSide]
    | choose value => cases behind
    | report value record => cases behind
    | peek token => cases behind
    | counts => cases behind
  still strategy request first := by
    cases request with
    | choose value => exact strategy.behindSide_choose value
    | report value record => exact strategy.behindSide_report value record
    | peek token => rfl
    | counts => rfl
    | chooseBehind value after => cases first
    | reportBehind value after record => cases first

/-- In whatever order an open strategy is asked and told, it answers by what was reported first.
With its cache enabled it refuses to change a settled record, passes over a second answer behind a
case, and what it is asked or told on one side shows nothing of the other: without the requests
about answers behind cases all others are answered the same, the counters of the cache among them,
and the other way round. With its cache disabled it knows nothing, ever. -/
theorem strategy_recites_first_reports (hint : Nat) (config : Config) (backing : Backing)
    (valid : config.Valid) :
    ∃ memory, Memory.create hint config backing = .ok memory ∧
      (config.enabled = true → (∃ cache, Cache.create hint config backing = .ok cache) →
        ∀ requests : List (Request τ),
          Recites requests ((openWorld memory).run requests) ∧
          ((replies (openWorld memory) requests).filter fun reply => !reply.1.isBehind) =
            replies (openWorld memory) (requests.filter (!·.isBehind)) ∧
          ((replies (openWorld memory) requests).filter fun reply => reply.1.isBehind) =
            replies (openWorld memory) (requests.filter (·.isBehind))) ∧
      (config.enabled = false → ∀ requests : List (Request τ),
        Oblivious ((openWorld memory).run requests)) := by
  refine ⟨⟨hint, config, backing, none, []⟩, ?_, fun enabled creatable requests => ?_,
    fun disabled requests => ?_⟩
  · rw [Memory.create, (config.check_eq_ok_iff).2 valid]
    rfl
  · have told : Told ([] : List (Request τ)) ⟨hint, config, backing, none, []⟩ :=
      ⟨⟨valid, fun _ => creatable, fun _ held => by cases held⟩, enabled, rfl, rfl⟩
    obtain ⟨later, state, now⟩ := told_run _ told requests
    refine ⟨state ▸ now.recites, ?_, ?_⟩
    · exact (side_first.run_filter requests _ _ rfl).2
    · exact (side_behind.run_filter requests _ _ rfl).2
  · have oblivious := oblivious_disabled (τ := τ) ⟨hint, config, backing, none, []⟩ disabled rfl
    rw [oblivious.run]
    exact oblivious

/-- Two types share the only slot. One is reported before it is asked about, the other is reported
twice and then refused a third time; behind a case the first of two answers stays. -/
theorem strategy_recites_first_reports_shared_slot :
    let config := { Config.default with minBits := 0, maxBits := 0 }
    let first : Value Nat := Layout.valueAt ⟨⟨16⟩, 0, "First", none, []⟩ 64
    let second : Value Nat := Layout.valueAt ⟨⟨24⟩, 1, "Second", none, []⟩ 96
    let requests : List (Request Nat) := [.report first .noMatch, .choose second,
      .reportBehind second 1 ⟨3, ⟨8⟩⟩, .report second ⟨2, .zero⟩, .report second ⟨2, .zero⟩,
      .reportBehind second 1 .noMatch]
    ∃ memory, Memory.create 1 config .arrival = .ok memory ∧
      let strategy := (openWorld memory).run requests
      (strategy.choose first).result = .ok (some .noMatch) ∧
      (strategy.choose second).result = .ok (some ⟨2, .zero⟩) ∧
      strategy.report second ⟨1, .zero⟩ =
        ⟨.error (.settledConflict ⟨24⟩ ⟨2, .zero⟩ ⟨1, .zero⟩), strategy, []⟩ ∧
      (strategy.chooseBehind second 1).1 = some ⟨3, ⟨8⟩⟩ := by
  intro config first second requests
  obtain ⟨memory, created, recites, -⟩ :=
    strategy_recites_first_reports (τ := Nat) 1 config .arrival (by decide)
  have creatable := (Cache.exists_create_iff 1 config .arrival).2 ⟨by decide, by cbv, by decide⟩
  obtain ⟨answers, -, -⟩ := recites rfl creatable requests
  obtain ⟨stored, known, refused⟩ := answers.refuses second ⟨1, .zero⟩
    ⟨by decide, ⟨2, .zero⟩, by decide, by decide⟩
  have same : stored = ⟨2, .zero⟩ := by
    have settled : firstReports requests second.token = some ⟨2, .zero⟩ := by decide
    exact Option.some.inj (known.symm.trans settled)
  refine ⟨memory, created, ?_, ?_, same ▸ refused, ?_⟩
  · rw [answers.chooses first]
    exact congrArg Except.ok (by decide)
  · rw [answers.chooses second]
    exact congrArg Except.ok (by decide)
  · rw [answers.continues second 1]
    decide

end Strategy

end Typecase
