import Typecase.Proofs.Accounts
import Typecase.Proofs.Contents

/-! Every answer of a site is one that its candidates can give. Targets are rebuilt from records
that may have been kept in a slot, in the store, beside the cache or in a jump table, so the bounds
of all of these are kept along with those of the answers. -/

namespace Typecase

namespace Record

/-- A record that leads to one of so many cases behind `after`, or to none. -/
def Reaches (after count : Nat) (record : Record) : Prop :=
  record.case = noMatchCase ∨ (after < record.case ∧ record.case ≤ count)

section Reaches
variable {after count : Nat} {record : Record} (reaches : record.Reaches after count)
include reaches

theorem Reaches.settled : record.isUnresolved = false := by
  rw [Bool.eq_false_iff, ne_eq, isUnresolved_iff]
  unfold unresolvedCase
  rcases reaches with none | ⟨beyond, -⟩
  · rw [none]
    decide
  · omega

theorem Reaches.settled?_eq : record.settled? = some record :=
  (settled?_eq_some_iff record record).2 ⟨reaches.settled, rfl⟩

theorem Reaches.earlier (before : Nat) (le : before ≤ after) : record.Reaches before count :=
  reaches.imp_right fun ⟨beyond, inside⟩ => ⟨Nat.lt_of_le_of_lt le beyond, inside⟩

end Reaches

end Record

theorem reaches_noMatch (after count : Nat) : Record.noMatch.Reaches after count := Or.inl rfl

variable {τ : Type}

theorem reaches_probe [DecidableEq τ] (candidates : List (Candidate τ)) (value : Value τ)
    (after : Nat) : (probe candidates value after).record.Reaches after candidates.length := by
  unfold probe
  split
  next => exact reaches_noMatch ..
  next =>
    rcases Probe.run_cases value after (candidates.drop after) with
      ⟨index, candidate, view, place, -, -, found⟩ | ⟨-, found⟩
    · have inside := (List.getElem?_eq_some_iff.1 place).1
      rw [List.length_drop] at inside
      rw [found]
      right
      constructor
      · show after < after + index + 1
        omega
      · show after + index + 1 ≤ candidates.length
        omega
    · rw [found]
      exact reaches_noMatch ..

namespace Memory

/-- The cache leads to cases that there are, and each continuation to a case behind its own. -/
structure Bounded (count : Nat) (memory : Memory) : Prop where
  cached : ∀ cache, memory.cache = some cache →
    cache.Holds fun _ record => record.Reaches unresolvedCase count
  continued : ∀ known ∈ memory.continuations, known.record.Reaches known.after count

/-- A bounded memory whose cache, if there is one yet, means what it has settled. -/
structure Kept (count : Nat) (memory : Memory) : Prop extends Bounded count memory where
  valid : memory.config.Valid
  means : ∀ cache, memory.cache = some cache → cache.Means memory.ledger

namespace Kept

variable {count : Nat} {memory : Memory} (kept : memory.Kept count)
include kept

theorem means_ready : memory.ready.Means memory.ledger :=
  memory.means_ready_of kept.valid kept.means

theorem holds_ready :
    memory.ready.Holds fun _ record => record.Reaches unresolvedCase count := by
  cases held : memory.cache with
  | some cache =>
    simp only [Memory.ready, held, Option.getD_some]
    exact kept.cached cache held
  | none =>
    simp only [Memory.ready, held, Option.getD_none]
    exact Cache.holds_fresh ..

theorem withCache (cache : Cache) (ledger : Ledger) (means : cache.Means ledger)
    (holds : cache.Holds fun _ record => record.Reaches unresolvedCase count) :
    (memory.withCache cache).Kept count := by
  refine ⟨⟨fun other same => ?_, kept.continued⟩, kept.valid, fun other same => ?_⟩
  · cases same
    exact holds
  · cases same
    exact ⟨means.formed, means.faithful, rfl⟩

/-- After a look-up without an answer a report for the same token is accepted. -/
theorem report_consulted (enabled : memory.config.enabled = true) (token : Token)
    (unknown : (memory.ready.lookup token).record = .unresolved) (record : Record)
    (reaches : record.Reaches unresolvedCase count) :
    ∃ last, (memory.consulted token).report token record = ⟨.ok (), last, []⟩ ∧
      last.Kept count := by
  have means := kept.means_ready
  have later := Cache.means_lookup _ _ means token
  have unsettled : memory.ledger token = none := by
    rw [← Cache.settled?_lookup _ _ means token, unknown]
    rfl
  have peaceful : ¬memory.ledger.Conflict token record := by
    rintro ⟨-, known, stored, -⟩
    cases unsettled.symm.trans stored
  -- The look-up may have put the token into its slot without an answer. That one entry is out of
  -- bounds until it is overwritten here.
  have wide : memory.ready.Holds fun other record =>
      record.Reaches unresolvedCase count ∨ (other = token ∧ record = .unresolved) :=
    kept.holds_ready.mono fun _ _ fits => Or.inl fits
  have pending := wide.lookup means.formed token (Or.inr ⟨rfl, unknown⟩)
  have report := report_held (memory.consulted token) enabled _ rfl token record
  have refused := Cache.report_error _ _ later token record
  rcases Cache.report_cases (memory.ready.lookup token).cache token record with
    ⟨fault, -, outcome⟩ | ⟨store, -, outcome⟩
  · rw [outcome] at refused
    exact absurd (refused.1 ⟨fault, rfl⟩) peaceful
  · have accepted := congrArg Step.result outcome
    have last := Cache.means_report _ _ later token record
    have bounded := pending.report later.formed record reaches.settled reaches accepted
    rw [outcome] at report last bounded
    exact ⟨_, report, kept.withCache _ _ last bounded⟩

/-- Choosing fails without a change, or chooses a record within bounds, or leaves the choice to a
probe, whose outcome is then accepted. -/
theorem choose (token : Token) :
    (∃ fault events, memory.choose token = ⟨.error fault, memory, events⟩) ∨
    (∃ record later events, memory.choose token = ⟨.ok (some record), later, events⟩ ∧
      record.Reaches unresolvedCase count ∧ later.Kept count) ∨
    ∃ later events, memory.choose token = ⟨.ok none, later, events⟩ ∧
      ∀ record, record.Reaches unresolvedCase count → ∃ last,
        later.report token record = ⟨.ok (), last, []⟩ ∧ last.Kept count := by
  by_cases enabled : memory.config.enabled = true
  case neg =>
    refine Or.inr (Or.inr ⟨memory, [], if_neg enabled, fun record _ => ?_⟩)
    exact ⟨memory, if_neg enabled, kept⟩
  have chosen : memory.choose token = memory.onCache fun cache =>
      ⟨.ok (cache.lookup token).record.settled?, (cache.lookup token).cache,
        (cache.lookup token).events⟩ := if_pos enabled
  rw [chosen]
  rcases memory.onCache_cases kept.valid _ with ⟨-, failed⟩ | made
  · exact Or.inl failed
  right
  rw [made]
  rcases kept.holds_ready.looked token with unknown | reaches
  · right
    refine ⟨memory.consulted token, _, by rw [unknown]; rfl, fun record reaches => ?_⟩
    exact kept.report_consulted enabled token unknown record reaches
  · left
    have means := kept.means_ready
    have holds := kept.holds_ready.lookup means.formed token reaches
    refine ⟨_, memory.consulted token, _, by rw [reaches.settled?_eq]; rfl, reaches, ?_⟩
    exact kept.withCache _ _ (Cache.means_lookup _ _ means token) holds

theorem reportBehind (token : Token) (after : Nat) (record : Record)
    (reaches : record.Reaches after count) :
    (memory.reportBehind token after record).Kept count := by
  unfold Memory.reportBehind
  split
  next =>
    refine ⟨⟨kept.cached, fun known listed => ?_⟩, kept.valid, kept.means⟩
    rcases List.mem_append.1 listed with before | last
    · exact kept.continued known before
    · rw [List.mem_singleton.1 last]
      exact reaches
  next => exact kept

end Kept

theorem Bounded.chooseBehind {count : Nat} {memory : Memory} (bounded : memory.Bounded count)
    (token : Token) (after : Nat) (record : Record)
    (chosen : memory.chooseBehind token after = some record) : record.Reaches after count := by
  unfold Memory.chooseBehind at chosen
  split at chosen
  next =>
    obtain ⟨known, found, rfl⟩ := Option.map_eq_some_iff.1 chosen
    have own := List.find?_some found
    simp only [Bool.and_eq_true, beq_iff_eq] at own
    rw [← own.2]
    exact bounded.continued known (List.mem_of_find?_eq_some found)
  next => cases chosen

end Memory

namespace JumpTable

/-- Every listed case is one of so many. -/
def Bounded (count : Nat) (table : JumpTable τ) : Prop :=
  ∀ kind entry, table.get? kind = some entry →
    ∀ record ∈ entry.cases, record.Reaches unresolvedCase count

variable [DecidableEq τ]

theorem bounded_ofKinds (kinds : Kinds τ) (candidates : List (Candidate τ)) :
    (ofKinds kinds candidates).Bounded candidates.length := by
  intro kind entry found record listed
  rw [get?_ofKinds, Option.map_eq_some_iff] at found
  obtain ⟨member, -, rfl⟩ := found
  have bounds := case_mem_casesFrom member 0 candidates record listed
  rw [Nat.zero_add] at bounds
  exact Or.inr bounds

theorem Bounded.choose {count : Nat} {table : JumpTable τ} (bounded : table.Bounded count)
    (value : Value τ) (after : Nat) : (table.choose value after).1.Reaches after count := by
  have listed (kind : Nat) (entry : JumpEntry τ) (found : table.get? kind = some entry) :
      ((entry.cases.find? (after < ·.case)).getD .noMatch).Reaches after count := by
    cases chosen : entry.cases.find? (after < ·.case) with
    | none => exact reaches_noMatch ..
    | some record =>
      have beyond : after < record.case := by simpa using List.find?_some chosen
      have reaches := bounded kind entry found record (List.mem_of_find?_eq_some chosen)
      exact reaches.imp_right fun inside => ⟨beyond, inside.2⟩
  unfold JumpTable.choose entryFor
  cases value.kind with
  | none => exact reaches_noMatch ..
  | some kind =>
    cases found : table.get? kind with
    | none =>
      simp only [found]
      exact reaches_noMatch ..
    | some entry =>
      simp only [found]
      split
      next => exact listed kind entry found
      next => exact reaches_noMatch ..

end JumpTable

namespace Strategy

/-- Whatever the strategy remembers leads to cases that there are. -/
def Bounded (count : Nat) : Strategy τ → Prop
  | openWorld memory => memory.Bounded count
  | closedWorld table => table.Bounded count

/-- A bounded strategy whose memory, if it has one, is kept. -/
def Kept (count : Nat) : Strategy τ → Prop
  | openWorld memory => memory.Kept count
  | closedWorld table => table.Bounded count

namespace Kept

variable {count : Nat} {strategy : Strategy τ} (kept : strategy.Kept count)
include kept

theorem bounded : strategy.Bounded count := by
  cases strategy with
  | openWorld memory => exact Memory.Kept.toBounded kept
  | closedWorld table => exact kept

theorem reportBehind (value : Value τ) (after : Nat) (record : Record)
    (reaches : record.Reaches after count) :
    (strategy.reportBehind value after record).Kept count := by
  cases strategy with
  | openWorld memory => exact Memory.Kept.reportBehind kept value.token after record reaches
  | closedWorld table => exact kept

variable [DecidableEq τ]

theorem choose (value : Value τ) :
    (∃ fault events, strategy.choose value = ⟨.error fault, strategy, events⟩) ∨
    (∃ record later events, strategy.choose value = ⟨.ok (some record), later, events⟩ ∧
      record.Reaches unresolvedCase count ∧ later.Kept count) ∨
    ∃ later events, strategy.choose value = ⟨.ok none, later, events⟩ ∧
      ∀ record, record.Reaches unresolvedCase count → ∃ last,
        later.report value record = ⟨.ok (), last, []⟩ ∧ last.Kept count := by
  cases strategy with
  | openWorld memory =>
    simp only [Strategy.choose]
    rcases Memory.Kept.choose kept value.token with ⟨fault, events, failed⟩ |
      ⟨record, later, events, chosen, reaches, next⟩ | ⟨later, events, chosen, accepts⟩
    · rw [failed]
      exact Or.inl ⟨fault, events, rfl⟩
    · rw [chosen]
      exact Or.inr (Or.inl ⟨record, .openWorld later, events, rfl, reaches, next⟩)
    · rw [chosen]
      refine Or.inr (Or.inr ⟨.openWorld later, events, rfl, fun record reaches => ?_⟩)
      obtain ⟨last, accepted, next⟩ := accepts record reaches
      refine ⟨.openWorld last, ?_, next⟩
      simp only [report, accepted]
      rfl
  | closedWorld table =>
    exact Or.inr (Or.inl ⟨_, _, _, rfl, JumpTable.Bounded.choose kept value unresolvedCase, kept⟩)

theorem chooseBehind (value : Value τ) (after : Nat) (record : Record) (events : List Event)
    (chosen : strategy.chooseBehind value after = (some record, events)) :
    record.Reaches after count := by
  cases strategy with
  | openWorld memory =>
    exact (Memory.Kept.toBounded kept).chooseBehind value.token after record
      (congrArg Prod.fst chosen)
  | closedWorld table =>
    cases chosen
    exact JumpTable.Bounded.choose kept value after

end Kept

end Strategy

/-- A record within bounds leads to a candidate or says that there is no match. -/
theorem Site.candidate?_cases (site : Site τ) (few : site.candidates.length ≤ maxCases)
    (after : Nat) (record : Record) (reaches : record.Reaches after site.candidates.length) :
    (record.isResolved = false ∧ site.candidate? record.case = none) ∨
    (record.isResolved = true ∧ ∃ candidate, site.candidate? record.case = some candidate ∧
      site.candidates[record.case - 1]? = some candidate) := by
  have settled := reaches.settled
  rcases reaches with none | ⟨beyond, inside⟩
  · left
    constructor
    · simp [Record.isResolved, Record.isNoMatch, none]
    · rw [none]
      apply List.getElem?_eq_none
      unfold maxCases noMatchCase at few
      omega
  · right
    obtain ⟨position, case⟩ : ∃ position, record.case = position + 1 := ⟨record.case - 1, by omega⟩
    have unreserved : record.case ≠ noMatchCase := by
      unfold maxCases at few
      omega
    obtain ⟨candidate, present⟩ : ∃ candidate, site.candidates[position]? = some candidate :=
      ⟨_, List.getElem?_eq_getElem (by omega)⟩
    have matched : record.isResolved = true := by
      simp [Record.isResolved, Record.isNoMatch, settled, unreserved]
    refine ⟨matched, candidate, ?_, ?_⟩
    · rw [case]
      exact present
    · rw [case]
      exact present

variable [DecidableEq τ]

namespace Site

theorem kept_resolve (site : Site τ) (few : site.candidates.length ≤ maxCases)
    (kept : site.strategy.Kept site.candidates.length) (value : Value τ) :
    (site.resolve value).state.candidates = site.candidates ∧
    (site.resolve value).state.strategy.Kept site.candidates.length ∧
    ∀ dispatch, (site.resolve value).result = .ok dispatch → ∃ record,
      record.Reaches unresolvedCase site.candidates.length ∧
      dispatch = site.rebuild value record := by
  rcases kept.choose value with ⟨fault, events, failed⟩ |
    ⟨record, later, events, chosen, reaches, next⟩ | ⟨later, events, chosen, accepts⟩
  · have counted : site.countResolve.strategy.choose value =
        ⟨.error fault, site.strategy, events⟩ := failed
    simp only [resolve, counted]
    refine ⟨rfl, kept, fun _ answered => ?_⟩
    cases answered
  · rw [site.resolve_chosen value record later events chosen]
    refine ⟨rfl, next, fun dispatch answered => ⟨record, reaches, ?_⟩⟩
    exact (Except.ok.inj answered).symm
  · have reaches := reaches_probe site.candidates value unresolvedCase
    obtain ⟨last, reported, next⟩ := accepts _ reaches
    obtain ⟨result, state⟩ := site.resolve_probed value later last events [] chosen reported
    rw [result, state]
    refine ⟨?_, next, fun dispatch answered => ⟨_, reaches, ?_⟩⟩
    · unfold countOutcome
      split <;> rfl
    · rw [rebuild_probe site few]
      exact (Except.ok.inj answered).symm

theorem kept_answer (site : Site τ) (few : site.candidates.length ≤ maxCases)
    (kept : site.strategy.Kept site.candidates.length) (call : Call τ) :
    (site.answer call).state.candidates = site.candidates ∧
    (site.answer call).state.strategy.Kept site.candidates.length ∧
    ∀ dispatch, (site.answer call).result = .ok dispatch → ∃ record,
      record.Reaches call.after site.candidates.length ∧
      dispatch = site.rebuild call.value record := by
  rw [answer_eq]
  by_cases start : call.after = unresolvedCase
  · rw [start, resolveBehind_start]
    exact kept_resolve site few kept call.value
  by_cases outside : call.after = noMatchCase ∨ site.candidates.length ≤ call.after
  · rw [resolveBehind_outside site call.value call.after start outside]
    refine ⟨rfl, kept, fun dispatch answered => ⟨.noMatch, reaches_noMatch .., ?_⟩⟩
    exact (Except.ok.inj answered).symm
  rcases chosen : site.strategy.chooseBehind call.value call.after with ⟨record | record, events⟩
  · have reaches := reaches_probe site.candidates call.value call.after
    rw [resolveBehind_probed site call.value call.after events start outside chosen]
    refine ⟨rfl, kept.reportBehind call.value call.after _ reaches, fun dispatch answered =>
      ⟨_, reaches, ?_⟩⟩
    rw [rebuild_probe site few]
    exact (Except.ok.inj answered).symm
  · rw [resolveBehind_chosen site call.value call.after record events start outside chosen]
    refine ⟨rfl, kept, fun dispatch answered => ⟨record, ?_, ?_⟩⟩
    · exact kept.chooseBehind call.value call.after record events chosen
    · exact (Except.ok.inj answered).symm

end Site

section Runs
variable (plan : SitePlan τ) (site : Site τ) (created : Event)
  (built : plan.build = .ok (site, created)) (calls : List (Call τ))
include built

theorem kept_run : (site.run calls).candidates = plan.candidates ∧
    (site.run calls).strategy.Kept plan.candidates.length := by
  obtain ⟨few, valid, start⟩ := plan.build_cases site created built
  refine Step.run_keeps (fun state => state.candidates = plan.candidates ∧
    state.strategy.Kept plan.candidates.length) Site.answer site calls ?_
    fun call _ state before => ?_
  · rcases start with ⟨-, rfl⟩ | ⟨kinds, -, rfl⟩
    · refine ⟨rfl, ⟨⟨?_, ?_⟩, valid, ?_⟩⟩
      · intro _ held
        cases held
      · intro _ listed
        cases listed
      · intro _ held
        cases held
    · exact ⟨rfl, JumpTable.bounded_ofKinds kinds plan.candidates⟩
  · obtain ⟨among, kept⟩ := before
    rw [← among] at few kept ⊢
    obtain ⟨same, next, -⟩ := state.kept_answer few kept call
    exact ⟨same, next⟩

/-- Only a cache that cannot be made keeps a call from being answered. -/
theorem answers_run (creatable : plan.hierarchy = .openWorld → plan.settings.enabled = true →
      ∃ cache, Cache.create plan.expectedTypes plan.settings plan.backing = .ok cache)
    (call : Call τ) : ∃ dispatch, ((site.run calls).answer call).result = .ok dispatch := by
  have few := (plan.build_cases site created built).1
  by_cases asked : Asked plan.candidates.length call.after
  case neg =>
    rw [← (kept_run plan site created built calls).1] at asked
    exact ⟨_, congrArg Step.result ((site.run calls).answer_unasked call asked)⟩
  cases world : plan.hierarchy with
  | closedWorld kinds =>
    have tabled := (tagged_run plan site created built calls kinds world).tabled
    exact ⟨_, (tabled.answer_asked few call asked).1⟩
  | openWorld =>
    cases enabled : plan.settings.enabled with
    | false =>
      obtain ⟨among, ⟨memory, strategy, disabled, -⟩, -⟩ :=
        forgetful_run plan site created built calls world enabled
      rw [← among] at few asked
      exact ⟨_, ((site.run calls).answer_disabled few memory strategy call asked disabled).1⟩
    | true =>
      obtain ⟨among, attentive, -⟩ := recalls_run plan site created built
        ⟨world, enabled, creatable world enabled⟩ calls
      rw [← among] at few
      rcases (site.run calls).answer_cases few attentive call with ⟨-, same⟩ |
        ⟨-, record, -, answered, -⟩ | ⟨-, -, answered, -⟩
      · exact ⟨_, congrArg Step.result same⟩
      · exact ⟨_, answered⟩
      · exact ⟨_, answered⟩

end Runs

/-- A dispatch to one of the cases behind `after` with a target of the type of its candidate, or
to none without a target. -/
structure Dispatch.WellFormed (site : Site τ) (after : Nat) (dispatch : Dispatch τ) : Prop where
  reaches : dispatch.record.Reaches after site.candidates.length
  /-- Behind the reserved case the only answer is that there is no match. Its case is the reserved
  one as well and so not beyond `after`. -/
  beyond : after < noMatchCase → after < dispatch.case
  target : dispatch.target.isSome = dispatch.isMatch
  typed : ∀ view, dispatch.target = some view →
    (site.candidate? dispatch.case).map Candidate.type = some view.type
  offered : ∀ type, (dispatch.get? type).isSome = true ↔
    (site.candidate? dispatch.case).map Candidate.type = some type

/-- Whatever value it is rebuilt for, a record within bounds makes a well-formed dispatch. -/
theorem Site.wellFormed_rebuild (site : Site τ) (few : site.candidates.length ≤ maxCases)
    (value : Value τ) (after : Nat) (record : Record)
    (reaches : record.Reaches after site.candidates.length) :
    (site.rebuild value record).WellFormed site after := by
  have beyond : after < noMatchCase → after < record.case := by
    intro below
    rcases reaches with none | inside
    · exact none ▸ below
    · exact inside.1
  rcases site.candidate?_cases few after record reaches with ⟨unmatched, absent⟩ |
    ⟨matched, candidate, named, place⟩
  · have untargeted : (site.rebuild value record).target = none := by
      simp [rebuild, Record.position?, unmatched]
    have nameless : site.candidate? (site.rebuild value record).case = none := absent
    refine ⟨reaches, beyond, ?_, ?_, ?_⟩
    · rw [untargeted]
      exact unmatched.symm
    · simp [untargeted]
    · simp [Dispatch.get?, untargeted, nameless]
  · have targeted : (site.rebuild value record).target =
        some ⟨candidate.type, record.adjustment.replay value.address⟩ := by
      simp [rebuild, Record.position?, matched, place]
    have name : site.candidate? (site.rebuild value record).case = some candidate := named
    refine ⟨reaches, beyond, ?_, ?_, ?_⟩
    · rw [targeted]
      exact matched.symm
    · intro view same
      rw [targeted] at same
      cases same
      rw [name]
      rfl
    · intro type
      simp [Dispatch.get?, targeted, name, Option.filter]

/-- Whatever was called before and with which values, every answer of a site is well formed, and
so is whatever the site remembers. A call is answered unless the cache cannot be made. -/
theorem answer_wellFormed (plan : SitePlan τ) (site : Site τ) (created : Event)
    (built : plan.build = .ok (site, created)) (calls : List (Call τ)) :
    (site.run calls).candidates = plan.candidates ∧
    (site.run calls).strategy.Bounded plan.candidates.length ∧
    (∀ call dispatch, ((site.run calls).answer call).result = .ok dispatch →
      dispatch.WellFormed (site.run calls) call.after) ∧
    ((plan.hierarchy = .openWorld → plan.settings.enabled = true →
        ∃ cache, Cache.create plan.expectedTypes plan.settings plan.backing = .ok cache) →
      ∀ call, ∃ dispatch, ((site.run calls).answer call).result = .ok dispatch) := by
  have few := (plan.build_cases site created built).1
  obtain ⟨among, kept⟩ := kept_run plan site created built calls
  refine ⟨among, kept.bounded, ?_, fun creatable call => ?_⟩
  · intro call dispatch answered
    rw [← among] at few kept
    obtain ⟨-, -, rebuilt⟩ := (site.run calls).kept_answer few kept call
    obtain ⟨record, reaches, rfl⟩ := rebuilt dispatch answered
    exact (site.run calls).wellFormed_rebuild few call.value call.after record reaches
  · exact answers_run plan site created built calls creatable call

/-- An impostor under the token of a whole is sent where the whole went. Its own views would not
have led there, but the target has the type of the case. -/
theorem answer_wellFormed_impostor :
    let whole : Layout Nat := ⟨⟨16⟩, 0, "Whole", none, [⟨1, 8⟩]⟩
    let impostor : Layout Nat := ⟨⟨16⟩, 2, "Impostor", none, []⟩
    let plan : SitePlan Nat :=
      { SitePlan.ofCandidates [⟨1, "Part"⟩, ⟨0, "Whole"⟩] with
        config := some { Config.default with minBits := 0, maxBits := 0 } }
    ∃ site created, plan.build = .ok (site, created) ∧
      ((site.run [.resolve (whole.valueAt 64)]).answer (.resolve (impostor.valueAt 4096))).result =
        .ok ⟨⟨1, ⟨8⟩⟩, some ⟨1, 4104⟩⟩ ∧
      Dispatch.WellFormed (site.run [.resolve (whole.valueAt 64)]) unresolvedCase
        ⟨⟨1, ⟨8⟩⟩, some ⟨1, 4104⟩⟩ := by
  intro whole impostor plan
  have valid : plan.settings.Valid := ⟨by decide, by decide, by decide, by decide⟩
  obtain ⟨created, built⟩ := build_open plan rfl (by decide) valid
  have remembers : plan.Remembers :=
    ⟨rfl, rfl, (Cache.exists_create_iff _ _ _).2 ⟨valid, by cbv, by decide⟩⟩
  have recalls := recalls_run plan _ created built remembers [.resolve (whole.valueAt 64)]
  have answered := recalls.answer_repeated (by decide) (.resolve (impostor.valueAt 4096))
    (Or.inl rfl) ⟨1, ⟨8⟩⟩ (by decide)
  obtain ⟨-, -, formed, -⟩ := answer_wellFormed plan _ created built [.resolve (whole.valueAt 64)]
  have target : Site.rebuild (Site.run ⟨plan.candidates, .openWorld
      ⟨plan.expectedTypes, plan.settings, plan.backing, none, []⟩, {}⟩
        [.resolve (whole.valueAt 64)]) (impostor.valueAt 4096) ⟨1, ⟨8⟩⟩ =
      ⟨⟨1, ⟨8⟩⟩, some ⟨1, 4104⟩⟩ := by
    unfold Site.rebuild
    rw [recalls.among]
    decide
  have reply := answered.trans (congrArg Except.ok target)
  exact ⟨_, created, built, reply, formed _ _ reply⟩

end Typecase
