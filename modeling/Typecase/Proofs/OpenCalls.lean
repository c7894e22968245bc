import Typecase.Proofs.Topics

/-! What a call does to an open site. With its cache disabled the site probes every time and notes
nothing. Otherwise it answers what it has noted on the topic of the call; only if there is no
note it probes, and notes what it found. -/

namespace Typecase

variable {τ : Type}

namespace Site

/-- The site once a call is counted. -/
def countCall (site : Site τ) (after : Nat) : Site τ :=
  if after = unresolvedCase then site.countResolve else site.countContinuation

/-- The site once a probe behind the case is counted. Only first answers count by outcome. -/
def countFound (site : Site τ) (after : Nat) (found : Probe τ) : Site τ :=
  if after = unresolvedCase then (site.countProbe found.attempts).countOutcome found.record
  else site.countProbe found.attempts

section Counting
variable (site : Site τ) (after : Nat) (found : Probe τ)

@[simp] theorem candidates_countCall : (site.countCall after).candidates = site.candidates := by
  unfold countCall
  split <;> rfl

@[simp] theorem strategy_countCall : (site.countCall after).strategy = site.strategy := by
  unfold countCall
  split <;> rfl

@[simp] theorem candidates_countFound :
    (site.countFound after found).candidates = site.candidates := by
  unfold countFound
  split <;> rfl

@[simp] theorem strategy_countFound :
    (site.countFound after found).strategy = site.strategy := by
  unfold countFound
  split <;> rfl

end Counting

/-- The record that is kept on a topic. A closed site keeps none. -/
def noted (site : Site τ) (topic : Topic) : Option Record :=
  match site.strategy with
  | .openWorld memory => memory.noted topic
  | .closedWorld _ => none

/-- How many look-ups the slot cache has counted. -/
def lookups (site : Site τ) : Nat := site.strategy.cacheCounts.lookups

/-- An open site whose cache is enabled and can be made when it is needed. -/
def Attentive (site : Site τ) : Prop :=
  ∃ memory, site.strategy = .openWorld memory ∧ memory.Sound ∧ memory.config.enabled = true

end Site

variable [DecidableEq τ]

namespace Site

/-- Without candidates behind its case a call changes nothing. -/
theorem answer_unasked (site : Site τ) (call : Call τ)
    (unasked : ¬Asked site.candidates.length call.after) :
    site.answer call = ⟨.ok .noMatch, site, []⟩ := by
  obtain ⟨started, outside⟩ := (unasked_iff _ _).1 unasked
  rw [answer_eq, resolveBehind_outside site call.value call.after started (Or.inr outside)]

section Open
variable (site : Site τ) (few : site.candidates.length ≤ maxCases) (memory : Memory)
  (opened : site.strategy = .openWorld memory) (call : Call τ)
  (asked : Asked site.candidates.length call.after)
include few opened asked

/-- With its cache disabled a site probes at every call. -/
theorem answer_disabled (disabled : memory.config.enabled = false) :
    (site.answer call).result = .ok (call.found site.candidates).dispatch ∧
    (site.answer call).state =
      (site.countCall call.after).countFound call.after (call.found site.candidates) := by
  have blind : ¬memory.config.enabled = true := by simp [disabled]
  rw [answer_eq]
  by_cases start : call.after = unresolvedCase
  · have chooses : site.strategy.choose call.value = ⟨.ok none, site.strategy, []⟩ := by
      simp only [opened, Strategy.choose, Memory.choose, if_neg blind, Step.embed]
    have reports : site.strategy.report call.value
        (probe site.candidates call.value unresolvedCase).record =
          ⟨.ok (), site.strategy, []⟩ := by
      simp only [opened, Strategy.report, Memory.report, if_neg blind, Step.embed]
    rw [countCall, if_pos start, countFound, if_pos start, Call.found, start,
      resolveBehind_start]
    exact resolve_probed site call.value _ _ [] [] chooses reports
  · have inside := (asked_iff _ _ few start).1 asked
    have chooses : site.strategy.chooseBehind call.value call.after = (none, []) := by
      simp only [opened, Strategy.chooseBehind, Memory.chooseBehind, if_neg blind]
    have forgets (record : Record) :
        site.strategy.reportBehind call.value call.after record = site.strategy := by
      simp [opened, Strategy.reportBehind, Memory.reportBehind, disabled]
    rw [countCall, if_neg start, countFound, if_neg start,
      resolveBehind_probed site call.value call.after [] start inside chooses, forgets]
    exact ⟨rfl, rfl⟩

variable (sound : memory.Sound) (enabled : memory.config.enabled = true)
include sound enabled

/-- A note is answered without a probe. -/
theorem answer_noted (record : Record) (known : memory.noted call.topic = some record) :
    (site.answer call).result = .ok (site.rebuild call.value record) ∧
    (site.answer call).state =
      { site.countCall call.after with
        strategy := .openWorld (memory.recalled call.topic) } := by
  unfold Memory.noted at known
  rw [answer_eq]
  by_cases start : call.after = unresolvedCase
  · have first : call.topic.after = unresolvedCase := start
    rw [if_pos first] at known
    have settled : memory.ledger call.value.token = some record := known
    have chooses : site.strategy.choose call.value =
        ⟨.ok (some record), .openWorld (memory.consulted call.value.token),
          memory.creation ++ (memory.ready.lookup call.value.token).events⟩ := by
      simp only [opened, Strategy.choose, memory.choose_enabled sound enabled, settled, Step.embed]
    rw [countCall, if_pos start, Memory.recalled, if_pos first, start, resolveBehind_start,
      resolve_chosen site call.value record _ _ chooses]
    exact ⟨rfl, rfl⟩
  · have inside := (asked_iff _ _ few start).1 asked
    have later : ¬call.topic.after = unresolvedCase := start
    rw [if_neg later] at known
    have continued : memory.continuation? call.value.token call.after = some record := known
    have chooses : site.strategy.chooseBehind call.value call.after = (some record, []) := by
      simp only [opened, Strategy.chooseBehind, Memory.chooseBehind, if_pos enabled, continued]
    rw [countCall, if_neg start, Memory.recalled, if_neg later,
      resolveBehind_chosen site call.value call.after record [] start inside chooses, ← opened]
    exact ⟨rfl, rfl⟩

/-- Without a note the site probes, and notes what it found. -/
theorem answer_unnoted (fresh : memory.noted call.topic = none) :
    (site.answer call).result = .ok (call.found site.candidates).dispatch ∧
    (site.answer call).state =
      { (site.countCall call.after).countFound call.after (call.found site.candidates) with
        strategy := .openWorld
          (memory.learned call.topic (call.found site.candidates).record) } := by
  unfold Memory.noted at fresh
  rw [answer_eq]
  by_cases start : call.after = unresolvedCase
  · have first : call.topic.after = unresolvedCase := start
    rw [if_pos first] at fresh
    have unknown : memory.ledger call.value.token = none := fresh
    have chooses : site.strategy.choose call.value =
        ⟨.ok none, .openWorld (memory.consulted call.value.token),
          memory.creation ++ (memory.ready.lookup call.value.token).events⟩ := by
      simp only [opened, Strategy.choose, memory.choose_enabled sound enabled, unknown, Step.embed]
    have reports := memory.report_unknown sound enabled call.value.token unknown
    rw [countCall, if_pos start, countFound, if_pos start, Memory.learned, if_pos first,
      Call.found, start, resolveBehind_start]
    exact resolve_probed site call.value _ _ _ _ chooses
      (by simp only [Strategy.report, reports, Step.embed]; rfl)
  · have inside := (asked_iff _ _ few start).1 asked
    have later : ¬call.topic.after = unresolvedCase := start
    rw [if_neg later] at fresh
    have absent : memory.continuation? call.value.token call.after = none := fresh
    have chooses : site.strategy.chooseBehind call.value call.after = (none, []) := by
      simp only [opened, Strategy.chooseBehind, Memory.chooseBehind, if_pos enabled, absent]
    rw [countCall, if_neg start, countFound, if_neg start, Memory.learned, if_neg later,
      resolveBehind_probed site call.value call.after [] start inside chooses, opened]
    exact ⟨rfl, rfl⟩

end Open

/-- What a call leaves behind on an attentive site. -/
structure Leaves (site : Site τ) (call : Call τ) (tally : Tally)
    (notes : Topic → Option Record) : Prop where
  attentive : (site.answer call).state.Attentive
  among : (site.answer call).state.candidates = site.candidates
  tally : (site.answer call).state.tally = tally
  notes : (site.answer call).state.noted = notes
  lookups : (site.answer call).state.lookups =
    site.lookups + if call.after = unresolvedCase then 1 else 0

/-- A call on an attentive site has nothing to ask, finds a note on its topic, or probes and
leaves a note. -/
theorem answer_cases (site : Site τ) (few : site.candidates.length ≤ maxCases)
    (attentive : site.Attentive) (call : Call τ) :
    (¬Asked site.candidates.length call.after ∧
      site.answer call = ⟨.ok .noMatch, site, []⟩) ∨
    (Asked site.candidates.length call.after ∧ ∃ record,
      site.noted call.topic = some record ∧
      (site.answer call).result = .ok (site.rebuild call.value record) ∧
      Leaves site call (site.countCall call.after).tally site.noted) ∨
    (Asked site.candidates.length call.after ∧
      site.noted call.topic = none ∧
      (site.answer call).result = .ok (call.found site.candidates).dispatch ∧
      Leaves site call
        ((site.countCall call.after).countFound call.after (call.found site.candidates)).tally
        (Function.update site.noted call.topic
          (some (call.found site.candidates).record))) := by
  obtain ⟨memory, opened, sound, enabled⟩ := attentive
  have noted : site.noted = memory.noted := by
    funext topic
    simp only [Site.noted, opened]
  have lookups : site.lookups = memory.cacheCounts.lookups := by
    simp only [Site.lookups, opened, Strategy.cacheCounts]
  by_cases asked : Asked site.candidates.length call.after
  case neg => exact Or.inl ⟨asked, site.answer_unasked call asked⟩
  right
  rw [noted]
  cases known : memory.noted call.topic with
  | some record =>
    left
    obtain ⟨result, state⟩ :=
      site.answer_noted few memory opened call asked sound enabled record known
    refine ⟨asked, record, rfl, result, ?_, ?_, ?_, ?_, ?_⟩
    · rw [state]
      exact ⟨_, rfl, memory.sound_recalled sound _, by rw [memory.config_recalled, enabled]⟩
    · rw [state]
      exact site.candidates_countCall _
    · rw [state]
    · rw [state]
      exact memory.noted_recalled sound _
    · rw [state, lookups]
      exact memory.lookups_recalled _
  | none =>
    right
    have telling := probe_record_settled site.candidates call.value call.after
    obtain ⟨result, state⟩ :=
      site.answer_unnoted few memory opened call asked sound enabled known
    refine ⟨asked, rfl, result, ?_, ?_, ?_, ?_, ?_⟩
    · rw [state]
      exact ⟨_, rfl, memory.sound_learned sound _ _, by rw [memory.config_learned, enabled]⟩
    · rw [state]
      simp
    · rw [state]
    · rw [state]
      exact memory.noted_learned sound _ _ enabled telling known
    · rw [state, lookups]
      exact memory.lookups_learned _ _

end Site

end Typecase
