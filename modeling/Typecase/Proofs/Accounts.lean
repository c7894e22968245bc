import Typecase.Proofs.Bills
import Typecase.Proofs.ClosedCalls

/-! What the counters of a site say after a run of calls. A site that remembers has paid the bill of
the run, and nothing else shows in its counters: neither evictions and rehashes nor the size of the
cache. A site with its cache disabled has paid the full bill, and a closed site nothing. -/

namespace Typecase

variable {τ : Type}

/-- How many first answers came from a probe. -/
def Tally.outcomes (tally : Tally) : Nat := tally.firstResolutions + tally.noMatches

namespace Site

section Counting
variable (site : Site τ) (after : Nat) (found : Probe τ)

@[simp] theorem probes_countCall : (site.countCall after).tally.probes = site.tally.probes := by
  unfold countCall
  split <;> rfl

@[simp] theorem outcomes_countCall :
    (site.countCall after).tally.outcomes = site.tally.outcomes := by
  unfold countCall
  split <;> rfl

theorem tagDispatches_countCall :
    (site.countCall after).tally.tagDispatches = site.tally.tagDispatches +
      if after = unresolvedCase ∧ site.strategy.kind = .closedWorld then 1 else 0 := by
  unfold countCall countResolve
  by_cases start : after = unresolvedCase
  · simp [start]
  · simp [start, countContinuation]

@[simp] theorem probes_countFound :
    (site.countFound after found).tally.probes = site.tally.probes + found.attempts := by
  unfold countFound countOutcome
  split
  next => split <;> rfl
  next => rfl

@[simp] theorem outcomes_countFound :
    (site.countFound after found).tally.outcomes =
      site.tally.outcomes + if after = unresolvedCase then 1 else 0 := by
  unfold countFound countOutcome
  split
  next =>
    split
    next => rfl
    next => exact Nat.add_right_comm ..
  next => rfl

@[simp] theorem tagDispatches_countFound :
    (site.countFound after found).tally.tagDispatches = site.tally.tagDispatches := by
  unfold countFound countOutcome
  split
  next => split <;> rfl
  next => rfl

end Counting

end Site

variable [DecidableEq τ]

theorem Site.resolve_counts (site : Site τ) (value : Value τ) :
    (site.resolve value).state.candidates = site.candidates ∧
    (site.resolve value).state.tally.resolves = site.tally.resolves + 1 ∧
    (site.resolve value).state.tally.continuations = site.tally.continuations := by
  unfold resolve
  dsimp only
  split
  next => exact ⟨rfl, rfl, rfl⟩
  next => exact ⟨rfl, rfl, rfl⟩
  next =>
    unfold resolveByProbe countOutcome
    dsimp only [Step.after]
    split <;> exact ⟨rfl, rfl, rfl⟩

theorem Site.answer_counts (site : Site τ) (few : site.candidates.length ≤ maxCases)
    (call : Call τ) :
    (site.answer call).state.candidates = site.candidates ∧
    (site.answer call).state.tally.resolves =
      site.tally.resolves + (if call.after = unresolvedCase then 1 else 0) ∧
    (site.answer call).state.tally.continuations = site.tally.continuations +
      if 1 ≤ call.after ∧ call.after < site.candidates.length then 1 else 0 := by
  by_cases asked : Asked site.candidates.length call.after
  case neg =>
    obtain ⟨started, outside⟩ := (unasked_iff _ _).1 asked
    rw [site.answer_unasked call asked, if_neg started, if_neg (by omega)]
    exact ⟨rfl, rfl, rfl⟩
  rw [site.answer_eq]
  by_cases start : call.after = unresolvedCase
  · have resolved := site.resolve_counts call.value
    rw [start, site.resolveBehind_start]
    exact resolved
  · have inside := (asked_iff _ _ few start).1 asked
    have behind : 1 ≤ call.after ∧ call.after < site.candidates.length := by
      unfold unresolvedCase at start
      omega
    rw [if_neg start, if_pos behind]
    rcases chosen : site.strategy.chooseBehind call.value call.after with ⟨known, events⟩
    cases known with
    | some record =>
      rw [site.resolveBehind_chosen call.value call.after record events start inside chosen]
      exact ⟨rfl, rfl, rfl⟩
    | none =>
      rw [site.resolveBehind_probed call.value call.after events start inside chosen]
      exact ⟨rfl, rfl, rfl⟩

/-- What every site counts, whether or not its calls succeed. -/
structure Counted (candidates : List (Candidate τ)) (calls : List (Call τ))
    (site : Site τ) : Prop where
  among : site.candidates = candidates
  resolves : site.tally.resolves = (Call.resolutions calls).length
  continuations :
    site.tally.continuations = (Call.continuations candidates.length calls).length

theorem Counted.answer {candidates : List (Candidate τ)} {calls : List (Call τ)} {site : Site τ}
    (few : candidates.length ≤ maxCases) (counted : Counted candidates calls site)
    (call : Call τ) : Counted candidates (calls ++ [call]) (site.answer call).state := by
  obtain ⟨rfl, resolves, continuations⟩ := counted
  obtain ⟨among, resolved, continued⟩ := site.answer_counts few call
  refine ⟨among, ?_, ?_⟩
  · rw [resolved, resolves, Call.length_resolutions_concat]
  · rw [continued, continuations, Call.continuations_concat, List.length_append]
    split <;> rfl

/-- The accounts of a site that remembers: it looks up every resolution, and probes for the first
call on each topic. -/
structure Accounted (candidates : List (Candidate τ)) (calls : List (Call τ))
    (site : Site τ) : Prop extends Recalls candidates calls site where
  lookups : site.lookups = (Call.resolutions calls).length
  outcomes : site.tally.outcomes = (resolvedTokens calls).card
  probes : site.tally.probes = bill candidates calls
  untagged : site.tally.tagDispatches = 0

theorem Accounted.answer {candidates : List (Candidate τ)} {calls : List (Call τ)}
    {site : Site τ} (few : candidates.length ≤ maxCases)
    (accounted : Accounted candidates calls site) (call : Call τ) :
    Accounted candidates (calls ++ [call]) (site.answer call).state := by
  have recalls := accounted.toRecalls
  have next := recalls.answer few call
  have first := recalls.noted_eq_none_iff call.topic
  obtain ⟨rfl, attentive, -⟩ := id recalls
  obtain ⟨memory, opened, -⟩ := id attentive
  have untagged : (site.countCall call.after).tally.tagDispatches = 0 := by
    rw [Site.tagDispatches_countCall, accounted.untagged, opened]
    simp [Strategy.kind]
  rcases site.answer_cases few attentive call with ⟨unasked, same⟩ |
    ⟨asked, record, known, -, leaves⟩ | ⟨asked, fresh, -, leaves⟩
  · obtain ⟨started, -⟩ := (unasked_iff _ _).1 unasked
    refine ⟨next, ?_, ?_, ?_, ?_⟩ <;> rw [same]
    · rw [accounted.lookups, Call.length_resolutions_concat, if_neg started, Nat.add_zero]
    · rw [accounted.outcomes, card_resolvedTokens_concat, if_neg fun both => started both.1,
        Nat.add_zero]
    · rw [accounted.probes, bill_concat, if_neg fun both => unasked both.1, Nat.add_zero]
    · exact accounted.untagged
  · have known : ¬firstOn calls call.topic = none := by
      rw [← first asked, known]
      simp
    refine ⟨next, ?_, ?_, ?_, ?_⟩
    · rw [leaves.lookups, accounted.lookups, Call.length_resolutions_concat]
    · rw [leaves.tally, Site.outcomes_countCall, accounted.outcomes, card_resolvedTokens_concat,
        if_neg fun both => known both.2, Nat.add_zero]
    · rw [leaves.tally, Site.probes_countCall, accounted.probes, bill_concat,
        if_neg fun both => known both.2, Nat.add_zero]
    · rw [leaves.tally, untagged]
  · have fresh : firstOn calls call.topic = none := (first asked).1 fresh
    refine ⟨next, ?_, ?_, ?_, ?_⟩
    · rw [leaves.lookups, accounted.lookups, Call.length_resolutions_concat]
    · rw [leaves.tally, Site.outcomes_countFound, Site.outcomes_countCall, accounted.outcomes,
        card_resolvedTokens_concat]
      simp only [fresh, and_true]
    · rw [leaves.tally, Site.probes_countFound, Site.probes_countCall, accounted.probes,
        bill_concat, if_pos ⟨asked, fresh⟩]
      rfl
    · rw [leaves.tally, Site.tagDispatches_countFound, untagged]

/-- The accounts of an open site with its cache disabled, which probes at every call. -/
structure Forgetful (candidates : List (Candidate τ)) (calls : List (Call τ))
    (site : Site τ) : Prop where
  among : site.candidates = candidates
  blind : ∃ memory, site.strategy = .openWorld memory ∧ memory.config.enabled = false ∧
    memory.cache = none
  outcomes : site.tally.outcomes = (Call.resolutions calls).length
  probes : site.tally.probes = fullBill candidates calls
  untagged : site.tally.tagDispatches = 0

theorem Forgetful.answer {candidates : List (Candidate τ)} {calls : List (Call τ)}
    {site : Site τ} (few : candidates.length ≤ maxCases)
    (forgetful : Forgetful candidates calls site) (call : Call τ) :
    Forgetful candidates (calls ++ [call]) (site.answer call).state := by
  obtain ⟨rfl, ⟨memory, opened, disabled, empty⟩, outcomes, probes, untagged⟩ := forgetful
  by_cases asked : Asked site.candidates.length call.after
  · obtain ⟨-, state⟩ := site.answer_disabled few memory opened call asked disabled
    rw [state]
    refine ⟨by simp, ⟨memory, by simpa using opened, disabled, empty⟩, ?_, ?_, ?_⟩
    · rw [Site.outcomes_countFound, Site.outcomes_countCall, outcomes,
        Call.length_resolutions_concat]
    · rw [Site.probes_countFound, Site.probes_countCall, probes, fullBill_concat, if_pos asked]
      rfl
    · rw [Site.tagDispatches_countFound, Site.tagDispatches_countCall, untagged, opened]
      simp [Strategy.kind]
  · obtain ⟨started, -⟩ := (unasked_iff _ _).1 asked
    rw [site.answer_unasked call asked]
    refine ⟨rfl, ⟨memory, opened, disabled, empty⟩, ?_, ?_, untagged⟩
    · rw [outcomes, Call.length_resolutions_concat, if_neg started, Nat.add_zero]
    · rw [probes, fullBill_concat, if_neg asked, Nat.add_zero]

/-- The accounts of a closed site, which never probes. -/
structure Tagged (kinds : Kinds τ) (candidates : List (Candidate τ)) (calls : List (Call τ))
    (site : Site τ) : Prop where
  tabled : Tabled kinds candidates site
  outcomes : site.tally.outcomes = 0
  probes : site.tally.probes = 0
  tags : site.tally.tagDispatches = (Call.resolutions calls).length

theorem Tagged.answer {kinds : Kinds τ} {candidates : List (Candidate τ)} {calls : List (Call τ)}
    {site : Site τ} (few : candidates.length ≤ maxCases)
    (tagged : Tagged kinds candidates calls site) (call : Call τ) :
    Tagged kinds candidates (calls ++ [call]) (site.answer call).state := by
  have tabled := tagged.tabled.answer call
  obtain ⟨rfl, jumps⟩ := id tagged.tabled
  by_cases asked : Asked site.candidates.length call.after
  · obtain ⟨-, state⟩ := tagged.tabled.answer_asked few call asked
    refine ⟨tabled, ?_, ?_, ?_⟩ <;> rw [state]
    · rw [Site.outcomes_countCall, tagged.outcomes]
    · rw [Site.probes_countCall, tagged.probes]
    · rw [Site.tagDispatches_countCall, tagged.tags, Call.length_resolutions_concat, jumps]
      simp [Strategy.kind]
  · obtain ⟨started, -⟩ := (unasked_iff _ _).1 asked
    refine ⟨tabled, ?_, ?_, ?_⟩ <;> rw [site.answer_unasked call asked]
    · exact tagged.outcomes
    · exact tagged.probes
    · rw [tagged.tags, Call.length_resolutions_concat, if_neg started, Nat.add_zero]

/-- The counters that no cache has a say in. -/
def SiteCounts.core (counts : SiteCounts) : List Nat :=
  [counts.resolves, counts.continuations, counts.hits + counts.misses,
    counts.firstResolutions + counts.noMatches, counts.probes, counts.tagDispatches]

section Runs
variable (plan : SitePlan τ) (site : Site τ) (created : Event)
  (built : plan.build = .ok (site, created)) (calls : List (Call τ))
include built

theorem counted_run : Counted plan.candidates calls (site.run calls) := by
  obtain ⟨few, -, start⟩ := plan.build_cases site created built
  refine Step.run_follows (Counted plan.candidates) Site.answer _ calls ?_
    fun _ call _ before => before.answer few call
  rcases start with ⟨-, rfl⟩ | ⟨-, -, rfl⟩ <;> exact ⟨rfl, rfl, rfl⟩

theorem accounted_run (remembers : plan.Remembers) :
    Accounted plan.candidates calls (site.run calls) := by
  have fresh : Recalls plan.candidates [] site :=
    recalls_run plan site created built remembers []
  have blank : site.lookups = 0 ∧ site.tally = {} := by
    obtain ⟨-, -, ⟨-, rfl⟩ | ⟨_, -, rfl⟩⟩ := plan.build_cases site created built <;>
      exact ⟨rfl, rfl⟩
  have few := (plan.build_cases site created built).1
  refine Step.run_follows (Accounted plan.candidates) Site.answer site calls ?_
    fun _ call _ before => before.answer few call
  refine ⟨fresh, blank.1, ?_, ?_, ?_⟩ <;> rw [blank.2] <;> rfl

/-- What a site that remembers counts follows from its candidates and the calls. -/
theorem core_run (remembers : plan.Remembers) :
    (site.run calls).counts.core =
      [(Call.resolutions calls).length,
        (Call.continuations plan.candidates.length calls).length,
        (Call.resolutions calls).length, (resolvedTokens calls).card,
        bill plan.candidates calls, 0] := by
  have counted := counted_run plan site created built calls
  have accounted := accounted_run plan site created built calls remembers
  have resolves : (site.run calls).counts.resolves = _ := counted.resolves
  have continuations : (site.run calls).counts.continuations = _ := counted.continuations
  have lookups : (site.run calls).counts.hits + (site.run calls).counts.misses = _ :=
    accounted.lookups
  have outcomes : (site.run calls).counts.firstResolutions + (site.run calls).counts.noMatches =
      _ := accounted.outcomes
  have probes : (site.run calls).counts.probes = _ := accounted.probes
  have untagged : (site.run calls).counts.tagDispatches = _ := accounted.untagged
  rw [SiteCounts.core, resolves, continuations, lookups, outcomes, probes, untagged]

theorem forgetful_run (opened : plan.hierarchy = .openWorld)
    (disabled : plan.settings.enabled = false) :
    Forgetful plan.candidates calls (site.run calls) := by
  obtain ⟨few, -, ⟨-, rfl⟩ | ⟨kinds, closed, -⟩⟩ := plan.build_cases site created built
  · exact Step.run_follows (Forgetful plan.candidates) Site.answer _ calls
      ⟨rfl, ⟨_, rfl, disabled, rfl⟩, rfl, rfl, rfl⟩ fun _ call _ before => before.answer few call
  · rw [opened] at closed
    cases closed

theorem tagged_run (kinds : Kinds τ) (closed : plan.hierarchy = .closedWorld kinds) :
    Tagged kinds plan.candidates calls (site.run calls) := by
  obtain ⟨few, -, ⟨opened, -⟩ | ⟨declared, same, rfl⟩⟩ := plan.build_cases site created built
  · rw [opened] at closed
    cases closed
  · cases same.symm.trans closed
    exact Step.run_follows (Tagged kinds plan.candidates) Site.answer _ calls
      ⟨⟨rfl, rfl⟩, rfl, rfl, rfl⟩ fun _ call _ before => before.answer few call

/-- The counters of a site after any run of calls. A site that remembers probes once for each
resolved type and once for each type and case asked behind, for the value that came first; a
site with its cache disabled probes at every call, and a closed site never. -/
theorem run_accounts :
    (site.run calls).counts.resolves = (Call.resolutions calls).length ∧
    (site.run calls).counts.continuations =
      (Call.continuations plan.candidates.length calls).length ∧
    (plan.Remembers →
      (site.run calls).counts.hits + (site.run calls).counts.misses =
        (site.run calls).counts.resolves ∧
      (site.run calls).counts.firstResolutions + (site.run calls).counts.noMatches =
        (resolvedTokens calls).card ∧
      (site.run calls).counts.probes =
        sumOfFirsts Call.token (Call.attempts plan.candidates) (Call.resolutions calls) +
          sumOfFirsts Call.topic (Call.attempts plan.candidates)
            (Call.continuations plan.candidates.length calls) ∧
      (site.run calls).counts.tagDispatches = 0 ∧
      ∀ (other : SitePlan τ) (twin : Site τ) (announced : Event),
        other.build = .ok (twin, announced) → other.Remembers →
        other.candidates = plan.candidates →
        (twin.run calls).counts.core = (site.run calls).counts.core) ∧
    (plan.hierarchy = .openWorld → plan.settings.enabled = false →
      (site.run calls).counts.hits + (site.run calls).counts.misses = 0 ∧
      (site.run calls).counts.firstResolutions + (site.run calls).counts.noMatches =
        (site.run calls).counts.resolves ∧
      (site.run calls).counts.probes = fullBill plan.candidates calls ∧
      (site.run calls).counts.tagDispatches = 0) ∧
    (plan.hierarchy ≠ .openWorld →
      (site.run calls).counts.hits + (site.run calls).counts.misses = 0 ∧
      (site.run calls).counts.firstResolutions + (site.run calls).counts.noMatches = 0 ∧
      (site.run calls).counts.probes = 0 ∧
      (site.run calls).counts.tagDispatches = (site.run calls).counts.resolves) := by
  have counted := counted_run plan site created built calls
  refine ⟨counted.resolves, counted.continuations, ?_, ?_, ?_⟩
  · intro remembers
    have accounted := accounted_run plan site created built calls remembers
    refine ⟨accounted.lookups.trans counted.resolves.symm, accounted.outcomes, accounted.probes,
      accounted.untagged, fun other twin announced made remembered same => ?_⟩
    rw [core_run other twin announced made calls remembered, same,
      core_run plan site created built calls remembers]
  · intro opened disabled
    have forgetful := forgetful_run plan site created built calls opened disabled
    obtain ⟨memory, strategy, -, empty⟩ := forgetful.blind
    refine ⟨?_, forgetful.outcomes.trans counted.resolves.symm, forgetful.probes,
      forgetful.untagged⟩
    have lookups : (site.run calls).lookups = 0 := by
      simp only [Site.lookups, strategy, Strategy.cacheCounts, Memory.cacheCounts, empty]
      rfl
    exact lookups
  · intro notOpen
    cases world : plan.hierarchy with
    | openWorld => exact absurd world notOpen
    | closedWorld kinds =>
      have tagged := tagged_run plan site created built calls kinds world
      have lookups : (site.run calls).lookups = 0 := by
        simp only [Site.lookups, tagged.tabled.jumps]
        rfl
      exact ⟨lookups, tagged.outcomes, tagged.probes, tagged.tags.trans counted.resolves.symm⟩

end Runs

/-- Two types share a token, so the second is not probed again when it is resolved, but once it
is asked about behind a case. -/
theorem run_accounts_shared_token :
    let whole : Layout Nat := ⟨⟨16⟩, 0, "Whole", none, [⟨1, 8⟩]⟩
    let part : Layout Nat := ⟨⟨8⟩, 1, "Part", none, []⟩
    let impostor : Layout Nat := ⟨⟨8⟩, 2, "Impostor", none, []⟩
    let plan : SitePlan Nat :=
      { SitePlan.ofCandidates [⟨1, "Part"⟩, ⟨0, "Whole"⟩, ⟨2, "Impostor"⟩] with
        config := some { Config.default with minBits := 0, maxBits := 0 } }
    let calls : List (Call Nat) := [.resolve (whole.valueAt 64),
      .resolveBehind (whole.valueAt 64) 1, .resolve (part.valueAt 64),
      .resolveBehind (impostor.valueAt 64) 0, .resolveBehind (impostor.valueAt 64) 1,
      .resolveBehind (whole.valueAt 64) 3, .resolve (whole.valueAt 64)]
    ∃ site created, plan.build = .ok (site, created) ∧ plan.Remembers ∧
      (site.run calls).counts.resolves = 4 ∧ (site.run calls).counts.continuations = 2 ∧
      (site.run calls).counts.firstResolutions + (site.run calls).counts.noMatches = 2 ∧
      (site.run calls).counts.probes = 5 := by
  intro whole part impostor plan calls
  have valid : plan.settings.Valid := ⟨by decide, by decide, by decide, by decide⟩
  have remembers : plan.Remembers :=
    ⟨rfl, rfl, (Cache.exists_create_iff _ _ _).2 ⟨valid, by cbv, by decide⟩⟩
  obtain ⟨created, built⟩ := build_open plan rfl (by decide) valid
  obtain ⟨resolves, continuations, remembered, -⟩ := run_accounts plan _ created built calls
  obtain ⟨-, outcomes, probes, -⟩ := remembered remembers
  refine ⟨_, created, built, remembers, ?_, ?_, ?_, ?_⟩
  · rw [resolves]
    decide
  · rw [continuations]
    decide
  · rw [outcomes]
    decide
  · rw [probes]
    decide

end Typecase
