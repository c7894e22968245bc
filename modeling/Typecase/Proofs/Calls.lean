import Typecase.Proofs.Probing

/-! Calls on a site and runs of them. How a call ends depends on the strategy of the site
alone: if that knows a record, the site rebuilds its target; if not, it probes and reports. -/

namespace Typecase

variable {τ : Type}

/-- The configuration that a site is built with. -/
def SitePlan.settings (plan : SitePlan τ) : Config := plan.config.getD .default

/-- A plan with few enough candidates is built once its hierarchy has a strategy for it. -/
theorem SitePlan.build_of_strategyFor [DecidableEq τ] (plan : SitePlan τ)
    (few : plan.candidates.length ≤ maxCases) (strategy : Strategy τ)
    (selected : plan.hierarchy.strategyFor plan.candidates plan.expectedTypes plan.settings
      plan.backing = .ok strategy) :
    ∃ created, plan.build = .ok (⟨plan.candidates, strategy, {}⟩, created) := by
  have small : ¬maxCases < plan.candidates.length := by omega
  unfold settings at selected
  simp [build, small, selected, bind, Except.bind, pure, Except.pure]

theorem build_open [DecidableEq τ] (plan : SitePlan τ) (opened : plan.hierarchy = .openWorld)
    (few : plan.candidates.length ≤ maxCases) (valid : plan.settings.Valid) :
    ∃ created, plan.build = .ok (⟨plan.candidates, .openWorld
      ⟨plan.expectedTypes, plan.settings, plan.backing, none, []⟩, {}⟩, created) := by
  apply plan.build_of_strategyFor few
  simp [opened, Hierarchy.strategyFor, Memory.create, (plan.settings.check_eq_ok_iff).2 valid,
    bind, Except.bind, pure, Except.pure]

/-- What a built site starts from. -/
theorem SitePlan.build_cases [DecidableEq τ] (plan : SitePlan τ) (site : Site τ) (created : Event)
    (built : plan.build = .ok (site, created)) :
    plan.candidates.length ≤ maxCases ∧ plan.settings.Valid ∧
    ((plan.hierarchy = .openWorld ∧ site = ⟨plan.candidates,
        .openWorld ⟨plan.expectedTypes, plan.settings, plan.backing, none, []⟩, {}⟩) ∨
      ∃ kinds, plan.hierarchy = .closedWorld kinds ∧ site = ⟨plan.candidates,
        .closedWorld (.ofKinds kinds plan.candidates), {}⟩) := by
  by_cases few : plan.candidates.length ≤ maxCases
  case neg =>
    simp [build, Nat.lt_of_not_le few, bind, Except.bind] at built
  have small : ¬maxCases < plan.candidates.length := by omega
  cases checked : plan.settings.check with
  | error refusal =>
    unfold settings at checked
    cases world : plan.hierarchy <;>
      simp [build, small, world, Hierarchy.strategyFor, Memory.create, checked, bind,
        Except.bind] at built
  | ok done =>
    refine ⟨few, (plan.settings.check_eq_ok_iff).1 checked, ?_⟩
    unfold settings at checked
    cases world : plan.hierarchy with
    | openWorld =>
      simp [build, small, world, Hierarchy.strategyFor, Memory.create, checked, bind,
        Except.bind, pure, Except.pure] at built
      exact Or.inl ⟨rfl, built.1.symm⟩
    | closedWorld kinds =>
      simp [build, small, world, Hierarchy.strategyFor, checked, bind, Except.bind, pure,
        Except.pure] at built
      exact Or.inr ⟨kinds, rfl, built.1.symm⟩

inductive Call (τ : Type) where
  | resolve (value : Value τ)
  | resolveBehind (value : Value τ) (after : Nat)

namespace Call

def value : Call τ → Value τ
  | resolve value => value
  | resolveBehind value _ => value

/-- The case behind which a call looks for a match. -/
def after : Call τ → Nat
  | resolve _ => unresolvedCase
  | resolveBehind _ after => after

end Call

variable [DecidableEq τ]

/-- The plain meaning of a call: to probe the value behind the case. -/
def Call.probed (call : Call τ) (candidates : List (Candidate τ)) : Dispatch τ :=
  (probe candidates call.value call.after).dispatch

namespace Site

def answer (site : Site τ) : Call τ → Step Fault (Site τ) (Dispatch τ)
  | .resolve value => site.resolve value
  | .resolveBehind value after => site.resolveBehind value after

/-- The site after a run of calls. -/
def run (site : Site τ) (calls : List (Call τ)) : Site τ := Step.run answer site calls

theorem run_append (site : Site τ) (earlier later : List (Call τ)) :
    site.run (earlier ++ later) = (site.run earlier).run later :=
  Step.run_append ..

theorem resolve_chosen (site : Site τ) (value : Value τ) (record : Record)
    (strategy : Strategy τ) (events : List Event)
    (chosen : site.strategy.choose value = ⟨.ok (some record), strategy, events⟩) :
    site.resolve value =
      ⟨.ok (site.rebuild value record), { site.countResolve with strategy := strategy },
        events⟩ := by
  have counted : site.countResolve.strategy.choose value =
      ⟨.ok (some record), strategy, events⟩ := chosen
  simp only [resolve, counted]
  rfl

theorem resolveByProbe_reported (site : Site τ) (value : Value τ) (last : Strategy τ)
    (more : List Event)
    (reported : site.strategy.report value (probe site.candidates value unresolvedCase).record =
      ⟨.ok (), last, more⟩) :
    site.resolveByProbe value =
      { result := .ok (probe site.candidates value unresolvedCase).dispatch
        state :=
          { (site.countProbe (probe site.candidates value unresolvedCase).attempts).countOutcome
              (probe site.candidates value unresolvedCase).record with strategy := last }
        events := site.outcomeEvent value (probe site.candidates value unresolvedCase).record
          :: more } := by
  have counted : ((site.countProbe
      (probe site.candidates value unresolvedCase).attempts).countOutcome
        (probe site.candidates value unresolvedCase).record).strategy.report value
        (probe site.candidates value unresolvedCase).record = ⟨.ok (), last, more⟩ := reported
  simp only [resolveByProbe, counted]
  rfl

theorem resolve_probed (site : Site τ) (value : Value τ) (strategy last : Strategy τ)
    (events more : List Event)
    (chosen : site.strategy.choose value = ⟨.ok none, strategy, events⟩)
    (reported : strategy.report value (probe site.candidates value unresolvedCase).record =
      ⟨.ok (), last, more⟩) :
    (site.resolve value).result = .ok (probe site.candidates value unresolvedCase).dispatch ∧
    (site.resolve value).state =
      { (site.countResolve.countProbe
          (probe site.candidates value unresolvedCase).attempts).countOutcome
            (probe site.candidates value unresolvedCase).record with strategy := last } := by
  have counted : site.countResolve.strategy.choose value = ⟨.ok none, strategy, events⟩ := chosen
  have asked := resolveByProbe_reported { site.countResolve with strategy := strategy } value
    last more reported
  simp only [resolve, counted, asked]
  exact ⟨rfl, rfl⟩

theorem events_resolve_probed (site : Site τ) (value : Value τ) (strategy last : Strategy τ)
    (events more : List Event)
    (chosen : site.strategy.choose value = ⟨.ok none, strategy, events⟩)
    (reported : strategy.report value (probe site.candidates value unresolvedCase).record =
      ⟨.ok (), last, more⟩) :
    (site.resolve value).events =
      events ++ site.outcomeEvent value (probe site.candidates value unresolvedCase).record
        :: more := by
  have counted : site.countResolve.strategy.choose value = ⟨.ok none, strategy, events⟩ := chosen
  have asked := resolveByProbe_reported { site.countResolve with strategy := strategy } value
    last more reported
  simp only [resolve, counted, asked]
  rfl

theorem resolveBehind_start (site : Site τ) (value : Value τ) :
    site.resolveBehind value unresolvedCase = site.resolve value := if_pos rfl

/-- Every call asks for a match behind a case. -/
theorem answer_eq (site : Site τ) (call : Call τ) :
    site.answer call = site.resolveBehind call.value call.after := by
  cases call with
  | resolve value => exact (site.resolveBehind_start value).symm
  | resolveBehind value after => rfl

/-- Behind the last case nothing is asked and nothing changes. -/
theorem resolveBehind_outside (site : Site τ) (value : Value τ) (after : Nat)
    (started : after ≠ unresolvedCase)
    (outside : after = noMatchCase ∨ site.candidates.length ≤ after) :
    site.resolveBehind value after = ⟨.ok .noMatch, site, []⟩ := by
  rw [resolveBehind, if_neg started, if_pos outside]

theorem resolveBehind_chosen (site : Site τ) (value : Value τ) (after : Nat) (record : Record)
    (events : List Event) (started : after ≠ unresolvedCase)
    (inside : ¬(after = noMatchCase ∨ site.candidates.length ≤ after))
    (chosen : site.strategy.chooseBehind value after = (some record, events)) :
    site.resolveBehind value after =
      ⟨.ok (site.rebuild value record), site.countContinuation, events⟩ := by
  have counted : site.countContinuation.strategy.chooseBehind value after =
      (some record, events) := chosen
  rw [resolveBehind, if_neg started, if_neg inside]
  simp only [counted]
  rfl

theorem resolveBehind_probed (site : Site τ) (value : Value τ) (after : Nat)
    (events : List Event) (started : after ≠ unresolvedCase)
    (inside : ¬(after = noMatchCase ∨ site.candidates.length ≤ after))
    (chosen : site.strategy.chooseBehind value after = (none, events)) :
    site.resolveBehind value after =
      { result := .ok (probe site.candidates value after).dispatch
        state :=
          { site.countContinuation.countProbe (probe site.candidates value after).attempts with
            strategy := site.strategy.reportBehind value after
              (probe site.candidates value after).record }
        events := events } := by
  have counted : site.countContinuation.strategy.chooseBehind value after = (none, events) :=
    chosen
  rw [resolveBehind, if_neg started, if_neg inside]
  simp only [counted]
  rfl

end Site

end Typecase
