import Typecase.Probe
import Typecase.SiteCounts
import Typecase.Strategy

/-! A site is one switch in a program: its candidates in order and whatever its strategy
remembers about the types that have come by. Resolving a value yields a dispatch, the case
to run with the view that the case works on. A case whose finer conditions turn the value
away can ask for the next match behind it. -/

namespace Typecase

variable {τ : Type}

/-- The case to run, and the value as that case sees it. -/
structure Dispatch (τ : Type) where
  record : Record
  target : Option (View τ)
  deriving DecidableEq

namespace Dispatch

def noMatch : Dispatch τ := ⟨.noMatch, none⟩

def case (dispatch : Dispatch τ) : Nat := dispatch.record.case

def isMatch (dispatch : Dispatch τ) : Bool := dispatch.record.isResolved

def isNoMatch (dispatch : Dispatch τ) : Bool := dispatch.record.isNoMatch

/-- The target, if it is of the type asked for. -/
def get? [DecidableEq τ] (dispatch : Dispatch τ) (type : τ) : Option (View τ) :=
  dispatch.target.filter (·.type == type)

end Dispatch

structure SitePlan (τ : Type) where
  candidates : List (Candidate τ)
  /-- How many types the switch will meet. Unless given, one for each candidate. -/
  hint : Option Nat
  hierarchy : Hierarchy τ
  config : Option Config
  backing : Backing

structure Site (τ : Type) where
  candidates : List (Candidate τ)
  strategy : Strategy τ
  tally : Tally

namespace SitePlan

def ofCandidates (candidates : List (Candidate τ)) : SitePlan τ :=
  ⟨candidates, none, .openWorld, none, .arrival⟩

/-- Sets the configuration unless one was set before. -/
def withDefault (plan : SitePlan τ) (config : Config) : SitePlan τ :=
  { plan with config := some (plan.config.getD config) }

def expectedTypes (plan : SitePlan τ) : Nat :=
  plan.hint.getD plan.candidates.length

/-- A fresh site with the event that announces it. -/
def build [DecidableEq τ] (plan : SitePlan τ) :
    Except Refusal (Site τ × Event) := do
  if maxCases < plan.candidates.length then
    .error (.tooManyCandidates plan.candidates.length maxCases)
  let config := plan.config.getD .default
  let strategy ← plan.hierarchy.strategyFor plan.candidates plan.expectedTypes config
    plan.backing
  let created := Event.siteCreated plan.candidates.length plan.expectedTypes
    strategy.kind config.enabled
  return (⟨plan.candidates, strategy, {}⟩, created)

end SitePlan

namespace Site

def candidate? (site : Site τ) (case : Nat) : Option (Candidate τ) :=
  match case with
  | 0 => none
  | position + 1 => site.candidates[position]?

/-- The counters of the site with those of its slot cache. -/
def counts (site : Site τ) : SiteCounts :=
  { site.tally, site.strategy.cacheCounts with }

/-- The settled first answer for the type of a value, without resolving it. -/
def settled? (site : Site τ) (value : Value τ) : Option Record :=
  site.strategy.known? value.token

/-- Rebuilds a dispatch from a record: the view lies as far from this value as it lay from
the value for which the record was made. -/
def rebuild (site : Site τ) (value : Value τ) (record : Record) : Dispatch τ where
  record := record
  target := do
    let index ← record.position?
    let candidate ← site.candidates[index]?
    return ⟨candidate.type, record.adjustment.replay value.address⟩

def labelOf (site : Site τ) (case : Nat) : String :=
  match site.candidate? case with
  | some candidate => candidate.label
  | none => "?"

def countResolve (site : Site τ) : Site τ :=
  let tagged := if site.strategy.kind = .closedWorld then 1 else 0
  { site with tally := { site.tally with
      resolves := site.tally.resolves + 1
      tagDispatches := site.tally.tagDispatches + tagged } }

def countContinuation (site : Site τ) : Site τ :=
  { site with tally := { site.tally with
      continuations := site.tally.continuations + 1 } }

def countProbe (site : Site τ) (attempts : Nat) : Site τ :=
  { site with tally := { site.tally with probes := site.tally.probes + attempts } }

/-- Counts whether a first probe found a case. -/
def countOutcome (site : Site τ) (record : Record) : Site τ :=
  { site with tally :=
      if record.isNoMatch then { site.tally with noMatches := site.tally.noMatches + 1 }
      else { site.tally with firstResolutions := site.tally.firstResolutions + 1 } }

/-- The event that tells the outcome of a first probe. -/
def outcomeEvent (site : Site τ) (value : Value τ) (record : Record) : Event :=
  if record.isNoMatch then .noCandidate value.name site.candidates.length
  else .caseResolved value.name record.case (site.labelOf record.case) record.adjustment

variable [DecidableEq τ]

/-- Probes all candidates and reports what was found. -/
def resolveByProbe (site : Site τ) (value : Value τ) : Step Fault (Site τ) (Dispatch τ) :=
  let found := probe site.candidates value unresolvedCase
  let counted := (site.countProbe found.attempts).countOutcome found.record
  let reported := counted.strategy.report value found.record
  { result := reported.result.map fun _ => ⟨found.record, found.target⟩
    state := { counted with strategy := reported.state }
    events := site.outcomeEvent value found.record :: reported.events }

/-- Finds the first candidate that describes the value. -/
def resolve (site : Site τ) (value : Value τ) : Step Fault (Site τ) (Dispatch τ) :=
  let counted := site.countResolve
  let chosen := counted.strategy.choose value
  let site := { counted with strategy := chosen.state }
  match chosen.result with
  | .error fault => ⟨.error fault, site, chosen.events⟩
  | .ok (some record) => ⟨.ok (site.rebuild value record), site, chosen.events⟩
  | .ok none => (site.resolveByProbe value).after chosen.events

/-- Finds the first candidate behind a case that describes the value. Behind case zero this
is an ordinary resolution; behind the last case there is nothing to ask. -/
def resolveBehind (site : Site τ) (value : Value τ) (after : Nat) :
    Step Fault (Site τ) (Dispatch τ) :=
  if after = unresolvedCase then site.resolve value
  else if after = noMatchCase ∨ site.candidates.length ≤ after then
    ⟨.ok .noMatch, site, []⟩
  else
    let counted := site.countContinuation
    match counted.strategy.chooseBehind value after with
    | (some record, events) => ⟨.ok (counted.rebuild value record), counted, events⟩
    | (none, events) =>
      let found := probe counted.candidates value after
      let probed := counted.countProbe found.attempts
      { result := .ok ⟨found.record, found.target⟩
        state :=
          { probed with strategy := probed.strategy.reportBehind value after found.record }
        events := events }

/-- Resolves behind `after`, then behind each case just found, at most `steps` times. -/
def walkFrom (site : Site τ) (value : Value τ) (after : Nat) :
    Nat → Step Fault (Site τ) (List (Dispatch τ))
  | 0 => ⟨.ok [], site, []⟩
  | steps + 1 =>
    let step := site.resolveBehind value after
    match step.result with
    | .error fault => ⟨.error fault, step.state, step.events⟩
    | .ok dispatch =>
      if dispatch.isNoMatch then ⟨.ok [dispatch], step.state, step.events⟩
      else
        let rest := step.state.walkFrom value dispatch.case steps
        { result := rest.result.map (dispatch :: ·)
          state := rest.state
          events := step.events ++ rest.events }

/-- All matches of a value in order, up to and including the first answer that there is
none. Each match is behind the one before, so one step more than there are candidates is
enough. -/
def walk (site : Site τ) (value : Value τ) : Step Fault (Site τ) (List (Dispatch τ)) :=
  site.walkFrom value unresolvedCase (site.candidates.length + 1)

end Site

end Typecase
