import Typecase.Proofs.Bills

/-! First answers and answers behind a case do not touch each other. A site is told apart into two
sides, the slot cache with the counters of first answers and the answers kept behind cases with
their counter, and every call reads and changes one of them. -/

namespace Typecase

namespace Memory

/-- The memory without its answers behind cases. -/
def firstSide (memory : Memory) : Memory := { memory with continuations := [] }

/-- The memory without its slot cache. -/
def behindSide (memory : Memory) : Memory := { memory with cache := none }

section Apart
variable {α : Type} (memory : Memory) (token : Token) (after : Nat) (record : Record)

theorem onCache_firstSide (use : Cache → Step Fault Cache α) :
    memory.firstSide.onCache use = (memory.onCache use).embed firstSide := by
  have config : memory.firstSide.config.checkedBitsFor memory.firstSide.hint =
    memory.config.checkedBitsFor memory.hint := rfl
  cases held : memory.cache with
  | some cache =>
    have first : memory.firstSide.cache = some cache := held
    simp only [onCache, held, first]
    rfl
  | none =>
    have first : memory.firstSide.cache = none := held
    simp only [onCache, held, first, config]
    cases memory.config.checkedBitsFor memory.hint with
    | error fault => rfl
    | ok bits =>
      have sized : Cache.sized memory.firstSide.hint memory.firstSide.config
        memory.firstSide.backing = Cache.sized memory.hint memory.config memory.backing := rfl
      simp only [sized]
      cases Cache.sized memory.hint memory.config memory.backing <;> rfl

theorem choose_firstSide :
    memory.firstSide.choose token = (memory.choose token).embed firstSide := by
  by_cases enabled : memory.config.enabled = true
  · have first : memory.firstSide.config.enabled = true := enabled
    simp only [choose, if_pos enabled, if_pos first, onCache_firstSide]
  · have first : ¬memory.firstSide.config.enabled = true := enabled
    simp only [choose, if_neg enabled, if_neg first]
    rfl

theorem report_firstSide :
    memory.firstSide.report token record = (memory.report token record).embed firstSide := by
  by_cases enabled : memory.config.enabled = true
  · have first : memory.firstSide.config.enabled = true := enabled
    simp only [report, if_pos enabled, if_pos first, onCache_firstSide]
  · have first : ¬memory.firstSide.config.enabled = true := enabled
    simp only [report, if_neg enabled, if_neg first]
    rfl

theorem firstSide_reportBehind :
    (memory.reportBehind token after record).firstSide = memory.firstSide := by
  unfold reportBehind
  split <;> rfl

/-- What is kept behind a case stays. -/
theorem continuation?_kept (other : Token) (behind : Nat) (known : Record)
    (kept : memory.continuation? other behind = some known) :
    (memory.reportBehind token after record).continuation? other behind = some known := by
  unfold reportBehind
  split
  next =>
    obtain ⟨found, place, same⟩ := Option.map_eq_some_iff.1 kept
    simp only [continuation?, List.find?_append, place, Option.some_or, Option.map_some, same]
  next => exact kept

theorem behindSide_onCache (use : Cache → Step Fault Cache α) :
    (memory.onCache use).state.behindSide = memory.behindSide := by
  unfold onCache
  split
  next => rfl
  next =>
    split
    next => rfl
    next =>
      dsimp only
      split <;> rfl

theorem behindSide_choose : (memory.choose token).state.behindSide = memory.behindSide := by
  unfold choose
  split
  next => exact behindSide_onCache ..
  next => rfl

theorem behindSide_report :
    (memory.report token record).state.behindSide = memory.behindSide := by
  unfold report
  split
  next => exact behindSide_onCache ..
  next => rfl

theorem behindSide_reportBehind :
    memory.behindSide.reportBehind token after record =
      (memory.reportBehind token after record).behindSide := by
  unfold reportBehind
  have kept : memory.behindSide.continuation? token after = memory.continuation? token after := rfl
  have config : memory.behindSide.config = memory.config := rfl
  rw [kept, config]
  split <;> rfl

end Apart

end Memory

variable {τ : Type}

namespace Strategy

def firstSide : Strategy τ → Strategy τ
  | openWorld memory => openWorld memory.firstSide
  | closedWorld table => closedWorld table

def behindSide : Strategy τ → Strategy τ
  | openWorld memory => openWorld memory.behindSide
  | closedWorld table => closedWorld table

section Apart
variable (strategy : Strategy τ) (value : Value τ) (after : Nat) (record : Record)

@[simp] theorem firstSide_firstSide : strategy.firstSide.firstSide = strategy.firstSide := by
  cases strategy <;> rfl

@[simp] theorem behindSide_behindSide :
    strategy.behindSide.behindSide = strategy.behindSide := by
  cases strategy <;> rfl

theorem kind_firstSide : strategy.firstSide.kind = strategy.kind := by cases strategy <;> rfl

theorem report_firstSide :
    strategy.firstSide.report value record = (strategy.report value record).embed firstSide := by
  cases strategy with
  | openWorld memory =>
    simp only [firstSide, report, memory.report_firstSide]
    rfl
  | closedWorld table => rfl

theorem firstSide_reportBehind :
    (strategy.reportBehind value after record).firstSide = strategy.firstSide := by
  cases strategy with
  | openWorld memory => exact congrArg openWorld (memory.firstSide_reportBehind ..)
  | closedWorld table => rfl

theorem behindSide_report :
    (strategy.report value record).state.behindSide = strategy.behindSide := by
  cases strategy with
  | openWorld memory => exact congrArg openWorld (memory.behindSide_report ..)
  | closedWorld table => rfl

theorem behindSide_reportBehind :
    strategy.behindSide.reportBehind value after record =
      (strategy.reportBehind value after record).behindSide := by
  cases strategy with
  | openWorld memory => exact congrArg openWorld (memory.behindSide_reportBehind ..)
  | closedWorld table => rfl

variable [DecidableEq τ]

theorem choose_firstSide :
    strategy.firstSide.choose value = (strategy.choose value).embed firstSide := by
  cases strategy with
  | openWorld memory =>
    simp only [firstSide, choose, memory.choose_firstSide]
    rfl
  | closedWorld table => rfl

theorem behindSide_choose :
    (strategy.choose value).state.behindSide = strategy.behindSide := by
  cases strategy with
  | openWorld memory => exact congrArg openWorld (memory.behindSide_choose ..)
  | closedWorld table => rfl

theorem chooseBehind_behindSide :
    strategy.behindSide.chooseBehind value after = strategy.chooseBehind value after := by
  cases strategy <;> rfl

end Apart

end Strategy

namespace Site

/-- The site without its answers behind cases and without the counters that a call behind a case
may change. -/
def firstSide (site : Site τ) : Site τ :=
  { site with
    strategy := site.strategy.firstSide
    tally := { site.tally with probes := 0, continuations := 0 } }

/-- The site without its slot cache and without the counters that a resolution may change. -/
def behindSide (site : Site τ) : Site τ :=
  { site with
    strategy := site.strategy.behindSide
    tally := { continuations := site.tally.continuations } }

section Apart
variable (site : Site τ) (value : Value τ) (after : Nat)

theorem behindSide_congr (other : Site τ) (candidates : other.candidates = site.candidates)
    (strategy : other.strategy.behindSide = site.strategy.behindSide)
    (continuations : other.tally.continuations = site.tally.continuations) :
    other.behindSide = site.behindSide := by
  unfold behindSide
  rw [candidates, strategy, continuations]

theorem behindSide_behindSide : site.behindSide.behindSide = site.behindSide :=
  behindSide_congr site site.behindSide rfl (Strategy.behindSide_behindSide _) rfl

theorem countResolve_firstSide :
    site.firstSide.countResolve = site.countResolve.firstSide := by
  simp only [countResolve, firstSide, Strategy.kind_firstSide]

/-- The counters of a first probe, and what the strategy makes of it, are told from the first side
alone. -/
theorem firstSide_countFirst (attempts : Nat) (record : Record) (strategy : Strategy τ) :
    ({ (site.firstSide.countProbe attempts).countOutcome record with
        strategy := strategy.firstSide } : Site τ).firstSide =
      ({ (site.countProbe attempts).countOutcome record with
        strategy := strategy } : Site τ).firstSide := by
  unfold countOutcome
  split <;> simp only [firstSide, countProbe, Strategy.firstSide_firstSide]

variable [DecidableEq τ]

theorem resolveByProbe_firstSide :
    (site.firstSide.resolveByProbe value).result = (site.resolveByProbe value).result ∧
    (site.firstSide.resolveByProbe value).state.firstSide =
      (site.resolveByProbe value).state.firstSide := by
  have reported (record : Record) : site.firstSide.strategy.report value record =
      (site.strategy.report value record).embed Strategy.firstSide :=
    site.strategy.report_firstSide value record
  unfold resolveByProbe
  dsimp only [countOutcome, countProbe]
  rw [reported]
  exact ⟨rfl, site.firstSide_countFirst ..⟩

theorem resolve_firstSide :
    (site.firstSide.resolve value).result = (site.resolve value).result ∧
    (site.firstSide.resolve value).state.firstSide = (site.resolve value).state.firstSide := by
  have chosen : site.countResolve.firstSide.strategy.choose value =
      (site.countResolve.strategy.choose value).embed Strategy.firstSide :=
    site.strategy.choose_firstSide value
  unfold resolve
  rw [countResolve_firstSide]
  simp only [chosen]
  generalize site.countResolve = counted
  rcases counted.strategy.choose value with ⟨fault | (_ | record), strategy, events⟩
  · exact ⟨rfl, by simp only [firstSide, Strategy.firstSide_firstSide, Step.embed]⟩
  · exact resolveByProbe_firstSide { counted with strategy := strategy } value
  · exact ⟨rfl, by simp only [firstSide, Strategy.firstSide_firstSide, Step.embed]⟩

theorem behindSide_resolveByProbe :
    (site.resolveByProbe value).state.behindSide = site.behindSide := by
  apply behindSide_congr
  · unfold resolveByProbe countOutcome
    rfl
  · unfold resolveByProbe
    exact site.strategy.behindSide_report value _
  · unfold resolveByProbe countOutcome
    dsimp only
    split <;> rfl

/-- A resolution leaves the answers behind cases alone. -/
theorem behindSide_resolve : (site.resolve value).state.behindSide = site.behindSide := by
  have chosen : ({ site.countResolve with
      strategy := (site.countResolve.strategy.choose value).state } : Site τ).behindSide =
      site.behindSide :=
    behindSide_congr _ _ rfl (site.strategy.behindSide_choose value) rfl
  unfold resolve
  dsimp only
  split
  next => exact chosen
  next => exact chosen
  next => exact (behindSide_resolveByProbe _ value).trans chosen

/-- A call behind a case leaves the first answers alone. -/
theorem firstSide_resolveBehind (started : after ≠ unresolvedCase) :
    (site.resolveBehind value after).state.firstSide = site.firstSide := by
  by_cases outside : after = noMatchCase ∨ site.candidates.length ≤ after
  · rw [resolveBehind_outside site value after started outside]
  rcases chosen : site.strategy.chooseBehind value after with ⟨_ | record, events⟩
  · rw [resolveBehind_probed site value after events started outside chosen]
    simp only [firstSide, Strategy.firstSide_reportBehind]
    rfl
  · rw [resolveBehind_chosen site value after record events started outside chosen]
    rfl

theorem resolveBehind_behindSide (started : after ≠ unresolvedCase) :
    (site.behindSide.resolveBehind value after).result =
      (site.resolveBehind value after).result ∧
    (site.behindSide.resolveBehind value after).state.behindSide =
      (site.resolveBehind value after).state.behindSide := by
  by_cases outside : after = noMatchCase ∨ site.candidates.length ≤ after
  · rw [resolveBehind_outside site value after started outside,
      resolveBehind_outside site.behindSide value after started outside]
    exact ⟨rfl, site.behindSide_behindSide⟩
  have same : site.behindSide.strategy.chooseBehind value after =
      site.strategy.chooseBehind value after :=
    site.strategy.chooseBehind_behindSide value after
  rcases chosen : site.strategy.chooseBehind value after with ⟨_ | record, events⟩
  · rw [resolveBehind_probed site value after events started outside chosen,
      resolveBehind_probed site.behindSide value after events started outside
        (same.trans chosen)]
    refine ⟨rfl, behindSide_congr _ _ rfl ?_ rfl⟩
    have kept := site.strategy.behindSide_reportBehind value after
      (probe site.candidates value after).record
    exact (congrArg Strategy.behindSide kept).trans (Strategy.behindSide_behindSide _)
  · rw [resolveBehind_chosen site value after record events started outside chosen,
      resolveBehind_chosen site.behindSide value after record events started outside
        (same.trans chosen)]
    exact ⟨rfl, behindSide_congr _ _ rfl (Strategy.behindSide_behindSide _) rfl⟩

end Apart

variable [DecidableEq τ]

/-- Resolutions are answered by the first side. -/
theorem side_first : Step.Side (answer (τ := τ)) (fun call => call.after = unresolvedCase)
    firstSide where
  result site call start := by
    rw [answer_eq, answer_eq, of_decide_eq_true start, resolveBehind_start, resolveBehind_start]
    exact (site.resolve_firstSide call.value).1
  next site call start := by
    rw [answer_eq, answer_eq, of_decide_eq_true start, resolveBehind_start, resolveBehind_start]
    exact (site.resolve_firstSide call.value).2
  still site call started := by
    rw [answer_eq]
    exact site.firstSide_resolveBehind call.value call.after (of_decide_eq_false started)

/-- Calls behind a case are answered by the side that keeps the answers behind cases. -/
theorem side_behind : Step.Side (answer (τ := τ)) (fun call => call.after ≠ unresolvedCase)
    behindSide where
  result site call started := by
    rw [answer_eq, answer_eq]
    exact (site.resolveBehind_behindSide call.value call.after (of_decide_eq_true started)).1
  next site call started := by
    rw [answer_eq, answer_eq]
    exact (site.resolveBehind_behindSide call.value call.after (of_decide_eq_true started)).2
  still site call start := by
    have first : call.after = unresolvedCase := by simpa using start
    rw [answer_eq, first, resolveBehind_start]
    exact site.behindSide_resolve call.value

end Site

/-- The calls that look behind some case, whether or not it has candidates behind it. -/
def Call.reentries (calls : List (Call τ)) : List (Call τ) :=
  calls.filter (·.after ≠ unresolvedCase)

/-- All counters but the two that a call behind a case may change. -/
def SiteCounts.ofFirsts (counts : SiteCounts) : SiteCounts :=
  { counts with probes := 0, continuations := 0 }

namespace Site

/-- The slot cache of a site with its store, once it was made. -/
def slotCache (site : Site τ) : Option Cache :=
  match site.strategy with
  | .openWorld memory => memory.cache
  | .closedWorld _ => none

def continuations (site : Site τ) : List Continuation :=
  match site.strategy with
  | .openWorld memory => memory.continuations
  | .closedWorld _ => []

/-- The record that is kept for a token behind a case. -/
def continuation? (site : Site τ) (token : Token) (after : Nat) : Option Record :=
  match site.strategy with
  | .openWorld memory => memory.continuation? token after
  | .closedWorld _ => none

theorem slotCache_firstSide (site : Site τ) : site.firstSide.slotCache = site.slotCache := by
  cases strategy : site.strategy <;> simp only [slotCache, firstSide, strategy] <;> rfl

theorem counts_firstSide (site : Site τ) : site.firstSide.counts = site.counts.ofFirsts := by
  cases strategy : site.strategy <;> simp only [counts, firstSide, strategy] <;> rfl

theorem continuations_behindSide (site : Site τ) :
    site.behindSide.continuations = site.continuations := by
  cases strategy : site.strategy <;> simp only [continuations, behindSide, strategy] <;> rfl

theorem continuation?_behindSide (site : Site τ) :
    site.behindSide.continuation? = site.continuation? := by
  funext token after
  cases strategy : site.strategy <;> simp only [continuation?, behindSide, strategy] <;> rfl

variable [DecidableEq τ]

/-- The calls of a run, each with what it was answered. -/
def replies (site : Site τ) (calls : List (Call τ)) :
    List (Call τ × Except Fault (Dispatch τ)) :=
  Step.replies answer site calls

theorem continuation?_answer (site : Site τ) (call : Call τ) (token : Token) (after : Nat)
    (record : Record) (known : site.continuation? token after = some record) :
    (site.answer call).state.continuation? token after = some record := by
  by_cases start : call.after = unresolvedCase
  · rw [answer_eq, start, resolveBehind_start, ← continuation?_behindSide,
      site.behindSide_resolve, continuation?_behindSide]
    exact known
  rw [answer_eq]
  by_cases outside : call.after = noMatchCase ∨ site.candidates.length ≤ call.after
  · rw [resolveBehind_outside site call.value call.after start outside]
    exact known
  rcases chosen : site.strategy.chooseBehind call.value call.after with ⟨_ | _, events⟩
  · rw [resolveBehind_probed site call.value call.after events start outside chosen]
    unfold continuation? at known ⊢
    cases strategy : site.strategy with
    | openWorld memory =>
      rw [strategy] at known
      exact memory.continuation?_kept call.value.token call.after _ token after record known
    | closedWorld table =>
      rw [strategy] at known
      cases known
  · rw [resolveBehind_chosen site call.value call.after _ events start outside chosen]
    exact known

end Site

/-- First answers and answers behind cases do not touch each other, in whatever state a site is and
with whatever values it is called. Without the calls behind cases the others are answered the same
and leave the same slot cache and the same counters of first answers. Without the resolutions the
calls behind cases are answered the same and leave the same answers kept behind cases, of which
none ever changes. -/
theorem firsts_and_continuations_apart [DecidableEq τ] (site : Site τ) (calls : List (Call τ)) :
    (((site.replies calls).filter fun reply => reply.1.after = unresolvedCase) =
        site.replies (Call.resolutions calls) ∧
      (site.run calls).slotCache = (site.run (Call.resolutions calls)).slotCache ∧
      (site.run calls).counts.ofFirsts = (site.run (Call.resolutions calls)).counts.ofFirsts) ∧
    (((site.replies calls).filter fun reply => reply.1.after ≠ unresolvedCase) =
        site.replies (Call.reentries calls) ∧
      (site.run calls).continuations = (site.run (Call.reentries calls)).continuations ∧
      (site.run calls).counts.continuations =
        (site.run (Call.reentries calls)).counts.continuations) ∧
    ∀ token after record, (site.run calls).continuation? token after = some record → ∀ later,
      (site.run (calls ++ later)).continuation? token after = some record := by
  obtain ⟨first, firstReplies⟩ := Site.side_first.run_filter calls site site rfl
  obtain ⟨behind, behindReplies⟩ := Site.side_behind.run_filter calls site site rfl
  refine ⟨⟨firstReplies, ?_, ?_⟩, ⟨behindReplies, ?_, ?_⟩, ?_⟩
  · have same := congrArg Site.slotCache first
    rwa [Site.slotCache_firstSide, Site.slotCache_firstSide] at same
  · have same := congrArg Site.counts first
    rwa [Site.counts_firstSide, Site.counts_firstSide] at same
  · have same := congrArg Site.continuations behind
    rwa [Site.continuations_behindSide, Site.continuations_behindSide] at same
  · exact congrArg (fun side => side.tally.continuations) behind
  · intro token after record known later
    rw [Site.run_append]
    exact Step.run_keeps (fun state => state.continuation? token after = some record)
      Site.answer _ later known fun call _ state before =>
        state.continuation?_answer call token after record before

/-- A whole is resolved between two calls behind its part. Either way of calling sees what it would
see without the other, and what the first call found behind the part stays whatever is asked
later. -/
theorem firsts_and_continuations_apart_interleaved :
    let whole : Layout Nat := ⟨⟨16⟩, 0, "Whole", none, [⟨1, 8⟩]⟩
    let site : Site Nat :=
      ⟨[⟨1, "Part"⟩, ⟨0, "Whole"⟩], .openWorld ⟨2, .default, .arrival, none, []⟩, {}⟩
    let first : Call Nat := .resolve (whole.valueAt 64)
    let behind : Call Nat := .resolveBehind (whole.valueAt 64) 1
    let mixed := site.run [behind, first, behind]
    mixed.slotCache = (site.run [first]).slotCache ∧
      mixed.continuations = (site.run [behind, behind]).continuations ∧
      ∀ later, (site.run (behind :: later)).continuation? ⟨16⟩ 1 = some ⟨2, .zero⟩ := by
  intro whole site first behind mixed
  obtain ⟨⟨-, cache, -⟩, ⟨-, continuations, -⟩, -⟩ :=
    firsts_and_continuations_apart site [behind, first, behind]
  obtain ⟨-, -, stays⟩ := firsts_and_continuations_apart site [behind]
  have kept : (site.run [behind]).continuation? ⟨16⟩ 1 = some ⟨2, .zero⟩ := by decide
  exact ⟨cache, continuations, stays _ _ _ kept⟩

end Typecase
