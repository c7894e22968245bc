import Mathlib.Data.List.Induction
import Typecase.Switchboard
import Typecase.Proofs.Calls

/-! A switchboard is a family of sites that know nothing of each other. The site of an id is the one
that would stand alone: built from the first offer for the id that leads to a site, and called with
the values that came for the id from then on. -/

namespace Typecase

namespace Switchboard

variable {ω τ : Type}

/-- A way to build a site, which may look at what lies outside of the table and change it. -/
abbrev Init (ω τ : Type) : Type := StateM ω (Except Refusal (SitePlan τ))

inductive Request (ω τ : Type) where
  | site (id : SiteId) (init : Init ω τ)
  | resolve (id : SiteId) (init : Init ω τ) (value : Value τ)

inductive Reply (τ : Type) where
  | site (site : Site τ)
  | dispatch (dispatch : Dispatch τ)

namespace Request

def id : Request ω τ → SiteId
  | site id _ | resolve id _ _ => id

def init : Request ω τ → Init ω τ
  | site _ init | resolve _ init _ => init

def value? : Request ω τ → Option (Value τ)
  | site _ _ => none
  | resolve _ _ value => some value

end Request

/-- A table with what lies outside of it. -/
structure Setting (ω τ : Type) where
  table : Switchboard τ
  outside : ω

/-- What a request brings to a table: the plan of a site for an id, and perhaps a value. -/
structure Offer (τ : Type) where
  id : SiteId
  plan : Except Refusal (SitePlan τ)
  value? : Option (Value τ)

/-- The offer that a request makes if its way to build a site runs now. -/
def Request.offer (request : Request ω τ) (outside : ω) : Offer τ :=
  ⟨request.id, (request.init.run outside).run.1, request.value?⟩

section Tables
variable (table : Switchboard τ) (id other : SiteId) (site : Site τ)

theorem get?_insertNew (absent : table.get? id = none) :
    (table.insertNew id site).get? other =
      if id = other then some site else table.get? other := by
  by_cases same : id = other
  · subst same
    simp only [get?, Option.map_eq_none_iff] at absent
    simp [get?, insertNew, absent]
  · simp [get?, insertNew, same]

theorem get?_replace :
    (table.replace id site).get? other =
      if id = other then (table.get? id).map fun _ => site else table.get? other := by
  have sameIds : ((fun known : SiteId × Site τ => known.1 == other) ∘
      fun (known, old) => if known = id then (known, site) else (known, old)) =
      fun known => known.1 == other := by
    funext known
    simp only [Function.comp]
    split <;> rfl
  simp only [get?, replace, List.find?_map, sameIds, Option.map_map]
  by_cases same : id = other
  · subst same
    rw [if_pos rfl]
    apply Option.map_congr
    intro known found
    have own : known.1 = id := by simpa using List.find?_some found
    simp [own]
  · rw [if_neg same]
    apply Option.map_congr
    intro known found
    have own : known.1 = other := by simpa using List.find?_some found
    simp [own, Ne.symm same]

end Tables

variable [DecidableEq τ]

namespace Offer

/-- The site that an offer leads to. The configuration of the table counts where the plan has
none. -/
def build (config : Config) (offer : Offer τ) : Except Refusal (Site τ) :=
  offer.plan.bind fun plan =>
    ({ plan with config := plan.config.or (some config) } : SitePlan τ).build.map Prod.fst

theorem build_eq (config : Config) (offer : Offer τ) :
    offer.build config =
      (offer.plan.bind fun plan => (plan.withDefault config).build).map Prod.fst := by
  unfold build
  cases offer.plan with
  | error refusal => rfl
  | ok plan =>
    have settled : plan.config.or (some config) = some (plan.config.getD config) := by
      cases plan.config <;> rfl
    simp only [Except.bind, settled]
    rfl

/-- The calls on the site of an id that an offer for the id asks for. -/
def calls (offer : Offer τ) : List (Call τ) := offer.value?.toList.map .resolve

/-- What the site of an id replies to an offer for the id. -/
def reply (offer : Offer τ) (site : Site τ) : Except Failure (Reply τ) :=
  match offer.value? with
  | none => .ok (.site site)
  | some value => ((site.resolve value).result.mapError .fault).map .dispatch

end Offer

/-- The site of an id as it would stand alone. It is built from the first offer for the id that
leads to a site, and takes the calls of that offer and of the later ones for the id. -/
def alone (config : Config) (id : SiteId) (offers : List (Offer τ)) : Option (Site τ) :=
  match (offers.filter (·.id = id)).dropWhile fun offer => !(offer.build config).isOk with
  | [] => none
  | founder :: later =>
    (founder.build config).toOption.map (·.run ((founder :: later).flatMap Offer.calls))

theorem alone_concat (config : Config) (id : SiteId) (offers : List (Offer τ)) (offer : Offer τ) :
    alone config id (offers ++ [offer]) =
      if offer.id = id then
        ((alone config id offers).or (offer.build config).toOption).map (·.run offer.calls)
      else alone config id offers := by
  unfold alone
  rw [List.filter_append]
  by_cases own : offer.id = id
  case neg => simp [own]
  have single : [offer].filter (·.id = id) = [offer] := by simp [own]
  rw [single, if_pos own, List.dropWhile_append]
  cases tenure : (offers.filter (·.id = id)).dropWhile fun offer => !(offer.build config).isOk with
  | nil =>
    cases built : offer.build config with
    | error refusal => simp [built, Except.isOk, Except.toBool, Except.toOption]
    | ok site => simp [built, Except.isOk, Except.toBool, Except.toOption]
  | cons founder later =>
    have leads := List.head?_dropWhile_not (fun offer => !(offer.build config).isOk)
      (offers.filter (·.id = id))
    rw [tenure] at leads
    cases built : founder.build config with
    | error refusal => simp [built, Except.isOk, Except.toBool] at leads
    | ok site =>
      simp only [List.isEmpty_cons, Bool.false_eq_true, ↓reduceIte, List.cons_append,
        List.flatMap_cons, List.flatMap_append, List.flatMap_nil, List.append_nil, built,
        Except.toOption, Option.map_some, Option.some_or, ← List.append_assoc,
        Site.run_append]

section Registering
variable (table : Switchboard τ)

theorem register_error (offer : Offer τ) (refusal : Refusal)
    (refused : offer.build table.config = .error refusal) :
    table.register offer.id offer.plan = ⟨.error refusal, table, []⟩ := by
  rw [Offer.build_eq] at refused
  unfold register
  cases outcome : offer.plan.bind fun plan => (plan.withDefault table.config).build with
  | error other =>
    rw [outcome] at refused
    cases refused
    rfl
  | ok made =>
    rw [outcome] at refused
    cases refused

theorem register_ok (offer : Offer τ) (site : Site τ)
    (built : offer.build table.config = .ok site) : ∃ events,
    table.register offer.id offer.plan = ⟨.ok site, table.insertNew offer.id site, events⟩ := by
  rw [Offer.build_eq] at built
  unfold register
  cases outcome : offer.plan.bind fun plan => (plan.withDefault table.config).build with
  | error other =>
    rw [outcome] at built
    cases built
  | ok made =>
    rw [outcome] at built
    cases built
    exact ⟨_, rfl⟩

variable {m : Type → Type} [Monad m] (id : SiteId) (init : m (Except Refusal (SitePlan τ)))

theorem ensure_present (site : Site τ) (present : table.get? id = some site) :
    table.ensure id init = pure ⟨.ok site, table, []⟩ := by
  simp only [ensure, present]

theorem ensure_absent (absent : table.get? id = none) :
    table.ensure id init = do return table.register id (← init) := by
  simp only [ensure, absent]

end Registering

namespace Setting

def perform (setting : Setting ω τ) : Request ω τ → Step Failure (Setting ω τ) (Reply τ)
  | .site id init =>
    let (step, outside) := ((setting.table.ensure id init).run setting.outside).run
    ⟨(step.result.mapError .refused).map .site, ⟨step.state, outside⟩, step.events⟩
  | .resolve id init value =>
    let (step, outside) := ((setting.table.resolve id init value).run setting.outside).run
    ⟨step.result.map .dispatch, ⟨step.state, outside⟩, step.events⟩

def run (setting : Setting ω τ) (requests : List (Request ω τ)) : Setting ω τ :=
  Step.run perform setting requests

/-- The offers that the requests of a run make, each in the setting that it finds. -/
def offers (setting : Setting ω τ) : List (Request ω τ) → List (Offer τ)
  | [] => []
  | request :: rest =>
    request.offer setting.outside :: offers (setting.perform request).state rest

theorem run_concat (setting : Setting ω τ) (requests : List (Request ω τ))
    (request : Request ω τ) :
    setting.run (requests ++ [request]) = ((setting.run requests).perform request).state :=
  Step.run_append ..

theorem offers_concat (setting : Setting ω τ) (requests : List (Request ω τ))
    (request : Request ω τ) :
    setting.offers (requests ++ [request]) =
      setting.offers requests ++ [request.offer (setting.run requests).outside] := by
  induction requests generalizing setting with
  | nil => rfl
  | cons first rest ih => exact congrArg (first.offer setting.outside :: ·) (ih _)

section Perform
variable (setting : Setting ω τ) (request : Request ω τ)

/-- Once the site of its id is found, a request is served by it. -/
theorem perform_found (table : Switchboard τ) (site : Site τ) (events : List Event) (outside : ω)
    (found : ((setting.table.ensure request.id request.init).run setting.outside).run =
      (⟨.ok site, table, events⟩, outside))
    (present : table.get? request.id = some site) :
    (setting.perform request).result = (request.offer setting.outside).reply site ∧
    (setting.perform request).state.outside = outside ∧
    (setting.perform request).state.table.config = table.config ∧
    ∀ other, (setting.perform request).state.table.get? other =
      if request.id = other then some (site.run (request.offer setting.outside).calls)
      else table.get? other := by
  cases request with
  | site id init =>
    have same : ((setting.table.ensure id init).run setting.outside).run =
      (⟨.ok site, table, events⟩, outside) := found
    simp only [perform, same]
    refine ⟨rfl, trivial, trivial, fun other => ?_⟩
    split
    next own => exact own ▸ present
    next => rfl
  | resolve id init value =>
    have same : ((setting.table.ensure id init).run setting.outside).run =
      (⟨.ok site, table, events⟩, outside) := found
    simp only [perform, Switchboard.resolve, operate, StateT.run_bind, Id.run_bind, same,
      StateT.run_pure, Id.run_pure]
    refine ⟨rfl, trivial, rfl, fun other => ?_⟩
    have there : table.get? id = some site := present
    rw [get?_replace, there]
    rfl

theorem perform_refused (table : Switchboard τ) (refusal : Refusal) (events : List Event)
    (outside : ω)
    (refused : ((setting.table.ensure request.id request.init).run setting.outside).run =
      (⟨.error refusal, table, events⟩, outside)) :
    (setting.perform request).result = .error (.refused refusal) ∧
    (setting.perform request).state = ⟨table, outside⟩ := by
  cases request with
  | site id init =>
    have same : ((setting.table.ensure id init).run setting.outside).run =
      (⟨.error refusal, table, events⟩, outside) := refused
    simp only [perform, same]
    exact ⟨rfl, trivial⟩
  | resolve id init value =>
    have same : ((setting.table.ensure id init).run setting.outside).run =
      (⟨.error refusal, table, events⟩, outside) := refused
    simp only [perform, Switchboard.resolve, operate, StateT.run_bind, Id.run_bind, same,
      StateT.run_pure, Id.run_pure]
    exact ⟨rfl, trivial⟩

/-- A site that is there serves a request as it is, and nothing is built. -/
theorem perform_present (site : Site τ) (present : setting.table.get? request.id = some site) :
    (setting.perform request).result = (request.offer setting.outside).reply site ∧
    (setting.perform request).state.outside = setting.outside ∧
    (setting.perform request).state.table.config = setting.table.config ∧
    ∀ other, (setting.perform request).state.table.get? other =
      if request.id = other then some (site.run (request.offer setting.outside).calls)
      else setting.table.get? other := by
  apply setting.perform_found request _ site [] _ _ present
  rw [ensure_present _ _ _ site present]
  rfl

/-- A site that is missing is built from what its init offers, which then serves the request. -/
theorem perform_absent (absent : setting.table.get? request.id = none) (site : Site τ)
    (built : (request.offer setting.outside).build setting.table.config = .ok site) :
    (setting.perform request).result = (request.offer setting.outside).reply site ∧
    (setting.perform request).state.outside = (request.init.run setting.outside).run.2 ∧
    (setting.perform request).state.table.config = setting.table.config ∧
    ∀ other, (setting.perform request).state.table.get? other =
      if request.id = other then some (site.run (request.offer setting.outside).calls)
      else setting.table.get? other := by
  have inserted := setting.table.get?_insertNew request.id
  obtain ⟨events, registered⟩ := setting.table.register_ok _ site built
  obtain ⟨result, outside, config, others⟩ := setting.perform_found request
    (setting.table.insertNew request.id site) site events
    (request.init.run setting.outside).run.2
    (by
      rw [ensure_absent _ _ _ absent]
      exact congrArg (·, _) registered)
    (by rw [inserted request.id site absent, if_pos rfl])
  refine ⟨result, outside, config, fun other => ?_⟩
  rw [others, inserted other site absent]
  split <;> rfl

/-- A request is refused if its init or the build fails, and the table stays as it was. -/
theorem perform_failed (absent : setting.table.get? request.id = none) (refusal : Refusal)
    (refused : (request.offer setting.outside).build setting.table.config = .error refusal) :
    (setting.perform request).result = .error (.refused refusal) ∧
    (setting.perform request).state =
      ⟨setting.table, (request.init.run setting.outside).run.2⟩ := by
  apply setting.perform_refused request _ refusal []
  rw [ensure_absent _ _ _ absent]
  exact congrArg (·, _) (setting.table.register_error _ refusal refused)

theorem config_perform :
    (setting.perform request).state.table.config = setting.table.config := by
  cases present : setting.table.get? request.id with
  | some site => exact (setting.perform_present request site present).2.2.1
  | none =>
    cases built : (request.offer setting.outside).build setting.table.config with
    | ok site => exact (setting.perform_absent request present site built).2.2.1
    | error refusal => rw [(setting.perform_failed request present refusal built).2]

/-- A request leaves the sites of other ids alone. The site of its own id, there or just built, has
taken its calls. -/
theorem get?_perform (id : SiteId) :
    (setting.perform request).state.table.get? id =
      if request.id = id then
        ((setting.table.get? id).or
          ((request.offer setting.outside).build setting.table.config).toOption).map
          (·.run (request.offer setting.outside).calls)
      else setting.table.get? id := by
  cases present : setting.table.get? request.id with
  | some site =>
    obtain ⟨-, -, -, sites⟩ := setting.perform_present request site present
    rw [sites]
    split
    next own =>
      rw [← own, present]
      rfl
    next => rfl
  | none =>
    cases built : (request.offer setting.outside).build setting.table.config with
    | ok site =>
      obtain ⟨-, -, -, sites⟩ := setting.perform_absent request present site built
      rw [sites]
      split
      next own =>
        rw [← own, present]
        rfl
      next => rfl
    | error refusal =>
      rw [(setting.perform_failed request present refusal built).2]
      split
      next own =>
        rw [← own, present]
        rfl
      next => rfl

end Perform

/-- Each id has the site that would stand alone. -/
theorem get?_run (config : Config) (outside : ω) (requests : List (Request ω τ)) :
    ((⟨.empty config, outside⟩ : Setting ω τ).run requests).table.config = config ∧
    ∀ id, ((⟨.empty config, outside⟩ : Setting ω τ).run requests).table.get? id =
      alone config id ((⟨.empty config, outside⟩ : Setting ω τ).offers requests) := by
  induction requests using List.reverseRecOn with
  | nil => exact ⟨rfl, fun _ => rfl⟩
  | append_singleton requests request ih =>
    obtain ⟨kept, alike⟩ := ih
    rw [run_concat, offers_concat]
    refine ⟨(config_perform ..).trans kept, fun id => ?_⟩
    rw [get?_perform, alone_concat, kept, alike]
    rfl

end Setting

/-- A table is a family of sites that stand alone. Whatever was asked of it before, for whichever
ids and with whichever failures, each id has the site that would stand alone, and a request is
answered by the site of its id. Only while that is missing the init of the request runs. If the
init or the build fails, the request is refused for that very reason and the table stays as it
was. -/
theorem table_is_family (config : Config) (outside : ω) (requests : List (Request ω τ)) :
    let start : Setting ω τ := ⟨.empty config, outside⟩
    let now := start.run requests
    let offers := start.offers requests
    (∀ id, now.table.get? id = alone config id offers) ∧
    (∀ request site, alone config request.id offers = some site →
      (now.perform request).result = (request.offer now.outside).reply site ∧
      (now.perform request).state.outside = now.outside) ∧
    (∀ request, alone config request.id offers = none →
      (now.perform request).state.outside = (request.init.run now.outside).run.2 ∧
      (∀ site, (request.offer now.outside).build config = .ok site →
        (now.perform request).result = (request.offer now.outside).reply site) ∧
      ∀ refusal, (request.offer now.outside).build config = .error refusal →
        (now.perform request).result = .error (.refused refusal) ∧
        (now.perform request).state.table = now.table) := by
  intro start now offers
  obtain ⟨kept, alike⟩ : now.table.config = config ∧
      ∀ id, now.table.get? id = alone config id offers := Setting.get?_run config outside requests
  refine ⟨alike, ?_, ?_⟩
  · intro request site known
    rw [← alike] at known
    obtain ⟨result, same, -⟩ := now.perform_present request site known
    exact ⟨result, same⟩
  · intro request unknown
    rw [← alike] at unknown
    rw [← kept]
    refine ⟨?_, fun site built => ?_, fun refusal refused => ?_⟩
    · cases built : (request.offer now.outside).build now.table.config with
      | ok site => exact (now.perform_absent request unknown site built).2.1
      | error refusal => rw [(now.perform_failed request unknown refusal built).2]
    · exact (now.perform_absent request unknown site built).1
    · obtain ⟨result, state⟩ := now.perform_failed request unknown refusal refused
      exact ⟨result, by rw [state]⟩

/-- The first init for an id fails, the second leads to a site, and the third does not run. For
another id it runs and fails again, and the table stays as it was. -/
theorem table_is_family_retried :
    let whole : Layout Nat := ⟨⟨16⟩, 0, "Whole", none, [⟨1, 8⟩]⟩
    let failing : Init Nat Nat := fun runs => (.error (.tooManyCandidates 2 1), runs + 1)
    let working : Init Nat Nat := fun runs =>
      (.ok (SitePlan.ofCandidates [⟨1, "Part"⟩]), runs + 1)
    let start : Setting Nat Nat := ⟨.empty .disabled, 0⟩
    let now := start.run [.site ⟨5⟩ failing, .resolve ⟨5⟩ working (whole.valueAt 64)]
    now.outside = 2 ∧
    (∃ site, now.table.get? ⟨5⟩ = some site ∧ site.counts.resolves = 1 ∧
      (now.perform (.site ⟨5⟩ failing)).result = .ok (.site site) ∧
      (now.perform (.site ⟨5⟩ failing)).state.outside = 2) ∧
    (now.perform (.site ⟨7⟩ failing)).result = .error (.refused (.tooManyCandidates 2 1)) ∧
    (now.perform (.site ⟨7⟩ failing)).state.table = now.table ∧
    (now.perform (.site ⟨7⟩ failing)).state.outside = 3 := by
  intro whole failing working start now
  obtain ⟨stored, served, missing⟩ := table_is_family .disabled 0
    [.site ⟨5⟩ failing, .resolve ⟨5⟩ working (whole.valueAt 64)]
  obtain ⟨result, same⟩ := served (.site ⟨5⟩ failing) _ rfl
  obtain ⟨ran, -, refused⟩ := missing (.site ⟨7⟩ failing) rfl
  obtain ⟨failed, unchanged⟩ := refused _ rfl
  exact ⟨rfl, ⟨_, stored ⟨5⟩, rfl, result, same⟩, failed, unchanged, ran⟩

end Switchboard

end Typecase
