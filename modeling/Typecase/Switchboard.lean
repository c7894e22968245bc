import Typecase.Site

/-! A table of sites that come into being when they are first used. The caller names a site
and hands over the way to build it; that way is run only while the site is absent, and if
it fails the table stays as it was, so a later call tries again. -/

namespace Typecase

structure Switchboard (τ : Type) where
  sites : List (SiteId × Site τ)
  /-- The configuration of sites that are built without one of their own. -/
  config : Config

namespace Switchboard

variable {τ α : Type}

def empty (config : Config) : Switchboard τ := ⟨[], config⟩

def get? (table : Switchboard τ) (id : SiteId) : Option (Site τ) :=
  (table.sites.find? (·.1 == id)).map Prod.snd

def size (table : Switchboard τ) : Nat := table.sites.length

def isEmpty (table : Switchboard τ) : Bool := table.sites.isEmpty

def insertNew (table : Switchboard τ) (id : SiteId) (site : Site τ) : Switchboard τ :=
  { table with sites := table.sites ++ [(id, site)] }

def replace (table : Switchboard τ) (id : SiteId) (site : Site τ) : Switchboard τ :=
  { table with
    sites := table.sites.map fun (known, old) =>
      if known = id then (known, site) else (known, old) }

/-- The counters of all sites together. -/
def counts (table : Switchboard τ) : Except Fault SiteCounts :=
  SiteCounts.total (table.sites.map fun (_, site) => site.counts)

variable [DecidableEq τ]

/-- Adds the site that is built from a plan, under the configuration of the table unless the
plan has one. -/
def register (table : Switchboard τ) (id : SiteId)
    (plan : Except Refusal (SitePlan τ)) :
    Step Refusal (Switchboard τ) (Site τ) :=
  match plan.bind fun plan => (plan.withDefault table.config).build with
  | .error error => ⟨.error error, table, []⟩
  | .ok (site, created) =>
    ⟨.ok site, table.insertNew id site, [created, .siteRegistered id]⟩

/-- The site of an id, built by `init` the first time. -/
def ensure {m : Type → Type} [Monad m] (table : Switchboard τ) (id : SiteId)
    (init : m (Except Refusal (SitePlan τ))) :
    m (Step Refusal (Switchboard τ) (Site τ)) :=
  match table.get? id with
  | some site => pure ⟨.ok site, table, []⟩
  | none => return table.register id (← init)

/-- Uses the site of an id, built by `init` the first time. -/
def operate {m : Type → Type} [Monad m] (table : Switchboard τ) (id : SiteId)
    (init : m (Except Refusal (SitePlan τ)))
    (use : Site τ → Step Fault (Site τ) α) : m (Step Failure (Switchboard τ) α) := do
  let found ← table.ensure id init
  match found.result with
  | .error error => return ⟨.error (.refused error), found.state, found.events⟩
  | .ok site =>
    let step := use site
    return {
      result := step.result.mapError .fault
      state := found.state.replace id step.state
      events := found.events ++ step.events }

def resolve {m : Type → Type} [Monad m] (table : Switchboard τ) (id : SiteId)
    (init : m (Except Refusal (SitePlan τ))) (value : Value τ) :
    m (Step Failure (Switchboard τ) (Dispatch τ)) :=
  table.operate id init (·.resolve value)

end Switchboard

end Typecase
