import Typecase.JumpTable
import Typecase.Memory

/-! How one switch decides, as its hierarchy demands. The switch asks for a choice first,
probes only when there is none, and reports what the probe found. -/

namespace Typecase

variable {τ : Type}

inductive Strategy (τ : Type) where
  | openWorld (memory : Memory)
  | closedWorld (table : JumpTable τ)

/-- The strategy for a switch over the hierarchy. The configuration is checked even where
no cache will be made. -/
def Hierarchy.strategyFor [DecidableEq τ] (hierarchy : Hierarchy τ)
    (candidates : List (Candidate τ)) (hint : Nat) (config : Config) (backing : Backing) :
    Except Refusal (Strategy τ) :=
  match hierarchy with
  | .openWorld => do
    return .openWorld (← Memory.create hint config backing)
  | .closedWorld kinds => do
    config.check
    return .closedWorld (.ofKinds kinds candidates)

namespace Strategy

def kind : Strategy τ → World
  | openWorld _ => .openWorld
  | closedWorld _ => .closedWorld

/-- The settled first answer for a token, where one is kept. -/
def known? (strategy : Strategy τ) (token : Token) : Option Record :=
  match strategy with
  | openWorld memory => memory.known? token
  | closedWorld _ => none

def cacheCounts (strategy : Strategy τ) : CacheCounts :=
  match strategy with
  | openWorld memory => memory.cacheCounts
  | closedWorld _ => {}

/-- Takes the outcome of a probe as the first answer for the type of a value. -/
def report (strategy : Strategy τ) (value : Value τ) (record : Record) :
    Step Fault (Strategy τ) Unit :=
  match strategy with
  | openWorld memory => (memory.report value.token record).embed openWorld
  | closedWorld _ => ⟨.ok (), strategy, []⟩

def reportBehind (strategy : Strategy τ) (value : Value τ) (after : Nat) (record : Record) :
    Strategy τ :=
  match strategy with
  | openWorld memory => .openWorld (memory.reportBehind value.token after record)
  | closedWorld _ => strategy

variable [DecidableEq τ]

/-- The first answer for the type of a value, if one is known. -/
def choose (strategy : Strategy τ) (value : Value τ) :
    Step Fault (Strategy τ) (Option Record) :=
  match strategy with
  | openWorld memory => (memory.choose value.token).embed openWorld
  | closedWorld table =>
    let (record, events) := table.choose value 0
    ⟨.ok (some record), strategy, events⟩

/-- The choice behind a case. It changes nothing, and only a jump table logs. -/
def chooseBehind (strategy : Strategy τ) (value : Value τ) (after : Nat) :
    Option Record × List Event :=
  match strategy with
  | openWorld memory => (memory.chooseBehind value.token after, [])
  | closedWorld table =>
    let (record, events) := table.choose value after
    (some record, events)

end Strategy

end Typecase
