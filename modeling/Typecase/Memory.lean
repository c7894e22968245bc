import Typecase.Cache

/-! Dispatch for a hierarchy that anyone may extend. Values carry no tag to trust, so the
first answer for a type comes from probing; it is reported here and served from a slot
cache afterwards. The cache is made when it is first needed.

Answers for re-entry behind a case are kept apart from the first answers: each pair of a
token and a case keeps the first record reported for it. -/

namespace Typecase

/-- The answer for a type behind a case. -/
structure Continuation where
  token : Token
  after : Nat
  record : Record
  deriving DecidableEq

structure Memory where
  hint : Nat
  config : Config
  backing : Backing
  cache : Option Cache
  continuations : List Continuation

namespace Memory

def create (hint : Nat) (config : Config) (backing : Backing) :
    Except Refusal Memory := do
  config.check
  return ⟨hint, config, backing, none, []⟩

variable {α : Type}

def withCache (memory : Memory) (cache : Cache) : Memory :=
  { memory with cache := some cache }

/-- Uses the slot cache, which is made on the first use. -/
def onCache (memory : Memory) (use : Cache → Step Fault Cache α) :
    Step Fault Memory α :=
  match memory.cache with
  | some cache => (use cache).embed memory.withCache
  | none =>
    match memory.config.checkedBitsFor memory.hint with
    | .error fault => ⟨.error fault, memory, []⟩
    | .ok bits =>
      let creating := [Event.creatingCache memory.hint bits]
      match Cache.sized memory.hint memory.config memory.backing with
      | .error fault => ⟨.error fault, memory, creating⟩
      | .ok cache => ((use cache).embed memory.withCache).after creating

/-- The first answer for a type, or nothing if a probe has to find it. A disabled cache
never knows one. -/
def choose (memory : Memory) (token : Token) : Step Fault Memory (Option Record) :=
  if memory.config.enabled then
    memory.onCache fun cache =>
      let found := cache.lookup token
      ⟨.ok found.record.settled?, found.cache, found.events⟩
  else ⟨.ok none, memory, []⟩

/-- Takes the outcome of a probe as the first answer for a type. -/
def report (memory : Memory) (token : Token) (record : Record) :
    Step Fault Memory Unit :=
  if memory.config.enabled then memory.onCache (·.report token record)
  else ⟨.ok (), memory, []⟩

def continuation? (memory : Memory) (token : Token) (after : Nat) : Option Record :=
  (memory.continuations.find? fun known => known.token == token && known.after == after).map
    Continuation.record

/-- The answer for a type behind a case, or nothing if a probe has to find it. -/
def chooseBehind (memory : Memory) (token : Token) (after : Nat) : Option Record :=
  if memory.config.enabled then memory.continuation? token after else none

/-- Takes a record as the answer behind a case, unless there is one already. -/
def reportBehind (memory : Memory) (token : Token) (after : Nat) (record : Record) :
    Memory :=
  if memory.config.enabled && (memory.continuation? token after).isNone then
    { memory with
      continuations := memory.continuations ++ [⟨token, after, record⟩] }
  else memory

def known? (memory : Memory) (token : Token) : Option Record :=
  memory.cache.bind (·.known? token)

def cacheCounts (memory : Memory) : CacheCounts :=
  match memory.cache with
  | some cache => cache.counts
  | none => {}

end Memory

end Typecase
