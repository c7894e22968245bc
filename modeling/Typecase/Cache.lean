import Typecase.Config
import Typecase.Step
import Typecase.Store

/-! A table of slots in front of a store. A token has one slot, found by shifting and
masking it. If the slot holds the token, its record is served from there; otherwise the
store is asked, and the token takes the slot over from whatever it held. When too many
tokens have been driven out, a rehash looks for a size and a shift that keep the known
tokens apart, and fills the slots again. -/

namespace Typecase

/-- What a cache counts. As natural numbers the counters never wrap; in fewer requests than a word
can count none of them leaves the 64-bit range. -/
structure CacheCounts where
  hits : Nat := 0
  misses : Nat := 0
  /-- Misses that drove another token out. -/
  collisions : Nat := 0
  rehashes : Nat := 0
  deriving DecidableEq

/-- How many indices occur again later. -/
def repeats : List Nat → Nat
  | [] => 0
  | index :: rest => repeats rest + (if index ∈ rest then 1 else 0)

/-- How many of the tokens find their slot taken by another. -/
def conflicts (tokens : List Token) (bits shift : Nat) : Nat :=
  repeats (tokens.map fun token => token.slot bits shift)

/-- The shift with the fewest conflicts. The current shift stays unless another is better,
and of those the smallest is taken. -/
def bestShift (tokens : List Token) (bits current maxShift : Nat) : Nat :=
  (List.range (maxShift + 1)).foldl
    (fun best shift =>
      if conflicts tokens bits shift < conflicts tokens bits best then shift else best)
    current

structure Cache where
  slots : Array Entry
  bits : Nat
  shift : Nat
  store : Store
  config : Config
  backing : Backing
  /-- Collisions since the last rehash. -/
  pressure : Nat
  /-- The number of known tokens when a rehash last ran at the largest size. With the same
  tokens another rehash could do no better. -/
  exhaustedAt : Option Nat
  counts : CacheCounts

namespace Cache

def vacantSlots (bits : Nat) : Array Entry := Array.replicate (slotsOf bits) .vacant

/-- A cache for about `hint` types, under a configuration known to be valid. -/
def sized (hint : Nat) (config : Config) (backing : Backing) :
    Except Fault Cache := do
  let bits ← config.checkedBitsFor hint
  let store ← Store.reserve backing hint
  return {
    slots := vacantSlots bits
    bits := bits
    shift := config.defaultShift
    store := store
    config := config
    backing := backing
    pressure := 0
    exhaustedAt := none
    counts := {} }

def create (hint : Nat) (config : Config) (backing : Backing) :
    Except Failure Cache :=
  match config.check with
  | .error error => .error (.refused error)
  | .ok () => (sized hint config backing).mapError .fault

def slotNumber (cache : Cache) (token : Token) : Nat :=
  token.slot cache.bits cache.shift

/-- What the slot of a token holds. -/
def resident (cache : Cache) (token : Token) : Entry :=
  cache.slots.getD (cache.slotNumber token) .vacant

def slotCount (cache : Cache) : Nat := cache.slots.size

def size (cache : Cache) : Nat := cache.store.size

/-- Looks at the store alone. -/
def known? (cache : Cache) (token : Token) : Option Record := cache.store.get? token

/-- Lets a token take its slot over. -/
def occupy (cache : Cache) (token : Token) (record : Record) : Cache :=
  { cache with
    slots := cache.slots.setIfInBounds (cache.slotNumber token) ⟨token, record⟩ }

def isCrowded (cache : Cache) : Bool :=
  0 < cache.config.rehashThreshold
    && cache.exhaustedAt != some cache.size
    && cache.config.rehashThreshold * cache.slotCount < cache.pressure

/-- The product needs no bound of its own. Where it leaves the 64-bit range, a pressure within the
range does not exceed it, nor the largest word in its place. -/
theorem isCrowded_eq_saturating (cache : Cache) (counted : cache.pressure < Word.limit64) :
    cache.isCrowded = (0 < cache.config.rehashThreshold
      && cache.exhaustedAt != some cache.size
      && min (cache.config.rehashThreshold * cache.slotCount) (Word.limit64 - 1)
        < cache.pressure) := by
  have same : cache.config.rehashThreshold * cache.slotCount < cache.pressure ↔
      min (cache.config.rehashThreshold * cache.slotCount) (Word.limit64 - 1) < cache.pressure := by
    omega
  simp only [isCrowded, same]

/-- Puts an entry into its slot if no token is there yet. -/
def settleIn (bits shift : Nat) (slots : Array Entry) (entry : Entry) : Array Entry :=
  let index := entry.token.slot bits shift
  if (slots.getD index .vacant).isVacant then slots.setIfInBounds index entry else slots

def refill (bits shift : Nat) (entries : List Entry) : Array Entry :=
  entries.foldl (settleIn bits shift) (vacantSlots bits)

/-- The size after a rehash: room for the known tokens, never smaller than before. For up to
`2 ^ 62` of them `Config.checkedBitsFor` chooses the same size, and no request adds more than one
to them. -/
def rehashedBits (cache : Cache) : Nat :=
  min cache.config.maxBits (max cache.bits (cache.config.bitsFor cache.size))

def rehashedShift (cache : Cache) : Nat :=
  bestShift cache.store.tokens cache.rehashedBits cache.shift cache.config.maxShift

/-- Chooses a size and a shift for the known tokens and fills the slots again. No record
changes. -/
def rehash (cache : Cache) : Cache :=
  let bits := cache.rehashedBits
  let shift := cache.rehashedShift
  { cache with
    slots := refill bits shift
      (cache.backing.visit cache.counts.rehashes cache.store.entries)
    bits := bits
    shift := shift
    pressure := 0
    exhaustedAt := if bits = cache.config.maxBits then some cache.size else none
    counts := { cache.counts with rehashes := cache.counts.rehashes + 1 } }

def rehashEvent (cache : Cache) : Event :=
  .rehashing cache.size cache.bits cache.rehashedBits cache.shift cache.rehashedShift
    (conflicts cache.store.tokens cache.rehashedBits cache.rehashedShift)

def countHit (cache : Cache) : Cache :=
  { cache with counts := { cache.counts with hits := cache.counts.hits + 1 } }

/-- Counts a miss of a slot, and a collision if the slot held a token. -/
def countMiss (cache : Cache) (slot : Entry) : Cache :=
  let collision := if slot.isVacant then 0 else 1
  { cache with
    pressure := cache.pressure + collision
    counts := { cache.counts with
      misses := cache.counts.misses + 1
      collisions := cache.counts.collisions + collision } }

/-- The answer to a look-up with the cache it leaves behind. -/
structure Lookup where
  record : Record
  cache : Cache
  events : List Event

/-- The record of a token, from its slot or else from the store, where a new token is added
as unresolved. A miss may set off a rehash before the token takes its slot. -/
def lookup (cache : Cache) (token : Token) : Lookup :=
  let slot := cache.resident token
  if slot.token = token then ⟨slot.record, cache.countHit, []⟩
  else
    let fetched := cache.store.fetch token
    let missed := { cache.countMiss slot with store := fetched.2 }
    let miss := Event.slotMiss token (cache.slotNumber token) slot.token
    if missed.isCrowded then
      ⟨fetched.1, missed.rehash.occupy token fetched.1, [miss, missed.rehashEvent]⟩
    else ⟨fetched.1, missed.occupy token fetched.1, [miss]⟩

/-- Settles a token in the store and shows what the store then says in its slot. -/
def settle (cache : Cache) (token : Token) (record : Record) :
    Except Fault Cache := do
  let store ← cache.store.settle token record
  return { cache with store := store }.occupy token ((store.get? token).getD record)

/-- Settles a token. A conflict leaves the cache as it was. -/
def report (cache : Cache) (token : Token) (record : Record) : Step Fault Cache Unit :=
  match cache.settle token record with
  | .ok settled => ⟨.ok (), settled, []⟩
  | .error fault => ⟨.error fault, cache, []⟩

end Cache

end Typecase
