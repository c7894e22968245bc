import Typecase.Failure
import Typecase.Text.Numeral
import Typecase.Word

/-! How large a slot cache may grow and how tokens are spread over it. Sizes are given by
their binary logarithm. A configuration is usable when its sizes form a range below the
largest size and its shifts stay within a word. -/

namespace Typecase

structure Config where
  /-- A disabled cache makes a switch ask every candidate again each time. -/
  enabled : Bool
  minBits : Nat
  maxBits : Nat
  /-- How many low bits of a token are dropped at first. -/
  defaultShift : Nat
  maxShift : Nat
  /-- Collisions per slot that are put up with between two rehashes; zero forbids rehashing. -/
  rehashThreshold : Nat
  deriving DecidableEq

namespace Config

def default : Config := ⟨true, 1, 12, 3, 12, 4⟩

def disabled : Config := { default with enabled := false }

instance : Inhabited Config := ⟨default⟩

/-- The binary logarithm of the largest number of slots. -/
def largestBits : Nat := 20

/-- The largest shift that leaves a bit of a 64-bit token. -/
def largestShift : Nat := 63

structure Valid (config : Config) : Prop where
  ordered : config.minBits ≤ config.maxBits
  bounded : config.maxBits ≤ largestBits
  shifts : config.maxShift ≤ largestShift
  start : config.defaultShift ≤ config.maxShift

/-- Checks the sizes, then the largest shift, then the first shift. -/
def check (config : Config) : Except Refusal Unit :=
  if config.maxBits < config.minBits ∨ largestBits < config.maxBits then
    .error (.invalidCacheBits config.minBits config.maxBits)
  else if largestShift < config.maxShift then
    .error (.invalidShift config.maxShift largestShift)
  else if config.maxShift < config.defaultShift then
    .error (.invalidShift config.defaultShift config.maxShift)
  else .ok ()

theorem check_eq_ok_iff (config : Config) : config.check = .ok () ↔ config.Valid := by
  unfold check
  constructor
  · intro checked
    split at checked <;> try contradiction
    split at checked <;> try contradiction
    split at checked <;> try contradiction
    exact ⟨by omega, by omega, by omega, by omega⟩
  · intro valid
    have := valid.ordered
    have := valid.bounded
    have := valid.shifts
    have := valid.start
    rw [if_neg (by omega), if_neg (by omega), if_neg (by omega)]

instance (config : Config) : Decidable config.Valid :=
  decidable_of_iff (config.check.isOk = true) <| by
    rw [← check_eq_ok_iff]
    cases config.check <;> simp [Except.isOk, Except.toBool]

/-- Room for twice as many types as expected, so that a full set rarely collides. The
doubling stops at the largest word. -/
def roomFor (expected : Nat) : Nat :=
  min (2 * max expected 1) (Word.limit64 - 1)

/-- The number of slots wanted for the expected types: a power of two with room for them. -/
def slotsFor (expected : Nat) : Nat := (roomFor expected).nextPowerOfTwo

/-- The logarithm of the wanted number of slots, brought into the configured range. -/
def bitsFor (config : Config) (expected : Nat) : Nat :=
  min config.maxBits (max config.minBits (slotsFor expected).log2)

/-- The size for the expected types, if a word can hold the wanted number of slots and the
configured range has its ends in order. -/
def checkedBitsFor (config : Config) (expected : Nat) : Except Fault Nat :=
  if Word.limit64 ≤ slotsFor expected then .error (.sizeOverflow expected)
  else if config.maxBits < config.minBits then
    .error (.invertedBits config.minBits config.maxBits)
  else .ok (config.bitsFor expected)

/-- Reads the settings that an environment may override. A setting that is no numeral of
its range is passed over. -/
def ofEnvironment (lookup : String → Option String) : Config :=
  let number (limit : Nat) (name : String) : Option Nat :=
    (lookup name).bind fun text => Numeral.read? limit text.toList
  let switched := { default with enabled := lookup "TS_CACHE_DISABLE" != some "1" }
  let sized :=
    match number Word.limit32 "TS_CACHE_MAX_BITS" with
    | some bits =>
      let maxBits := min bits largestBits
      { switched with maxBits := maxBits, minBits := min switched.minBits maxBits }
    | none => switched
  match number Word.limit64 "TS_CACHE_REHASH" with
  | some threshold => { sized with rehashThreshold := threshold }
  | none => sized

end Config

end Typecase
