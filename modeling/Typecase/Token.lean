/-! A token stands for one concrete type: equal types have equal tokens, and what a
switch remembers about a type is filed under its token. The token zero stands for no
type and marks a vacant slot. -/

namespace Typecase

/-- The number of slots of a table whose size has the given binary logarithm. -/
def slotsOf (bits : Nat) : Nat := Nat.pow 2 bits

theorem slotsOf_pos (bits : Nat) : 0 < slotsOf bits := Nat.two_pow_pos bits

structure Token where
  address : UInt64
  deriving DecidableEq, Ord

namespace Token

def empty : Token := ⟨0⟩

instance : Inhabited Token := ⟨empty⟩

def isEmpty (token : Token) : Bool := token.address == 0

/-- The slot that the token falls into among `slotsOf bits` slots, once its lowest `shift`
bits are dropped. -/
def slot (token : Token) (bits shift : Nat) : Nat :=
  (token.address.toNat >>> shift) % slotsOf bits

theorem slot_lt (token : Token) (bits shift : Nat) :
    token.slot bits shift < slotsOf bits :=
  Nat.mod_lt _ (slotsOf_pos bits)

/-- Lower-case hexadecimal digits behind `0x`. -/
def hexText (address : UInt64) : String :=
  "0x" ++ String.ofList (Nat.toDigits 16 address.toNat)

def text (token : Token) : String :=
  "TypeToken(" ++ hexText token.address ++ ")"

@[simp] theorem isEmpty_iff (token : Token) : token.isEmpty = true ↔ token = empty := by
  cases token
  simp [isEmpty, empty]

end Token

end Typecase
