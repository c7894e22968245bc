import Typecase.Decimal.Fixed

/-! Measured durations, which the bench tool prints and compares. A duration is kept as the
64 bits of a double: they tell the two zeros apart, and the signs of what is no number. -/

namespace Typecase.Bench

structure Milliseconds where
  bits : UInt64
  deriving DecidableEq

namespace Milliseconds

def ofFloat (number : Float) : Milliseconds := ⟨number.toBits⟩

def toFloat (duration : Milliseconds) : Float := .ofBits duration.bits

def value (duration : Milliseconds) : Decimal.Binary := .ofBits duration.bits

/-- The place of a duration in the total order of doubles: negative ones first and from
large to small, then minus zero, zero and the positive ones. What is no number lies beyond
the infinity of its sign. -/
def rank (duration : Milliseconds) : Int :=
  let magnitude : Int := (duration.bits &&& 0x7fffffffffffffff).toNat
  if duration.bits < 0x8000000000000000 then magnitude else -1 - magnitude

/-- Two decimal places. Zero is shown as less than one, and what is not finite as absent. -/
def text : Option Milliseconds → String
  | some duration =>
    match duration.value with
    | .finite _ 0 _ => "<1"
    | .finite negative significand exponent =>
      Decimal.fixed 2 (.finite negative significand exponent)
    | _ => "-"
  | none => "-"

/-- How many times the first duration fits into the second, where the first is positive. -/
def speedup : Option Milliseconds → Option Milliseconds → String
  | some faster, some slower =>
    if faster.value.isPositive then
      Decimal.fixed 2 (ofFloat (slower.toFloat / faster.toFloat)).value ++ "x"
    else "-"
  | _, _ => "-"

end Milliseconds

end Typecase.Bench
