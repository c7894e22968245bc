import Mathlib.Data.EReal.Operations
import Typecase.Bench.Milliseconds

/-! How durations compare. The bits of a double without its sign say how far it lies from zero: they
grow with the size of the number, from zero over all finite numbers to infinity, and then go on over
what is no number. So the place of a duration among all others is that of its number, and a sign
decides where numbers do not. -/

namespace Typecase

namespace Decimal.Binary

/-- The number that the parts of a double make up. -/
noncomputable def number? : Binary → Option EReal
  | finite negative significand exponent =>
    let size : ℝ := significand * 2 ^ exponent
    some (if negative then -(size : EReal) else size)
  | infinite negative => some (if negative then ⊥ else ⊤)
  | notANumber => none

end Decimal.Binary

namespace Bench.Milliseconds

/-- How many of the smallest steps a finite number is away from zero, by its bits without the
sign. -/
def steps (magnitude : Nat) : Nat :=
  let exponent := magnitude / 0x10000000000000
  let fraction := magnitude % 0x10000000000000
  (if exponent = 0 then fraction else 0x10000000000000 + fraction) * 2 ^ (exponent - 1)

theorem steps_strictMono : StrictMono steps := by
  refine strictMono_nat_of_lt_succ fun magnitude => ?_
  have positive := Nat.two_pow_pos (magnitude / 0x10000000000000 - 1)
  unfold steps
  by_cases carry : magnitude % 0x10000000000000 + 1 = 0x10000000000000
  · have exponent : (magnitude + 1) / 0x10000000000000 = magnitude / 0x10000000000000 + 1 := by
      omega
    have fraction : (magnitude + 1) % 0x10000000000000 = 0 := by omega
    rw [exponent, fraction]
    cases magnitude / 0x10000000000000 with
    | zero => simp; omega
    | succ exponent =>
      simp only [Nat.add_one_ne_zero, if_false, Nat.add_sub_cancel, pow_succ,
        Nat.add_zero] at positive ⊢
      calc (0x10000000000000 + magnitude % 0x10000000000000) * 2 ^ exponent
          < (0x10000000000000 * 2) * 2 ^ exponent :=
            Nat.mul_lt_mul_of_pos_right (by omega) (Nat.two_pow_pos _)
        _ = 0x10000000000000 * (2 ^ exponent * 2) := by ring
  · have exponent : (magnitude + 1) / 0x10000000000000 = magnitude / 0x10000000000000 := by omega
    have fraction : (magnitude + 1) % 0x10000000000000 = magnitude % 0x10000000000000 + 1 := by
      omega
    rw [exponent, fraction]
    refine Nat.mul_lt_mul_of_pos_right ?_ positive
    split <;> omega

/-- The bits of infinity. -/
def infinity : Nat := 0x7ff0000000000000

/-- How far from zero a number is, by its bits without the sign. -/
noncomputable def size (magnitude : Nat) : EReal :=
  if magnitude = infinity then ⊤ else ((steps magnitude * 2 ^ (-1074 : Int) : ℝ) : EReal)

theorem size_nonneg (magnitude : Nat) : 0 ≤ size magnitude := by
  unfold size
  split
  · exact le_top
  · exact EReal.coe_nonneg.2 (mul_nonneg (Nat.cast_nonneg _) (zpow_nonneg zero_le_two _))

theorem size_le_size_iff (first second : Nat) (bound : first ≤ infinity)
    (bound' : second ≤ infinity) : size first ≤ size second ↔ first ≤ second := by
  unfold size
  split_ifs with outer outer' outer'
  · simp [outer, outer']
  · simp only [top_le_iff, EReal.coe_ne_top, false_iff]
    omega
  · simp only [le_top, true_iff]
    omega
  · rw [EReal.coe_le_coe_iff, mul_le_mul_iff_left₀ (zpow_pos two_pos _), Nat.cast_le,
      steps_strictMono.le_iff_le]

/-- Of two numbers with signs the lesser one has its bits at the lesser place. -/
theorem signed_le_iff (negative negative' : Bool) (first second : Nat) (bound : first ≤ infinity)
    (bound' : second ≤ infinity) :
    let one := if negative then -size first else size first
    let other := if negative' then -size second else size second
    (if negative then -1 - (first : Int) else first) ≤
        (if negative' then -1 - (second : Int) else second) ↔
      one < other ∨ one = other ∧ (negative' → negative) := by
  have away := size_nonneg first
  have away' := size_nonneg second
  cases negative <;> cases negative'
  · simp [← le_iff_lt_or_eq, size_le_size_iff first second bound bound']
  · have apart : ¬size first < -size second :=
      ((EReal.neg_le_zero.2 away').trans away).not_gt
    simp [apart]
    omega
  · have apart : -size first ≤ size second := (EReal.neg_le_zero.2 away).trans away'
    simp [apart.lt_or_eq]
    omega
  · simp [@eq_comm _ (size first), ← le_iff_lt_or_eq, size_le_size_iff second first bound' bound]
    omega

variable (duration : Milliseconds)

def negative : Bool := 0x8000000000000000 ≤ duration.bits

/-- The bits below the exponent. Where there is no number they still tell one from another. -/
def fraction : Nat := (duration.bits &&& 0xfffffffffffff).toNat

/-- The total order of doubles. Numbers come by size, and minus zero comes before zero. What is no
number lies beyond all that are, on the side of its sign, and farther out with a larger fraction. -/
def AtMost (first second : Milliseconds) : Prop :=
  match first.value.number?, second.value.number? with
  | some one, some other => one < other ∨ one = other ∧ (second.negative → first.negative)
  | none, some _ => first.negative
  | some _, none => ¬second.negative
  | none, none =>
    if first.negative then second.negative → second.fraction ≤ first.fraction
    else ¬second.negative ∧ first.fraction ≤ second.fraction

/-- The bits without the sign. -/
def magnitude : Nat := (duration.bits &&& 0x7fffffffffffffff).toNat

theorem rank_eq :
    duration.rank = if duration.negative then -1 - (duration.magnitude : Int)
      else duration.magnitude := by
  unfold rank negative magnitude
  by_cases low : duration.bits < 0x8000000000000000
  · have positive : ¬0x8000000000000000 ≤ duration.bits := UInt64.not_le.2 low
    simp [low, positive]
  · have negative : 0x8000000000000000 ≤ duration.bits := UInt64.not_lt.1 low
    simp [low, negative]

theorem magnitude_lt : duration.magnitude < 0x8000000000000000 := by
  unfold magnitude
  rw [UInt64.toNat_and]
  exact Nat.lt_succ_of_le Nat.and_le_right

theorem fraction_eq : duration.fraction = duration.magnitude % 0x10000000000000 := by
  unfold fraction magnitude
  have low := Nat.and_two_pow_sub_one_eq_mod duration.bits.toNat 52
  have all := Nat.and_two_pow_sub_one_eq_mod duration.bits.toNat 63
  norm_num at low all
  simp only [UInt64.toNat_and, UInt64.reduceToNat, low, all]
  omega

theorem exponent_eq : (duration.bits >>> 52 &&& 0x7ff).toNat =
    duration.magnitude / 0x10000000000000 := by
  unfold magnitude
  have all := Nat.and_two_pow_sub_one_eq_mod duration.bits.toNat 63
  have eleven := Nat.and_two_pow_sub_one_eq_mod (duration.bits.toNat / 0x10000000000000) 11
  norm_num at all eleven
  simp only [UInt64.toNat_and, UInt64.toNat_shiftRight, UInt64.reduceToNat, all,
    Nat.shiftRight_eq_div_pow]
  norm_num [eleven]
  omega

/-- The parts of a finite double make as many steps as its bits say. -/
theorem coe_steps (magnitude : Nat) :
    (steps magnitude : ℝ) * 2 ^ (-1074 : Int) =
      if magnitude / 0x10000000000000 = 0 then
        ((magnitude % 0x10000000000000 : Nat) : ℝ) * 2 ^ (-1074 : Int)
      else ((0x10000000000000 + magnitude % 0x10000000000000 : Nat) : ℝ) *
        2 ^ (((magnitude / 0x10000000000000 : Nat) : Int) - 1075) := by
  unfold steps
  cases magnitude / 0x10000000000000 with
  | zero => simp
  | succ exponent =>
    have shifted : ((exponent + 1 : Nat) : Int) - 1075 = exponent + -1074 := by push_cast; ring
    simp only [Nat.add_one_ne_zero, if_false, Nat.add_sub_cancel, shifted]
    rw [zpow_add₀ two_ne_zero, zpow_natCast]
    push_cast
    ring

/-- The number of a duration, by the size that its bits without the sign say. -/
theorem number?_eq : duration.value.number? =
    if infinity < duration.magnitude then none
    else some (if duration.negative then -size duration.magnitude
      else size duration.magnitude) := by
  have bound := duration.magnitude_lt
  have fraction : (duration.bits &&& 0xfffffffffffff).toNat =
      duration.magnitude % 0x10000000000000 := duration.fraction_eq
  unfold value Decimal.Binary.ofBits size infinity
  simp only [exponent_eq, fraction, coe_steps]
  by_cases last : duration.magnitude / 0x10000000000000 = 0x7ff
  · by_cases plain : duration.magnitude % 0x10000000000000 = 0
    · have infinite : duration.magnitude = 0x7ff0000000000000 := by omega
      rw [if_pos last, if_pos plain, if_neg (by omega), if_pos infinite, EReal.neg_top]
      rfl
    · rw [if_pos last, if_neg plain, if_pos (by omega)]
      rfl
  · have finite : ¬duration.magnitude = 0x7ff0000000000000 := by omega
    have inside : ¬0x7ff0000000000000 < duration.magnitude := by omega
    rw [if_neg last, if_neg inside, if_neg finite]
    by_cases subnormal : duration.magnitude / 0x10000000000000 = 0
    · rw [if_pos subnormal, if_pos subnormal]
      rfl
    · rw [if_neg subnormal, if_neg subnormal]
      rfl

/-- Durations stand in the total order of doubles where their ranks put them. -/
theorem rank_le_iff (first second : Milliseconds) :
    first.rank ≤ second.rank ↔ first.AtMost second := by
  have bound := first.magnitude_lt
  have bound' := second.magnitude_lt
  unfold AtMost
  rw [rank_eq, rank_eq, number?_eq, number?_eq]
  by_cases outside : infinity < first.magnitude
  · rw [if_pos outside]
    by_cases outside' : infinity < second.magnitude
    · rw [if_pos outside', fraction_eq, fraction_eq]
      unfold infinity at outside outside'
      cases first.negative <;> cases second.negative <;> simp <;> omega
    · rw [if_neg outside']
      cases first.negative <;> cases second.negative <;> simp <;> omega
  · rw [if_neg outside]
    by_cases outside' : infinity < second.magnitude
    · rw [if_pos outside']
      cases first.negative <;> cases second.negative <;> simp <;> omega
    · rw [if_neg outside']
      exact signed_le_iff _ _ _ _ (by omega) (by omega)

end Bench.Milliseconds

end Typecase
