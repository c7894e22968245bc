import Mathlib.Data.Nat.Digits.Defs
import Typecase.Text.Numeral

/-! Which texts stand for a number: its decimal digits, with as many zeros and at most one plus
sign before them. These are the texts that are read, as long as the number is in range.
Hexadecimal digits that are printed for a number are read back as far as they go. -/

namespace Typecase.Numeral

/-- The text consists of decimal digits of the number, behind at most one plus sign. -/
def Spells (text : List Char) (number : Nat) : Prop :=
  ∃ digits : List Nat, digits ≠ [] ∧ (∀ digit ∈ digits, digit < 10) ∧
    (text = digits.map Nat.digitChar ∨ text = '+' :: digits.map Nat.digitChar) ∧
    number = Nat.ofDigits 10 digits.reverse

theorem isDigit_digitChar (digit : Nat) (small : digit < 10) :
    isDigit (Nat.digitChar digit) = true := by
  change (Nat.digitChar digit).isDigit = true
  rw [Nat.isDigit_digitChar]
  exact decide_eq_true small

theorem exists_digitChar (char : Char) (decimal : isDigit char = true) :
    ∃ digit < 10, char = Nat.digitChar digit := by
  obtain ⟨least, most⟩ := Char.isDigit_iff_toNat.1 decimal
  change 48 ≤ char.toNat at least
  change char.toNat ≤ 57 at most
  have small : char.toNat - 48 < 10 := by omega
  refine ⟨char.toNat - 48, small, Char.toNat_inj.1 ?_⟩
  rw [Nat.toNat_digitChar_of_lt_ten small]
  omega

/-- The texts of which every character is a digit. -/
theorem all_isDigit_iff (text : List Char) :
    text.all isDigit = true ↔
      ∃ digits : List Nat, (∀ digit ∈ digits, digit < 10) ∧ text = digits.map Nat.digitChar := by
  induction text with
  | nil =>
    constructor
    · exact fun _ => ⟨[], by simp, rfl⟩
    · exact fun _ => rfl
  | cons char rest ih =>
    rw [List.all_cons, Bool.and_eq_true, ih]
    constructor
    · rintro ⟨decimal, digits, small, rfl⟩
      obtain ⟨digit, first, rfl⟩ := exists_digitChar char decimal
      exact ⟨digit :: digits, List.forall_mem_cons.2 ⟨first, small⟩, rfl⟩
    · rintro ⟨digits, small, same⟩
      cases digits with
      | nil => cases same
      | cons digit digits =>
        obtain ⟨first, later⟩ := List.forall_mem_cons.1 small
        cases same
        exact ⟨isDigit_digitChar digit first, digits, later, rfl⟩

theorem valueFrom_digitChars (digits : List Nat) (small : ∀ digit ∈ digits, digit < 10) :
    valueFrom 0 (digits.map Nat.digitChar) = Nat.ofDigits 10 digits.reverse := by
  have onward (sofar : Nat) : valueFrom sofar (digits.map Nat.digitChar) =
      digits.foldl (fun number digit => 10 * number + digit) sofar := by
    induction digits generalizing sofar with
    | nil => rfl
    | cons digit rest ih =>
      obtain ⟨first, later⟩ := List.forall_mem_cons.1 small
      have value : digitValue (Nat.digitChar digit) = digit :=
        Nat.toNat_digitChar_sub_48_of_lt_ten first
      rw [List.map_cons, List.foldl_cons, ← ih later, valueFrom, List.foldl_cons, value]
      rfl
  rw [onward, Nat.ofDigits_eq_foldr, List.foldr_reverse]
  congr 1
  funext number digit
  exact Nat.add_comm _ _

theorem eq_unsigned_or (text : List Char) :
    text = unsigned text ∨ text = '+' :: unsigned text := by
  unfold unsigned
  split
  next => exact Or.inr rfl
  next => exact Or.inl rfl

theorem unsigned_of_digits (text : List Char) (decimal : text.all isDigit = true) :
    unsigned text = text := by
  unfold unsigned
  split
  next => cases decimal
  next => rfl

theorem spells_iff (text : List Char) (number : Nat) :
    Spells text number ↔ unsigned text ≠ [] ∧ (unsigned text).all isDigit = true ∧
      valueFrom 0 (unsigned text) = number := by
  constructor
  · rintro ⟨digits, nonempty, small, written, rfl⟩
    have decimal : (digits.map Nat.digitChar).all isDigit = true :=
      (all_isDigit_iff _).2 ⟨digits, small, rfl⟩
    have bare : unsigned text = digits.map Nat.digitChar := by
      rcases written with rfl | rfl
      · exact unsigned_of_digits _ decimal
      · rfl
    rw [bare]
    exact ⟨by simpa using nonempty, decimal, valueFrom_digitChars digits small⟩
  · rintro ⟨nonempty, decimal, rfl⟩
    obtain ⟨digits, small, bare⟩ := (all_isDigit_iff _).1 decimal
    have signed := eq_unsigned_or text
    rw [bare] at nonempty signed ⊢
    exact ⟨digits, by simpa using nonempty, small, signed, valueFrom_digitChars digits small⟩

theorem isDigit_toDigits (number : Nat) :
    ∀ char ∈ Nat.toDigits 10 number, isDigit char = true := by
  intro char member
  change char.isDigit = true
  exact Nat.isDigit_of_mem_toDigits (by decide) (by decide) member

/-- The digits that are printed for a number stand for it. -/
theorem spells_toDigits (number : Nat) : Spells (Nat.toDigits 10 number) number := by
  have decimal := List.all_eq_true.2 (isDigit_toDigits number)
  rw [spells_iff, unsigned_of_digits _ decimal]
  exact ⟨Nat.toDigits_ne_nil, decimal, Nat.ofDigitChars_ten_toDigits⟩

/-- What is read is exactly what stands for a number in range. -/
theorem read?_eq_some_iff (limit : Nat) (text : List Char) (number : Nat) :
    read? limit text = some number ↔ Spells text number ∧ number < limit := by
  rw [spells_iff]
  unfold read?
  by_cases formed : unsigned text ≠ [] ∧ (unsigned text).all isDigit = true
  · rw [if_pos formed, Option.ite_none_right_eq_some, Option.some.injEq]
    constructor
    · rintro ⟨small, rfl⟩
      exact ⟨⟨formed.1, formed.2, rfl⟩, small⟩
    · rintro ⟨⟨-, -, rfl⟩, small⟩
      exact ⟨small, rfl⟩
  · rw [if_neg formed]
    constructor
    · intro nothing
      cases nothing
    · rintro ⟨⟨nonempty, decimal, -⟩, -⟩
      exact absurd ⟨nonempty, decimal⟩ formed

theorem exists_hexDigits (number : Nat) :
    ∃ digits : List Nat, (∀ digit ∈ digits, digit < 16) ∧
      Nat.toDigits 16 number = digits.map Nat.digitChar ∧ ofDigits 16 digits = number := by
  induction number using Nat.strongRecOn with
  | ind number ih =>
    rw [Nat.toDigits_eq_if (by decide)]
    split
    next small => exact ⟨[number], List.forall_mem_singleton.2 small, rfl, Nat.zero_add number⟩
    next large =>
      obtain ⟨digits, small, printed, value⟩ := ih (number / 16) (by omega)
      refine ⟨digits ++ [number % 16], ?_, by rw [printed, List.map_append]; rfl, ?_⟩
      · exact List.forall_mem_append.2 ⟨small, List.forall_mem_singleton.2 (by omega)⟩
      · rw [ofDigits, List.foldl_append, List.foldl_cons, List.foldl_nil, ← ofDigits, value]
        omega

theorem leadingDigits_hexDigits (digits : List Nat) (small : ∀ digit ∈ digits, digit < 16)
    (rest : List Char) (stop : ∀ char ∈ rest.head?, digit? 16 char = none) :
    leadingDigits 16 (digits.map Nat.digitChar ++ rest) = digits := by
  have value : ∀ digit < 16, digit? 16 (Nat.digitChar digit) = some digit := by decide
  induction digits with
  | nil =>
    cases rest with
    | nil => rfl
    | cons char rest => rw [List.map_nil, List.nil_append, leadingDigits, stop char rfl]
  | cons digit digits ih =>
    obtain ⟨first, later⟩ := List.forall_mem_cons.1 small
    rw [List.map_cons, List.cons_append, leadingDigits, value digit first, ih later]

/-- Numbers are told apart by their hexadecimal digits. -/
theorem toDigits_inj (number other : Nat) :
    Nat.toDigits 16 number = Nat.toDigits 16 other ↔ number = other := by
  have readBack (number : Nat) :
      ofDigits 16 (leadingDigits 16 (Nat.toDigits 16 number)) = number := by
    obtain ⟨digits, small, printed, value⟩ := exists_hexDigits number
    have whole := leadingDigits_hexDigits digits small [] (by simp)
    rw [List.append_nil, ← printed] at whole
    rw [whole, value]
  constructor
  · intro same
    rw [← readBack number, same, readBack other]
  · rintro rfl
    rfl

end Typecase.Numeral
