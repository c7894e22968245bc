/-! Reading bytes as UTF-8 when they may be damaged. Every longest piece that could still
have become a character but does not is shown as one replacement character. -/

namespace Typecase.Utf8

/-- What a lead byte announces: the bits it carries itself, and the range that each of the
following bytes has to lie in. -/
structure Lead where
  bits : Nat
  following : List (Nat × Nat)

/-- Any byte that continues a character. -/
def anyContinuation : Nat × Nat := (0x80, 0xbf)

/-- The second byte is confined where a shorter form, a surrogate or a number above the
largest character would arise. -/
def lead? (byte : Nat) : Option Lead :=
  if byte < 0x80 then some ⟨byte, []⟩
  else if byte < 0xc2 then none
  else if byte < 0xe0 then some ⟨byte % 32, [anyContinuation]⟩
  else if byte < 0xf0 then
    let second :=
      if byte = 0xe0 then (0xa0, 0xbf) else if byte = 0xed then (0x80, 0x9f) else anyContinuation
    some ⟨byte % 16, [second, anyContinuation]⟩
  else if byte < 0xf5 then
    let second :=
      if byte = 0xf0 then (0x90, 0xbf) else if byte = 0xf4 then (0x80, 0x8f) else anyContinuation
    some ⟨byte % 8, [second, anyContinuation, anyContinuation]⟩
  else none

/-- Follows the announced bytes as far as they come. The number is missing if they break
off. -/
def follow (bits : Nat) : List (Nat × Nat) → List UInt8 → Option Nat × List UInt8
  | [], rest => (some bits, rest)
  | _ :: _, [] => (none, [])
  | (low, high) :: following, byte :: rest =>
    if low ≤ byte.toNat ∧ byte.toNat ≤ high then
      follow (64 * bits + byte.toNat % 64) following rest
    else (none, byte :: rest)

theorem length_follow_le (following : List (Nat × Nat)) (bits : Nat) (bytes : List UInt8) :
    (follow bits following bytes).2.length ≤ bytes.length := by
  induction following generalizing bits bytes with
  | nil => exact Nat.le_refl _
  | cons range following inductive_hypothesis =>
    cases bytes with
    | nil => exact Nat.le_refl _
    | cons byte rest =>
      simp only [follow]
      split
      · exact Nat.le_succ_of_le (inductive_hypothesis _ _)
      · exact Nat.le_refl _

def replacement : Char := '\ufffd'

def decode (bytes : List UInt8) : List Char :=
  match bytes with
  | [] => []
  | byte :: rest =>
    match lead? byte.toNat with
    | none => replacement :: decode rest
    | some lead =>
      let followed := follow lead.bits lead.following rest
      (match followed.1 with
        | some scalar => Char.ofNat scalar
        | none => replacement) :: decode followed.2
termination_by bytes.length
decreasing_by
  all_goals simp only [List.length_cons]
  · omega
  · exact Nat.lt_succ_of_le (length_follow_le _ _ _)

end Typecase.Utf8
