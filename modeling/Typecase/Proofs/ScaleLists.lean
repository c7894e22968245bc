import Mathlib.Data.List.Forall2
import Typecase.Bench.Scales
import Typecase.Proofs.Numerals
import Typecase.Proofs.Pieces

/-! Which texts give the scales of a run. Every part between commas has to spell a number in range,
where blanks around a part and blank parts do not matter. So numbers written with commas between
them are read back, however they are spaced. -/

namespace Typecase.Bench

/-- The texts between commas, freed of the blanks around them, and without the empty ones. -/
def HasParts (text : List Char) (parts : List (List Char)) : Prop :=
  ∃ pieces cores, Text.IsCut ',' text pieces ∧ List.Forall₂ Text.IsCore pieces cores ∧
    cores.filter (· ≠ []) = parts

theorem forall₂_isCore_iff (pieces cores : List (List Char)) :
    List.Forall₂ Text.IsCore pieces cores ↔ pieces.map Text.trim = cores := by
  have trimmed : Text.IsCore = fun text core => Text.trim text = core := by
    funext text core
    exact propext (Text.isCore_iff text core)
  rw [trimmed, ← List.forall₂_map_left_iff, List.forall₂_eq_eq_eq]

theorem hasParts_iff (text : List Char) (parts : List (List Char)) :
    HasParts text parts ↔ scalePieces text = parts := by
  constructor
  · rintro ⟨pieces, cores, cut, cored, rfl⟩
    rw [scalePieces, (Text.isCut_iff _ _ _).1 cut, (forall₂_isCore_iff _ _).1 cored]
  · rintro rfl
    exact ⟨_, _, (Text.isCut_iff _ _ _).2 rfl, (forall₂_isCore_iff _ _).2 rfl, rfl⟩

/-- The part spells a scale that fits into a machine word. -/
def IsScale (part : List Char) (scale : Nat) : Prop :=
  Numeral.Spells part scale ∧ scale < Word.limit64

theorem mapM_read?_iff (parts : List (List Char)) (scales : List Nat) :
    parts.mapM (Numeral.read? Word.limit64) = some scales ↔
      List.Forall₂ IsScale parts scales := by
  induction parts generalizing scales with
  | nil =>
    rw [List.mapM_nil, List.forall₂_nil_left_iff]
    exact Option.some_inj.trans eq_comm
  | cons part rest ih =>
    rw [List.mapM_cons, List.forall₂_cons_left_iff, Option.bind_eq_bind, Option.bind_eq_some_iff]
    constructor
    · rintro ⟨scale, first, onward⟩
      obtain ⟨later, read, same⟩ := Option.bind_eq_some_iff.1 onward
      cases same
      exact ⟨scale, later, (Numeral.read?_eq_some_iff _ _ _).1 first, (ih later).1 read, rfl⟩
    · rintro ⟨scale, later, first, spelled, rfl⟩
      refine ⟨scale, (Numeral.read?_eq_some_iff _ _ _).2 first, ?_⟩
      rw [(ih later).2 spelled]
      rfl

theorem exists_scales_iff (parts : List (List Char)) :
    (∃ scales, List.Forall₂ IsScale parts scales) ↔
      ∀ part ∈ parts, ∃ scale, IsScale part scale := by
  induction parts with
  | nil => exact ⟨fun _ => List.forall_mem_nil _, fun _ => ⟨[], .nil⟩⟩
  | cons part rest ih =>
    rw [List.forall_mem_cons, ← ih]
    constructor
    · rintro ⟨_, spelled⟩
      obtain ⟨scale, scales, first, later, -⟩ := List.forall₂_cons_left_iff.1 spelled
      exact ⟨⟨scale, first⟩, ⟨scales, later⟩⟩
    · rintro ⟨⟨scale, first⟩, ⟨scales, later⟩⟩
      exact ⟨scale :: scales, .cons first later⟩

section Read
variable (text : String) (parts : List (List Char)) (cut : HasParts text.toList parts)
include cut

theorem readScales_ok (scales : List Nat) (spelled : List.Forall₂ IsScale parts scales) :
    readScales text = .ok (if parts = [] then defaultScales else scales) := by
  rw [readScales, (hasParts_iff _ _).1 cut, (mapM_read?_iff parts scales).2 spelled]
  cases spelled <;> rfl

theorem readScales_error (unreadable : ¬∃ scales, List.Forall₂ IsScale parts scales) :
    readScales text = .error ⟨text⟩ := by
  have unread : parts.mapM (Numeral.read? Word.limit64) = none :=
    Option.eq_none_iff_forall_ne_some.2 fun scales read =>
      unreadable ⟨scales, (mapM_read?_iff parts scales).1 read⟩
  rw [readScales, (hasParts_iff _ _).1 cut, unread]

end Read

/-- Pieces that write scales in order, each with blanks around it, and blank pieces anywhere. -/
inductive Writes : List Nat → List (List Char) → Prop
  | nil : Writes [] []
  | blank {scales pieces} (piece : List Char)
    (blank : ∀ char ∈ piece, Text.isBlank char = true) :
    Writes scales pieces → Writes scales (piece :: pieces)
  | scale {scales pieces} (scale : Nat) (before after : List Char)
    (blankBefore : ∀ char ∈ before, Text.isBlank char = true)
    (blankAfter : ∀ char ∈ after, Text.isBlank char = true) :
    Writes scales pieces →
    Writes (scale :: scales) ((before ++ Nat.toDigits 10 scale ++ after) :: pieces)

/-- Digits are not taken for blanks or for commas. -/
theorem isBlank_of_isDigit (char : Char) (decimal : Numeral.isDigit char = true) :
    Text.isBlank char = false ∧ char ≠ ',' := by
  obtain ⟨digit, small, rfl⟩ := Numeral.exists_digitChar char decimal
  have apart : ∀ digit < 10,
      Text.isBlank (Nat.digitChar digit) = false ∧ Nat.digitChar digit ≠ ',' := by decide
  exact apart digit small

theorem not_comma_of_isBlank (piece : List Char)
    (blank : ∀ char ∈ piece, Text.isBlank char = true) : ',' ∉ piece := by
  intro member
  have comma := blank ',' member
  revert comma
  decide

section Written
variable {scales : List Nat} {pieces : List (List Char)} (writes : Writes scales pieces)
include writes

theorem free_writes : ∀ piece ∈ pieces, ',' ∉ piece := by
  induction writes with
  | nil => exact List.forall_mem_nil _
  | blank piece blank _ ih => exact List.forall_mem_cons.2 ⟨not_comma_of_isBlank piece blank, ih⟩
  | scale scale before after blankBefore blankAfter _ ih =>
    have digits : ',' ∉ Nat.toDigits 10 scale := fun member =>
      (isBlank_of_isDigit _ (Numeral.isDigit_toDigits scale _ member)).2 rfl
    refine List.forall_mem_cons.2 ⟨?_, ih⟩
    simp only [List.mem_append, not_or]
    exact ⟨⟨not_comma_of_isBlank before blankBefore, digits⟩, not_comma_of_isBlank after blankAfter⟩

/-- The core of a piece is its number, or nothing if it is blank. -/
theorem cores_writes : ∃ cores, List.Forall₂ Text.IsCore pieces cores ∧
    cores.filter (· ≠ []) = scales.map (Nat.toDigits 10) := by
  induction writes with
  | nil => exact ⟨[], .nil, rfl⟩
  | blank piece blank _ ih =>
    obtain ⟨cores, cored, kept⟩ := ih
    exact ⟨[] :: cores, .cons (Text.isCore_blank piece blank) cored, kept⟩
  | scale scale before after blankBefore blankAfter _ ih =>
    obtain ⟨cores, cored, kept⟩ := ih
    have core := Text.isCore_surround before (Nat.toDigits 10 scale) after blankBefore blankAfter
      fun char member => (isBlank_of_isDigit char (Numeral.isDigit_toDigits scale char member)).1
    refine ⟨_, .cons core cored, ?_⟩
    rw [List.filter_cons_of_pos (by simp [Nat.toDigits_ne_nil]), kept]
    rfl

/-- Numbers that are written out are read back. -/
theorem readScales_writes (nonempty : scales ≠ [])
    (small : ∀ scale ∈ scales, scale < Word.limit64) :
    readScales (String.ofList ([','].intercalate pieces)) = .ok scales := by
  obtain ⟨cores, cored, kept⟩ := cores_writes writes
  have filled : pieces ≠ [] := by
    rintro rfl
    cases writes
    exact nonempty rfl
  have cut : HasParts (String.ofList ([','].intercalate pieces)).toList
      (scales.map (Nat.toDigits 10)) := by
    rw [String.toList_ofList]
    exact ⟨pieces, cores, ⟨filled, free_writes writes, rfl⟩, cored, kept⟩
  have spelled : List.Forall₂ IsScale (scales.map (Nat.toDigits 10)) scales := by
    rw [List.forall₂_map_left_iff, List.forall₂_same]
    exact fun scale member => ⟨Numeral.spells_toDigits scale, small scale member⟩
  rw [readScales_ok _ _ cut scales spelled, if_neg (by simpa using nonempty)]

end Written

/-- A text gives scales if and only if each of its parts spells one. It gives what they spell in
order, or the default if there is no part, and one bad part spoils the text. Numbers that are
written out are read back. -/
theorem scales_of_parts :
    (∀ text : String, ∃ parts, (∀ other, HasParts text.toList other ↔ other = parts) ∧
      ((∃ scales, scalesOrDefault (some text) = .ok scales) ↔
        ∀ part ∈ parts, ∃ scale, IsScale part scale) ∧
      (∀ scales, List.Forall₂ IsScale parts scales →
        scalesOrDefault (some text) = .ok (if parts = [] then defaultScales else scales)) ∧
      ∀ part ∈ parts, (∀ scale, ¬IsScale part scale) →
        ∃ bad, scalesOrDefault (some text) = .error bad ∧
          bad.message = "bench-report scales must be like 10000,50000; got " ++ text) ∧
    ∀ scales pieces, scales ≠ [] → (∀ scale ∈ scales, scale < Word.limit64) →
      Writes scales pieces →
      scalesOrDefault (some (String.ofList ([','].intercalate pieces))) = .ok scales := by
  refine ⟨fun text => ?_, fun scales pieces nonempty small writes =>
    readScales_writes writes nonempty small⟩
  have cut := (hasParts_iff text.toList _).2 rfl
  refine ⟨scalePieces text.toList, fun other => (hasParts_iff _ _).trans eq_comm, ?_,
    readScales_ok text _ cut, ?_⟩
  · rw [← exists_scales_iff]
    constructor
    · rintro ⟨scales, read⟩
      by_contra unreadable
      cases (readScales_error text _ cut unreadable).symm.trans read
    · rintro ⟨scales, spelled⟩
      exact ⟨_, readScales_ok text _ cut scales spelled⟩
  · intro part member unreadable
    refine ⟨⟨text⟩, readScales_error text _ cut fun readable => ?_, rfl⟩
    obtain ⟨scale, spelled⟩ := (exists_scales_iff _).1 readable part member
    exact unreadable scale spelled

/-- A sign, a zero in front and a wide space do no harm, but `2 ^ 64` is one too many. -/
theorem scales_of_parts_spaced :
    scalesOrDefault (some "+05,\u3000,7 ") = .ok [5, 7] ∧
    (∃ bad, scalesOrDefault (some "5,18446744073709551616") = .error bad ∧ bad.message =
      "bench-report scales must be like 10000,50000; got 5,18446744073709551616") ∧
    scalesOrDefault (some (String.ofList ([','].intercalate [['\t', '5'], [' '], ['7', '0']]))) =
      .ok [5, 70] := by
  obtain ⟨reads, written⟩ := scales_of_parts
  refine ⟨?_, ?_, ?_⟩
  · obtain ⟨parts, unique, -, ok, -⟩ := reads "+05,\u3000,7 "
    obtain rfl : [['+', '0', '5'], ['7']] = parts := (unique _).1 ((hasParts_iff _ _).2 (by decide))
    exact ok [5, 7] ((mapM_read?_iff _ _).1 (by decide))
  · obtain ⟨parts, unique, -, -, refused⟩ := reads "5,18446744073709551616"
    obtain rfl : [['5'], "18446744073709551616".toList] = parts :=
      (unique _).1 ((hasParts_iff _ _).2 (by decide))
    refine refused "18446744073709551616".toList (by decide) fun scale spelled => ?_
    have excess : Numeral.read? Word.limit64 "18446744073709551616".toList = none := by decide
    cases excess.symm.trans ((Numeral.read?_eq_some_iff _ _ _).2 spelled)
  · refine written [5, 70] _ (by decide) (by decide) ?_
    have last : Writes [70] [['7', '0']] :=
      .scale 70 [] [] (List.forall_mem_nil _) (List.forall_mem_nil _) .nil
    exact .scale 5 ['\t'] [] (List.forall_mem_singleton.2 rfl) (List.forall_mem_nil _)
      (.blank [' '] (List.forall_mem_singleton.2 rfl) last)

end Typecase.Bench
