import Mathlib.Data.List.TakeWhile
import Typecase.Text.Blank

/-! How a text is cut up: into the pieces between the places of a separator, and a piece into its
core and the blanks around it. Both are told by how the text is put together again. -/

namespace Typecase.Text

/-- A text is its core with blanks around it, and the core has no blank at either end. -/
structure IsCore (text core : List Char) : Prop where
  surrounded : ∃ before after, text = before ++ core ++ after ∧
    (∀ char ∈ before, isBlank char = true) ∧ ∀ char ∈ after, isBlank char = true
  front : ∀ char ∈ core.head?, isBlank char = false
  back : ∀ char ∈ core.getLast?, isBlank char = false

theorem dropWhile_blanks (blanks text : List Char) (blank : ∀ char ∈ blanks, isBlank char = true)
    (front : ∀ char ∈ text.head?, isBlank char = false) :
    (blanks ++ text).dropWhile isBlank = text := by
  rw [List.dropWhile_append_of_pos blank]
  cases text with
  | nil => rfl
  | cons char rest => rw [List.dropWhile_cons, front char rfl, if_neg Bool.false_ne_true]

/-- What is left behind the leading blanks does not start with another. -/
theorem exists_blanks (text : List Char) :
    ∃ blanks, text = blanks ++ text.dropWhile isBlank ∧
      (∀ char ∈ blanks, isBlank char = true) ∧
      ∀ char ∈ (text.dropWhile isBlank).head?, isBlank char = false := by
  refine ⟨text.takeWhile isBlank, List.takeWhile_append_dropWhile.symm,
    fun char => List.mem_takeWhile_imp, fun char first => ?_⟩
  have stopped := List.head?_dropWhile_not isBlank text
  rw [Option.mem_def.1 first] at stopped
  exact stopped

theorem trim_blank (blanks : List Char) (blank : ∀ char ∈ blanks, isBlank char = true) :
    trim blanks = [] := by
  rw [trim, List.dropWhile_eq_nil_iff.2 blank]
  rfl

theorem trim_core (text core : List Char) (cored : IsCore text core) : trim text = core := by
  obtain ⟨⟨before, after, rfl, blankBefore, blankAfter⟩, front, back⟩ := cored
  by_cases empty : core = []
  · subst empty
    refine trim_blank _ fun char member => ?_
    rw [List.append_nil] at member
    exact (List.mem_append.1 member).elim (blankBefore char) (blankAfter char)
  have leading : ∀ char ∈ (core ++ after).head?, isBlank char = false := by
    obtain ⟨char, rest, rfl⟩ := List.exists_cons_of_ne_nil empty
    exact front
  have trailing : ∀ char ∈ core.reverse.head?, isBlank char = false := by
    rwa [List.head?_reverse]
  rw [trim, List.append_assoc, dropWhile_blanks _ _ blankBefore leading, List.reverse_append,
    dropWhile_blanks _ _ (by simpa using blankAfter) trailing, List.reverse_reverse]

theorem isCore_trim (text : List Char) : IsCore text (trim text) := by
  obtain ⟨before, split, blankBefore, front⟩ := exists_blanks text
  obtain ⟨after, reversed, blankAfter, back⟩ := exists_blanks (text.dropWhile isBlank).reverse
  have ends : text.dropWhile isBlank = trim text ++ after.reverse := by
    rw [← List.reverse_reverse (text.dropWhile isBlank), reversed, List.reverse_append]
    rfl
  refine ⟨⟨before, after.reverse, ?_, blankBefore, by simpa using blankAfter⟩, ?_, ?_⟩
  · rw [List.append_assoc, ← ends]
    exact split
  · intro char first
    refine front char ?_
    rw [ends, List.head?_append, Option.mem_def.1 first]
    rfl
  · intro char last
    refine back char ?_
    rwa [trim, List.getLast?_reverse] at last

theorem isCore_iff (text core : List Char) : IsCore text core ↔ trim text = core := by
  constructor
  · exact trim_core text core
  · rintro rfl
    exact isCore_trim text

/-- Text without a blank at its ends is its own core, whatever blanks come around it. -/
theorem isCore_surround (before core after : List Char)
    (blankBefore : ∀ char ∈ before, isBlank char = true)
    (blankAfter : ∀ char ∈ after, isBlank char = true)
    (solid : ∀ char ∈ core, isBlank char = false) : IsCore (before ++ core ++ after) core :=
  ⟨⟨before, after, rfl, blankBefore, blankAfter⟩,
    fun char first => solid char (List.mem_of_mem_head? first),
    fun char last => solid char (List.mem_of_mem_getLast? last)⟩

theorem isCore_blank (piece : List Char) (blank : ∀ char ∈ piece, isBlank char = true) :
    IsCore piece [] := (isCore_iff piece []).2 (trim_blank piece blank)

/-- Pieces of a text that hold no separator and give the text back when it stands between them. -/
structure IsCut (separator : Char) (text : List Char) (pieces : List (List Char)) : Prop where
  nonempty : pieces ≠ []
  free : ∀ piece ∈ pieces, separator ∉ piece
  joined : [separator].intercalate pieces = text

theorem not_mem_of_mem_splitOn (separator : Char) (text : List Char) :
    ∀ piece ∈ text.splitOn separator, separator ∉ piece := by
  induction text with
  | nil => simp
  | cons char rest ih =>
    rw [List.splitOn_cons_eq_if_modifyHead]
    split
    next => exact List.forall_mem_cons.2 ⟨List.not_mem_nil, ih⟩
    next other =>
      obtain ⟨first, later, cut⟩ := List.exists_cons_of_ne_nil (List.splitOn_ne_nil separator rest)
      rw [cut] at ih ⊢
      obtain ⟨free, free'⟩ := List.forall_mem_cons.1 ih
      refine List.forall_mem_cons.2 ⟨fun member => ?_, free'⟩
      rcases List.mem_cons.1 member with rfl | member
      · simp at other
      · exact free member

theorem isCut_iff (separator : Char) (text : List Char) (pieces : List (List Char)) :
    IsCut separator text pieces ↔ text.splitOn separator = pieces := by
  constructor
  · rintro ⟨nonempty, free, rfl⟩
    exact List.splitOn_intercalate separator free nonempty
  · rintro rfl
    exact ⟨List.splitOn_ne_nil separator text, not_mem_of_mem_splitOn separator text,
      List.intercalate_splitOn separator⟩

end Typecase.Text
