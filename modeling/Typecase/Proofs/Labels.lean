import Typecase.Candidate
import Typecase.Proofs.TypeNames

/-! What the label of a candidate shows of its type. It is what follows the last two colons of the
name, so it is the name without its modules as long as no other path stands in that. A path inside
of the arguments or elements takes the place of the outermost one: then the label starts in the
middle of the type and closes brackets that it does not open. -/

namespace Typecase

/-- What follows the last two colons of a text, or all of a text without them. -/
def IsLastSegment (text segment : List Char) : Prop :=
  segment = text ∧ ¬IsParted text ∨
    ∃ front, text = front ++ ':' :: ':' :: segment ∧ ¬IsParted (':' :: segment)

theorem isParted_of_cut {text front segment : List Char}
    (cut : text = front ++ ':' :: ':' :: segment) : IsParted text :=
  ⟨front, segment, by simp [cut]⟩

namespace IsLastSegment

/-- Nothing but a last segment itself can be cut off behind the two colons before it. -/
theorem eq_of_cut {between segment other : List Char} (last : ¬IsParted (':' :: segment))
    (cut : ':' :: ':' :: segment = between ++ ':' :: ':' :: other) : segment = other := by
  cases between with
  | nil => exact (List.cons.inj (List.cons.inj cut).2).2
  | cons char between => exact absurd (isParted_of_cut (List.cons.inj cut).2) last

theorem unique {text segment other : List Char} (first : IsLastSegment text segment)
    (second : IsLastSegment text other) : segment = other := by
  rcases first with ⟨rfl, whole⟩ | ⟨front, cut, last⟩
  · rcases second with ⟨rfl, -⟩ | ⟨front, cut, -⟩
    · rfl
    · exact absurd (isParted_of_cut cut) whole
  · rcases second with ⟨rfl, whole⟩ | ⟨front', cut', last'⟩
    · exact absurd (isParted_of_cut cut) whole
    · rcases List.append_eq_append_iff.1 (cut.symm.trans cut') with
        ⟨between, -, same⟩ | ⟨between, -, same⟩
      · exact eq_of_cut last same
      · exact (eq_of_cut last' same).symm

/-- What stands before a text with two colons does not change what follows the last of them. -/
theorem widen {text segment : List Char} (last : IsLastSegment text segment)
    (parted : IsParted text) (longer : List Char) (ends : text <:+ longer) :
    IsLastSegment longer segment := by
  obtain ⟨skipped, rfl⟩ := ends
  rcases last with ⟨rfl, whole⟩ | ⟨front, rfl, last⟩
  · exact absurd parted whole
  · exact Or.inr ⟨skipped ++ front, by simp, last⟩

/-- What follows the last two colons is shorter than the text with them. -/
theorem shorter {text segment : List Char} (last : IsLastSegment text segment)
    (parted : IsParted text) : segment <:+ text ∧ segment.length < text.length := by
  rcases last with ⟨rfl, whole⟩ | ⟨front, rfl, -⟩
  · exact absurd parted whole
  · refine ⟨⟨front ++ [':', ':'], by simp⟩, ?_⟩
    simp only [List.length_append, List.length_cons]
    omega

theorem enclosed {text segment : List Char} (last : IsLastSegment text segment)
    (parted : IsParted text) (left right : Char) (apart : ':' ≠ right) :
    IsLastSegment (enclosed left text right) (segment ++ [right]) := by
  rcases last with ⟨rfl, whole⟩ | ⟨front, rfl, last⟩
  · exact absurd parted whole
  · refine Or.inr ⟨left :: front, by simp [Typecase.enclosed], ?_⟩
    rwa [← List.cons_append, isParted_append_of_free _ _ (by simpa using apart)]

end IsLastSegment

namespace Candidate

variable {τ : Type}

theorem segmentAfter_cases (best text : List Char) :
    segmentAfter best text = best ∧ ¬IsParted text ∨
      ∃ front, text = front ++ ':' :: ':' :: segmentAfter best text ∧
        ¬IsParted (':' :: segmentAfter best text) := by
  fun_induction segmentAfter best text with
  | case1 best segment ih =>
    rcases ih with ⟨same, last⟩ | ⟨front, cut, last⟩
    · exact Or.inr ⟨[], by rw [same]; rfl, by rwa [same]⟩
    · exact Or.inr ⟨':' :: front, by rw [List.cons_append, ← cut], last⟩
  | case2 best char rest other ih =>
    rcases ih with ⟨same, last⟩ | ⟨front, cut, last⟩
    · refine Or.inl ⟨same, fun parted => ?_⟩
      rcases (isParted_cons_iff char rest).1 parted with ⟨rfl, colon⟩ | later
      · obtain ⟨segment, rfl⟩ := List.head?_eq_some_iff.1 colon
        exact other segment rfl rfl
      · exact last later
    · exact Or.inr ⟨char :: front, by rw [List.cons_append, ← cut], last⟩
  | case3 best => exact Or.inl ⟨rfl, by simp [IsParted]⟩

end Candidate

theorem IsLastSegment.narrow {text longer segment : List Char}
    (last : IsLastSegment longer segment) (parted : IsParted text) (ends : text <:+ longer) :
    IsLastSegment text segment := by
  have own : IsLastSegment text _ := Candidate.segmentAfter_cases text text
  rwa [last.unique (own.widen parted longer ends)]

namespace TypeName

theorem head?_text_bare (name : TypeName) : name.bare.text.head? ≠ some ':' := by
  cases name with
  | path modules own arguments =>
    obtain ⟨first, rest, letters⟩ := List.exists_cons_of_ne_nil own.filled
    have plain := own.plain first (letters ▸ List.mem_cons_self)
    simp only [bare, text, modulePath, letters, List.flatMap_nil, List.nil_append, List.cons_append,
      List.head?_cons, ne_eq, Option.some_inj]
    rintro rfl
    exact plain (by decide)
  | reference isMutable target => simp [bare, text]
  | tuple elements => simp [bare, text, enclosed]
  | slice element => simp [bare, text, enclosed]
  | array element length => simp [bare, text, enclosed]

theorem modulePath_cases (modules : List Identifier) :
    modulePath modules = [] ∨ ∃ front, modulePath modules = front ++ [':', ':'] := by
  rcases List.eq_nil_or_concat modules with rfl | ⟨outer, inner, rfl⟩
  · exact Or.inl rfl
  · exact Or.inr ⟨modulePath outer ++ inner.chars, by simp [modulePath]⟩

/-- Without another path the bare name follows the last two colons. -/
theorem isLastSegment_bare (name : TypeName) (pathless : ¬name.bare.hasPath = true) :
    IsLastSegment name.text name.bare.text := by
  have whole : ¬IsParted name.bare.text := mt name.bare.isParted_text_iff.1 pathless
  have behind : ¬IsParted (':' :: name.bare.text) := by
    rw [isParted_cons_iff]
    exact fun parted => parted.elim (fun colons => name.head?_text_bare colons.2) whole
  cases name with
  | path modules own arguments =>
    have cut : (path modules own arguments).text =
        modulePath modules ++ (path modules own arguments).bare.text := rfl
    rcases modulePath_cases modules with none | ⟨front, colons⟩
    · exact Or.inl ⟨by rw [cut, none, List.nil_append], by rwa [cut, none, List.nil_append]⟩
    · exact Or.inr ⟨front, by rw [cut, colons, List.append_assoc]; rfl, behind⟩
  | reference isMutable target => exact Or.inl ⟨rfl, whole⟩
  | tuple elements => exact Or.inl ⟨rfl, whole⟩
  | slice element => exact Or.inl ⟨rfl, whole⟩
  | array element length => exact Or.inl ⟨rfl, whole⟩

theorem text_referent_suffix (name : TypeName) : name.referent.text <:+ name.text := by
  induction name with
  | reference isMutable target ih =>
    rw [text]
    exact (ih.trans (List.suffix_append _ _)).trans (List.suffix_cons _ _)
  | path modules own arguments _ => exact List.suffix_refl _
  | tuple elements _ => exact List.suffix_refl _
  | slice element _ => exact List.suffix_refl _
  | array element length _ => exact List.suffix_refl _

theorem hasPath_referent (name : TypeName) : name.referent.hasPath = name.hasPath := by
  induction name with
  | reference isMutable target ih => exact ih
  | path modules own arguments _ => rfl
  | tuple elements _ => rfl
  | slice element _ => rfl
  | array element length _ => rfl

/-- A type that is no reference has its other paths in brackets. -/
theorem exists_shell (name : TypeName) (nested : name.referent.bare.hasPath = true) :
    ∃ head left inner right, name.referent.bare.text = head ++ enclosed left inner right ∧
      (left, right) ∈ brackets ∧ Balanced inner ∧ IsParted inner := by
  induction name with
  | reference isMutable target ih => exact ih nested
  | path modules own arguments _ =>
    have parted : IsParted (texts arguments) :=
      (isParted_texts_iff arguments fun argument _ => argument.isParted_text_iff).2 nested
    refine ⟨own.chars, '<', texts arguments, '>', ?_, by decide,
      balanced_texts arguments fun argument _ => argument.balanced_text, parted⟩
    cases arguments with
    | nil => cases nested
    | cons argument arguments => rfl
  | tuple elements _ =>
    have parted : IsParted (texts elements) :=
      (isParted_texts_iff elements fun element _ => element.isParted_text_iff).2 nested
    have inner := balanced_texts elements fun element _ => element.balanced_text
    refine ⟨[], '(', _, ')', rfl, by decide, inner.append (.of_free _ ?_),
      parted.trans (List.prefix_append _ _).isInfix⟩
    split <;> decide
  | slice element _ =>
    exact ⟨[], '[', element.text, ']', rfl, by decide, element.balanced_text,
      element.isParted_text_iff.2 nested⟩
  | array element length _ =>
    exact ⟨[], '[', _, ']', rfl, by decide, element.balanced_text.append (balanced_length length),
      (element.isParted_text_iff.2 nested).trans (List.prefix_append _ _).isInfix⟩

section Segment
variable (name : TypeName) {segment : List Char} (last : IsLastSegment name.text segment)
include last

/-- With another path nothing before it is left. -/
theorem segment_nested (nested : name.bare.hasPath = true) :
    segment <:+ name.bare.text ∧ segment.length < name.bare.text.length :=
  have parted := name.bare.isParted_text_iff.2 nested
  (last.narrow parted name.text_bare_suffix).shorter parted

theorem segment_bare_iff : segment = name.bare.text ↔ ¬name.bare.hasPath = true := by
  constructor
  · rintro rfl nested
    exact Nat.lt_irrefl _ (name.segment_nested last nested).2
  · exact fun pathless => last.unique (name.isLastSegment_bare pathless)

theorem balanced_segment_iff : Balanced segment ↔ ¬name.referent.bare.hasPath = true := by
  constructor
  · intro balanced nested
    obtain ⟨head, left, inner, right, shell, partners, inside, parted⟩ := name.exists_shell nested
    have own : IsLastSegment inner _ := Candidate.segmentAfter_cases inner inner
    have apart : ':' ≠ right := by
      rintro rfl
      cases (Balanced.sides_of_partners partners).2.2.2
    have ends : enclosed left inner right <:+ name.text :=
      ((List.suffix_append head _).trans (shell ▸ name.referent.text_bare_suffix)).trans
        name.text_referent_suffix
    have within : IsParted (enclosed left inner right) :=
      parted.trans ⟨[left], [right], by simp [enclosed]⟩
    rw [last.unique ((own.enclosed parted left right apart).widen within _ ends)] at balanced
    exact Balanced.not_of_cut inner _ left right partners inside (own.shorter parted).1 balanced
  · intro pathless
    by_cases somewhere : name.hasPath = true
    · have parted := name.referent.isParted_text_iff.2 (name.hasPath_referent.trans somewhere)
      have within := last.narrow parted name.text_referent_suffix
      rw [(name.referent.segment_bare_iff within).2 pathless]
      exact balanced_text _
    · have whole : ¬IsParted name.text := mt name.isParted_text_iff.1 somewhere
      rw [last.unique (Or.inl ⟨rfl, whole⟩)]
      exact name.balanced_text

end Segment

end TypeName

namespace Candidate

variable {τ : Type}

/-- The candidate for a type of this name. -/
def named (type : τ) (name : TypeName) : Candidate τ := ⟨type, String.ofList name.text⟩

theorem label_named (type : τ) (name : TypeName) :
    (named type name).label = String.ofList (segmentAfter name.text name.text) := by
  rw [label, named, String.toList_ofList]

theorem isLastSegment_named (type : τ) (name : TypeName) :
    IsLastSegment name.text (named type name).label.toList := by
  rw [label_named, String.toList_ofList]
  exact segmentAfter_cases _ _

/-- The label of a type is its name without its modules if and only if no path stands in that. Else
it is what follows the last path, so it lacks something of the type, and it is not even balanced
unless that path only stands behind references. -/
theorem label_is_bare_iff (type : τ) (name : TypeName) :
    let label := (named type name).label.toList
    name.bare.text <:+ name.text ∧ Balanced name.bare.text ∧ IsLastSegment name.text label ∧
      (label = name.bare.text ↔ ¬name.bare.hasPath = true) ∧
      (name.bare.hasPath = true →
        label <:+ name.bare.text ∧ label.length < name.bare.text.length) ∧
      (Balanced label ↔ ¬name.referent.bare.hasPath = true) := by
  intro label
  have last : IsLastSegment name.text label := isLastSegment_named type name
  exact ⟨name.text_bare_suffix, name.bare.balanced_text, last, name.segment_bare_iff last,
    name.segment_nested last, name.balanced_segment_iff last⟩

/-- Bytes in a vector do not hinder its label, and a reference to a string is only cut short, but
strings in a vector leave nothing of it. -/
theorem label_is_bare_iff_generic :
    let alloc : Identifier := ⟨"alloc".toList, by decide, by simp [punctuation]⟩
    let vec : Identifier := ⟨"vec".toList, by decide, by simp [punctuation]⟩
    let byte : TypeName := .path [] ⟨"u8".toList, by decide, by simp [punctuation]⟩ []
    let string : TypeName := .path [alloc, ⟨"string".toList, by decide, by simp [punctuation]⟩]
      ⟨"String".toList, by decide, by simp [punctuation]⟩ []
    let vector (element : TypeName) : TypeName := .path [alloc, vec]
      ⟨"Vec".toList, by decide, by simp [punctuation]⟩ [element]
    (named () (vector string)).name = "alloc::vec::Vec<alloc::string::String>" ∧
    (named () (vector string)).label = "String>" ∧
    (vector string).bare.hasPath = true ∧
    (named () (vector string)).label.toList.length < (vector string).bare.text.length ∧
    ¬Balanced (named () (vector string)).label.toList ∧
    (named () (vector byte)).label.toList = "Vec<u8>".toList ∧
    Balanced (named () (.reference false string)).label.toList := by
  intro alloc vec byte string vector
  have nested : (vector string).bare.hasPath = true := by decide
  obtain ⟨-, -, -, -, shorter, unbalanced⟩ := label_is_bare_iff () (vector string)
  obtain ⟨-, -, -, bytes, -⟩ := label_is_bare_iff () (vector byte)
  obtain ⟨-, -, -, -, -, referred⟩ := label_is_bare_iff () (.reference false string)
  have cut : segmentAfter (vector string).text (vector string).text = "String>".toList := by cbv
  refine ⟨by decide +kernel, ?_, nested, (shorter nested).2, ?_, ?_, ?_⟩
  · rw [label_named, cut, String.ofList_toList]
  · exact fun balanced => unbalanced.1 balanced nested
  · exact bytes.2 (by decide)
  · exact referred.2 (by decide)

/-- The label of a vector of strings starts with the strings. -/
theorem label_lacks_type : ¬∀ name : TypeName,
    (named () name).label.toList = name.bare.text ∧ Balanced (named () name).label.toList := by
  intro always
  let alloc : Identifier := ⟨"alloc".toList, by decide, by simp [punctuation]⟩
  let string : TypeName := .path [alloc, ⟨"string".toList, by decide, by simp [punctuation]⟩]
    ⟨"String".toList, by decide, by simp [punctuation]⟩ []
  let strings : TypeName := .path [alloc, ⟨"vec".toList, by decide, by simp [punctuation]⟩]
    ⟨"Vec".toList, by decide, by simp [punctuation]⟩ [string]
  have own := (strings.segment_bare_iff (isLastSegment_named () strings)).1 (always strings).1
  exact own (by decide)

end Candidate

end Typecase
