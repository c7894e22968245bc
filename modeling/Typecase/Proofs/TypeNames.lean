import Mathlib.Data.List.Infix
import Typecase.Proofs.Numerals

/-! The names of types. A type is named by a path, with its arguments behind it, or is made of other
types by the signs for references, tuples, slices and arrays. Two colons stand in a name only where
a module does, and every bracket that is opened is closed again. -/

namespace Typecase

/-- The characters that put names together and cannot stand in one word of them. -/
def punctuation : List Char := [':', '<', '>', '(', ')', '[', ']', ',', ';', '&', ' ']

structure Identifier where
  chars : List Char
  filled : chars ≠ []
  plain : ∀ char ∈ chars, char ∉ punctuation

inductive TypeName where
  /-- The modules that lead to a type, its own name and its arguments. -/
  | path (modules : List Identifier) (own : Identifier) (arguments : List TypeName)
  | reference (isMutable : Bool) (target : TypeName)
  | tuple (elements : List TypeName)
  | slice (element : TypeName)
  | array (element : TypeName) (length : Nat)

/-- Text between two signs. -/
def enclosed (left : Char) (inner : List Char) (right : Char) : List Char :=
  left :: (inner ++ [right])

namespace TypeName

def modulePath (modules : List Identifier) : List Char := modules.flatMap (·.chars ++ [':', ':'])

mutual

def text : TypeName → List Char
  | path modules own arguments =>
    modulePath modules ++ (own.chars ++
      if arguments.isEmpty then [] else enclosed '<' (texts arguments) '>')
  | reference isMutable target => '&' :: ((if isMutable then "mut ".toList else []) ++ target.text)
  | tuple elements =>
    enclosed '(' (texts elements ++ if elements.length = 1 then [','] else []) ')'
  | slice element => enclosed '[' element.text ']'
  | array element length => enclosed '[' (element.text ++ ';' :: ' ' :: Nat.toDigits 10 length) ']'

/-- Names with commas between them. -/
def texts : List TypeName → List Char
  | [] => []
  | first :: rest => first.text ++ if rest.isEmpty then [] else ',' :: ' ' :: texts rest

end

mutual

/-- Whether the path to a module stands anywhere in a name. -/
def hasPath : TypeName → Bool
  | path modules _ arguments => !modules.isEmpty || anyHasPath arguments
  | reference _ target => target.hasPath
  | tuple elements => anyHasPath elements
  | slice element => element.hasPath
  | array element _ => element.hasPath

def anyHasPath : List TypeName → Bool
  | [] => false
  | first :: rest => first.hasPath || anyHasPath rest

end

/-- The name without the modules that lead to the type. -/
def bare : TypeName → TypeName
  | path _ own arguments => path [] own arguments
  | name => name

/-- The type that references lead to in the end. -/
def referent : TypeName → TypeName
  | reference _ target => target.referent
  | name => name

/-- What holds of each name if it holds of the names in it holds of all. -/
@[induction_eliminator]
theorem induct {motive : TypeName → Prop}
    (path : ∀ modules own arguments, (∀ argument ∈ arguments, motive argument) →
      motive (path modules own arguments))
    (reference : ∀ isMutable target, motive target → motive (reference isMutable target))
    (tuple : ∀ elements, (∀ element ∈ elements, motive element) → motive (tuple elements))
    (slice : ∀ element, motive element → motive (slice element))
    (array : ∀ element length, motive element → motive (array element length)) (name : TypeName) :
    motive name :=
  @TypeName.rec motive (fun names => ∀ name ∈ names, motive name) path reference tuple slice array
    (List.forall_mem_nil _) (fun _ _ first rest => List.forall_mem_cons.2 ⟨first, rest⟩) name

theorem plain_digits (number : Nat) : ∀ char ∈ Nat.toDigits 10 number, char ∉ punctuation := by
  intro char member
  obtain ⟨digit, small, rfl⟩ :=
    Numeral.exists_digitChar char (Numeral.isDigit_toDigits number char member)
  have plain : ∀ digit < 10, Nat.digitChar digit ∉ punctuation := by decide
  exact plain digit small

theorem text_bare_suffix (name : TypeName) : name.bare.text <:+ name.text := by
  cases name with
  | path modules own arguments => exact List.suffix_append _ _
  | reference isMutable target => exact List.suffix_refl _
  | tuple elements => exact List.suffix_refl _
  | slice element => exact List.suffix_refl _
  | array element length => exact List.suffix_refl _

end TypeName

/-- Two colons stand next to each other somewhere in the text. -/
def IsParted (text : List Char) : Prop := [':', ':'] <:+: text

theorem isParted_cons_iff (char : Char) (rest : List Char) :
    IsParted (char :: rest) ↔ char = ':' ∧ rest.head? = some ':' ∨ IsParted rest := by
  unfold IsParted
  rw [List.infix_cons_iff, List.cons_prefix_cons]
  cases rest with
  | nil => simp
  | cons next rest => simp [List.cons_prefix_cons, eq_comm]

theorem not_isParted_of_free (text : List Char) (free : ':' ∉ text) : ¬IsParted text :=
  fun parted => free (parted.subset List.mem_cons_self)

theorem isParted_append_iff (front back : List Char) (apart : back.head? ≠ some ':') :
    IsParted (front ++ back) ↔ IsParted front ∨ IsParted back := by
  induction front with
  | nil => simp [IsParted]
  | cons char front ih =>
    rw [List.cons_append, isParted_cons_iff, isParted_cons_iff, ih, or_assoc]
    cases front with
    | nil => simp [apart]
    | cons next front => rfl

theorem isParted_append_of_free (front back : List Char) (free : ':' ∉ back) :
    IsParted (front ++ back) ↔ IsParted front := by
  rw [isParted_append_iff front back fun first => free (List.mem_of_mem_head? first)]
  simp [not_isParted_of_free back free]

theorem isParted_free_append (front back : List Char) (free : ':' ∉ front) :
    IsParted (front ++ back) ↔ IsParted back := by
  induction front with
  | nil => rfl
  | cons char front ih =>
    obtain ⟨other, free⟩ := not_or.1 (mt List.mem_cons.2 free)
    rw [List.cons_append, isParted_cons_iff, ih free]
    simp [Ne.symm other]

theorem isParted_enclosed_iff (left : Char) (inner : List Char) (right : Char)
    (apart : ':' ≠ left) (apart' : ':' ≠ right) :
    IsParted (enclosed left inner right) ↔ IsParted inner := by
  rw [enclosed, isParted_cons_iff, isParted_append_of_free _ _ (by simpa using apart')]
  simp [apart.symm]

namespace TypeName

theorem isParted_texts_iff (names : List TypeName)
    (each : ∀ name ∈ names, (IsParted name.text ↔ name.hasPath = true)) :
    IsParted (texts names) ↔ anyHasPath names = true := by
  induction names with
  | nil => simp [texts, anyHasPath, IsParted]
  | cons first rest ih =>
    obtain ⟨here, later⟩ := List.forall_mem_cons.1 each
    rw [texts, anyHasPath, Bool.or_eq_true, ← here, ← ih later]
    cases rest with
    | nil => simp [texts, IsParted]
    | cons next rest =>
      rw [List.isEmpty_cons, if_neg (by decide), isParted_append_iff _ _ (by simp),
        isParted_cons_iff, isParted_cons_iff]
      simp

/-- A path shows by its colons. Signs and arguments alone show none. -/
theorem isParted_text_iff (name : TypeName) : IsParted name.text ↔ name.hasPath = true := by
  induction name with
  | path modules own arguments ih =>
    have solid : ':' ∉ own.chars := fun colon => own.plain ':' colon (by decide)
    rw [text, hasPath, Bool.or_eq_true, ← isParted_texts_iff arguments ih]
    cases modules with
    | nil =>
      have rootless : modulePath [] = [] := rfl
      rw [rootless, List.nil_append, isParted_free_append _ _ solid]
      cases arguments with
      | nil => simp [texts, IsParted]
      | cons argument arguments =>
        rw [List.isEmpty_cons, if_neg (by decide),
          isParted_enclosed_iff _ _ _ (by decide) (by decide)]
        simp
    | cons outer modules =>
      have shown : IsParted (modulePath (outer :: modules)) :=
        ⟨outer.chars, modulePath modules, by simp [modulePath]⟩
      exact iff_of_true (shown.trans (List.prefix_append _ _).isInfix) (Or.inl rfl)
  | reference isMutable target ih =>
    have free : ':' ∉ if isMutable then "mut ".toList else [] := by cases isMutable <;> decide
    rw [text, hasPath, isParted_cons_iff, isParted_free_append _ _ free, ih]
    simp
  | tuple elements ih =>
    have free : ':' ∉ if elements.length = 1 then [','] else [] := by split <;> decide
    rw [text, hasPath, isParted_enclosed_iff _ _ _ (by decide) (by decide),
      isParted_append_of_free _ _ free, isParted_texts_iff elements ih]
  | slice element ih =>
    rw [text, hasPath, isParted_enclosed_iff _ _ _ (by decide) (by decide), ih]
  | array element length ih =>
    have digits : ':' ∉ Nat.toDigits 10 length := fun colon =>
      plain_digits length ':' colon (by decide)
    rw [text, hasPath, isParted_enclosed_iff _ _ _ (by decide) (by decide),
      isParted_append_of_free _ _ (by simp [digits]), ih]

end TypeName

/-- The brackets, each with the one that closes it. -/
def brackets : List (Char × Char) := [('<', '>'), ('(', ')'), ('[', ']')]

def opening (char : Char) : Bool := (brackets.map Prod.fst).contains char

def closing (char : Char) : Bool := (brackets.map Prod.snd).contains char

/-- Text in which every bracket has its partner, with balanced text between them. -/
inductive Balanced : List Char → Prop
  | nil : Balanced []
  | plain {rest} (char : Char) (unopened : opening char = false) (unclosed : closing char = false) :
    Balanced rest → Balanced (char :: rest)
  | between {inner rest} (left right : Char) (partners : (left, right) ∈ brackets) :
    Balanced inner → Balanced rest → Balanced (left :: (inner ++ right :: rest))

namespace Balanced

theorem append {front back : List Char} (balanced : Balanced front) (later : Balanced back) :
    Balanced (front ++ back) := by
  induction balanced with
  | nil => exact later
  | plain char unopened unclosed _ ih => exact .plain char unopened unclosed ih
  | between left right partners inner _ _ ih =>
    rw [List.cons_append, List.append_assoc, List.cons_append]
    exact .between left right partners inner ih

/-- Text without brackets. -/
theorem of_free (chars : List Char)
    (free : chars.all fun char => !opening char && !closing char) : Balanced chars := by
  induction chars with
  | nil => exact .nil
  | cons char chars ih =>
    simp only [List.all_cons, Bool.and_eq_true, Bool.not_eq_true'] at free
    exact .plain char free.1.1 free.1.2 (ih free.2)

theorem of_plain (chars : List Char) (plain : ∀ char ∈ chars, char ∉ punctuation) :
    Balanced chars := by
  refine of_free chars (List.all_eq_true.2 fun char member => ?_)
  have outside := plain char member
  simp only [punctuation, List.mem_cons, not_or] at outside
  simp [opening, closing, brackets, outside]

theorem sides_of_partners {left right : Char} (partners : (left, right) ∈ brackets) :
    opening left = true ∧ closing left = false ∧ opening right = false ∧ closing right = true := by
  simp only [brackets, List.mem_cons, Prod.mk.injEq, List.not_mem_nil, or_false] at partners
  rcases partners with ⟨rfl, rfl⟩ | ⟨rfl, rfl⟩ | ⟨rfl, rfl⟩ <;> decide

theorem counts {text : List Char} (balanced : Balanced text) :
    text.countP opening = text.countP closing := by
  induction balanced with
  | nil => rfl
  | plain char unopened unclosed _ ih => simp [unopened, unclosed, ih]
  | between left right partners _ _ inner rest =>
    simp [sides_of_partners partners, inner, rest]
    omega

/-- From any place on at least as many brackets are closed as are opened. -/
theorem countP_suffix {text : List Char} (balanced : Balanced text) (suffix : List Char)
    (ends : suffix <:+ text) : suffix.countP opening ≤ suffix.countP closing := by
  induction balanced generalizing suffix with
  | nil => exact List.suffix_nil.1 ends ▸ Nat.le_refl _
  | plain char unopened unclosed rest ih =>
    rcases List.suffix_cons_iff.1 ends with rfl | later
    · exact (Balanced.plain char unopened unclosed rest).counts.le
    · exact ih suffix later
  | between left right partners inner rest ihInner ihRest =>
    rcases List.suffix_cons_iff.1 ends with rfl | later
    · exact (Balanced.between left right partners inner rest).counts.le
    · rcases List.suffix_or_suffix_of_suffix later (List.suffix_append _ _) with outside | inside
      · rcases List.suffix_cons_iff.1 outside with rfl | beyond
        · simp [sides_of_partners partners, rest.counts]
        · exact ihRest suffix beyond
      · obtain ⟨front, rfl⟩ := inside
        obtain ⟨skipped, whole⟩ := later
        rw [← List.append_assoc] at whole
        have bound := ihInner front ⟨skipped, List.append_cancel_right whole⟩
        simp [sides_of_partners partners, rest.counts]
        omega

/-- What is cut off inside of brackets closes a bracket that it does not open. -/
theorem not_of_cut (inner cut : List Char) (left right : Char)
    (partners : (left, right) ∈ brackets) (balanced : Balanced inner) (ends : cut <:+ inner) :
    ¬Balanced (cut ++ [right]) := by
  intro whole
  have bound := balanced.countP_suffix cut ends
  have equal := whole.counts
  simp [sides_of_partners partners] at equal
  omega

end Balanced

namespace TypeName

theorem balanced_texts (names : List TypeName) (each : ∀ name ∈ names, Balanced name.text) :
    Balanced (texts names) := by
  induction names with
  | nil => exact .nil
  | cons first rest ih =>
    obtain ⟨here, later⟩ := List.forall_mem_cons.1 each
    have comma : Balanced [',', ' '] := .of_free _ (by decide)
    rw [texts]
    split
    · exact here.append .nil
    · exact here.append (comma.append (ih later))

theorem balanced_modulePath (modules : List Identifier) : Balanced (modulePath modules) := by
  induction modules with
  | nil => exact .nil
  | cons outer modules ih =>
    have colons : Balanced [':', ':'] := .of_free _ (by decide)
    exact ((Balanced.of_plain _ outer.plain).append colons).append ih

theorem balanced_length (length : Nat) : Balanced (';' :: ' ' :: Nat.toDigits 10 length) :=
  .plain _ (by decide) (by decide)
    (.plain _ (by decide) (by decide) (.of_plain _ (plain_digits length)))

theorem balanced_text (name : TypeName) : Balanced name.text := by
  induction name with
  | path modules own arguments ih =>
    rw [text]
    refine (balanced_modulePath modules).append ((Balanced.of_plain _ own.plain).append ?_)
    split
    · exact .nil
    · exact .between '<' '>' (by decide) (balanced_texts arguments ih) .nil
  | reference isMutable target ih =>
    rw [text]
    refine .plain '&' (by decide) (by decide) (Balanced.append (.of_free _ ?_) ih)
    cases isMutable <;> decide
  | tuple elements ih =>
    rw [text]
    refine .between '(' ')' (by decide) ((balanced_texts elements ih).append (.of_free _ ?_)) .nil
    split <;> decide
  | slice element ih =>
    rw [text]
    exact .between '[' ']' (by decide) ih .nil
  | array element length ih =>
    rw [text]
    exact .between '[' ']' (by decide) (ih.append (balanced_length length)) .nil

end TypeName

end Typecase
