import Mathlib.Tactic.SplitIfs
import Typecase.Command
import Typecase.Proofs.Numerals

/-! Words on a command line can be told apart. A character between quotes can be read off the front
of the text that spells it, so a quoted word ends where it seems to, and a bare word ends at the
space behind it. Therefore a line that shows words shows no other words. -/

namespace Typecase.Text

/-- The character that a quoted text spells first, with what is left behind it. -/
def unescape : List Char → Option (Char × List Char)
  | [] => none
  | '"' :: _ => none
  | '\\' :: '0' :: rest => some ('\x00', rest)
  | '\\' :: 't' :: rest => some ('\t', rest)
  | '\\' :: 'r' :: rest => some ('\r', rest)
  | '\\' :: 'n' :: rest => some ('\n', rest)
  | '\\' :: 'u' :: rest =>
    let digits := Numeral.leadingDigits 16 (rest.drop 1)
    some (Char.ofNat (Numeral.ofDigits 16 digits), rest.drop (digits.length + 2))
  | '\\' :: char :: rest => some (char, rest)
  | char :: rest => some (char, rest)

theorem unescape_number (char : Char) (rest : List Char) :
    unescape ('\\' :: 'u' :: '\x7b' :: (Nat.toDigits 16 char.toNat ++ ['\x7d']) ++ rest) =
      some (char, rest) := by
  obtain ⟨digits, small, printed, value⟩ := Numeral.exists_hexDigits char.toNat
  have read : Numeral.leadingDigits 16 (digits.map Nat.digitChar ++ '\x7d' :: rest) = digits := by
    refine Numeral.leadingDigits_hexDigits digits small _ fun brace first => ?_
    cases first
    rfl
  have shown : '\\' :: 'u' :: '\x7b' :: (Nat.toDigits 16 char.toNat ++ ['\x7d']) ++ rest =
      '\\' :: 'u' :: '\x7b' :: (digits.map Nat.digitChar ++ '\x7d' :: rest) := by
    simp [printed]
  rw [shown, unescape]
  simp only [List.drop_succ_cons, List.drop_zero, read, value, Char.ofNat_toNat]
  rw [← List.drop_drop]
  simp

/-- The first character of a quoted text can be read off it, whatever follows. -/
theorem unescape_escape (char : Char) (rest : List Char) :
    unescape (escape char ++ rest) = some (char, rest) := by
  unfold escape
  split_ifs with zero tab carriage newline backslash mark hidden
  · rw [zero]; rfl
  · rw [tab]; rfl
  · rw [carriage]; rfl
  · rw [newline]; rfl
  · rw [backslash]; rfl
  · rw [mark]; rfl
  · exact unescape_number char rest
  · rw [List.singleton_append, unescape]
    all_goals simp [backslash, mark]

/-- Quoted texts that go on somehow are the same only if their characters and what follows are. -/
theorem escapes_cancel (text other rest later : List Char)
    (same : text.flatMap escape ++ '"' :: rest = other.flatMap escape ++ '"' :: later) :
    text = other ∧ rest = later := by
  induction text generalizing other with
  | nil =>
    cases other with
    | nil => exact ⟨rfl, (List.cons.inj same).2⟩
    | cons char other =>
      have read := congrArg unescape same
      rw [List.flatMap_cons, List.append_assoc, unescape_escape] at read
      cases read
  | cons char text ih =>
    have read := congrArg unescape same
    rw [List.flatMap_cons, List.append_assoc, unescape_escape] at read
    cases other with
    | nil => cases read
    | cons char' other =>
      rw [List.flatMap_cons, List.append_assoc, unescape_escape] at read
      obtain ⟨rfl, onward⟩ := Prod.mk.inj (Option.some.inj read)
      obtain ⟨rfl, behind⟩ := ih other onward
      exact ⟨rfl, behind⟩

/-- A word ends where the line ends, or at a space. -/
def EndsWord (rest : List Char) : Prop := ∀ char ∈ rest.head?, char = ' '

theorem takeWhile_isPlain (word rest : List Char) (plain : word.all isPlain = true)
    (ends : EndsWord rest) : (word ++ rest).takeWhile isPlain = word := by
  rw [List.takeWhile_append_of_pos (List.all_eq_true.1 plain)]
  cases rest with
  | nil => exact List.append_nil word
  | cons char rest =>
    rw [ends char rfl, List.takeWhile_cons_of_neg (by decide), List.append_nil]

theorem bare_ne_quote (word other rest later : List Char) (plain : word.all isPlain = true)
    (ends : EndsWord rest) : word ++ rest ≠ quote other ++ later := by
  intro same
  have front := takeWhile_isPlain word rest plain ends
  rw [same] at front
  obtain rfl : [] = word := front
  rw [List.nil_append] at same
  cases ends '"' (by rw [same]; rfl)

/-- The end of the first word on a line can be found, and the word be read off. -/
theorem shellWord_cancel (word other rest later : List Char) (ends : EndsWord rest)
    (endsLater : EndsWord later) (same : shellWord word ++ rest = shellWord other ++ later) :
    word = other ∧ rest = later := by
  unfold shellWord at same
  split_ifs at same with plain plainOther plainOther
  · have front := takeWhile_isPlain word rest plain ends
    rw [same, takeWhile_isPlain other later plainOther endsLater] at front
    subst front
    exact ⟨rfl, List.append_cancel_left same⟩
  · exact absurd same (bare_ne_quote word other rest later plain ends)
  · exact absurd same.symm (bare_ne_quote other word later rest plainOther endsLater)
  · simp only [quote, List.cons_append, List.append_assoc, List.cons.injEq, true_and] at same
    exact escapes_cancel word other rest later same

theorem shellLine_cons (word : List Char) (words : List (List Char)) :
    shellLine (word :: words) = shellWord word ++ words.flatMap (' ' :: shellWord ·) := by
  induction words generalizing word with
  | nil => simp [shellLine]
  | cons next words ih =>
    have onward : shellLine (word :: next :: words) =
        shellWord word ++ [' '] ++ shellLine (next :: words) := List.intercalate_cons_cons
    rw [onward, ih, List.flatMap_cons, List.append_assoc]
    rfl

theorem endsWord_flatMap (words : List (List Char)) :
    EndsWord (words.flatMap (' ' :: shellWord ·)) := by
  intro char first
  cases words with
  | nil => cases first
  | cons word words =>
    cases first
    rfl

theorem flatMap_cancel (words others : List (List Char))
    (same : words.flatMap (' ' :: shellWord ·) = others.flatMap (' ' :: shellWord ·)) :
    words = others := by
  induction words generalizing others with
  | nil =>
    cases others with
    | nil => rfl
    | cons other others => cases same
  | cons word words ih =>
    cases others with
    | nil => cases same
    | cons other others =>
      obtain ⟨rfl, onward⟩ := shellWord_cancel word other _ _ (endsWord_flatMap words)
        (endsWord_flatMap others) (List.cons.inj same).2
      rw [ih others onward]

/-- A line shows no other words than those it was made of, if it was made of any. -/
theorem shellLine_cancel (words others : List (List Char)) (filled : words ≠ [])
    (filledOthers : others ≠ []) (same : shellLine words = shellLine others) : words = others := by
  obtain ⟨word, words, rfl⟩ := List.exists_cons_of_ne_nil filled
  obtain ⟨other, others, rfl⟩ := List.exists_cons_of_ne_nil filledOthers
  rw [shellLine_cons, shellLine_cons] at same
  obtain ⟨rfl, onward⟩ := shellWord_cancel word other _ _ (endsWord_flatMap words)
    (endsWord_flatMap others) same
  rw [flatMap_cancel words others onward]

/-- Text in which a double quote or a backslash stands only behind a backslash of its own. -/
inductive Enclosed : List Char → Prop
  | nil : Enclosed []
  | plain {rest} (char : Char) (noMark : char ≠ '"') (noBackslash : char ≠ '\\') :
    Enclosed rest → Enclosed (char :: rest)
  | escaped {rest} (char : Char) : Enclosed rest → Enclosed ('\\' :: char :: rest)

/-- The characters at which a text may be broken into lines. -/
def lineBreaks : List Char :=
  ['\n', '\x0b', '\x0c', '\r', '\u0085', '\u2028', '\u2029']

theorem Enclosed.append_plain (chars rest : List Char) (enclosed : Enclosed rest)
    (plain : ∀ char ∈ chars, char ≠ '"' ∧ char ≠ '\\') : Enclosed (chars ++ rest) := by
  induction chars with
  | nil => exact enclosed
  | cons char chars ih =>
    obtain ⟨first, later⟩ := List.forall_mem_cons.1 plain
    exact .plain char first.1 first.2 (ih later)

/-- A number in braces needs no escape itself. -/
theorem harmless_number (number : Nat) :
    ∀ char ∈ '\x7b' :: (Nat.toDigits 16 number ++ ['\x7d']),
      (char ≠ '"' ∧ char ≠ '\\') ∧ char ∉ lineBreaks := by
  obtain ⟨digits, small, printed, -⟩ := Numeral.exists_hexDigits number
  have harmless : ∀ digit < 16, (Nat.digitChar digit ≠ '"' ∧ Nat.digitChar digit ≠ '\\') ∧
      Nat.digitChar digit ∉ lineBreaks := by decide
  rw [printed]
  refine List.forall_mem_cons.2 ⟨by decide, List.forall_mem_append.2 ⟨?_, ?_⟩⟩
  · exact List.forall_mem_map.2 fun digit member => harmless digit (small digit member)
  · exact List.forall_mem_singleton.2 (by decide)

theorem enclosed_escape (char : Char) (rest : List Char) (enclosed : Enclosed rest) :
    Enclosed (escape char ++ rest) := by
  unfold escape
  split_ifs with zero tab carriage newline backslash mark hidden
  · exact .escaped '0' enclosed
  · exact .escaped 't' enclosed
  · exact .escaped 'r' enclosed
  · exact .escaped 'n' enclosed
  · exact .escaped '\\' enclosed
  · exact .escaped '"' enclosed
  · exact .escaped 'u' (enclosed.append_plain _ rest fun shown member =>
      (harmless_number char.toNat shown member).1)
  · exact .plain char mark backslash enclosed

theorem escape_unbroken (char : Char) : ∀ shown ∈ escape char, shown ∉ lineBreaks := by
  unfold escape
  split_ifs with zero tab carriage newline backslash mark hidden
  iterate 6 exact List.forall_mem_cons.2 ⟨by decide, List.forall_mem_singleton.2 (by decide)⟩
  · refine List.forall_mem_cons.2 ⟨by decide, List.forall_mem_cons.2 ⟨by decide, ?_⟩⟩
    exact fun shown member => (harmless_number char.toNat shown member).2
  · refine List.forall_mem_singleton.2 fun broken => hidden ?_
    have breaks : lineBreaks.all isHidden = true := by decide +kernel
    exact List.all_eq_true.1 breaks char broken

theorem enclosed_escapes (text : List Char) : Enclosed (text.flatMap escape) := by
  induction text with
  | nil => exact .nil
  | cons char text ih => exact enclosed_escape char _ ih

/-- A word is shown as it is if it is made of plain characters, and else between quotes, where
neither a quote nor a break of the line stands by itself. -/
theorem shellWord_cases (word : List Char) :
    (shellWord word = word ∧ ∀ char ∈ word, char.isAlphanum = true ∨ char ∈ "-_./:=".toList) ∨
    ∃ inner, shellWord word = '"' :: (inner ++ ['"']) ∧ Enclosed inner ∧
      ∀ char ∈ inner, char ∉ lineBreaks := by
  unfold shellWord
  split_ifs with plain
  · refine Or.inl ⟨rfl, fun char member => ?_⟩
    have bare := List.all_eq_true.1 plain char member
    simpa only [isPlain, Bool.or_eq_true, List.contains_iff_mem] using bare
  · refine Or.inr ⟨word.flatMap escape, rfl, enclosed_escapes word, fun shown member => ?_⟩
    obtain ⟨char, -, spelled⟩ := List.mem_flatMap.1 member
    exact escape_unbroken char shown spelled

end Typecase.Text

namespace Typecase

open Text

theorem toList_shellTexts (words : List String) :
    (" ".intercalate (words.map shellText)).toList = shellLine (words.map String.toList) := by
  rw [String.toList_intercalate, List.map_map, shellLine, List.map_map]
  congr 1
  exact List.map_congr_left fun word _ => String.toList_ofList

theorem words_of_shellLine (words others : List String) (filled : words ≠ [])
    (filledOthers : others ≠ [])
    (same : shellLine (words.map String.toList) = shellLine (others.map String.toList)) :
    words = others :=
  (List.map_inj_right fun _ _ => String.toList_injective).1
    (shellLine_cancel _ _ (by simpa using filled) (by simpa using filledOthers) same)

theorem arguments_of_echo (command other : Command) (program : command.program = other.program)
    (environment : command.environment = other.environment) (filled : command.arguments ≠ [])
    (filledOther : other.arguments ≠ []) (same : command.echo = other.echo) :
    command.arguments = other.arguments := by
  have line := (String.append_right_inj _).1 same
  rw [Command.line, Command.line, program, environment, String.append_right_inj,
    String.ofList_inj] at line
  exact words_of_shellLine _ _ filled filledOther line

/-- Words with spaces between them can be told from all others, so a command that is echoed shows
its arguments. Each word is shown bare, or between quotes that only end it. -/
theorem shellText_unambiguous :
    (∀ words others : List String, words ≠ [] → others ≠ [] →
      " ".intercalate (words.map shellText) = " ".intercalate (others.map shellText) →
      words = others) ∧
    (∀ command other : Command, command.program = other.program →
      command.environment = other.environment → command.arguments ≠ [] → other.arguments ≠ [] →
      command.echo = other.echo → command.arguments = other.arguments) ∧
    ∀ word : String,
      (shellText word = word ∧
        ∀ char ∈ word.toList, char.isAlphanum = true ∨ char ∈ "-_./:=".toList) ∨
      ∃ inner, (shellText word).toList = '"' :: (inner ++ ['"']) ∧ Enclosed inner ∧
        ∀ char ∈ inner, char ∉ lineBreaks := by
  refine ⟨fun words others filled filledOthers same => ?_, arguments_of_echo, fun word => ?_⟩
  · refine words_of_shellLine words others filled filledOthers ?_
    rw [← toList_shellTexts, ← toList_shellTexts, same]
  · rcases shellWord_cases word.toList with ⟨bare, plain⟩ | ⟨inner, quoted, enclosed, unbroken⟩
    · exact Or.inl ⟨by rw [shellText, bare, String.ofList_toList], plain⟩
    · exact Or.inr ⟨inner, by rw [shellText, String.toList_ofList, quoted], enclosed, unbroken⟩

/-- A word with a space and quotes in it, and a word without characters. -/
theorem shellText_unambiguous_quoted :
    let words := ["a \"b\"", ""]
    let command : Command := { program := "run", arguments := words }
    command.echo = "$ run \"a \\\"b\\\"\" " ∧
    " ".intercalate (words.map shellText) = "\"a \\\"b\\\"\" " ∧
    words = ["a \"b\""] ++ [""] ∧ command.arguments = ["a \"b\""] ++ [""] ∧
    ∃ inner, (shellText "a \"b\"").toList = '"' :: (inner ++ ['"']) ∧ Enclosed inner := by
  intro words command
  refine ⟨by decide +kernel, by decide +kernel, ?_, ?_, ?_⟩
  · exact shellText_unambiguous.1 words _ (by decide) (by decide) rfl
  · exact shellText_unambiguous.2.1 command { command with arguments := ["a \"b\""] ++ [""] }
      rfl rfl (by decide) (by decide) rfl
  · rcases shellText_unambiguous.2.2 "a \"b\"" with ⟨bare, -⟩ | ⟨inner, quoted, enclosed, -⟩
    · exact absurd bare (by decide +kernel)
    · exact ⟨inner, quoted, enclosed⟩

end Typecase
