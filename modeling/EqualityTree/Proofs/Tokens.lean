import EqualityTree.Text.Quoted

/-!
# Texts that show their ends

A token is a word without blanks, quotes and parentheses, such a word with another in parentheses after
it, or a text in quotes in which no quote stands bare. Where tokens are set apart by blanks and closing
parentheses, a reader finds the end of each: a text can be cut after a token in one place only.
-/

namespace EqualityTree.Text

/-! ## Words -/

def delimiters : List Char := [' ', '(', ')', '"', '\x27']

/-- No character of the text sets words apart. -/
def Plain (text : List Char) : Prop := ∀ c ∈ text, c ∉ delimiters

/-- A word cannot go on here. -/
def Breaks (rest : List Char) : Prop := ∀ c ∈ rest.head?, c ∈ delimiters

/-- A token ends here: nothing follows, or a blank, or a closing parenthesis. -/
def Ends (rest : List Char) : Prop := ∀ c ∈ rest.head?, c = ' ' ∨ c = ')'

theorem Ends.breaks {rest : List Char} (ends : Ends rest) : Breaks rest := by
  intro c first
  rcases ends c first with rfl | rfl <;> decide

theorem Breaks.cons {c : Char} (delimits : c ∈ delimiters) (rest : List Char) :
    Breaks (c :: rest) := by
  intro first same
  rw [List.head?_cons, Option.mem_some_iff] at same
  exact same ▸ delimits

theorem Ends.nil : Ends [] := by
  intro c first
  cases first

theorem Ends.blank (rest : List Char) : Ends (' ' :: rest) := by
  intro c first
  exact Or.inl (Option.mem_some_iff.mp first).symm

theorem Ends.close (rest : List Char) : Ends (')' :: rest) := by
  intro c first
  exact Or.inr (Option.mem_some_iff.mp first).symm

namespace Plain

theorem cons_iff {c : Char} {text : List Char} :
    Plain (c :: text) ↔ c ∉ delimiters ∧ Plain text :=
  List.forall_mem_cons

theorem append {first second : List Char} (plain : Plain first) (alsoPlain : Plain second) :
    Plain (first ++ second) :=
  List.forall_mem_append.mpr ⟨plain, alsoPlain⟩

theorem of_all {text : List Char} (checked : text.all (fun c => !delimiters.contains c) = true) :
    Plain text := by
  intro c member delimits
  have free := List.all_eq_true.mp checked c member
  rw [List.contains_iff_mem.mpr delimits] at free
  cases free

/-- A text made of characters of plain ones is plain. -/
theorem of_subset {text whole : List Char} (plain : Plain whole) (within : text ⊆ whole) :
    Plain text :=
  fun c member => plain c (within member)

/-- A word goes on up to the first character that cannot be of it. -/
theorem end_unique {first second rest other : List Char} (plain : Plain first)
    (alsoPlain : Plain second) (breaks : Breaks rest) (otherBreaks : Breaks other)
    (same : first ++ rest = second ++ other) : first = second ∧ rest = other := by
  induction first generalizing second with
  | nil =>
      cases second with
      | nil => exact ⟨rfl, same⟩
      | cons c tail =>
          obtain rfl : rest = c :: (tail ++ other) := same
          exact absurd (breaks c rfl) (cons_iff.mp alsoPlain).1
  | cons c tail ih =>
      cases second with
      | nil =>
          obtain rfl : c :: (tail ++ rest) = other := same
          exact absurd (otherBreaks c rfl) (cons_iff.mp plain).1
      | cons d otherTail =>
          rw [List.cons_append, List.cons_append, List.cons.injEq] at same
          obtain ⟨rfl, tails⟩ := same
          obtain ⟨rfl, rests⟩ := ih (cons_iff.mp plain).2 (cons_iff.mp alsoPlain).2 tails
          exact ⟨rfl, rests⟩

end Plain

structure Word (text : List Char) : Prop where
  nonempty : text ≠ []
  plain : Plain text

namespace Word

theorem of_all {text : List Char} (nonempty : text.isEmpty = false)
    (checked : text.all (fun c => !delimiters.contains c) = true) : Word text where
  nonempty := List.isEmpty_eq_false_iff.mp nonempty
  plain := .of_all checked

theorem append {first second : List Char} (word : Word first) (plain : Plain second) :
    Word (first ++ second) where
  nonempty := List.append_ne_nil_of_left_ne_nil word.nonempty second
  plain := word.plain.append plain

theorem prepend {first second : List Char} (plain : Plain first) (word : Word second) :
    Word (first ++ second) where
  nonempty := List.append_ne_nil_of_right_ne_nil first word.nonempty
  plain := plain.append word.plain

theorem cons {c : Char} {text : List Char} (notDelimiter : c ∉ delimiters) (plain : Plain text) :
    Word (c :: text) where
  nonempty := List.cons_ne_nil c text
  plain := Plain.cons_iff.mpr ⟨notDelimiter, plain⟩

/-- A word does not begin with a character that sets words apart. -/
theorem ne_cons {name text rest : List Char} (word : Word name) {c : Char}
    (delimits : c ∈ delimiters) : c :: rest ≠ name ++ text := by
  obtain ⟨nonempty, plain⟩ := word
  cases name with
  | nil => exact absurd rfl nonempty
  | cons d tail =>
      intro same
      have heads : c = d := (List.cons.inj same).1
      exact (Plain.cons_iff.mp plain).1 (heads ▸ delimits)

end Word

/-! ## Quoted texts -/

/-- A character that stands around quoted texts. -/
def IsQuote (c : Char) : Prop := c = '"' ∨ c = '\x27'

namespace IsQuote

variable {quote : Char}

theorem delimits (isQuote : IsQuote quote) : quote ∈ delimiters := by
  rcases isQuote with rfl | rfl <;> decide

theorem ne_backslash (isQuote : IsQuote quote) : quote ≠ '\\' := by
  rcases isQuote with rfl | rfl <;> decide

theorem ne_open (isQuote : IsQuote quote) : quote ≠ '(' := by
  rcases isQuote with rfl | rfl <;> decide

end IsQuote

/-- No quote of the text stands bare, and no backslash is left without the character after it. -/
inductive Escaped (quote : Char) : List Char → Prop
  | nil : Escaped quote []
  | bare {c : Char} {rest : List Char} (notQuote : c ≠ quote) (notBackslash : c ≠ '\\')
      (tail : Escaped quote rest) : Escaped quote (c :: rest)
  | escape (c : Char) {rest : List Char} (tail : Escaped quote rest) :
      Escaped quote ('\\' :: c :: rest)

namespace Escaped

variable {quote : Char}

theorem append {first second : List Char} (escaped : Escaped quote first)
    (alsoEscaped : Escaped quote second) : Escaped quote (first ++ second) := by
  induction escaped with
  | nil => exact alsoEscaped
  | bare notQuote notBackslash tail ih => exact .bare notQuote notBackslash ih
  | escape c tail ih => exact .escape c ih

theorem of_forall {text : List Char} (each : ∀ c ∈ text, c ≠ quote ∧ c ≠ '\\') :
    Escaped quote text := by
  induction text with
  | nil => exact .nil
  | cons c rest ih =>
      obtain ⟨here, later⟩ := List.forall_mem_cons.mp each
      exact .bare here.1 here.2 (ih later)

theorem flatMap {write : Char → List Char} (each : ∀ c, Escaped quote (write c))
    (text : List Char) : Escaped quote (text.flatMap write) := by
  induction text with
  | nil => exact .nil
  | cons c rest ih =>
      rw [List.flatMap_cons]
      exact (each c).append ih

/-- A quoted text goes on up to the first bare quote. -/
theorem end_unique {first second rest other : List Char} (isQuote : IsQuote quote)
    (escaped : Escaped quote first) (alsoEscaped : Escaped quote second)
    (same : first ++ quote :: rest = second ++ quote :: other) :
    first = second ∧ rest = other := by
  induction escaped generalizing second with
  | nil =>
      cases alsoEscaped with
      | nil => exact ⟨rfl, (List.cons.inj same).2⟩
      | bare notQuote _ _ => exact absurd (List.cons.inj same).1.symm notQuote
      | escape c _ => exact absurd (List.cons.inj same).1 isQuote.ne_backslash
  | bare notQuote isNoBackslash tail ih =>
      cases alsoEscaped with
      | nil => exact absurd (List.cons.inj same).1 notQuote
      | bare _ _ otherTail =>
          rw [List.cons_append, List.cons_append, List.cons.injEq] at same
          obtain ⟨rfl, tails⟩ := same
          obtain ⟨rfl, rests⟩ := ih otherTail tails
          exact ⟨rfl, rests⟩
      | escape c _ => exact absurd (List.cons.inj same).1 isNoBackslash
  | escape c tail ih =>
      cases alsoEscaped with
      | nil => exact absurd (List.cons.inj same).1.symm isQuote.ne_backslash
      | bare _ isNoBackslash _ => exact absurd (List.cons.inj same).1.symm isNoBackslash
      | escape d otherTail =>
          simp only [List.cons_append, List.cons.injEq, true_and] at same
          obtain ⟨rfl, tails⟩ := same
          obtain ⟨rfl, rests⟩ := ih otherTail tails
          exact ⟨rfl, rests⟩

end Escaped

/-! ## Tokens -/

/-- What may stand after the word of a token. -/
inductive Argument : List Char → Prop
  | none : Argument []
  | some {text : List Char} (plain : Plain text) : Argument ('(' :: (text ++ [')']))

/-- A text that shows its end. -/
inductive Token : List Char → Prop
  | word {name argument : List Char} (isWord : Word name) (follows : Argument argument) :
      Token (name ++ argument)
  | quoted {quote : Char} {text : List Char} (isQuote : IsQuote quote)
      (escaped : Escaped quote text) : Token (quote :: (text ++ [quote]))

theorem Word.token {text : List Char} (word : Word text) : Token text := by
  have token := Token.word word .none
  rwa [List.append_nil] at token

namespace Argument

variable {first second rest other : List Char}

theorem breaks (argument : Argument first) (ends : Ends rest) : Breaks (first ++ rest) := by
  cases argument with
  | none => exact ends.breaks
  | some plain => exact Breaks.cons (by decide) _

theorem end_unique (argument : Argument first) (otherArgument : Argument second) (ends : Ends rest)
    (otherEnds : Ends other) (same : first ++ rest = second ++ other) :
    first = second ∧ rest = other := by
  have open_not_ends : ∀ {text : List Char}, ¬Ends ('(' :: text) := by
    intro text ends
    rcases ends '(' rfl with impossible | impossible <;> cases impossible
  cases argument with
  | none =>
      cases otherArgument with
      | none => exact ⟨rfl, same⟩
      | some _ =>
          rw [List.nil_append] at same
          rw [same] at ends
          exact absurd ends open_not_ends
  | some plain =>
      cases otherArgument with
      | none =>
          rw [List.nil_append] at same
          rw [← same] at otherEnds
          exact absurd otherEnds open_not_ends
      | some otherPlain =>
          simp only [List.cons_append, List.append_assoc, List.cons.injEq, true_and] at same
          obtain ⟨rfl, rests⟩ := plain.end_unique otherPlain (Breaks.cons (by decide) rest)
            (Breaks.cons (by decide) other) same
          exact ⟨rfl, (List.cons.inj rests).2⟩

end Argument

namespace Token

variable {first second rest other : List Char}

theorem ne_open (token : Token first) (text : List Char) : '(' :: text ≠ first ++ rest := by
  cases token with
  | word isWord follows =>
      rw [List.append_assoc]
      exact isWord.ne_cons (by decide)
  | quoted isQuote escaped =>
      intro same
      exact isQuote.ne_open (List.cons.inj same).1.symm

/-- A text can be cut after a token in one place only. -/
theorem end_unique (token : Token first) (otherToken : Token second) (ends : Ends rest)
    (otherEnds : Ends other) (same : first ++ rest = second ++ other) :
    first = second ∧ rest = other := by
  cases token with
  | word isWord follows =>
      cases otherToken with
      | word otherWord otherFollows =>
          rw [List.append_assoc, List.append_assoc] at same
          obtain ⟨rfl, tails⟩ := isWord.plain.end_unique otherWord.plain (follows.breaks ends)
            (otherFollows.breaks otherEnds) same
          obtain ⟨rfl, rests⟩ := follows.end_unique otherFollows ends otherEnds tails
          exact ⟨rfl, rests⟩
      | quoted isQuote escaped =>
          rw [List.append_assoc] at same
          exact absurd same.symm (isWord.ne_cons isQuote.delimits)
  | quoted isQuote escaped =>
      cases otherToken with
      | word otherWord otherFollows =>
          rw [List.append_assoc] at same
          exact absurd same (otherWord.ne_cons isQuote.delimits)
      | quoted _ otherEscaped =>
          simp only [List.cons_append, List.append_assoc, List.cons.injEq] at same
          obtain ⟨rfl, inner⟩ := same
          obtain ⟨rfl, rests⟩ := escaped.end_unique isQuote otherEscaped inner
          exact ⟨rfl, rests⟩

end Token

/-! ## Quoted characters and strings -/

namespace Escaping

variable {escaping : Escaping} {quote : Char}

/-- What is left as it is is neither a backslash nor a quote that the form escapes. -/
theorem ne_of_letter?_eq_none {c : Char} (bare : escaping.letter? c = none) :
    c ≠ '\\' ∧ c ≠ '"' ∧ (escaping.apostrophes = true → c ≠ '\x27') := by
  refine ⟨?_, ?_, ?_⟩
  · rintro rfl
    cases bare
  · rintro rfl
    cases bare
  · rintro quotes rfl
    simp [letter?, quotes] at bare

theorem hexadecimal_of_mem_toDigits {n : Nat} {c : Char} (member : c ∈ Nat.toDigits 16 n) :
    ∃ digit < 16, c = Nat.digitChar digit := by
  induction n using Nat.strongRecOn with
  | ind n ih =>
    rw [Nat.toDigits_eq_if (by decide)] at member
    split at member
    · next small => exact ⟨n, small, List.mem_singleton.mp member⟩
    · next large =>
      rcases List.mem_append.mp member with upper | last
      · exact ih (n / 16) (Nat.div_lt_self (by omega) (by decide)) upper
      · exact ⟨n % 16, Nat.mod_lt n (by decide), List.mem_singleton.mp last⟩

theorem escaped_codePoint (isQuote : IsQuote quote) (c : Char) :
    Escaped quote (codePoint c) := by
  have digits : ∀ digit < 16, Nat.digitChar digit ≠ '"' ∧ Nat.digitChar digit ≠ '\x27' ∧
      Nat.digitChar digit ≠ '\\' := by decide
  have unquoted : ∀ d ∈ '\x7b' :: (Nat.toDigits 16 c.toNat ++ ['\x7d']),
      d ≠ '"' ∧ d ≠ '\x27' ∧ d ≠ '\\' := by
    rw [List.forall_mem_cons, List.forall_mem_append, List.forall_mem_singleton]
    refine ⟨by decide, fun d member => ?_, by decide⟩
    obtain ⟨digit, bound, rfl⟩ := hexadecimal_of_mem_toDigits member
    exact digits digit bound
  refine .escape 'u' (.of_forall fun d member => ?_)
  obtain ⟨notDouble, notSingle, notBackslash⟩ := unquoted d member
  rcases isQuote with rfl | rfl
  · exact ⟨notDouble, notBackslash⟩
  · exact ⟨notSingle, notBackslash⟩

/-- A character within quotes leaves no quote bare that the form escapes. -/
theorem escaped_char (mark : quote = '"' ∨ quote = '\x27' ∧ escaping.apostrophes = true)
    (c : Char) : Escaped quote (escaping.char c) := by
  unfold char
  split
  · next letter _ => exact .escape letter .nil
  · next bare =>
    split
    · exact escaped_codePoint (mark.imp_right And.left) c
    · obtain ⟨notBackslash, notDouble, notSingle⟩ := ne_of_letter?_eq_none bare
      rcases mark with rfl | ⟨rfl, quotes⟩
      · exact .bare notDouble notBackslash .nil
      · exact .bare (notSingle quotes) notBackslash .nil

end Escaping

theorem token_quoteChar (c : Char) : Token (quoteChar c).toList := by
  rw [quoteChar, String.toList_ofList]
  exact .quoted (Or.inr rfl) (Escaping.escaped_char (Or.inr ⟨rfl, rfl⟩) c)

/-- A string value shows its end, whatever it contains. -/
theorem token_quoteString (s : String) : Token (quoteString s).toList := by
  have escaped : Escaped '"' (escapeString s.toList) := by
    cases s.toList with
    | nil => exact .nil
    | cons first rest =>
        exact (Escaping.escaped_char (Or.inl rfl) first).append
          (.flatMap (Escaping.escaped_char (Or.inl rfl)) rest)
  rw [quoteString, String.toList_ofList]
  exact .quoted (Or.inl rfl) escaped

end EqualityTree.Text
