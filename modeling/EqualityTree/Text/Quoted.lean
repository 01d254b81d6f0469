import EqualityTree.Text.GraphemeExtend
import EqualityTree.Text.Unprintable

/-!
# Quoted text

The quoted forms of characters, strings and names. A quote that ends the text, a backslash and
every character without a printed form of its own are escaped, so quoted text is printable and
ends at its first bare quote. A mark that joins the character before it is escaped where it would
join the opening quote.
-/

namespace EqualityTree.Text

/-- Whether a number lies in one of the closed ranges, which ascend. -/
def inRanges (n : Nat) : List (Nat × Nat) → Bool
  | [] => false
  | (low, high) :: rest => if n < low then false else if n ≤ high then true else inRanges n rest

/-- A control, a format character, a separator other than the space, a private, an unassigned or
an invisible character. -/
def isUnprintable (c : Char) : Bool := inRanges c.toNat Unprintable.ranges

/-- A mark that joins the character before it. -/
def isGraphemeExtend (c : Char) : Bool := inRanges c.toNat GraphemeExtend.ranges

/-- What a quoted form escapes beside backslashes, double quotes and unprintable characters. -/
structure Escaping where
  /-- Single quotes. -/
  apostrophes : Bool
  /-- Marks that join the character before them. -/
  extenders : Bool

namespace Escaping

/-- The letter that stands for a character after a backslash. -/
def letter? (escaping : Escaping) (c : Char) : Option Char :=
  if c = '\x00' then some '0'
  else if c = '\t' then some 't'
  else if c = '\n' then some 'n'
  else if c = '\r' then some 'r'
  else if c = '"' then some '"'
  else if c = '\\' then some '\\'
  else if c = '\x27' && escaping.apostrophes then some '\x27'
  else none

/-- The code point in hexadecimal digits between braces. -/
def codePoint (c : Char) : List Char := ['\\', 'u', '\x7b'] ++ Nat.toDigits 16 c.toNat ++ ['\x7d']

def char (escaping : Escaping) (c : Char) : List Char :=
  match escaping.letter? c with
  | some letter => ['\\', letter]
  | none =>
      if isUnprintable c || (escaping.extenders && isGraphemeExtend c) then codePoint c else [c]

end Escaping

def quoteChar (c : Char) : String :=
  String.ofList (['\x27'] ++ (Escaping.mk true true).char c ++ ['\x27'])

/-- The characters of a string value within its quotes: only the first one follows the opening
quote, so extenders after it stand as they are. -/
def escapeString : List Char → List Char
  | [] => []
  | first :: rest =>
      (Escaping.mk true true).char first ++ rest.flatMap (Escaping.mk true false).char

def quoteString (s : String) : String :=
  String.ofList (['"'] ++ escapeString s.toList ++ ['"'])

/-- The quoted form of a name, in which single quotes stand as they are. -/
def quoteName (s : String) : String :=
  String.ofList (['"'] ++ s.toList.flatMap (Escaping.mk false true).char ++ ['"'])

end EqualityTree.Text
