import EqualityTree.Number.Digits

/-!
# Integers of a fixed width

The eight integer formats, signed and unsigned, and the numbers that each holds. A number carries
the proof that it lies in the range of its format, so no operation has to check it again.
-/

namespace EqualityTree

inductive IntKind
  | i8 | i16 | i32 | i64 | u8 | u16 | u32 | u64
deriving DecidableEq

namespace IntKind

def isSigned : IntKind → Bool
  | i8 | i16 | i32 | i64 => true
  | u8 | u16 | u32 | u64 => false

def width : IntKind → Nat
  | i8 | u8 => 8
  | i16 | u16 => 16
  | i32 | u32 => 32
  | i64 | u64 => 64

def name : IntKind → String
  | i8 => "i8"
  | i16 => "i16"
  | i32 => "i32"
  | i64 => "i64"
  | u8 => "u8"
  | u16 => "u16"
  | u32 => "u32"
  | u64 => "u64"

def lowest (kind : IntKind) : Int := if kind.isSigned then -Int.pow 2 (kind.width - 1) else 0

def highest (kind : IntKind) : Int :=
  if kind.isSigned then Int.pow 2 (kind.width - 1) - 1 else Int.pow 2 kind.width - 1

end IntKind

structure Fixed (kind : IntKind) where
  val : Int
  lowest_le : kind.lowest ≤ val
  le_highest : val ≤ kind.highest
deriving DecidableEq

namespace Fixed

variable {kind : IntKind}

def zero (kind : IntKind) : Fixed kind :=
  ⟨0, by cases kind <;> decide, by cases kind <;> decide⟩

def ofInt? (kind : IntKind) (n : Int) : Option (Fixed kind) :=
  if lower : kind.lowest ≤ n then
    if upper : n ≤ kind.highest then some ⟨n, lower, upper⟩ else none
  else none

/-- Reads decimal digits after an optional sign. An unsigned format takes no minus sign, not even
before zero. -/
def read? (kind : IntKind) (text : String) : Option (Fixed kind) :=
  match Number.readSigned? 10 text.toList with
  | some (true, magnitude) => if kind.isSigned then ofInt? kind (-magnitude) else none
  | some (false, magnitude) => ofInt? kind magnitude
  | none => none

def text (n : Fixed kind) : String := String.ofList (Number.integer n.val)

end Fixed

end EqualityTree
