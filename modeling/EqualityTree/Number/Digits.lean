/-!
# Decimal digits

Reading and writing of whole numbers in base ten, and the positional form with a point. A written
number holds digits, at most one point and at most one leading minus sign.
-/

namespace EqualityTree.Number

/-- The decimal digits of a number, `0` for zero. -/
def digits (n : Nat) : List Char := Nat.toDigits 10 n

theorem isDigit_of_mem_digits {n : Nat} {c : Char} (member : c ∈ digits n) : c.isDigit = true :=
  Nat.isDigit_of_mem_toDigits (by decide) (by decide) member

def signed (negative : Bool) (magnitude : List Char) : List Char :=
  if negative then '-' :: magnitude else magnitude

def integer (n : Int) : List Char := signed (n < 0) (digits n.natAbs)

/-- The number `n / 10 ^ places` with exactly that many digits after the point, and at least one
before it. -/
def fixed (n places : Nat) : List Char :=
  let plain := digits n
  let padded := List.replicate (places + 1 - plain.length) '0' ++ plain
  let whole := padded.length - places
  if places = 0 then plain else padded.take whole ++ '.' :: padded.drop whole

/-- The value of one digit in a base up to sixteen; letters count in either case. -/
def digitValue? (base : Nat) (c : Char) : Option Nat :=
  let value :=
    if c.isDigit then c.toNat - '0'.toNat
    else if 'a' ≤ c && c ≤ 'f' then c.toNat - 'a'.toNat + 10
    else if 'A' ≤ c && c ≤ 'F' then c.toNat - 'A'.toNat + 10
    else base
  if value < base then some value else none

/-- Adds the digits of a text to a number already read. -/
def readDigits? (base : Nat) : Nat → List Char → Option Nat
  | read, [] => some read
  | read, c :: rest =>
      match digitValue? base c with
      | some digit => readDigits? base (read * base + digit) rest
      | none => none

def readNat? (base : Nat) : List Char → Option Nat
  | [] => none
  | text => readDigits? base 0 text

/-- Reads digits after an optional sign, and tells whether the sign was a minus. -/
def readSigned? (base : Nat) : List Char → Option (Bool × Nat)
  | '-' :: text => (readNat? base text).map (true, ·)
  | '+' :: text => (readNat? base text).map (false, ·)
  | text => (readNat? base text).map (false, ·)

end EqualityTree.Number
