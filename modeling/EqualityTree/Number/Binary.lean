/-!
# Binary floating point

The two binary formats of IEEE 754, as bit patterns and as the numbers they denote. Equality of
numbers is the equality of that standard: nothing equals a NaN, and the two zeros are equal.
-/

namespace EqualityTree

inductive FloatKind
  | single | double
deriving DecidableEq

/-- What a bit pattern denotes. A finite number is `± significand * 2 ^ exponent`. -/
inductive Binary
  | nan
  | infinite (negative : Bool)
  | finite (negative : Bool) (significand : Nat) (exponent : Int)
deriving DecidableEq

namespace FloatKind

def width : FloatKind → Nat
  | single => 32
  | double => 64

def fractionWidth : FloatKind → Nat
  | single => 23
  | double => 52

def exponentWidth : FloatKind → Nat
  | single => 8
  | double => 11

/-- The exponent of the subnormal numbers, the least of the format. -/
def leastExponent : FloatKind → Int
  | single => -149
  | double => -1074

def name : FloatKind → String
  | single => "f32"
  | double => "f64"

def fractionField (kind : FloatKind) (bits : Nat) : Nat := bits % Nat.pow 2 kind.fractionWidth

def exponentField (kind : FloatKind) (bits : Nat) : Nat :=
  bits / Nat.pow 2 kind.fractionWidth % Nat.pow 2 kind.exponentWidth

def signField (kind : FloatKind) (bits : Nat) : Bool := bits / Nat.pow 2 (kind.width - 1) % 2 = 1

/-- What a pattern denotes. The greatest stored exponent is for infinities and NaNs; the least is
for subnormal numbers, whose significand has no hidden bit. -/
def decode (kind : FloatKind) (bits : BitVec kind.width) : Binary :=
  let negative := kind.signField bits.toNat
  let fraction := kind.fractionField bits.toNat
  let stored := kind.exponentField bits.toNat
  if stored = Nat.pow 2 kind.exponentWidth - 1 then
    if fraction = 0 then .infinite negative else .nan
  else if stored = 0 then .finite negative fraction kind.leastExponent
  else .finite negative (Nat.pow 2 kind.fractionWidth + fraction) (kind.leastExponent + stored - 1)

end FloatKind

/-- Equality of numbers. Within one format a nonzero number has one significand and exponent, so
only the zeros and the NaNs are special. -/
def Binary.sameNumber : Binary → Binary → Bool
  | .finite n m e, .finite n' m' e' => (m = 0 && m' = 0) || (n = n' && m = m' && e = e')
  | .infinite n, .infinite n' => n = n'
  | _, _ => false

end EqualityTree
