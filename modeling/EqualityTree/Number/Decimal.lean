import EqualityTree.Number.Digits

/-!
# Scaled decimals

A decimal is a signed mantissa below `2 ^ 96` over a power of ten up to `10 ^ 28`. The scale
belongs to the decimal and shows in its text, and zero has a sign; equality of numbers sees
neither.
-/

namespace EqualityTree

/-- The number `± mantissa / 10 ^ scale`. -/
structure Decimal where
  negative : Bool
  mantissa : Nat
  scale : Nat
  mantissa_lt : mantissa < Nat.pow 2 96
  scale_le : scale ≤ 28
deriving DecidableEq

namespace Decimal

def zero : Decimal := ⟨false, 0, 0, by decide, by decide⟩

def signedMantissa (x : Decimal) : Int := if x.negative then -x.mantissa else x.mantissa

/-- Whether two decimals are the same number, whatever their scales: both mantissas are brought
to the sum of the scales. -/
def sameNumber (x y : Decimal) : Bool :=
  x.signedMantissa * Int.pow 10 y.scale = y.signedMantissa * Int.pow 10 x.scale

/-- Reads the mantissa, digits after an optional sign. A minus sign before zero is kept. -/
def read? (mantissa : String) (scale : Int) : Option Decimal :=
  match Number.readSigned? 10 mantissa.toList with
  | none => none
  | some (negative, magnitude) =>
      if bound : magnitude < Nat.pow 2 96 then
        if fits : 0 ≤ scale ∧ scale ≤ 28 then
          some ⟨negative, magnitude, scale.toNat, bound, by omega⟩
        else none
      else none

/-- All digits of the scale are written. -/
def text (x : Decimal) : String :=
  String.ofList (Number.signed x.negative (Number.fixed x.mantissa x.scale))

end Decimal

end EqualityTree
