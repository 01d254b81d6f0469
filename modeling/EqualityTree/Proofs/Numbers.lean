import EqualityTree.Number.Binary
import EqualityTree.Number.Decimal

/-!
# Equal numbers

Decimals and patterns of binary floating point are compared by their parts. Here they are numbers:
a decimal is a rational, and so is a pattern that denotes neither an infinity nor a NaN. The
comparison of parts is equality of these numbers, because two mantissas at one common scale, and two
significands in the form that patterns have, are equal exactly if the numbers are.
-/

namespace EqualityTree

/-! ## Decimals -/

namespace Decimal

def toRat (x : Decimal) : Rat := x.signedMantissa / 10 ^ x.scale

theorem sameNumber_iff (x y : Decimal) : x.sameNumber y = true ↔ x.toRat = y.toRat := by
  have scaleX : (10 : Rat) ^ x.scale ≠ 0 := Rat.ne_of_gt (Rat.pow_pos (by decide))
  have scaleY : (10 : Rat) ^ y.scale ≠ 0 := Rat.ne_of_gt (Rat.pow_pos (by decide))
  have crossed : x.toRat = y.toRat ↔
      (x.signedMantissa : Rat) * 10 ^ y.scale = y.signedMantissa * 10 ^ x.scale := by
    grind [toRat]
  rw [sameNumber, decide_eq_true_eq, crossed]
  norm_cast

end Decimal

/-! ## Binary floating point -/

inductive Quantity
  | infinite (negative : Bool)
  | finite (x : Rat)
deriving DecidableEq

namespace Binary

def finiteValue (negative : Bool) (significand : Nat) (exponent : Int) : Rat :=
  (if negative then -(significand : Rat) else significand) * 2 ^ exponent

/-- What is denoted, without the sign of a zero. A NaN is no number. -/
def quantity? : Binary → Option Quantity
  | nan => none
  | infinite negative => some (.infinite negative)
  | finite negative significand exponent =>
      some (.finite (finiteValue negative significand exponent))

/-- Numbers that are equal are equal without their signs. -/
theorem size_eq_of_finiteValue {negative otherNegative : Bool} {significand other : Nat}
    {exponent otherExponent : Int}
    (same : finiteValue negative significand exponent =
      finiteValue otherNegative other otherExponent) :
    (significand : Rat) * 2 ^ exponent = other * 2 ^ otherExponent := by
  have size : 0 ≤ (significand : Rat) * 2 ^ exponent :=
    Rat.mul_nonneg Rat.natCast_nonneg (Rat.zpow_nonneg (by decide))
  have otherSize : 0 ≤ (other : Rat) * 2 ^ otherExponent :=
    Rat.mul_nonneg Rat.natCast_nonneg (Rat.zpow_nonneg (by decide))
  unfold finiteValue at same
  cases negative <;> cases otherNegative <;> grind

end Binary

/-- The form in which a pattern denotes a finite number: only at the least exponent the significand
has no hidden bit. -/
structure FloatKind.Normalized (kind : FloatKind) (significand : Nat) (exponent : Int) : Prop where
  lt : significand < Nat.pow 2 (kind.fractionWidth + 1)
  least_le : kind.leastExponent ≤ exponent
  hidden : kind.leastExponent < exponent → Nat.pow 2 kind.fractionWidth ≤ significand

namespace FloatKind

variable {kind : FloatKind}

theorem normalized_of_decode {bits : BitVec kind.width} {negative : Bool} {significand : Nat}
    {exponent : Int} (denotes : kind.decode bits = .finite negative significand exponent) :
    kind.Normalized significand exponent := by
  have fraction : kind.fractionField bits.toNat < Nat.pow 2 kind.fractionWidth :=
    Nat.mod_lt _ (Nat.two_pow_pos _)
  have double : Nat.pow 2 (kind.fractionWidth + 1) =
      Nat.pow 2 kind.fractionWidth + Nat.pow 2 kind.fractionWidth :=
    Nat.mul_two _
  unfold decode at denotes
  dsimp only at denotes
  split at denotes
  · split at denotes <;> cases denotes
  · split at denotes
    · cases denotes
      exact ⟨by omega, Int.le_refl _, fun above => absurd above (Int.lt_irrefl _)⟩
    · next stored =>
      cases denotes
      exact ⟨by omega, by omega, fun _ => Nat.le_add_right _ _⟩

/-- Of two significands at different exponents the one at the greater exponent stands for more. -/
theorem Normalized.exponent_le {significand other : Nat} {exponent otherExponent : Int}
    (normalized : kind.Normalized significand exponent)
    (otherNormalized : kind.Normalized other otherExponent)
    (same : (significand : Rat) * 2 ^ exponent = other * 2 ^ otherExponent) :
    otherExponent ≤ exponent := by
  refine Int.not_lt.mp fun above => ?_
  obtain ⟨gap, rfl⟩ : ∃ gap : Nat, otherExponent = exponent + (gap + 1 : Nat) :=
    ⟨(otherExponent - exponent - 1).toNat, by omega⟩
  have power : (2 : Rat) ^ exponent ≠ 0 := Rat.ne_of_gt (Rat.zpow_pos (by decide))
  have scaled : (significand : Rat) = other * 2 ^ (gap + 1) := by
    rw [Rat.zpow_add (by decide), Rat.zpow_natCast] at same
    grind
  have shifted : significand = other * 2 ^ (gap + 1) := by exact_mod_cast scaled
  have hidden : Nat.pow 2 kind.fractionWidth ≤ other := by
    have least := normalized.least_le
    exact otherNormalized.hidden (by omega)
  have atLeast : Nat.pow 2 (kind.fractionWidth + 1) ≤ significand := by
    calc Nat.pow 2 (kind.fractionWidth + 1) = Nat.pow 2 kind.fractionWidth * 2 := rfl
      _ ≤ other * 2 ^ (gap + 1) :=
        Nat.mul_le_mul hidden (Nat.le_self_pow (Nat.succ_ne_zero _) 2)
      _ = significand := shifted.symm
  exact absurd normalized.lt (Nat.not_lt.mpr atLeast)

/-- In the form that patterns have, a number has one significand and one exponent. -/
theorem Normalized.unique {significand other : Nat} {exponent otherExponent : Int}
    (normalized : kind.Normalized significand exponent)
    (otherNormalized : kind.Normalized other otherExponent)
    (same : (significand : Rat) * 2 ^ exponent = other * 2 ^ otherExponent) :
    significand = other ∧ exponent = otherExponent := by
  have exponents : exponent = otherExponent :=
    Int.le_antisymm (otherNormalized.exponent_le normalized same.symm)
      (normalized.exponent_le otherNormalized same)
  subst exponents
  have power : (2 : Rat) ^ exponent ≠ 0 := Rat.ne_of_gt (Rat.zpow_pos (by decide))
  have significands : (significand : Rat) = other := by grind
  exact ⟨by exact_mod_cast significands, rfl⟩

/-- In the form that patterns have, finite numbers are compared by their values. -/
theorem Normalized.sameNumber_iff {significand other : Nat} {exponent otherExponent : Int}
    (normalized : kind.Normalized significand exponent)
    (otherNormalized : kind.Normalized other otherExponent) (negative otherNegative : Bool) :
    (Binary.finite negative significand exponent).sameNumber
        (.finite otherNegative other otherExponent) = true ↔
      Binary.finiteValue negative significand exponent =
        Binary.finiteValue otherNegative other otherExponent := by
  simp only [Binary.sameNumber, Bool.or_eq_true, Bool.and_eq_true, decide_eq_true_eq]
  constructor
  · rintro (⟨rfl, rfl⟩ | ⟨⟨rfl, rfl⟩, rfl⟩)
    · simp [Binary.finiteValue]
    · rfl
  · intro same
    obtain ⟨rfl, rfl⟩ := normalized.unique otherNormalized (Binary.size_eq_of_finiteValue same)
    by_cases zero : significand = 0
    · exact Or.inl ⟨zero, zero⟩
    · -- Only zero is its own negative, so the signs are the same.
      have power : (2 : Rat) ^ exponent ≠ 0 := Rat.ne_of_gt (Rat.zpow_pos (by decide))
      have present : (significand : Rat) ≠ 0 := fun none => zero (Rat.natCast_eq_zero_iff.mp none)
      unfold Binary.finiteValue at same
      refine Or.inr ⟨⟨?_, rfl⟩, rfl⟩
      cases negative <;> cases otherNegative <;> grind

/-- Patterns of one format are compared as the numbers that they denote: the two zeros are one
number, and a NaN is none. -/
theorem sameNumber_decode_iff (first second : BitVec kind.width) :
    (kind.decode first).sameNumber (kind.decode second) = true ↔
      ∃ quantity, (kind.decode first).quantity? = some quantity ∧
        (kind.decode second).quantity? = some quantity := by
  cases denotes : kind.decode first with
  | nan => simp [Binary.sameNumber, Binary.quantity?]
  | infinite negative =>
      cases kind.decode second <;> simp [Binary.sameNumber, Binary.quantity?, eq_comm]
  | finite negative significand exponent =>
      cases otherDenotes : kind.decode second with
      | nan => simp [Binary.sameNumber, Binary.quantity?]
      | infinite otherNegative => simp [Binary.sameNumber, Binary.quantity?]
      | finite otherNegative other otherExponent =>
          rw [(normalized_of_decode denotes).sameNumber_iff (normalized_of_decode otherDenotes)]
          simp [Binary.quantity?, eq_comm]

end FloatKind

end EqualityTree
