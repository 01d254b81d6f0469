import EqualityTree.Number.Binary

/-!
# Equal bit patterns

Equality of binary floating point compares what two patterns denote. Said of the bits, it is the equality
of the standard: neither pattern is a NaN, and they have the same bits or both are zeros. For a pattern
can be read off what it denotes, unless that is a NaN, and only the patterns of a zero denote zero.
-/

namespace EqualityTree

namespace FloatKind

variable {kind : FloatKind}

/-! ## The bits of a pattern -/

/-- All bits but the sign, as a number. -/
def magnitude (kind : FloatKind) (bits : BitVec kind.width) : Nat :=
  bits.toNat % Nat.pow 2 (kind.width - 1)

/-- The magnitude of an infinity: all bits of the exponent are set, and none of the fraction. -/
def topMagnitude (kind : FloatKind) : Nat :=
  Nat.pow 2 kind.fractionWidth * (Nat.pow 2 kind.exponentWidth - 1)

/-- The patterns above the infinities are the NaNs. -/
def IsNaN (kind : FloatKind) (bits : BitVec kind.width) : Prop :=
  kind.topMagnitude < kind.magnitude bits

def IsZero (kind : FloatKind) (bits : BitVec kind.width) : Prop := kind.magnitude bits = 0

/-- What the sign adds to a pattern. -/
def signBit (kind : FloatKind) (negative : Bool) : Nat :=
  if negative then Nat.pow 2 (kind.width - 1) else 0

/-- The magnitude is made up of the stored exponent and the stored fraction. -/
theorem magnitude_eq (bits : BitVec kind.width) :
    kind.magnitude bits = kind.fractionField bits.toNat +
      Nat.pow 2 kind.fractionWidth * kind.exponentField bits.toNat := by
  have split : Nat.pow 2 (kind.width - 1) =
      Nat.pow 2 kind.fractionWidth * Nat.pow 2 kind.exponentWidth := by
    cases kind <;> rfl
  rw [magnitude, split, Nat.mod_mul]
  rfl

/-- A pattern is made up of its sign and its magnitude. -/
theorem toNat_eq (bits : BitVec kind.width) :
    bits.toNat = kind.signBit (kind.signField bits.toNat) + kind.magnitude bits := by
  have double : Nat.pow 2 kind.width = Nat.pow 2 (kind.width - 1) * 2 := by
    cases kind <;> rfl
  have bound : bits.toNat < Nat.pow 2 (kind.width - 1) * 2 := double ▸ bits.isLt
  have upper : bits.toNat / Nat.pow 2 (kind.width - 1) < 2 := Nat.div_lt_of_lt_mul bound
  have whole := Nat.div_add_mod bits.toNat (Nat.pow 2 (kind.width - 1))
  have sign : kind.signBit (kind.signField bits.toNat) =
      Nat.pow 2 (kind.width - 1) * (bits.toNat / Nat.pow 2 (kind.width - 1)) := by
    unfold signBit signField
    generalize bits.toNat / Nat.pow 2 (kind.width - 1) = quotient at upper ⊢
    obtain rfl | rfl : quotient = 0 ∨ quotient = 1 := by omega
    · rfl
    · exact (Nat.mul_one _).symm
  rw [sign, magnitude]
  exact whole.symm

/-! ## What patterns denote -/

/-- The pattern of what is denoted; a NaN has many, of which this is the lowest without a sign. -/
def encode (kind : FloatKind) : Binary → Nat
  | .nan => kind.topMagnitude + 1
  | .infinite negative => kind.signBit negative + kind.topMagnitude
  | .finite negative significand exponent =>
      kind.signBit negative +
        (significand + Nat.pow 2 kind.fractionWidth * (exponent - kind.leastExponent).toNat)

theorem decode_eq_nan_iff (bits : BitVec kind.width) :
    kind.decode bits = .nan ↔ kind.IsNaN bits := by
  have fraction : kind.fractionField bits.toNat < Nat.pow 2 kind.fractionWidth :=
    Nat.mod_lt _ (Nat.two_pow_pos _)
  have stored : kind.exponentField bits.toNat < Nat.pow 2 kind.exponentWidth :=
    Nat.mod_lt _ (Nat.two_pow_pos _)
  rw [IsNaN, topMagnitude, magnitude_eq]
  unfold decode
  dsimp only
  split
  · next top =>
    rw [top]
    split
    · next none => simp [none]
    · next some => exact iff_of_true rfl (by omega)
  · next below =>
    -- The next exponent is still none of a NaN, so the fraction does not reach it.
    have room : Nat.pow 2 kind.fractionWidth * (kind.exponentField bits.toNat + 1) ≤
        Nat.pow 2 kind.fractionWidth * (Nat.pow 2 kind.exponentWidth - 1) :=
      Nat.mul_le_mul_left _ (by omega)
    rw [Nat.mul_succ] at room
    split
    · exact iff_of_false Binary.noConfusion (by omega)
    · exact iff_of_false Binary.noConfusion (by omega)

/-- What is denoted gives the pattern back, unless it is a NaN. -/
theorem encode_decode {bits : BitVec kind.width} (number : kind.decode bits ≠ .nan) :
    kind.encode (kind.decode bits) = bits.toNat := by
  rw [toNat_eq bits, magnitude_eq]
  unfold decode at number ⊢
  dsimp only at number ⊢
  split at number
  · next top =>
    rw [if_pos top]
    split at number
    · next none =>
      rw [if_pos none, encode, topMagnitude, top, none, Nat.zero_add]
    · exact absurd rfl number
  · next below =>
    rw [if_neg below]
    split
    · next subnormal =>
      rw [encode, subnormal, Int.sub_self]
      rfl
    · next normal =>
      have exponent : (kind.leastExponent + kind.exponentField bits.toNat - 1 -
          kind.leastExponent).toNat = kind.exponentField bits.toNat - 1 := by omega
      have hidden : Nat.pow 2 kind.fractionWidth * kind.exponentField bits.toNat =
          Nat.pow 2 kind.fractionWidth * (kind.exponentField bits.toNat - 1) +
            Nat.pow 2 kind.fractionWidth := by
        rw [← Nat.mul_succ]
        exact congrArg _ (by omega)
      rw [encode, exponent, hidden]
      omega

/-- Two patterns of one number are one pattern. -/
theorem decode_inj {first second : BitVec kind.width} (number : kind.decode first ≠ .nan) :
    kind.decode first = kind.decode second ↔ first = second := by
  constructor
  · intro same
    have patterns := congrArg kind.encode same
    rw [encode_decode number, encode_decode (same ▸ number)] at patterns
    exact BitVec.eq_of_toNat_eq patterns
  · exact congrArg kind.decode

end FloatKind

namespace Binary

def IsZero : Binary → Prop
  | finite _ significand _ => significand = 0
  | _ => False

theorem sameNumber_iff (first second : Binary) :
    first.sameNumber second = true ↔
      first ≠ .nan ∧ second ≠ .nan ∧ (first = second ∨ first.IsZero ∧ second.IsZero) := by
  cases first <;> cases second <;> simp [sameNumber, IsZero, or_comm, and_assoc]

end Binary

namespace FloatKind

variable {kind : FloatKind}

theorem isZero_decode_iff (bits : BitVec kind.width) :
    (kind.decode bits).IsZero ↔ kind.IsZero bits := by
  have hidden : 0 < Nat.pow 2 kind.fractionWidth := Nat.two_pow_pos _
  have exponents : 0 < Nat.pow 2 kind.exponentWidth - 1 := by cases kind <;> decide
  rw [IsZero, magnitude_eq, Nat.add_eq_zero_iff, Nat.mul_eq_zero]
  unfold decode
  dsimp only
  split
  · next top =>
    split
    · exact iff_of_false id (by omega)
    · exact iff_of_false id (by omega)
  · split
    · next subnormal => exact (and_iff_left (Or.inr subnormal)).symm
    · next normal =>
      have present : Nat.pow 2 kind.fractionWidth + kind.fractionField bits.toNat ≠ 0 := by omega
      exact iff_of_false present (by omega)

/-- Two patterns of one format are equal numbers if neither is a NaN and they have the same bits or
both are zeros. -/
theorem sameNumber_decode_iff_bits (first second : BitVec kind.width) :
    (kind.decode first).sameNumber (kind.decode second) = true ↔
      ¬kind.IsNaN first ∧ ¬kind.IsNaN second ∧
        (first = second ∨ kind.IsZero first ∧ kind.IsZero second) := by
  rw [Binary.sameNumber_iff, ← decode_eq_nan_iff, ← decode_eq_nan_iff, ← isZero_decode_iff,
    ← isZero_decode_iff]
  refine and_congr_right fun number => and_congr_right fun _ => ?_
  rw [decode_inj number]

end FloatKind

end EqualityTree
