import EqualityTree.Proofs.Numbers
import EqualityTree.Proofs.TypeSoundness

/-!
# What values stand for

A value stands for a truth value, a character, a number, an ordinal of an enum type, an instance or
nothing, and a NaN stands for nothing that is equal to anything. All equalities without a method
tell whether two values stand for the same: the rules, their lifted forms and identity are this one
comparison on the values that each is made for. So they share its laws, whatever the types of the
operands.
-/

namespace EqualityTree

variable {σ : Type}

/-- What a value stands for, so far as equality can tell. -/
inductive Meaning
  | truth (b : Bool)
  | character (c : Char)
  | integer (kind : IntKind) (n : Int)
  | float (kind : FloatKind) (x : Quantity)
  | decimal (x : Rat)
  | enum (ty : EnumTy) (ordinal : Int)
  | text (stamp : Stamp) (content : String)
  | object (stamp : Stamp) (cls : ClassTy)
  | nothing
deriving DecidableEq

namespace Value

/-- What the value stands for. Only a NaN stands for nothing that could be compared. -/
def meaning? : Value → Option Meaning
  | bool b => some (.truth b)
  | char c => some (.character c)
  | int kind n => some (.integer kind n.val)
  | float kind bits => (kind.decode bits).quantity?.map (.float kind)
  | decimal x => some (.decimal x.toRat)
  | enum ty ordinal => some (.enum ty ordinal.val)
  | str stamp text => some (.text stamp text)
  | object stamp cls => some (.object stamp cls)
  | null => some .nothing

def sameMeaning (left right : Value) : Bool :=
  left.meaning?.isSome && left.meaning? = right.meaning?

/-- Whether the value is a number that is none. -/
def isNaN : Value → Bool
  | float kind bits => kind.decode bits = .nan
  | _ => false

theorem sameMeaning_iff {left right : Value} :
    left.sameMeaning right = true ↔
      ∃ meaning, left.meaning? = some meaning ∧ right.meaning? = some meaning := by
  rw [sameMeaning, Bool.and_eq_true, decide_eq_true_eq, Option.isSome_iff_exists]
  constructor
  · rintro ⟨⟨meaning, found⟩, same⟩
    exact ⟨meaning, found, same ▸ found⟩
  · rintro ⟨meaning, found, otherFound⟩
    exact ⟨⟨meaning, found⟩, found.trans otherFound.symm⟩

theorem isSome_meaning? (value : Value) : value.meaning?.isSome = !value.isNaN := by
  cases value with
  | float kind bits =>
      simp only [meaning?, isNaN, Option.isSome_map]
      cases kind.decode bits <;> rfl
  | _ => rfl

/-! ## Laws -/

/-- A value stands for the same as itself, unless it is a NaN. -/
theorem sameMeaning_self (value : Value) : value.sameMeaning value = !value.isNaN := by
  rw [sameMeaning, decide_eq_true rfl, Bool.and_true, isSome_meaning?]

theorem sameMeaning_comm (left right : Value) :
    left.sameMeaning right = right.sameMeaning left := by
  rw [Bool.eq_iff_iff, sameMeaning_iff, sameMeaning_iff]
  exact exists_congr fun _ => and_comm

theorem sameMeaning_trans {first second third : Value}
    (same : first.sameMeaning second = true) (sameAgain : second.sameMeaning third = true) :
    first.sameMeaning third = true := by
  rw [sameMeaning_iff] at same sameAgain ⊢
  obtain ⟨meaning, firstMeans, secondMeans⟩ := same
  obtain ⟨other, secondMeansOther, thirdMeans⟩ := sameAgain
  have agree : other = meaning := Option.some.inj (secondMeansOther.symm.trans secondMeans)
  rw [agree] at thirdMeans
  exact ⟨meaning, firstMeans, thirdMeans⟩

end Value

/-! ## Equalities on the values they are made for -/

/-- A rule tells, in each of its arms, whether the values stand for the same. -/
theorem Rule.Compares.equal_eq {rule : Rule} {left right : Value}
    (compares : rule.Compares left right) : rule.equal left right = left.sameMeaning right := by
  rw [Bool.eq_iff_iff, Value.sameMeaning_iff]
  cases compares with
  | bool a b => simp [equal, Value.meaning?, eq_comm]
  | char a b => simp [equal, Value.meaning?, eq_comm]
  | integer a b => simp [equal, Value.meaning?, eq_comm]
  | float a b =>
      rw [equal, decide_eq_true rfl, Bool.true_and, FloatKind.sameNumber_decode_iff]
      simp only [Value.meaning?, Option.map_eq_some_iff]
      constructor
      · rintro ⟨quantity, found, otherFound⟩
        exact ⟨_, ⟨quantity, found, rfl⟩, ⟨quantity, otherFound, rfl⟩⟩
      · rintro ⟨_, ⟨quantity, found, rfl⟩, ⟨_, otherFound, same⟩⟩
        cases same
        exact ⟨quantity, found, otherFound⟩
  | decimal a b =>
      rw [equal, Decimal.sameNumber_iff]
      simp [Value.meaning?, eq_comm]
  | enum a b => simp [equal, Value.meaning?, eq_comm]

namespace Value

theorem null_sameMeaning (value : Value) : null.sameMeaning value = value.isNull := by
  cases value with
  | float kind bits =>
      rw [sameMeaning, meaning?, meaning?]
      cases (kind.decode bits).quantity? <;> rfl
  | _ => simp [sameMeaning, meaning?, isNull]

theorem sameMeaning_of_isNull {left right : Value}
    (missing : (left.isNull || right.isNull) = true) :
    left.sameMeaning right = (left.isNull && right.isNull) := by
  rw [Bool.or_eq_true, isNull_iff, isNull_iff] at missing
  rcases missing with rfl | rfl
  · exact null_sameMeaning right
  · rw [sameMeaning_comm, null_sameMeaning]
    exact (Bool.and_true _).symm

/-- Identity tells of instances and of null whether they stand for the same. -/
theorem sameInstance_eq {left right : Value} (leftReference : left.isReference = true)
    (rightReference : right.isReference = true) :
    left.sameInstance right = left.sameMeaning right := by
  cases left <;> cases leftReference <;> cases right <;> cases rightReference <;>
    simp [sameInstance, sameMeaning, meaning?]

end Value

theorem Rule.liftedEqual_eq {rule : Rule} {left right : Value}
    (compares : left ≠ .null → right ≠ .null → rule.Compares left right) :
    rule.liftedEqual left right = left.sameMeaning right := by
  unfold liftedEqual Value.liftedEqual
  split
  · next missing => exact (Value.sameMeaning_of_isNull missing).symm
  · next present =>
    rw [Bool.or_eq_true, Value.isNull_iff, Value.isNull_iff, not_or] at present
    exact (compares present.1 present.2).equal_eq

/-- Every equality without a method that covers the operand types tells whether the values stand for
the same. -/
theorem Resolution.Covers.compare_eq {resolution : Resolution} {leftTy rightTy : Ty}
    {left right : Value} (covers : resolution.Covers leftTy rightTy)
    (method : resolution.chosenMethod = none) (leftHolds : left.inhabits leftTy = true)
    (rightHolds : right.inhabits rightTy = true) (terms : Terms) (host : Host σ) :
    terms.compare host left right resolution =
      pure (terms.op.apply (left.sameMeaning right)) := by
  cases covers with
  | value ty =>
      obtain ⟨-, leftNatural⟩ := Value.naturalTy_of_inhabits_value leftHolds
      obtain ⟨-, rightNatural⟩ := Value.naturalTy_of_inhabits_value rightHolds
      have compares := Rule.compares_of_naturalTy leftNatural rightNatural
      rw [Terms.compare, compares.equal_eq]
  | nullable ty =>
      have compares : left ≠ .null → right ≠ .null → ty.rule.Compares left right := by
        intro leftPresent rightPresent
        obtain ⟨-, leftNatural⟩ := Value.naturalTy_of_inhabits_value
          (Value.inhabits_value_of_nullable leftPresent leftHolds)
        obtain ⟨-, rightNatural⟩ := Value.naturalTy_of_inhabits_value
          (Value.inhabits_value_of_nullable rightPresent rightHolds)
        exact Rule.compares_of_naturalTy leftNatural rightNatural
      rw [Terms.compare, Rule.liftedEqual_eq compares]
  | reference leftRef rightRef =>
      rw [Terms.compare, Value.sameInstance_eq (Value.isReference_of_inhabits_ref leftHolds)
        (Value.isReference_of_inhabits_ref rightHolds)]
  | direct declared leftAccepted rightAccepted => cases method
  | lifted declared => cases method

end EqualityTree
