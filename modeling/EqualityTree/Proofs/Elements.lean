import EqualityTree.Proofs.Numbers
import EqualityTree.Proofs.Patterns
import EqualityTree.Proofs.TypeSoundness

/-!
# Elements that values denote

A value of plain data denotes an element of its type. The rules of equality are made for two values of
one type, and they compare the elements: a rule answers yes exactly if both values are of one type that
the rule is for and denote the same element. A lifted rule adds null, which is equal to null alone, and
instances are compared as they are, never by what they contain.
-/

namespace EqualityTree

namespace Value

/-- The values denote the same element. Scales and the signs of zeros do not count, and a NaN denotes
no element at all. -/
inductive SameElement : Value → Value → Prop
  | bool (b : Bool) : SameElement (.bool b) (.bool b)
  | char (c : Char) : SameElement (.char c) (.char c)
  | integer {kind other : IntKind} {a : Fixed kind} {b : Fixed other} (same : a.val = b.val) :
      SameElement (.int kind a) (.int other b)
  | float {kind : FloatKind} {a b : BitVec kind.width} (number : ¬kind.IsNaN a)
      (otherNumber : ¬kind.IsNaN b) (same : a = b ∨ kind.IsZero a ∧ kind.IsZero b) :
      SameElement (.float kind a) (.float kind b)
  | decimal {a b : Decimal} (same : a.toRat = b.toRat) : SameElement (.decimal a) (.decimal b)
  | enum (ty : EnumTy) {a b : Fixed .i64} (same : a.val = b.val) :
      SameElement (.enum ty a) (.enum ty b)

inductive SameInstance : Value → Value → Prop
  | str (stamp : Stamp) (text : String) : SameInstance (.str stamp text) (.str stamp text)
  | object (stamp : Stamp) (cls : ClassTy) : SameInstance (.object stamp cls) (.object stamp cls)

end Value

namespace Rule

variable {rule : Rule} {left right : Value}

/-- In each of its arms a rule compares elements. -/
theorem Compares.equal_iff (compares : rule.Compares left right) :
    rule.equal left right = true ↔ left.SameElement right := by
  constructor
  · intro same
    cases compares with
    | bool a b =>
        obtain rfl : a = b := of_decide_eq_true same
        exact .bool a
    | char a b =>
        obtain rfl : a = b := of_decide_eq_true same
        exact .char a
    | integer a b =>
        rw [equal, Bool.and_eq_true, decide_eq_true_eq, decide_eq_true_eq] at same
        exact .integer same.2
    | float a b =>
        rw [equal, Bool.and_eq_true, FloatKind.sameNumber_decode_iff_bits] at same
        obtain ⟨-, number, otherNumber, bits⟩ := same
        exact .float number otherNumber bits
    | decimal a b => exact .decimal ((a.sameNumber_iff b).mp same)
    | enum a b =>
        rw [equal, Bool.and_eq_true, decide_eq_true_eq, decide_eq_true_eq] at same
        exact .enum _ same.2
  · intro same
    cases compares with
    | bool a b =>
        cases same
        exact decide_eq_true rfl
    | char a b =>
        cases same
        exact decide_eq_true rfl
    | integer a b =>
        cases same with
        | integer values => simp only [equal, values, decide_true, Bool.and_true]
    | float a b =>
        cases same with
        | float number otherNumber bits =>
            rw [equal, decide_eq_true rfl, Bool.true_and, FloatKind.sameNumber_decode_iff_bits]
            exact ⟨number, otherNumber, bits⟩
    | decimal a b =>
        cases same with
        | decimal values => exact (a.sameNumber_iff b).mpr values
    | enum a b =>
        cases same with
        | enum _ ordinals => simp only [equal, ordinals, decide_true, Bool.and_true]

/-- The arms of a rule are the pairs of values of one type that has the rule. -/
theorem compares_iff :
    rule.Compares left right ↔
      ∃ ty : Ty, left.naturalTy = ty ∧ right.naturalTy = ty ∧ ty.rule? = some rule := by
  constructor
  · intro compares
    cases compares <;> exact ⟨_, rfl, rfl, rfl⟩
  · rintro ⟨ty, leftTy, rightTy, hasRule⟩
    cases ty with
    | value own =>
        cases hasRule
        exact compares_of_naturalTy leftTy rightTy
    | nullable own => cases hasRule
    | ref own => cases hasRule

theorem liftedEqual_iff :
    rule.liftedEqual left right = true ↔
      left = .null ∧ right = .null ∨ left ≠ .null ∧ right ≠ .null ∧ rule.equal left right = true := by
  unfold liftedEqual Value.liftedEqual
  split
  · next missing =>
    rw [Bool.or_eq_true, Value.isNull_iff, Value.isNull_iff] at missing
    rw [Bool.and_eq_true, Value.isNull_iff, Value.isNull_iff]
    refine (or_iff_left ?_).symm
    rintro ⟨leftPresent, rightPresent, -⟩
    exact missing.elim leftPresent rightPresent
  · next present =>
    rw [Bool.or_eq_true, Value.isNull_iff, Value.isNull_iff, not_or] at present
    rw [or_iff_right fun missing => present.1 missing.1, and_iff_right present.1,
      and_iff_right present.2]

end Rule

theorem Value.sameInstance_iff {left right : Value} :
    left.sameInstance right = true ↔
      left = .null ∧ right = .null ∨ left.SameInstance right := by
  constructor
  · intro same
    obtain rfl := eq_of_sameInstance same
    cases left with
    | str stamp text => exact Or.inr (.str stamp text)
    | object stamp cls => exact Or.inr (.object stamp cls)
    | null => exact Or.inl ⟨rfl, rfl⟩
    | _ => cases same
  · rintro (⟨rfl, rfl⟩ | same)
    · rfl
    · cases same <;> simp [sameInstance]

/-- A rule takes two values for equal exactly if they are of one type that has the rule and denote the
same element. A lifted rule takes null for equal to null alone, and values other than null as the rule
does. Identity takes null for equal to null, and an instance for equal to itself alone: another with
the same content is another. -/
theorem rules_compare_elements (rule : Rule) (left right : Value) :
    (rule.equal left right = true ↔
      (∃ ty : Ty, left.naturalTy = ty ∧ right.naturalTy = ty ∧ ty.rule? = some rule) ∧
        left.SameElement right) ∧
      (rule.liftedEqual left right = true ↔
        left = .null ∧ right = .null ∨
          left ≠ .null ∧ right ≠ .null ∧ rule.equal left right = true) ∧
      (left.sameInstance right = true ↔
        left = .null ∧ right = .null ∨ left.SameInstance right) ∧
      ∀ stamp other : Stamp, stamp ≠ other →
        (∀ text, (Value.str stamp text).sameInstance (.str other text) = false) ∧
          ∀ cls, (Value.object stamp cls).sameInstance (.object other cls) = false := by
  refine ⟨?_, Rule.liftedEqual_iff, Value.sameInstance_iff, ?_⟩
  · rw [← Rule.compares_iff]
    constructor
    · intro same
      have compares := Rule.compares_of_equal same
      exact ⟨compares, compares.equal_iff.mp same⟩
    · rintro ⟨compares, same⟩
      exact compares.equal_iff.mpr same
  · intro stamp other differ
    constructor
    · intro text
      simp [Value.sameInstance, differ]
    · intro cls
      simp [Value.sameInstance, differ]

/-- The zeros of both signs are equal, no NaN is equal to itself, and one is not equal to the one of
another format. -/
example :
    Rule.equal .float (.float .single 0x00000000#32) (.float .single 0x80000000#32) = true ∧
      Rule.equal .float (.float .single 0x7fc00000#32) (.float .single 0x7fc00000#32) = false ∧
      Rule.equal .float (.float .single 0x3f800000#32)
        (.float .double 0x3ff0000000000000#64) = false :=
  ⟨rfl, rfl, rfl⟩

end EqualityTree
