import EqualityTree.Value.Basic

/-!
# Equality of values

Each value type has one of six rules of equality. A rule answers for two values of one type; for
any other two values it answers no. A lifted rule lets null equal null alone, and instances are
compared by identity, never by content.
-/

namespace EqualityTree

inductive Rule
  | bool
  | char
  /-- For all integer formats. -/
  | integer
  /-- No NaN equals anything, and the two zeros are equal. -/
  | float
  /-- Equality of numbers, whatever the scales. -/
  | decimal
  /-- Equality of ordinals within one enum type. -/
  | enum
deriving DecidableEq

namespace Rule

def name : Rule → String
  | bool => "bool"
  | char => "char"
  | integer => "integer"
  | float => "float"
  | decimal => "decimal"
  | enum => "enum"

def equal : Rule → Value → Value → Bool
  | bool, .bool a, .bool b => a = b
  | char, .char a, .char b => a = b
  | integer, .int kind a, .int kind' b => kind = kind' && a.val = b.val
  | float, .float kind a, .float kind' b =>
      kind = kind' && (kind.decode a).sameNumber (kind'.decode b)
  | decimal, .decimal a, .decimal b => a.sameNumber b
  | enum, .enum ty a, .enum ty' b => ty = ty' && a.val = b.val
  | _, _, _ => false

end Rule

/-- An equality on values that may be null: it sees no null, and null equals only null. -/
def Value.liftedEqual (equal : Value → Value → Bool) (left right : Value) : Bool :=
  if left.isNull || right.isNull then left.isNull && right.isNull else equal left right

theorem Value.liftedEqual_of_null {left right : Value}
    (null : (left.isNull || right.isNull) = true) (equal : Value → Value → Bool) :
    Value.liftedEqual equal left right = (left.isNull && right.isNull) :=
  if_pos null

theorem Value.liftedEqual_of_present {left right : Value}
    (present : ¬(left.isNull || right.isNull) = true) (equal : Value → Value → Bool) :
    Value.liftedEqual equal left right = equal left right :=
  if_neg present

def Rule.liftedEqual (rule : Rule) (left right : Value) : Bool :=
  Value.liftedEqual rule.equal left right

def ValueTy.rule : ValueTy → Rule
  | bool => .bool
  | char => .char
  | int _ => .integer
  | float _ => .float
  | decimal => .decimal
  | enum _ => .enum

def Ty.rule? : Ty → Option Rule
  | value ty => some ty.rule
  | _ => none

def Value.sameInstance : Value → Value → Bool
  | null, null => true
  | str stamp text, str stamp' text' => stamp = stamp' && text = text'
  | object stamp cls, object stamp' cls' => stamp = stamp' && cls = cls'
  | _, _ => false

theorem Value.eq_of_sameInstance {left right : Value} (same : left.sameInstance right = true) :
    left = right := by
  unfold Value.sameInstance at same
  split at same
  · rfl
  · rw [Bool.and_eq_true, decide_eq_true_eq, decide_eq_true_eq] at same
    obtain ⟨rfl, rfl⟩ := same
    rfl
  · rw [Bool.and_eq_true, decide_eq_true_eq, decide_eq_true_eq] at same
    obtain ⟨rfl, rfl⟩ := same
    rfl
  · cases same

end EqualityTree
