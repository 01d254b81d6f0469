import EqualityTree.Number.Binary
import EqualityTree.Number.Fixed
import EqualityTree.Ty.Nominal

/-!
# Static types

A type is a value type, the nullable form of a value type, or a reference type. Reference types
admit null as they are, so they have no nullable form of their own and no type is nullable twice.
A type accepts another where a value of the second can be used for the first without conversion;
only reference types accept a type other than themselves.
-/

namespace EqualityTree

/-- A type whose values are plain data. -/
inductive ValueTy
  | bool
  | char
  | int (kind : IntKind)
  | float (kind : FloatKind)
  | decimal
  | enum (ty : EnumTy)
deriving DecidableEq

/-- A type whose values are instances, or null. -/
inductive RefTy
  | str
  | cls (ty : ClassTy)
  /-- The root type: it accepts every reference type. -/
  | object
deriving DecidableEq

inductive Ty
  | value (ty : ValueTy)
  | nullable (ty : ValueTy)
  | ref (ty : RefTy)
deriving DecidableEq

namespace ValueTy

def name : ValueTy → String
  | bool => "bool"
  | char => "char"
  | int kind => kind.name
  | float kind => kind.name
  | decimal => "decimal"
  | enum ty => ty.name

end ValueTy

namespace RefTy

def name : RefTy → String
  | str => "str"
  | cls ty => ty.name
  | object => "object"

/-- The root type accepts every reference type, and a class its subclasses. -/
def accepts : RefTy → RefTy → Bool
  | object, _ => true
  | cls target, cls source => source.derivesFrom target
  | str, str => true
  | _, _ => false

@[simp] theorem accepts_self (ty : RefTy) : ty.accepts ty = true := by
  cases ty <;> simp [accepts]

theorem accepts_trans {wide middle narrow : RefTy}
    (first : wide.accepts middle = true) (second : middle.accepts narrow = true) :
    wide.accepts narrow = true := by
  cases wide <;> cases middle <;> cases narrow <;> simp_all [accepts]
  exact ClassTy.derivesFrom_trans second first

/-- Of two types that accept a third, one accepts the other. -/
theorem accepts_linear {first second narrow : RefTy}
    (accepted : first.accepts narrow = true) (alsoAccepted : second.accepts narrow = true) :
    first.accepts second = true ∨ second.accepts first = true := by
  cases first with
  | object => exact Or.inl rfl
  | str =>
      cases second with
      | object => exact Or.inr rfl
      | str => exact Or.inl rfl
      | cls ty => cases narrow <;> simp_all [accepts]
  | cls ty =>
      cases second with
      | object => exact Or.inr rfl
      | str => cases narrow <;> simp_all [accepts]
      | cls other =>
          cases narrow with
          | cls below => exact (ClassTy.derivesFrom_linear accepted alsoAccepted).symm
          | object => cases accepted
          | str => cases accepted

end RefTy

namespace Ty

abbrev bool : Ty := .value .bool

abbrev object : Ty := .ref .object

def isNullable : Ty → Bool
  | nullable _ => true
  | _ => false

def isValueType : Ty → Bool
  | value _ => true
  | _ => false

def isReference : Ty → Bool
  | ref _ => true
  | _ => false

/-- The nullable form. Types that admit null already stay as they are. -/
def asNullable : Ty → Ty
  | value ty => nullable ty
  | ty => ty

def nonNullable : Ty → Ty
  | nullable ty => value ty
  | ty => ty

def admitsNull : Ty → Bool
  | value _ => false
  | nullable _ => true
  | ref _ => true

/-- Whether a value of the source type can be used for the target type without conversion. Value
types never convert, not even into their nullable form. -/
def accepts : Ty → Ty → Bool
  | ref target, ref source => target.accepts source
  | value target, value source => target = source
  | nullable target, nullable source => target = source
  | _, _ => false

/-- Whether an operand of this nullable type reaches a parameter only after unwrapping. -/
def liftsInto (operand param : Ty) : Bool :=
  operand.isNullable && param.isValueType && !param.accepts operand &&
    param.accepts operand.nonNullable

/-- A value type is written by its name, the nullable form with a question mark after it. -/
def name : Ty → String
  | value ty => ty.name
  | nullable ty => ty.name ++ "?"
  | ref ty => ty.name

@[simp] theorem accepts_self (ty : Ty) : ty.accepts ty = true := by
  cases ty <;> simp [accepts]

theorem accepts_trans {wide middle narrow : Ty}
    (first : wide.accepts middle = true) (second : middle.accepts narrow = true) :
    wide.accepts narrow = true := by
  cases wide <;> cases middle <;> cases narrow <;> simp_all [accepts]
  exact RefTy.accepts_trans first second

/-- An operand that a parameter accepts directly is never unwrapped for it. -/
theorem liftsInto_eq_false_of_accepts {operand param : Ty} (direct : param.accepts operand = true) :
    operand.liftsInto param = false := by
  simp [liftsInto, direct]

end Ty

end EqualityTree
