import EqualityTree.Number.Decimal
import EqualityTree.Ty.Basic

/-!
# Runtime values

A value is plain data, an instance or null. Strings and objects are instances: each carries the
stamp of its making, so two strings of one text are two values. Every value but null has one most
specific type; null takes the root type, and inhabits every type that admits it.
-/

namespace EqualityTree

inductive Value
  | bool (b : Bool)
  | char (c : Char)
  | int (kind : IntKind) (n : Fixed kind)
  | float (kind : FloatKind) (bits : BitVec kind.width)
  | decimal (x : Decimal)
  | enum (ty : EnumTy) (ordinal : Fixed .i64)
  | str (stamp : Stamp) (text : String)
  | object (stamp : Stamp) (cls : ClassTy)
  | null
deriving DecidableEq

namespace Value

def isNull : Value → Bool
  | null => true
  | _ => false

def asBool? : Value → Option Bool
  | bool b => some b
  | _ => none

/-- The most specific type of the value. Null has none of its own and takes the root type. -/
def naturalTy : Value → Ty
  | bool _ => .value .bool
  | char _ => .value .char
  | int kind _ => .value (.int kind)
  | float kind _ => .value (.float kind)
  | decimal _ => .value .decimal
  | enum ty _ => .value (.enum ty)
  | str _ _ => .ref .str
  | object _ cls => .ref (.cls cls)
  | null => .object

def inhabits (value : Value) (ty : Ty) : Bool :=
  match value with
  | null => ty.admitsNull
  | value => ty.nonNullable.accepts value.naturalTy

end Value

/-- Zero of the value type: false, the character zero, the number zero or the ordinal zero. -/
def ValueTy.zero : ValueTy → Value
  | bool => .bool false
  | char => .char '\x00'
  | int kind => .int kind (.zero kind)
  | float kind => .float kind 0
  | decimal => .decimal .zero
  | enum ty => .enum ty (.zero .i64)

/-- The default value of the type: null where the type admits it, zero otherwise. -/
def Ty.default : Ty → Value
  | value ty => ty.zero
  | nullable _ => .null
  | ref _ => .null

namespace Value

/-- Only null inhabits types by another rule than that of its most specific type. -/
theorem inhabits_of_ne_null {value : Value} (ty : Ty) (present : value ≠ null) :
    value.inhabits ty = ty.nonNullable.accepts value.naturalTy := by
  cases value with
  | null => exact absurd rfl present
  | _ => rfl

/-- Every value but null inhabits its own type, and null the root type. -/
@[simp] theorem inhabits_naturalTy (value : Value) : value.inhabits value.naturalTy = true := by
  cases value <;> simp [inhabits, naturalTy, Ty.admitsNull, Ty.nonNullable]

@[simp] theorem default_inhabits (ty : Ty) : ty.default.inhabits ty = true := by
  cases ty with
  | value ty =>
      cases ty <;> simp [Ty.default, ValueTy.zero, inhabits, naturalTy, Ty.nonNullable]
  | nullable ty => rfl
  | ref ty => rfl

/-- A value of a type is a value of every type that accepts it. -/
theorem inhabits_of_accepts {value : Value} {narrow wide : Ty}
    (holds : value.inhabits narrow = true) (accepted : wide.accepts narrow = true) :
    value.inhabits wide = true := by
  by_cases null : value = .null
  · subst null
    cases narrow <;> cases wide <;> simp_all [inhabits, Ty.admitsNull, Ty.accepts]
  · rw [inhabits_of_ne_null _ null] at holds ⊢
    refine Ty.accepts_trans ?_ holds
    cases narrow <;> cases wide <;> simp_all [Ty.accepts, Ty.nonNullable]

end Value

end EqualityTree
