import EqualityTree.Proofs.Acceptance

/-!
# Values of two types

Built-in equality is refused for two types by what they look like. Among types that are nullable
alike, it is refused exactly where no value but null is of both, so no comparison is refused that two
equal values could meet at. A type and its nullable form share all values of the former and are
refused all the same; nothing else is.
-/

namespace EqualityTree

/-! ## Types of a value -/

namespace Ty

variable {left right : Ty}

theorem eq_of_nonNullable_eq (alike : left.isNullable = right.isNullable)
    (same : left.nonNullable = right.nonNullable) : left = right := by
  cases left <;> cases right <;> simp_all [isNullable, nonNullable]

/-- What accepts a value type, once stripped of its nullable form, is that value type. -/
theorem nonNullable_eq_value_of_accepts {ty : Ty} {natural : ValueTy}
    (accepted : ty.nonNullable.accepts (value natural) = true) :
    ty.nonNullable = value natural := by
  cases ty with
  | value own => exact ((accepts_value_iff own _).mp accepted).symm
  | nullable own => exact ((accepts_value_iff own _).mp accepted).symm
  | ref own => cases accepted

theorem eq_ref_of_accepts {ty : Ty} {natural : RefTy}
    (accepted : ty.nonNullable.accepts (ref natural) = true) :
    ∃ wide : RefTy, ty = ref wide ∧ wide.accepts natural = true := by
  cases ty with
  | value own => cases accepted
  | nullable own => cases accepted
  | ref own => exact ⟨own, rfl, accepted⟩

end Ty

/-- No value has a nullable type for its own. -/
theorem Value.naturalTy_eq (value : Value) :
    (∃ ty, value.naturalTy = .value ty) ∨ ∃ ty, value.naturalTy = .ref ty := by
  cases value with
  | str stamp text => exact Or.inr ⟨_, rfl⟩
  | object stamp cls => exact Or.inr ⟨_, rfl⟩
  | null => exact Or.inr ⟨_, rfl⟩
  | _ => exact Or.inl ⟨_, rfl⟩

/-! ## Values other than null -/

/-- A value of the type other than null. -/
def Ty.sample : Ty → Value
  | value ty => ty.zero
  | nullable ty => ty.zero
  | ref .str => .str ⟨0⟩ ""
  | ref (.cls ty) => .object ⟨0⟩ ty
  | ref .object => .str ⟨0⟩ ""

theorem ValueTy.zero_ne_null (ty : ValueTy) : ty.zero ≠ .null := by
  cases ty <;> exact Value.noConfusion

theorem Ty.sample_ne_null (ty : Ty) : ty.sample ≠ .null := by
  cases ty with
  | value ty => exact ty.zero_ne_null
  | nullable ty => exact ty.zero_ne_null
  | ref ty => cases ty <;> exact Value.noConfusion

theorem Ty.sample_inhabits (ty : Ty) : ty.sample.inhabits ty = true := by
  cases ty with
  | value ty => exact Value.default_inhabits (.value ty)
  | nullable ty =>
      have holds : ty.zero.inhabits (.value ty) = true := Value.default_inhabits (.value ty)
      rw [Value.inhabits_of_ne_null _ ty.zero_ne_null] at holds
      exact (Value.inhabits_of_ne_null (.nullable ty) ty.zero_ne_null).trans holds
  | ref ty =>
      cases ty with
      | str => rfl
      | cls ty => exact Value.inhabits_naturalTy (.object ⟨0⟩ ty)
      | object => rfl

/-! ## Common values -/

namespace Ty

variable {left right : Ty}

/-- The value is of both types and it is not null. -/
structure Common (left right : Ty) (value : Value) : Prop where
  present : value ≠ .null
  holds : value.inhabits left = true
  alsoHolds : value.inhabits right = true

theorem Common.symm {value : Value} (common : left.Common right value) :
    right.Common left value where
  present := common.present
  holds := common.alsoHolds
  alsoHolds := common.holds

theorem common_of_accepts (accepted : left.accepts right = true) :
    left.Common right right.sample where
  present := right.sample_ne_null
  holds := Value.inhabits_of_accepts right.sample_inhabits accepted
  alsoHolds := right.sample_inhabits

namespace Comparable

theorem isNullable_eq (comparable : left.Comparable right) :
    left.isNullable = right.isNullable := by
  rcases comparable with rfl | ⟨leftRef, rightRef, -⟩
  · rfl
  · obtain ⟨narrow, rfl⟩ := isReference_iff.mp leftRef
    obtain ⟨other, rfl⟩ := isReference_iff.mp rightRef
    rfl

theorem exists_common (comparable : left.Comparable right) :
    ∃ value, left.Common right value := by
  rcases comparable with rfl | ⟨-, -, accepted | accepted⟩
  · exact ⟨_, common_of_accepts left.accepts_self⟩
  · exact ⟨_, common_of_accepts accepted⟩
  · exact ⟨_, (common_of_accepts accepted).symm⟩

end Comparable

/-- The types of one value can be compared, unless only one of them is nullable: the own type of
plain data fixes them up to that, and those of an instance lie on one chain. -/
theorem Common.comparable {value : Value} (common : left.Common right value)
    (alike : left.isNullable = right.isNullable) : left.Comparable right := by
  obtain ⟨present, holds, alsoHolds⟩ := common
  rw [Value.inhabits_of_ne_null _ present] at holds alsoHolds
  rcases value.naturalTy_eq with ⟨natural, isPlain⟩ | ⟨natural, isInstance⟩
  · rw [isPlain] at holds alsoHolds
    have same : left.nonNullable = right.nonNullable :=
      (nonNullable_eq_value_of_accepts holds).trans (nonNullable_eq_value_of_accepts alsoHolds).symm
    exact Or.inl (eq_of_nonNullable_eq alike same)
  · rw [isInstance] at holds alsoHolds
    obtain ⟨wide, rfl, accepted⟩ := eq_ref_of_accepts holds
    obtain ⟨other, rfl, alsoAccepted⟩ := eq_ref_of_accepts alsoHolds
    exact Or.inr ⟨rfl, rfl, RefTy.accepts_linear accepted alsoAccepted⟩

end Ty

/-- Equality is built in for two types exactly where both are nullable or neither is, and some value
other than null is of both. -/
theorem equality_is_built_in_where_values_are_common (op : Operator) (left right : Ty) :
    (∃ resolution, Resolution.builtin? op left right = .ok resolution) ↔
      left.isNullable = right.isNullable ∧ ∃ value : Value, value ≠ .null ∧
        value.inhabits left = true ∧ value.inhabits right = true := by
  rw [Resolution.exists_builtin?_iff]
  constructor
  · intro comparable
    obtain ⟨value, common⟩ := comparable.exists_common
    exact ⟨comparable.isNullable_eq, value, common.present, common.holds, common.alsoHolds⟩
  · rintro ⟨alike, value, present, holds, alsoHolds⟩
    exact Ty.Common.comparable ⟨present, holds, alsoHolds⟩ alike

example : Resolution.builtin? .equal .bool (.nullable .bool) =
      .error (.noBuiltinEquality .equal .bool (.nullable .bool)) ∧
    (Value.bool true).inhabits .bool = true ∧
    (Value.bool true).inhabits (.nullable .bool) = true :=
  ⟨rfl, rfl, rfl⟩

end EqualityTree
