import EqualityTree.Proofs.CommonValues

/-!
# Types as sets of values

Acceptance is decided by what two types look like. Seen from the values, it is inclusion: a type
accepts exactly those whose values it has all, but for the nullable form of a value type, which has
the values of that type and does not accept it. So acceptance orders the types. The order has no
cycle, because the chain of a base class is shorter than the chains above which it stands.
-/

namespace EqualityTree

/-! ## Acceptance as an order -/

namespace ClassTy

/-- The chain of an ancestor ends the chain of every class that derives from it. -/
theorem chain_suffix_of_derivesFrom {cls ancestor : ClassTy}
    (below : cls.derivesFrom ancestor = true) : ancestor.chain <:+ cls.chain := by
  induction cls with
  | root stamp name =>
      have here : root stamp name = ancestor := by simpa [derivesFrom] using below
      exact here ▸ List.suffix_refl _
  | derived stamp name base ih =>
      have hereOrAbove : derived stamp name base = ancestor ∨ base.derivesFrom ancestor = true := by
        simpa [derivesFrom] using below
      rcases hereOrAbove with here | above
      · exact here ▸ List.suffix_refl _
      · exact (ih above).trans (List.suffix_cons _ _)

theorem head?_chain (cls : ClassTy) : cls.chain.head? = some cls := by
  cases cls <;> rfl

theorem derivesFrom_antisymm {first second : ClassTy} (below : first.derivesFrom second = true)
    (above : second.derivesFrom first = true) : first = second := by
  have ends := chain_suffix_of_derivesFrom above
  have endsToo := chain_suffix_of_derivesFrom below
  have chains : first.chain = second.chain := ends.eq_of_length_le endsToo.length_le
  have heads := congrArg List.head? chains
  rw [head?_chain, head?_chain] at heads
  exact Option.some.inj heads

end ClassTy

theorem RefTy.accepts_antisymm {first second : RefTy} (accepted : first.accepts second = true)
    (accepts : second.accepts first = true) : first = second := by
  cases first with
  | str => cases second <;> first | rfl | cases accepted
  | object => cases second <;> first | rfl | cases accepts
  | cls ty =>
      cases second with
      | str => cases accepted
      | object => cases accepted
      | cls other => exact congrArg cls (ClassTy.derivesFrom_antisymm accepts accepted)

namespace Ty

theorem accepts_antisymm {first second : Ty} (accepted : first.accepts second = true)
    (accepts : second.accepts first = true) : first = second := by
  cases first with
  | value ty => exact ((accepts_value_iff ty second).mp accepted).symm
  | nullable ty => exact ((accepts_nullable_iff ty second).mp accepted).symm
  | ref ty =>
      obtain ⟨narrow, rfl, narrowAccepted⟩ := (accepts_ref_iff ty second).mp accepted
      exact congrArg ref (RefTy.accepts_antisymm narrowAccepted accepts)

/-! ## Inclusion -/

def Includes (wide narrow : Ty) : Prop :=
  ∀ value : Value, value.inhabits narrow = true → value.inhabits wide = true

theorem includes_of_accepts {wide narrow : Ty} (accepted : wide.accepts narrow = true) :
    wide.Includes narrow :=
  fun _ holds => Value.inhabits_of_accepts holds accepted

/-- The nullable form has one value more, and what has a nullable form already has it too. -/
theorem asNullable_includes (ty : Ty) : ty.asNullable.Includes ty := by
  intro value holds
  cases ty with
  | value own =>
      obtain ⟨present, natural⟩ := Value.naturalTy_of_inhabits_value holds
      rw [Value.inhabits_of_ne_null _ present, natural]
      exact accepts_self (.value own)
  | nullable own => exact holds
  | ref own => exact holds

namespace Includes

variable {wide : Ty}

/-- Zero tells plain data from all that is not of its type, up to null. -/
theorem nonNullable_eq {narrow : Ty} {ty : ValueTy} (includes : wide.Includes narrow)
    (plain : ty.zero.inhabits narrow = true) : wide.nonNullable = value ty := by
  have holds := includes ty.zero plain
  have natural : ty.zero.naturalTy = value ty :=
    (Value.naturalTy_of_inhabits_value (Value.default_inhabits (.value ty))).2
  rw [Value.inhabits_of_ne_null _ ty.zero_ne_null, natural] at holds
  exact nonNullable_eq_value_of_accepts holds

/-- Null tells a nullable type from its value type. -/
theorem eq_nullable {ty : ValueTy} (includes : wide.Includes (nullable ty)) :
    wide = nullable ty := by
  have stripped : wide.nonNullable = value ty :=
    includes.nonNullable_eq (sample_inhabits (nullable ty))
  have admits : wide.admitsNull = true := includes .null rfl
  cases wide with
  | value own => cases admits
  | nullable own => exact congrArg nullable (Ty.value.inj stripped)
  | ref own => cases stripped

theorem eq_or_eq_nullable {ty : ValueTy} (includes : wide.Includes (value ty)) :
    wide = value ty ∨ wide = nullable ty := by
  have stripped : wide.nonNullable = value ty :=
    includes.nonNullable_eq (Value.default_inhabits (.value ty))
  cases wide with
  | value own => exact Or.inl stripped
  | nullable own => exact Or.inr (congrArg nullable (Ty.value.inj stripped))
  | ref own => cases stripped

/-- The own type of an instance of the narrow type is accepted by the wide one. -/
theorem accepts_instance {narrow : RefTy} (includes : wide.Includes (ref narrow)) (value : Value)
    (present : value ≠ .null) {own : RefTy} (natural : value.naturalTy = ref own)
    (below : narrow.accepts own = true) :
    ∃ target, wide = ref target ∧ target.accepts own = true := by
  have holds : value.inhabits (ref narrow) = true := by
    rw [Value.inhabits_of_ne_null _ present, natural]
    exact below
  have alsoHolds := includes value holds
  rw [Value.inhabits_of_ne_null _ present, natural] at alsoHolds
  exact eq_ref_of_accepts alsoHolds

/-- Strings and objects tell a reference type from all that do not accept it. The root type has
both, and no type below it accepts both. -/
theorem accepts_ref {narrow : RefTy} (includes : wide.Includes (ref narrow)) :
    wide.accepts (ref narrow) = true := by
  cases narrow with
  | str =>
      obtain ⟨target, rfl, accepted⟩ :=
        includes.accepts_instance (.str ⟨0⟩ "") Value.noConfusion rfl rfl
      exact accepted
  | cls ty =>
      obtain ⟨target, rfl, accepted⟩ :=
        includes.accepts_instance (.object ⟨0⟩ ty) Value.noConfusion rfl (RefTy.accepts_self _)
      exact accepted
  | object =>
      obtain ⟨target, rfl, acceptsText⟩ :=
        includes.accepts_instance (.str ⟨0⟩ "") Value.noConfusion rfl rfl
      obtain ⟨other, same, acceptsObject⟩ :=
        includes.accepts_instance (.object ⟨0⟩ (.root ⟨0⟩ "")) Value.noConfusion rfl rfl
      cases Ty.ref.inj same
      cases target with
      | str => cases acceptsObject
      | cls ty => cases acceptsText
      | object => rfl

end Includes

/-- A type has all values of another exactly if it accepts that type or is its nullable form. -/
theorem includes_iff (wide narrow : Ty) :
    wide.Includes narrow ↔ wide.accepts narrow = true ∨ wide = narrow.asNullable := by
  constructor
  · intro includes
    cases narrow with
    | value ty =>
        rcases includes.eq_or_eq_nullable with rfl | rfl
        · exact Or.inl (accepts_self _)
        · exact Or.inr rfl
    | nullable ty => exact Or.inr includes.eq_nullable
    | ref ty => exact Or.inl includes.accepts_ref
  · rintro (accepted | rfl)
    · exact includes_of_accepts accepted
    · exact narrow.asNullable_includes

end Ty

/-- A type has all values of another exactly if it accepts that type or is its nullable form. And
acceptance orders the types: each accepts itself, acceptance composes, no two types accept each other,
and of two classes that one class derives from, one derives from the other. -/
theorem acceptance_is_inclusion_up_to_nullability :
    (∀ wide narrow : Ty,
      (∀ value : Value, value.inhabits narrow = true → value.inhabits wide = true) ↔
        wide.accepts narrow = true ∨ wide = narrow.asNullable) ∧
      (∀ ty : Ty, ty.accepts ty = true) ∧
      (∀ wide middle narrow : Ty, wide.accepts middle = true → middle.accepts narrow = true →
        wide.accepts narrow = true) ∧
      (∀ first second : Ty, first.accepts second = true → second.accepts first = true →
        first = second) ∧
      ∀ cls first second : ClassTy, cls.derivesFrom first = true → cls.derivesFrom second = true →
        first.derivesFrom second = true ∨ second.derivesFrom first = true := by
  refine ⟨Ty.includes_iff, Ty.accepts_self, ?_, ?_, ?_⟩
  · intro wide middle narrow first second
    exact Ty.accepts_trans first second
  · intro first second accepted accepts
    exact Ty.accepts_antisymm accepted accepts
  · intro cls first second above alsoAbove
    exact ClassTy.derivesFrom_linear above alsoAbove

end EqualityTree
