import EqualityTree.Proofs.Acceptance

/-!
# Which operand is blamed

Where a method refuses its operands, one of them is blamed. If an operand fits its parameter neither
directly nor unwrapped, the first such operand is. Otherwise one parameter takes its operand directly
and the other takes its own only unwrapped, and an operand can be at fault exactly if its parameter is
of a value type: for such a parameter there is an operand to unwrap, and for no other. The operand
blamed is then the left one unless it is nullable, so the blame can fall on an operand that no other
could replace.
-/

namespace EqualityTree

namespace Side

def other : Side → Side
  | left => right
  | right => left

theorem eq_or_eq_other (side direct : Side) : side = direct ∨ side = direct.other := by
  cases side <;> cases direct <;> simp [other]

end Side

namespace Method

/-- With this operand on the side, and the other operand as it is, the method takes its operands. -/
def TakesInstead (method : Method) (left right : Ty) : Side → Ty → Prop
  | .left, operand => ∃ resolution, Resolution.method? method operand right = .ok resolution
  | .right, operand => ∃ resolution, Resolution.method? method left operand = .ok resolution

/-- Another operand on the side alone would be enough. -/
def CanBeAtFault (method : Method) (left right : Ty) (side : Side) : Prop :=
  ∃ operand, operand ≠ side.pick left right ∧ method.TakesInstead left right side operand

/-- The method takes the operand of this side directly, and the other one only unwrapped. -/
structure Mixes (leftParam rightParam left right : Ty) (direct : Side) : Prop where
  accepted : (direct.pick leftParam rightParam).accepts (direct.pick left right) = true
  lifted : (direct.other.pick left right).liftsInto (direct.other.pick leftParam rightParam) = true

variable {method : Method} {leftParam rightParam left right : Ty}

theorem Declares.exists_method?_iff (declared : method.Declares leftParam rightParam) :
    (∃ resolution, Resolution.method? method left right = .ok resolution) ↔
      leftParam.accepts left = true ∧ rightParam.accepts right = true ∨
        left.liftsInto leftParam = true ∧ right.liftsInto rightParam = true := by
  rw [Resolution.exists_method?_iff]
  refine or_congr ?_ ?_
  · constructor
    · rintro ⟨otherLeft, otherRight, alsoDeclared, leftAccepted, rightAccepted⟩
      obtain ⟨rfl, rfl⟩ := declared.unique alsoDeclared
      exact ⟨leftAccepted, rightAccepted⟩
    · rintro ⟨leftAccepted, rightAccepted⟩
      exact ⟨leftParam, rightParam, declared, leftAccepted, rightAccepted⟩
  · rw [Ty.liftsInto_iff, Ty.liftsInto_iff]
    constructor
    · rintro ⟨leftTy, rightTy, rfl, rfl, alsoDeclared⟩
      obtain ⟨rfl, rfl⟩ := declared.unique alsoDeclared
      exact ⟨⟨leftTy, rfl, rfl⟩, ⟨rightTy, rfl, rfl⟩⟩
    · rintro ⟨⟨leftTy, rfl, rfl⟩, ⟨rightTy, rfl, rfl⟩⟩
      exact ⟨leftTy, rightTy, rfl, rfl, declared⟩

theorem Declares.takesInstead_iff (declared : method.Declares leftParam rightParam) (side : Side)
    (operand : Ty) :
    method.TakesInstead left right side operand ↔
      (side.pick leftParam rightParam).accepts operand = true ∧
          (side.other.pick leftParam rightParam).accepts (side.other.pick left right) = true ∨
        operand.liftsInto (side.pick leftParam rightParam) = true ∧
          (side.other.pick left right).liftsInto (side.other.pick leftParam rightParam) = true := by
  cases side with
  | left => exact declared.exists_method?_iff
  | right =>
      rw [TakesInstead, declared.exists_method?_iff]
      exact or_congr and_comm and_comm

namespace Mixes

variable {direct : Side}

/-- The operand that is taken unwrapped can be at fault: the parameter takes the type under it. -/
theorem lifted_canBeAtFault (mixes : Mixes leftParam rightParam left right direct)
    (declared : method.Declares leftParam rightParam) :
    method.CanBeAtFault left right direct.other := by
  obtain ⟨ty, nullable, param⟩ := (Ty.liftsInto_iff _ _).mp mixes.lifted
  refine ⟨.value ty, ?_, (declared.takesInstead_iff direct.other (.value ty)).mpr (Or.inl ?_)⟩
  · rw [nullable]
    exact Ty.noConfusion
  · rw [param]
    cases direct with
    | left => exact ⟨Ty.accepts_self _, mixes.accepted⟩
    | right => exact ⟨Ty.accepts_self _, mixes.accepted⟩

/-- The other operand stays one that is only taken unwrapped, so the operand that is taken directly
can be at fault only if its parameter takes some operand unwrapped too. -/
theorem direct_canBeAtFault_iff (mixes : Mixes leftParam rightParam left right direct)
    (declared : method.Declares leftParam rightParam) :
    method.CanBeAtFault left right direct ↔
      (direct.pick leftParam rightParam).isValueType = true := by
  constructor
  · rintro ⟨operand, -, taken⟩
    rcases (declared.takesInstead_iff direct operand).mp taken with ⟨-, accepted⟩ | ⟨lifts, -⟩
    · have never := Ty.liftsInto_eq_false_of_accepts accepted
      cases mixes.lifted.symm.trans never
    · obtain ⟨ty, -, param⟩ := (Ty.liftsInto_iff _ _).mp lifts
      exact Ty.isValueType_iff.mpr ⟨ty, param⟩
  · intro isValue
    obtain ⟨ty, param⟩ := Ty.isValueType_iff.mp isValue
    have operand : direct.pick left right = .value ty :=
      (Ty.accepts_value_iff ty _).mp (param ▸ mixes.accepted)
    refine ⟨.nullable ty, ?_, (declared.takesInstead_iff direct _).mpr (Or.inr ⟨?_, mixes.lifted⟩)⟩
    · rw [operand]
      exact Ty.noConfusion
    · rw [param]
      exact (Ty.liftsInto_iff _ _).mpr ⟨ty, rfl, rfl⟩

/-- Whichever operand is taken directly, one can be at fault exactly if its parameter is of a value
type. -/
theorem canBeAtFault_iff (mixes : Mixes leftParam rightParam left right direct)
    (declared : method.Declares leftParam rightParam) (side : Side) :
    method.CanBeAtFault left right side ↔ (side.pick leftParam rightParam).isValueType = true := by
  rcases side.eq_or_eq_other direct with rfl | rfl
  · exact mixes.direct_canBeAtFault_iff declared
  · obtain ⟨ty, -, param⟩ := (Ty.liftsInto_iff _ _).mp mixes.lifted
    exact iff_of_true (mixes.lifted_canBeAtFault declared) (Ty.isValueType_iff.mpr ⟨ty, param⟩)

theorem exists_canBeAtFault (mixes : Mixes leftParam rightParam left right direct)
    (declared : method.Declares leftParam rightParam) (side : Side) :
    method.CanBeAtFault left right side ∨ method.CanBeAtFault left right side.other := by
  have lifted := mixes.lifted_canBeAtFault declared
  rcases side.eq_or_eq_other direct with rfl | rfl
  · exact Or.inr lifted
  · exact Or.inl lifted

end Mixes

/-- Where each operand fits its parameter and the method refuses them, one is taken directly and the
other only unwrapped. -/
theorem Declares.mixes (declared : method.Declares leftParam rightParam) {mismatch : Mismatch}
    (refused : Resolution.method? method left right = .error mismatch)
    (fits : ∀ side : Side,
      Resolution.fits (side.pick leftParam rightParam) (side.pick left right) = true) :
    ∃ direct, Mixes leftParam rightParam left right direct := by
  have notTaken : ¬∃ resolution, Resolution.method? method left right = .ok resolution := by
    rintro ⟨resolution, resolved⟩
    cases refused.symm.trans resolved
  rw [declared.exists_method?_iff] at notTaken
  have leftFits := fits .left
  have rightFits := fits .right
  rw [Resolution.fits, Bool.or_eq_true] at leftFits rightFits
  rcases leftFits with leftAccepted | leftLifts
  · rcases rightFits with rightAccepted | rightLifts
    · exact absurd (Or.inl ⟨leftAccepted, rightAccepted⟩) notTaken
    · exact ⟨.left, leftAccepted, rightLifts⟩
  · rcases rightFits with rightAccepted | rightLifts
    · exact ⟨.right, rightAccepted, leftLifts⟩
    · exact absurd (Or.inr ⟨leftLifts, rightLifts⟩) notTaken

end Method

namespace Resolution

variable {leftParam rightParam left right : Ty}

/-- An operand that does not fit is blamed, the left one first. -/
theorem blame_of_unfit {side : Side}
    (unfit : fits (side.pick leftParam rightParam) (side.pick left right) ≠ true) :
    let blamed := blame leftParam rightParam left right
    fits (blamed.pick leftParam rightParam) (blamed.pick left right) ≠ true ∧
      (blamed = .right → fits leftParam left = true) := by
  intro blamed
  cases leftFits : fits leftParam left with
  | false =>
      have isLeft : blamed = .left := by simp [blamed, blame, leftFits]
      rw [isLeft]
      exact ⟨by simp [Side.pick, leftFits], Side.noConfusion⟩
  | true =>
      cases side with
      | left => exact absurd leftFits unfit
      | right =>
          have isRight : blamed = .right := by
            have rightUnfit : fits rightParam right ≠ true := unfit
            simp [blamed, blame, leftFits, rightUnfit]
          rw [isRight]
          exact ⟨unfit, fun _ => rfl⟩

/-- Where both operands fit, nullability of the left one decides. -/
theorem blame_of_fits (fit : ∀ side : Side,
      fits (side.pick leftParam rightParam) (side.pick left right) = true) :
    blame leftParam rightParam left right = if left.isNullable then .right else .left := by
  have leftFits : fits leftParam left = true := fit .left
  have rightFits : fits rightParam right = true := fit .right
  cases nullable : left.isNullable <;> simp [blame, leftFits, rightFits, nullable]

end Resolution

/-- Where a method of two parameters that returns a truth value refuses operands for their types, the
error shows the parameter and the operand of the side that it names. If some operand fits its parameter
neither directly nor unwrapped, the first such operand is blamed. Otherwise the left one is blamed,
unless it is nullable. Then the blamed operand can be at fault, so that another in its place would be
taken, exactly if its parameter is of a value type, and if it cannot, the operand that is not blamed
can. -/
theorem blame_is_right_about_value_parameters {method : Method}
    {leftParam rightParam left right param operand : Ty} {name : String} {side : Side}
    (declared : method.Declares leftParam rightParam)
    (refused : Resolution.method? method left right =
      .error (.methodOperand name side param operand)) :
    let Fits : Side → Prop := fun each =>
      Resolution.fits (each.pick leftParam rightParam) (each.pick left right) = true
    (name = method.name ∧ param = side.pick leftParam rightParam ∧
        operand = side.pick left right) ∧
      ((∃ each, ¬Fits each) → ¬Fits side ∧ (side = .right → Fits .left)) ∧
      ((∀ each, Fits each) →
        side = (if left.isNullable then .right else .left) ∧
          (method.CanBeAtFault left right side ↔ param.isValueType = true) ∧
          (method.CanBeAtFault left right side ∨ method.CanBeAtFault left right side.other)) := by
  intro Fits
  obtain ⟨-, impossible⟩ | ⟨-, -, impossible⟩ | ⟨_, _, alsoDeclared, blamed⟩ :=
    Resolution.method?_eq_error refused
  · cases impossible
  · cases impossible
  obtain ⟨rfl, rfl⟩ := declared.unique alsoDeclared
  cases blamed
  refine ⟨⟨rfl, rfl, rfl⟩, ?_, ?_⟩
  · rintro ⟨each, unfit⟩
    exact Resolution.blame_of_unfit unfit
  · intro fits
    obtain ⟨direct, mixes⟩ := declared.mixes refused fits
    exact ⟨Resolution.blame_of_fits fits, mixes.canBeAtFault_iff declared _,
      mixes.exists_canBeAtFault declared _⟩

/-- Both operands are nullable, the right parameter is too and the left one is not: the right operand
is blamed and cannot be at fault, and the left one can. -/
theorem nullable_operand_of_nullable_parameter_is_blamed :
    let number : ValueTy := .int .i32
    let same : Method := ⟨⟨0⟩, "same", [.value number, .nullable number], .bool⟩
    same.Declares (.value number) (.nullable number) ∧
      Resolution.method? same (.nullable number) (.nullable number) =
        .error (.methodOperand "same" .right (.nullable number) (.nullable number)) ∧
      ¬same.CanBeAtFault (.nullable number) (.nullable number) .right ∧
      same.CanBeAtFault (.nullable number) (.nullable number) .left := by
  intro number same
  have declared : same.Declares (.value number) (.nullable number) := ⟨rfl, rfl⟩
  have refused : Resolution.method? same (.nullable number) (.nullable number) =
      .error (.methodOperand "same" .right (.nullable number) (.nullable number)) := rfl
  obtain ⟨-, -, mixed⟩ := blame_is_right_about_value_parameters declared refused
  obtain ⟨-, atFault, either⟩ := mixed (by intro side; cases side <;> rfl)
  have innocent : ¬same.CanBeAtFault (.nullable number) (.nullable number) .right :=
    fun guilty => Bool.noConfusion (atFault.mp guilty)
  exact ⟨declared, refused, innocent, either.resolve_left innocent⟩

/-- The left parameter is of a reference type and takes its operand as it is, the right one takes its
own only unwrapped: both operands fit, the left one is blamed, and no other could replace it. -/
theorem accepted_text_is_blamed :
    let same : Method := ⟨⟨0⟩, "same", [.ref .str, .value (.int .i32)], .bool⟩
    Resolution.method? same (.ref .str) (.nullable (.int .i32)) =
        .error (.methodOperand "same" .left (.ref .str) (.ref .str)) ∧
      Resolution.fits (.ref .str) (.ref .str) = true ∧
      Resolution.fits (.value (.int .i32)) (.nullable (.int .i32)) = true ∧
      ¬same.CanBeAtFault (.ref .str) (.nullable (.int .i32)) .left := by
  intro same
  have declared : same.Declares (.ref .str) (.value (.int .i32)) := ⟨rfl, rfl⟩
  have mixes : Method.Mixes (.ref .str) (.value (.int .i32)) (.ref .str) (.nullable (.int .i32))
      .left := ⟨rfl, rfl⟩
  refine ⟨rfl, rfl, rfl, fun guilty => ?_⟩
  exact Bool.noConfusion ((mixes.direct_canBeAtFault_iff declared).mp guilty)

end EqualityTree
