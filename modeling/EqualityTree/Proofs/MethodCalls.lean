import EqualityTree.Proofs.TypeSoundness

/-!
# Method calls

A method is checked once, against the operand types of the node that it is given to. Its arguments
come later, from operands that updates may have replaced by narrower ones. They are of its parameter
types all the same, for acceptance composes and a lifted call is only made where neither operand is
null.
-/

namespace EqualityTree

variable {σ : Type}

/-- The method takes two parameters and the arguments are of their types; so null is passed only
where the parameter admits it. -/
def Call.WellTyped (call : Call) : Prop :=
  ∃ leftParam rightParam, call.method.params = [leftParam, rightParam] ∧
    call.left.inhabits leftParam = true ∧ call.right.inhabits rightParam = true ∧
    (call.left = .null → leftParam.admitsNull = true) ∧
    (call.right = .null → rightParam.admitsNull = true)

theorem Call.wellTyped_of_inhabits {call : Call} {leftParam rightParam : Ty}
    (params : call.method.params = [leftParam, rightParam])
    (leftHolds : call.left.inhabits leftParam = true)
    (rightHolds : call.right.inhabits rightParam = true) : call.WellTyped := by
  refine ⟨leftParam, rightParam, params, leftHolds, rightHolds, ?_, ?_⟩
  · intro null
    rw [null] at leftHolds
    exact leftHolds
  · intro null
    rw [null] at rightHolds
    exact rightHolds

/-- An equality that covers the operand types makes only well-typed calls, and passes no null where
it calls its method lifted. -/
theorem Resolution.Covers.call {resolution : Resolution} {leftTy rightTy : Ty}
    {left right : Value} {call : Call} (covers : resolution.Covers leftTy rightTy)
    (leftHolds : left.inhabits leftTy = true) (rightHolds : right.inhabits rightTy = true)
    (called : resolution.call? left right = some call) :
    call.WellTyped ∧
      (resolution.isLiftedCall = true → call.left ≠ .null ∧ call.right ≠ .null) := by
  cases covers with
  | value ty => cases called
  | nullable ty => cases called
  | reference leftRef rightRef => cases called
  | direct declared leftAccepted rightAccepted =>
      cases called
      refine ⟨Call.wellTyped_of_inhabits declared.params ?_ ?_, fun lifted => ?_⟩
      · exact Value.inhabits_of_accepts leftHolds leftAccepted
      · exact Value.inhabits_of_accepts rightHolds rightAccepted
      · cases lifted
  | lifted declared =>
      simp only [call?, Bool.true_and, Value.unlessNull_eq_some_iff] at called
      obtain ⟨leftPresent, rightPresent, rfl⟩ := called
      refine ⟨Call.wellTyped_of_inhabits declared.params ?_ ?_, fun _ => ?_⟩
      · exact Value.inhabits_value_of_nullable leftPresent leftHolds
      · exact Value.inhabits_value_of_nullable rightPresent rightHolds
      · exact ⟨leftPresent, rightPresent⟩

/-- In either mode every method call that the evaluation of a node makes belongs to a meeting in its
tree, the method has two parameters, and the arguments are of their types. A lifted call passes no
null. -/
theorem method_calls_are_well_typed {node : Comparison} (built : node.Constructible) (mode : Mode)
    (host : Host σ) (env : Environment) (before : World σ) :
    (EvalM.exec (mode.evalComparison host env node) before).2.calls =
      before.calls ++ (node.meetings host env before).filterMap Meeting.call? ∧
    ∀ meeting ∈ node.meetings host env before, ∀ call, meeting.call? = some call →
      call.WellTyped ∧
        (meeting.node.isLifted = true → call.left ≠ .null ∧ call.right ≠ .null) := by
  constructor
  · rw [Mode.evalComparison_eq]
    exact EvalM.calls_evalNode (EvalM.calls_eval host env node.left)
      (EvalM.calls_eval host env node.right) before
  · intro meeting met call called
    rw [← Expr.meetings_toExpr host env node node.stamp] at met
    have typed := (built.wellFormed node.stamp).meetings_typed met
    rw [typed.resolved.isLifted_eq]
    exact typed.resolved.covers.call typed.left typed.right called

/-- A lifted call on two present numbers inside a direct call, whose right operand an update has
narrowed from the root type to a class and which is passed null there. -/
theorem nested_calls_are_well_typed :
    let one : Value := .int .i32 ⟨1, by decide, by decide⟩
    let same : Method := .predicate ⟨0⟩ "same" (.value (.int .i32))
    let mixed : Method := ⟨⟨1⟩, "mixed", [.bool, .object], .bool⟩
    let number : Expr := .constant ⟨2⟩ one (.nullable (.int .i32))
    let inner : Comparison :=
      ⟨⟨.equal, true, some same, some (.nullAsFalse ⟨3⟩)⟩, ⟨3⟩, number, number⟩
    let rest : Expr := .parameter ⟨5⟩ "rest" .object
    let circle : Expr := .default ⟨7⟩ (.ref (.cls (.root ⟨8⟩ "Circle")))
    let outer : Comparison := ⟨⟨.notEqual, true, some mixed, none⟩, ⟨6⟩, inner.toExpr ⟨4⟩, rest⟩
    let updated : Comparison :=
      ⟨⟨.notEqual, true, some mixed, none⟩, ⟨9⟩, inner.toExpr ⟨4⟩, circle⟩
    let host : Host Unit := ⟨fun _ state => (.null, state), fun _ _ _ state => (.bool true, state),
      fun _ result state => (result.getD false, state)⟩
    outer.update ⟨9⟩ (inner.toExpr ⟨4⟩) none circle = .ok updated ∧
      updated.Constructible ∧
      (EvalM.exec (Mode.compiled.evalComparison host .empty updated) ⟨(), #[]⟩).2.calls =
        [⟨same, one, one⟩, ⟨mixed, .bool true, .null⟩] ∧
      (Call.mk same one one).WellTyped ∧ one ≠ .null ∧
      (Call.mk mixed (.bool true) .null).WellTyped := by
  intro one same mixed number inner rest circle outer updated host
  have numberBuilt : number.Constructible := by
    have accepted : Expr.typedConstant ⟨2⟩ one (.nullable (.int .i32)) = .ok number := rfl
    exact .typedConstant accepted
  have innerMade : Comparison.make ⟨3⟩ .equal (some number) (some number) ⟨true, some same⟩ =
      .ok inner := rfl
  have outerMade : Comparison.make ⟨6⟩ .notEqual (some (inner.toExpr ⟨4⟩)) (some rest)
      ⟨true, some mixed⟩ = .ok outer := rfl
  have accepted : outer.update ⟨9⟩ (inner.toExpr ⟨4⟩) none circle = .ok updated := rfl
  have innerBuilt : (inner.toExpr ⟨4⟩).Constructible := .make numberBuilt numberBuilt innerMade
  have outerBuilt : (outer.toExpr ⟨9⟩).Constructible :=
    .make innerBuilt (.parameter ⟨5⟩ "rest" .object) outerMade
  have built : updated.Constructible :=
    ⟨⟨9⟩, .update outerBuilt innerBuilt (.default ⟨7⟩ _) accepted⟩
  obtain ⟨calls, typed⟩ := method_calls_are_well_typed built .compiled host .empty ⟨(), #[]⟩
  have lifted := typed ⟨inner, one, one⟩ List.mem_cons_self _ rfl
  have direct := typed ⟨updated, .bool true, .null⟩
    (List.mem_cons_of_mem _ List.mem_cons_self) _ rfl
  exact ⟨accepted, built, calls, lifted.1, (lifted.2 rfl).1, direct.1⟩

end EqualityTree
