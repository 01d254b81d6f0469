import EqualityTree.Proofs.NewNodes
import Mathlib.Data.List.Basic

/-!
# Which comparisons are made

Making a comparison goes through checks in a fixed order: that the left operand is present and can be
read, the same of the right one, and that their types can be compared, by the method if one is given.
A comparison is made exactly where all of them pass, and otherwise the first that does not pass is the
one reported. Which operand types pass can be said without the steps of resolution.
-/

namespace EqualityTree

/-! ## Types that can be compared -/

/-- Equality is built in for operands of these types: both are of one type, or both are references and
one type accepts the other. -/
def Ty.Comparable (left right : Ty) : Prop :=
  left = right ∨ left.isReference = true ∧ right.isReference = true ∧
    (left.accepts right = true ∨ right.accepts left = true)

namespace Method

def TakesDirectly (method : Method) (left right : Ty) : Prop :=
  ∃ leftParam rightParam, method.Declares leftParam rightParam ∧
    leftParam.accepts left = true ∧ rightParam.accepts right = true

/-- Both operands are nullable, and the parameters are of the value types under them. -/
def TakesUnwrapped (method : Method) (left right : Ty) : Prop :=
  ∃ leftTy rightTy : ValueTy, left = .nullable leftTy ∧ right = .nullable rightTy ∧
    method.Declares (.value leftTy) (.value rightTy)

theorem Declares.unique {method : Method} {leftParam rightParam otherLeft otherRight : Ty}
    (declared : method.Declares leftParam rightParam)
    (alsoDeclared : method.Declares otherLeft otherRight) :
    otherLeft = leftParam ∧ otherRight = rightParam := by
  have same := alsoDeclared.params.symm.trans declared.params
  simpa using same

/-- No parameter of a value type accepts a nullable operand, so a call is direct or lifted. -/
theorem TakesDirectly.not_unwrapped {method : Method} {left right : Ty}
    (direct : method.TakesDirectly left right) : ¬method.TakesUnwrapped left right := by
  rintro ⟨leftTy, rightTy, rfl, rfl, alsoDeclared⟩
  obtain ⟨leftParam, rightParam, declared, accepted, -⟩ := direct
  obtain ⟨rfl, -⟩ := declared.unique alsoDeclared
  cases accepted

end Method

/-- Operands of these types can be compared, by the method if one is given. -/
def Ty.ComparableBy (left right : Ty) : Option Method → Prop
  | none => left.Comparable right
  | some method => method.TakesDirectly left right ∨ method.TakesUnwrapped left right

theorem Ty.ComparableBy.declares {left right : Ty} {method : Method}
    (comparable : left.ComparableBy right (some method)) :
    ∃ leftParam rightParam, method.Declares leftParam rightParam := by
  rcases comparable with ⟨leftParam, rightParam, declared, -⟩ | ⟨leftTy, rightTy, -, -, declared⟩
  · exact ⟨leftParam, rightParam, declared⟩
  · exact ⟨.value leftTy, .value rightTy, declared⟩

/-- Of two things, one for each operand, the one for this side. -/
def Side.pick {α : Type} (left right : α) : Side → α
  | .left => left
  | .right => right

namespace Resolution

variable {left right : Ty}

theorem exists_builtin?_iff {op : Operator} :
    (∃ resolution, builtin? op left right = .ok resolution) ↔ left.Comparable right := by
  unfold builtin? Ty.Comparable
  constructor
  · rintro ⟨resolution, resolved⟩
    split at resolved
    · next same => exact Or.inl same
    · split at resolved
      · next related =>
        rw [Bool.and_eq_true, Bool.and_eq_true, Bool.or_eq_true, and_assoc] at related
        exact Or.inr related
      · cases resolved
  · intro comparable
    split
    · exact ⟨_, rfl⟩
    · next differ =>
      have related := comparable.resolve_left differ
      rw [← Bool.or_eq_true, ← and_assoc, ← Bool.and_eq_true, ← Bool.and_eq_true] at related
      rw [if_pos related]
      exact ⟨_, rfl⟩

theorem builtin?_eq_error {op : Operator} {mismatch : Mismatch}
    (refused : builtin? op left right = .error mismatch) :
    mismatch = .noBuiltinEquality op left right := by
  unfold builtin? at refused
  split at refused
  · cases refused
  · split at refused
    · cases refused
    · exact (Except.error.inj refused).symm

theorem Covers.takes {chosen : Method} {lifted : Bool}
    (covers : (method chosen lifted).Covers left right) :
    if lifted then chosen.TakesUnwrapped left right else chosen.TakesDirectly left right := by
  cases covers with
  | direct declared leftAccepted rightAccepted =>
      exact ⟨_, _, declared, leftAccepted, rightAccepted⟩
  | lifted declared => exact ⟨_, _, rfl, rfl, declared⟩

theorem exists_method?_iff {chosen : Method} :
    (∃ resolution, method? chosen left right = .ok resolution) ↔
      chosen.TakesDirectly left right ∨ chosen.TakesUnwrapped left right := by
  constructor
  · rintro ⟨resolution, resolved⟩
    obtain ⟨covers, byMethod⟩ := covers_of_method? resolved
    cases resolution with
    | builtin rule lifted => cases byMethod
    | reference => cases byMethod
    | method other lifted =>
        cases byMethod
        cases lifted with
        | false => exact Or.inl covers.takes
        | true => exact Or.inr covers.takes
  · have covered : ∀ lifted, (method chosen lifted).Covers left right →
        ∃ resolution, method? chosen left right = .ok resolution := by
      intro lifted covers
      rcases covers.resolve .equal with resolved | ⟨impossible, -⟩
      · exact ⟨_, resolved⟩
      · cases impossible
    rintro (⟨leftParam, rightParam, declared, leftAccepted, rightAccepted⟩ |
      ⟨leftTy, rightTy, rfl, rfl, declared⟩)
    · exact covered false (.direct declared leftAccepted rightAccepted)
    · exact covered true (.lifted declared)

/-- The method is refused for what it declares, or for the operand that is to blame. -/
theorem method?_eq_error {chosen : Method} {mismatch : Mismatch}
    (refused : method? chosen left right = .error mismatch) :
    (chosen.params.length ≠ 2 ∧
        mismatch = .methodArity chosen.name chosen.params.length) ∨
      (chosen.params.length = 2 ∧ chosen.returns ≠ .bool ∧
        mismatch = .methodReturn chosen.name chosen.returns) ∨
      ∃ leftParam rightParam, chosen.Declares leftParam rightParam ∧
        let side := blame leftParam rightParam left right
        mismatch = .methodOperand chosen.name side (side.pick leftParam rightParam)
          (side.pick left right) := by
  unfold method? at refused
  split at refused
  · next leftParam rightParam params =>
    right
    split at refused
    · next returns =>
      right
      refine ⟨leftParam, rightParam, ⟨params, returns⟩, ?_⟩
      split at refused
      · cases refused
      · split at refused
        · cases refused
        · cases blamed : blame leftParam rightParam left right with
          | left =>
              rw [blamed] at refused
              cases refused
              rfl
          | right =>
              rw [blamed] at refused
              cases refused
              rfl
    · next wrong =>
      left
      cases refused
      exact ⟨congrArg List.length params, wrong, rfl⟩
  · next other =>
    left
    cases refused
    refine ⟨fun two => ?_, rfl⟩
    obtain ⟨leftParam, rightParam, params⟩ := List.length_eq_two.mp two
    exact other leftParam rightParam params

theorem exists_resolve_iff {op : Operator} {given : Option Method} :
    (∃ resolution, resolve op left right given = .ok resolution) ↔
      left.ComparableBy right given := by
  cases given with
  | none => exact exists_builtin?_iff
  | some chosen => exact exists_method?_iff

end Resolution

/-! ## Checks -/

structure Draft where
  op : Operator
  left : Option Expr
  right : Option Expr
  options : Options

namespace Draft

def operand (draft : Draft) : Side → Option Expr
  | .left => draft.left
  | .right => draft.right

/-- Both operands are present and can be read, and their types can be compared. -/
def Valid (draft : Draft) : Prop :=
  ∃ left right, draft.left = some left ∧ left.isReadable = true ∧
    draft.right = some right ∧ right.isReadable = true ∧
      left.ty.ComparableBy right.ty draft.options.method

end Draft

inductive Check
  | present (side : Side)
  | readable (side : Side)
  | methodArity
  | methodReturn
  | operandTypes

namespace Check

def ofOperand (side : Side) : List Check := [present side, readable side]

/-- The checks of the operands, one after the other. -/
def ofOperands : List Check := ofOperand .left ++ ofOperand .right

def inOrder : List Check := ofOperands ++ [methodArity, methodReturn, operandTypes]

/-- The draft does not pass the check, whatever becomes of the other checks. -/
def Fails (draft : Draft) : Check → Prop
  | present side => draft.operand side = none
  | readable side => ∃ operand, draft.operand side = some operand ∧ operand.isReadable = false
  | methodArity => ∃ method, draft.options.method = some method ∧ method.params.length ≠ 2
  | methodReturn => ∃ method, draft.options.method = some method ∧ method.returns ≠ .bool
  | operandTypes => ∃ left right, draft.left = some left ∧ draft.right = some right ∧
      ¬left.ty.ComparableBy right.ty draft.options.method

inductive Reports (draft : Draft) : Check → ConstructionError → Prop
  | present (side : Side) : Reports draft (.present side) (.nullOperand side)
  | readable (side : Side) : Reports draft (.readable side) (.unreadableOperand side)
  | methodArity {method : Method} (given : draft.options.method = some method) :
      Reports draft .methodArity (.mismatch (.methodArity method.name method.params.length))
  | methodReturn {method : Method} (given : draft.options.method = some method) :
      Reports draft .methodReturn (.mismatch (.methodReturn method.name method.returns))
  | methodOperand {method : Method} {left right : Expr} {leftParam rightParam : Ty}
      (given : draft.options.method = some method)
      (declared : method.Declares leftParam rightParam) (leftGiven : draft.left = some left)
      (rightGiven : draft.right = some right) (side : Side) :
      Reports draft .operandTypes (.mismatch (.methodOperand method.name side
        (side.pick leftParam rightParam) (side.pick left.ty right.ty)))
  | noBuiltinEquality {left right : Expr} (notGiven : draft.options.method = none)
      (leftGiven : draft.left = some left) (rightGiven : draft.right = some right) :
      Reports draft .operandTypes (.mismatch (.noBuiltinEquality draft.op left.ty right.ty))

/-- The draft does not pass the check, and passes all checks before it. -/
def IsFirstFailed (draft : Draft) (check : Check) : Prop :=
  check.Fails draft ∧
    ∃ earlier later, inOrder = earlier ++ check :: later ∧ ∀ other ∈ earlier, ¬other.Fails draft

variable {draft : Draft}

theorem passed_of_readable (side : Side) {operand : Expr}
    (given : draft.operand side = some operand) (isReadable : operand.isReadable = true) :
    ∀ check ∈ ofOperand side, ¬check.Fails draft := by
  rw [ofOperand, List.forall_mem_cons, List.forall_mem_singleton]
  constructor
  · intro missing
    cases given.symm.trans missing
  · rintro ⟨other, alsoGiven, unreadable⟩
    cases given.symm.trans alsoGiven
    cases isReadable.symm.trans unreadable

theorem readable_of_passed {side : Side} (isPresent : ¬(present side).Fails draft)
    (isReadable : ¬(readable side).Fails draft) :
    ∃ operand, draft.operand side = some operand ∧ operand.isReadable = true := by
  cases given : draft.operand side with
  | none => exact absurd given isPresent
  | some operand =>
      refine ⟨operand, rfl, ?_⟩
      cases ends : operand.isReadable with
      | true => rfl
      | false => exact absurd ⟨operand, given, ends⟩ isReadable

/-- The error for an operand tells of the first of its two checks that fails, if all checks before
these have passed. -/
theorem firstFailed_of_readableOperand (side : Side) (earlier : List Check) {later : List Check}
    {error : ConstructionError} (order : inOrder = earlier ++ present side :: readable side :: later)
    (passed : ∀ check ∈ earlier, ¬check.Fails draft)
    (refused : Expr.readableOperand side (draft.operand side) = .error error) :
    ∃ check : Check, check.IsFirstFailed draft ∧ check.Reports draft error := by
  rcases Expr.readableOperand_eq_error refused with ⟨missing, rfl⟩ | ⟨expr, given, unreadable, rfl⟩
  · exact ⟨present side, ⟨missing, earlier, _, order, passed⟩, .present side⟩
  · have isPresent : ¬(present side).Fails draft := by
      intro missing
      cases given.symm.trans missing
    refine ⟨readable side, ⟨⟨expr, given, unreadable⟩, earlier ++ [present side], later, ?_, ?_⟩,
      .readable side⟩
    · rw [order, List.append_assoc, List.singleton_append]
    · rw [List.forall_mem_append, List.forall_mem_singleton]
      exact ⟨passed, isPresent⟩

/-- The error for operand types tells of the first check that fails of the method and the types, if
both operands have passed theirs. -/
theorem firstFailed_of_resolve {left right : Expr} {mismatch : Mismatch}
    (leftGiven : draft.left = some left) (rightGiven : draft.right = some right)
    (passed : ∀ check ∈ ofOperands, ¬check.Fails draft)
    (refused : Resolution.resolve draft.op left.ty right.ty draft.options.method =
      .error mismatch) :
    ∃ check : Check, check.IsFirstFailed draft ∧ check.Reports draft (.mismatch mismatch) := by
  have incomparable : operandTypes.Fails draft := by
    refine ⟨left, right, leftGiven, rightGiven, fun comparable => ?_⟩
    obtain ⟨resolution, resolved⟩ := Resolution.exists_resolve_iff.mpr comparable
    cases refused.symm.trans resolved
  have typesLast : ¬methodArity.Fails draft → ¬methodReturn.Fails draft →
      operandTypes.IsFirstFailed draft := by
    intro arity returns
    refine ⟨incomparable, ofOperands ++ [methodArity, methodReturn], [], rfl, ?_⟩
    rw [List.forall_mem_append, List.forall_mem_cons, List.forall_mem_singleton]
    exact ⟨passed, arity, returns⟩
  cases given : draft.options.method with
  | none =>
      rw [given] at refused
      rw [Resolution.builtin?_eq_error refused]
      refine ⟨operandTypes, typesLast ?_ ?_, .noBuiltinEquality given leftGiven rightGiven⟩
      · rintro ⟨method, alsoGiven, -⟩
        cases given.symm.trans alsoGiven
      · rintro ⟨method, alsoGiven, -⟩
        cases given.symm.trans alsoGiven
  | some chosen =>
      rw [given] at refused
      have arityPasses : chosen.params.length = 2 → ¬methodArity.Fails draft := by
        rintro two ⟨method, alsoGiven, other⟩
        cases given.symm.trans alsoGiven
        exact other two
      rcases Resolution.method?_eq_error refused with ⟨arity, rfl⟩ | ⟨two, returns, rfl⟩ |
        ⟨leftParam, rightParam, declared, rfl⟩
      · exact ⟨methodArity, ⟨⟨chosen, given, arity⟩, ofOperands, _, rfl, passed⟩,
          .methodArity given⟩
      · refine ⟨methodReturn, ⟨⟨chosen, given, returns⟩, ofOperands ++ [methodArity], _, rfl, ?_⟩,
          .methodReturn given⟩
        rw [List.forall_mem_append, List.forall_mem_singleton]
        exact ⟨passed, arityPasses two⟩
      · refine ⟨operandTypes, typesLast ?_ ?_,
          .methodOperand given declared leftGiven rightGiven _⟩
        · exact arityPasses (congrArg List.length declared.params)
        · rintro ⟨method, alsoGiven, other⟩
          cases given.symm.trans alsoGiven
          exact other declared.returns

end Check

/-! ## Making -/

namespace Draft

variable {draft : Draft} {stamp : Stamp}

theorem exists_make_iff :
    (∃ node, Comparison.make stamp draft.op draft.left draft.right draft.options = .ok node) ↔
      draft.Valid := by
  unfold Valid
  simp only [Comparison.make_eq_ok_iff]
  constructor
  · rintro ⟨node, left, right, resolution, leftGiven, leftReadable, rightGiven, rightReadable,
      resolved, -⟩
    exact ⟨left, right, leftGiven, leftReadable, rightGiven, rightReadable,
      Resolution.exists_resolve_iff.mp ⟨resolution, resolved⟩⟩
  · rintro ⟨left, right, leftGiven, leftReadable, rightGiven, rightReadable, comparable⟩
    obtain ⟨resolution, resolved⟩ := Resolution.exists_resolve_iff.mpr comparable
    exact ⟨_, left, right, resolution, leftGiven, leftReadable, rightGiven, rightReadable,
      resolved, rfl⟩

/-- The checks ask for what makes a draft valid, and for nothing else. -/
theorem valid_iff : draft.Valid ↔ ∀ check : Check, ¬check.Fails draft := by
  constructor
  · rintro ⟨left, right, leftGiven, leftReadable, rightGiven, rightReadable, comparable⟩
    have leftPassed := Check.passed_of_readable .left leftGiven leftReadable
    have rightPassed := Check.passed_of_readable .right rightGiven rightReadable
    intro check
    cases check with
    | present side =>
        cases side with
        | left => exact leftPassed _ List.mem_cons_self
        | right => exact rightPassed _ List.mem_cons_self
    | readable side =>
        cases side with
        | left => exact leftPassed _ (List.mem_cons_of_mem _ List.mem_cons_self)
        | right => exact rightPassed _ (List.mem_cons_of_mem _ List.mem_cons_self)
    | methodArity =>
        rintro ⟨method, given, other⟩
        rw [given] at comparable
        obtain ⟨leftParam, rightParam, declared⟩ := comparable.declares
        exact other (congrArg List.length declared.params)
    | methodReturn =>
        rintro ⟨method, given, other⟩
        rw [given] at comparable
        obtain ⟨leftParam, rightParam, declared⟩ := comparable.declares
        exact other declared.returns
    | operandTypes =>
        rintro ⟨leftOther, rightOther, leftAlso, rightAlso, incomparable⟩
        cases leftGiven.symm.trans leftAlso
        cases rightGiven.symm.trans rightAlso
        exact incomparable comparable
  · intro passed
    obtain ⟨left, leftGiven, leftReadable⟩ :=
      Check.readable_of_passed (passed (.present .left)) (passed (.readable .left))
    obtain ⟨right, rightGiven, rightReadable⟩ :=
      Check.readable_of_passed (passed (.present .right)) (passed (.readable .right))
    refine ⟨left, right, leftGiven, leftReadable, rightGiven, rightReadable, ?_⟩
    refine Classical.byContradiction fun incomparable => ?_
    exact passed .operandTypes ⟨left, right, leftGiven, rightGiven, incomparable⟩

/-- The error tells of the first check that fails. -/
theorem firstFailed_of_make {error : ConstructionError}
    (refused : Comparison.make stamp draft.op draft.left draft.right draft.options =
      .error error) :
    ∃ check : Check, check.IsFirstFailed draft ∧ check.Reports draft error := by
  unfold Comparison.make at refused
  rcases bind_eq_error_iff.mp refused with leftRefused | ⟨left, leftTaken, refused⟩
  · exact Check.firstFailed_of_readableOperand .left [] rfl
      (fun _ member => (List.not_mem_nil member).elim) leftRefused
  obtain ⟨leftGiven, leftReadable⟩ := Expr.readableOperand_eq_ok_iff.mp leftTaken
  have leftPassed := Check.passed_of_readable .left leftGiven leftReadable
  rcases bind_eq_error_iff.mp refused with rightRefused | ⟨right, rightTaken, refused⟩
  · exact Check.firstFailed_of_readableOperand .right (Check.ofOperand .left) rfl leftPassed
      rightRefused
  obtain ⟨rightGiven, rightReadable⟩ := Expr.readableOperand_eq_ok_iff.mp rightTaken
  have rightPassed := Check.passed_of_readable .right rightGiven rightReadable
  cases resolved : Resolution.resolve draft.op left.ty right.ty draft.options.method with
  | ok resolution =>
      rw [resolved] at refused
      cases refused
  | error mismatch =>
      rw [resolved] at refused
      cases refused
      refine Check.firstFailed_of_resolve leftGiven rightGiven ?_ resolved
      exact List.forall_mem_append.mpr ⟨leftPassed, rightPassed⟩

end Draft

/-- The call of a new node is lifted exactly where its method takes the operands unwrapped. -/
theorem Comparison.isLifted_iff_takesUnwrapped {stamp : Stamp} {op : Operator}
    {left right : Option Expr} {options : Options} {node : Comparison}
    (made : make stamp op left right options = .ok node) :
    node.isLifted = true ↔ ∃ method, options.method = some method ∧
      method.TakesUnwrapped node.left.ty node.right.ty := by
  obtain ⟨resolution, resolves, resolved⟩ := ResolvedBy.of_make made
  obtain ⟨covers, byMethod⟩ := Resolution.covers_of_resolve resolves
  rw [resolved.isLifted_eq, ← byMethod]
  constructor
  · intro lifted
    cases resolution with
    | builtin rule nullable => cases lifted
    | reference => cases lifted
    | method chosen call =>
        cases lifted
        exact ⟨chosen, rfl, covers.takes⟩
  · rintro ⟨method, given, unwrapped⟩
    cases resolution with
    | builtin rule nullable => cases given
    | reference => cases given
    | method chosen call =>
        cases given
        cases call with
        | false => exact absurd unwrapped (Method.TakesDirectly.not_unwrapped covers.takes)
        | true => rfl

/-- A comparison is made exactly of operands that are present and readable and of types that can be
compared. The node holds the operands, the operator and the options as they are given, and it has a
conversion, the default one, exactly if its method takes the operands unwrapped. No method takes the
same operands both directly and unwrapped. Where no comparison is made a check has failed, and the
error tells of the first one that has. -/
theorem comparisons_are_made_where_all_checks_pass (stamp : Stamp) (op : Operator)
    (left right : Option Expr) (options : Options) :
    let draft : Draft := ⟨op, left, right, options⟩
    let made := Comparison.make stamp op left right options
    ((∃ node, made = .ok node) ↔ draft.Valid) ∧
      (draft.Valid ↔ ∀ check : Check, ¬check.Fails draft) ∧
      (∀ node, made = .ok node →
        node.op = op ∧ left = some node.left ∧ right = some node.right ∧
          node.method = options.method ∧ node.liftToNull = options.liftToNull ∧
          node.conversion = (if node.isLifted then some (.nullAsFalse stamp) else none) ∧
          (node.isLifted = true ↔ ∃ method, options.method = some method ∧
            method.TakesUnwrapped node.left.ty node.right.ty)) ∧
      (∀ error, made = .error error →
        ∃ check : Check, check.IsFirstFailed draft ∧ check.Reports draft error) ∧
      ∀ (method : Method) (leftTy rightTy : Ty),
        ¬(method.TakesDirectly leftTy rightTy ∧ method.TakesUnwrapped leftTy rightTy) := by
  intro draft made
  refine ⟨draft.exists_make_iff, draft.valid_iff, ?_, fun error => draft.firstFailed_of_make, ?_⟩
  · intro node accepted
    have lifted := Comparison.isLifted_iff_takesUnwrapped accepted
    obtain ⟨resolution, resolves, resolved⟩ := Comparison.ResolvedBy.of_make accepted
    obtain ⟨leftExpr, rightExpr, other, leftGiven, -, rightGiven, -, alsoResolves, rfl⟩ :=
      Comparison.make_eq_ok_iff.mp accepted
    cases resolves.symm.trans alsoResolves
    refine ⟨rfl, leftGiven, rightGiven, rfl, rfl, ?_, lifted⟩
    rw [resolved.isLifted_eq]
    exact resolution.newConversion_eq stamp
  · rintro method leftTy rightTy ⟨direct, unwrapped⟩
    exact direct.not_unwrapped unwrapped

-- All that can be wrong is wrong: the left operand cannot be read, there is no right one, and the
-- method takes no operands at all.
example : Comparison.make ⟨0⟩ .equal
      (some (.property ⟨0⟩ ⟨"Shape", "outline", .ref .str, none⟩)) none
      ⟨true, some ⟨⟨0⟩, "same", [], .ref .str⟩⟩ =
    .error (.unreadableOperand .left) :=
  rfl

end EqualityTree
