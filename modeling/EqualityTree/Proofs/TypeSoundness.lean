import EqualityTree.Proofs.Meetings
import EqualityTree.Proofs.RuleTables

/-!
# Type soundness

The value of a well-formed expression is of its static type. So the values that meet at a node are
of the types that the equality of the node covers, and a built-in rule is only ever applied to two
values that it has an arm for. Where null decides no rule is applied, and the answers that the rules
give outside of their arms could be any others: no evaluation would be another.
-/

namespace EqualityTree

variable {σ : Type}

/-! ## Values of a type -/

namespace Value

theorem naturalTy_of_inhabits_value {value : Value} {ty : ValueTy}
    (holds : value.inhabits (.value ty) = true) :
    value ≠ .null ∧ value.naturalTy = .value ty := by
  have present : value ≠ .null := by
    rintro rfl
    cases holds
  rw [inhabits_of_ne_null _ present] at holds
  exact ⟨present, (Ty.accepts_value_iff ty _).mp holds⟩

theorem inhabits_value_of_nullable {value : Value} {ty : ValueTy} (present : value ≠ .null)
    (holds : value.inhabits (.nullable ty) = true) : value.inhabits (.value ty) = true := by
  rw [inhabits_of_ne_null _ present] at holds ⊢
  exact holds

theorem isNull_iff {value : Value} : value.isNull = true ↔ value = .null := by
  cases value <;> simp [isNull]

/-- What is kept from null comes about where neither value is null. -/
theorem unlessNull_eq_some_iff {γ : Type} {left right : Value} {item found : γ} :
    (if (left.isNull || right.isNull) = true then none else some item) = some found ↔
      left ≠ .null ∧ right ≠ .null ∧ item = found := by
  rw [Option.ite_none_left_eq_some, Bool.or_eq_true, isNull_iff, isNull_iff, not_or,
    Option.some.injEq, and_assoc]

def isReference : Value → Bool
  | str _ _ => true
  | object _ _ => true
  | null => true
  | _ => false

theorem isReference_of_inhabits_ref {value : Value} {ty : RefTy}
    (holds : value.inhabits (.ref ty) = true) : value.isReference = true := by
  cases value <;> first | rfl | cases holds

end Value

/-! ## Evaluation -/

theorem Environment.inhabits_of_argument {env : Environment} {name : String} {ty : Ty}
    {value : Value} (found : env.argument name ty = .ok value) : value.inhabits ty = true := by
  unfold argument at found
  split at found
  · cases found
  · split at found
    · next holds =>
      cases found
      exact holds
    · cases found

theorem Expr.WellFormed.inhabits_of_eval {expr : Expr} {host : Host σ} {env : Environment}
    {before after : World σ} {value : Value} (formed : expr.WellFormed)
    (evaluates : EvalM.exec (expr.eval host env) before = (.ok value, after)) :
    value.inhabits expr.ty = true := by
  cases formed with
  | constant holds =>
      cases evaluates
      exact holds
  | default stamp ty =>
      cases evaluates
      exact Value.default_inhabits ty
  | parameter stamp name ty =>
      rw [Expr.eval, EvalM.exec_ofExcept] at evaluates
      exact Environment.inhabits_of_argument (congrArg Prod.fst evaluates)
  | property stamp place =>
      rw [Expr.eval] at evaluates
      cases readable : place.isReadable with
      | false =>
          rw [EvalM.exec_value_of_unreadable readable] at evaluates
          cases evaluates
      | true =>
          rw [EvalM.exec_value readable] at evaluates
          split at evaluates
          · next holds =>
            cases evaluates
            exact holds
          · cases evaluates
  | @comparison stamp node terms left right resolution leftFormed rightFormed resolved =>
      rw [Expr.eval_comparison, EvalM.exec_bind_eq_ok_iff] at evaluates
      obtain ⟨answer, between, -, returned⟩ := evaluates
      cases returned
      rfl

/-- What holds of a meeting in a well-formed tree: the node is resolved, and the values are of the
types of the operands that they come from. -/
structure Meeting.Typed (meeting : Meeting) : Prop where
  resolved : meeting.node.ResolvedBy meeting.node.resolution
  left : meeting.left.inhabits meeting.node.left.ty = true
  right : meeting.right.inhabits meeting.node.right.ty = true

theorem Expr.WellFormed.meetings_typed {expr : Expr} {host : Host σ} {env : Environment}
    {before : World σ} {meeting : Meeting} (formed : expr.WellFormed)
    (met : meeting ∈ expr.meetings host env before) : meeting.Typed := by
  induction formed generalizing before with
  | constant holds => cases met
  | default stamp ty => cases met
  | parameter stamp name ty => cases met
  | property stamp place => cases met
  | @comparison stamp node terms left right resolution leftFormed rightFormed resolved
      fromLeft fromRight =>
      have inNode : meeting ∈ Comparison.meetings host env ⟨terms, node, left, right⟩ before := met
      rw [Comparison.mem_meetings_iff] at inNode
      rcases inNode with inLeft | ⟨leftValue, between, leftEnds, inRight | here⟩
      · exact fromLeft inLeft
      · exact fromRight inRight
      -- The values of the node's own meeting come from the walks of its operands.
      · obtain ⟨rightValue, after, rightEnds, rfl⟩ := here
        refine ⟨?_, leftFormed.inhabits_of_eval leftEnds, rightFormed.inhabits_of_eval rightEnds⟩
        rw [resolved.resolution_eq]
        exact resolved

/-! ## Built-in comparisons -/

/-- A built-in comparison of two values: by a rule, or by identity. -/
inductive Application
  | rule (rule : Rule) (left right : Value)
  | identity (left right : Value)
deriving DecidableEq

namespace Application

def answer : Application → Bool
  | rule chosen left right => chosen.equal left right
  | identity left right => left.sameInstance right

/-- What the comparison may rely on between operands of two types. A rule sees no null, both values
are of the type that the operands have in common, and the rule has an arm for them. Identity sees
instances and null. -/
def WellTyped (leftTy rightTy : Ty) : Application → Prop
  | rule chosen left right =>
      left ≠ .null ∧ right ≠ .null ∧ leftTy = rightTy ∧
        left.naturalTy = leftTy.nonNullable ∧ right.naturalTy = leftTy.nonNullable ∧
        chosen.Compares left right
  | identity left right => left.isReference = true ∧ right.isReference = true

end Application

/-- The built-in comparison that an equality makes of two values. A method makes none, and neither
does a lifted rule where null decides. -/
def Resolution.application? (resolution : Resolution) (left right : Value) :
    Option Application :=
  match resolution with
  | builtin chosen lifted =>
      if lifted && (left.isNull || right.isNull) then none else some (.rule chosen left right)
  | reference => some (.identity left right)
  | method _ _ => none

theorem Resolution.application?_builtin_eq_none_iff {chosen : Rule} {lifted : Bool}
    {left right : Value} :
    (builtin chosen lifted).application? left right = none ↔
      lifted = true ∧ (left.isNull || right.isNull) = true := by
  rw [← Bool.and_eq_true]
  cases null : lifted && (left.isNull || right.isNull) <;> simp [application?, null]

def Meeting.application? (meeting : Meeting) : Option Application :=
  meeting.node.resolution.application? meeting.left meeting.right

/-- Null decides the comparison: the values are equal exactly if both are null, whatever the rules
answer. -/
structure Meeting.DecidedByNull (meeting : Meeting) (host : Host σ) : Prop where
  null : meeting.left = .null ∨ meeting.right = .null
  compare : meeting.node.compare host meeting.left meeting.right meeting.node.resolution =
    pure (meeting.node.op.apply (meeting.left.isNull && meeting.right.isNull))
  unasked : ∀ rules : RuleTable,
    meeting.node.compareUnder rules host meeting.left meeting.right meeting.node.resolution =
      meeting.node.compare host meeting.left meeting.right meeting.node.resolution

/-- Where a built-in comparison is made, the operator turns its answer into that of the node. -/
theorem Terms.compare_of_application {terms : Terms} {host : Host σ} {left right : Value}
    {resolution : Resolution} {application : Application}
    (applied : resolution.application? left right = some application) :
    terms.compare host left right resolution = pure (terms.op.apply application.answer) := by
  cases resolution with
  | builtin chosen lifted =>
      cases lifted with
      | false =>
          cases applied
          rfl
      | true =>
          rw [Resolution.application?, Option.ite_none_left_eq_some, Bool.true_and] at applied
          obtain ⟨present, same⟩ := applied
          cases same
          rw [Terms.compare, Rule.liftedEqual, Value.liftedEqual_of_present present,
            Application.answer]
  | reference =>
      cases applied
      rfl
  | method chosen lifted => cases applied

/-- Where none is made, a method is called for or null decides. -/
theorem Meeting.method_or_decidedByNull {meeting : Meeting} (host : Host σ)
    (unapplied : meeting.application? = none) :
    meeting.node.resolution.chosenMethod.isSome = true ∨ meeting.DecidedByNull host := by
  unfold Meeting.application? at unapplied
  cases resolved : meeting.node.resolution with
  | builtin chosen lifted =>
      rw [resolved, Resolution.application?_builtin_eq_none_iff] at unapplied
      obtain ⟨rfl, null⟩ := unapplied
      have decides := fun rules => meeting.node.compareUnder_of_null null rules host chosen
      have compares := decides Rule.equal
      rw [Terms.compareUnder_equal] at compares
      rw [Bool.or_eq_true, Value.isNull_iff, Value.isNull_iff] at null
      rw [← resolved] at decides compares
      exact Or.inr ⟨null, compares, fun rules => (decides rules).trans compares.symm⟩
  | reference =>
      rw [resolved] at unapplied
      cases unapplied
  | method chosen lifted => exact Or.inl rfl

/-- An equality that covers the operand types makes only well-typed built-in comparisons. -/
theorem Resolution.Covers.application {resolution : Resolution} {leftTy rightTy : Ty}
    {left right : Value} {application : Application}
    (covers : resolution.Covers leftTy rightTy) (leftHolds : left.inhabits leftTy = true)
    (rightHolds : right.inhabits rightTy = true)
    (applied : resolution.application? left right = some application) :
    application.WellTyped leftTy rightTy := by
  cases covers with
  | value ty =>
      cases applied
      obtain ⟨leftPresent, leftNatural⟩ := Value.naturalTy_of_inhabits_value leftHolds
      obtain ⟨rightPresent, rightNatural⟩ := Value.naturalTy_of_inhabits_value rightHolds
      exact ⟨leftPresent, rightPresent, rfl, leftNatural, rightNatural,
        Rule.compares_of_naturalTy leftNatural rightNatural⟩
  | nullable ty =>
      simp only [application?, Bool.true_and, Value.unlessNull_eq_some_iff] at applied
      obtain ⟨leftPresent, rightPresent, rfl⟩ := applied
      obtain ⟨-, leftNatural⟩ := Value.naturalTy_of_inhabits_value
        (Value.inhabits_value_of_nullable leftPresent leftHolds)
      obtain ⟨-, rightNatural⟩ := Value.naturalTy_of_inhabits_value
        (Value.inhabits_value_of_nullable rightPresent rightHolds)
      exact ⟨leftPresent, rightPresent, rfl, leftNatural, rightNatural,
        Rule.compares_of_naturalTy leftNatural rightNatural⟩
  | reference leftRef rightRef =>
      cases applied
      exact ⟨Value.isReference_of_inhabits_ref leftHolds,
        Value.isReference_of_inhabits_ref rightHolds⟩
  | direct declared leftAccepted rightAccepted => cases applied
  | lifted declared => cases applied

/-! ## Answers outside of the arms -/

/-- An equality that covers the operand types asks a table only what the rules have arms for. -/
theorem Resolution.Covers.compareUnder_eq {rules : RuleTable} {resolution : Resolution}
    {leftTy rightTy : Ty} {left right : Value} (agrees : rules.AgreesOnArms)
    (covers : resolution.Covers leftTy rightTy) (leftHolds : left.inhabits leftTy = true)
    (rightHolds : right.inhabits rightTy = true) (terms : Terms) (host : Host σ) :
    terms.compareUnder rules host left right resolution =
      terms.compare host left right resolution := by
  cases resolution with
  | builtin rule lifted =>
      cases applied : (builtin rule lifted).application? left right with
      | none =>
          obtain ⟨rfl, null⟩ := application?_builtin_eq_none_iff.mp applied
          rw [← Terms.compareUnder_equal, Terms.compareUnder_of_null null,
            Terms.compareUnder_of_null null]
      | some application =>
          have typed := covers.application leftHolds rightHolds applied
          rw [application?, Option.ite_none_left_eq_some] at applied
          obtain ⟨present, same⟩ := applied
          cases same
          obtain ⟨-, -, -, -, -, compares⟩ := typed
          cases lifted with
          | false => rw [Terms.compareUnder, Terms.compare, agrees compares]
          | true =>
              rw [Terms.compareUnder, Terms.compare, Rule.liftedEqual,
                Value.liftedEqual_of_present present, Value.liftedEqual_of_present present,
                agrees compares]
  | reference => rfl
  | method chosen lifted => rfl

/-- Any table with the answers of the rules in their arms gives the evaluation of a well-formed
expression. -/
theorem Expr.WellFormed.exec_evalUnder {rules : RuleTable} {expr : Expr}
    (agrees : rules.AgreesOnArms) (formed : expr.WellFormed) (host : Host σ) (env : Environment)
    (before : World σ) :
    EvalM.exec (expr.evalUnder rules host env) before = EvalM.exec (expr.eval host env) before := by
  induction formed generalizing before with
  | constant holds => rfl
  | default stamp ty => rfl
  | parameter stamp name ty => rfl
  | property stamp place => rfl
  | @comparison stamp node terms left right resolution leftFormed rightFormed resolved
      fromLeft fromRight =>
      rw [Expr.evalUnder, Expr.eval, EvalM.exec_bind, EvalM.exec_bind, fromLeft]
      rcases leftEnds : EvalM.exec (left.eval host env) before with ⟨_ | leftValue, between⟩
      · rfl
      dsimp only
      rw [EvalM.exec_bind, EvalM.exec_bind, fromRight]
      rcases rightEnds : EvalM.exec (right.eval host env) between with ⟨_ | rightValue, after⟩
      · rfl
      dsimp only
      -- The operands have ended with values of their types, so the table is asked in an arm.
      rw [resolved.resolution_eq, resolved.covers.compareUnder_eq agrees
        (leftFormed.inhabits_of_eval leftEnds) (rightFormed.inhabits_of_eval rightEnds)]

/-! ## Built-in comparisons of compiled code -/

def Code.applications (host : Host σ) (env : Environment) : Code → World σ → List Application
  | compare left right test, before =>
      left.applications host env before ++
        (left.run host env).afterwards before fun leftValue between =>
          right.applications host env between ++
            (right.run host env).afterwards between fun rightValue _ =>
              (test.resolution.application? leftValue rightValue).toList
  | _, _ => []

theorem Expr.applications_compile (host : Host σ) (env : Environment) (expr : Expr)
    (before : World σ) :
    expr.compile.applications host env before =
      (expr.meetings host env before).filterMap Meeting.application? := by
  induction expr generalizing before with
  | constant stamp value ty => rfl
  | default stamp ty => rfl
  | parameter stamp name ty => rfl
  | property stamp place => rfl
  | comparison stamp node terms left right fromLeft fromRight =>
      simp only [Expr.compile, Code.applications, Expr.meetings, List.filterMap_append,
        EvalM.filterMap_afterwards, filterMap_singleton, fromLeft, fromRight, Expr.run_compile,
        Terms.resolution_test]
      rfl

def Mode.applications (mode : Mode) (host : Host σ) (env : Environment) (expr : Expr)
    (before : World σ) : List Application :=
  match mode with
  | compiled => expr.compile.applications host env before
  | interpreted => (expr.meetings host env before).filterMap Meeting.application?

theorem Mode.applications_eq (mode : Mode) (host : Host σ) (env : Environment) (expr : Expr)
    (before : World σ) :
    mode.applications host env expr before =
      (expr.meetings host env before).filterMap Meeting.application? := by
  cases mode with
  | compiled => exact expr.applications_compile host env before
  | interpreted => rfl

/-- In either mode a value that an expression evaluates to is of its static type. The built-in
comparisons made along the way are those of the meetings, each decides the answer of its node, and
each is well typed at its node. Where none is made, the node has a method or null decides whatever the
rules answer. So no rule ever falls through its arms: with any other answers there the evaluation would
be the same. -/
theorem evaluation_is_type_sound {expr : Expr} (built : expr.Constructible) (mode : Mode)
    (host : Host σ) (env : Environment) (before : World σ) :
    (∀ value after, EvalM.exec (mode.evalExpr host env expr) before = (.ok value, after) →
      value.inhabits expr.ty = true) ∧
    mode.applications host env expr before =
      (expr.meetings host env before).filterMap Meeting.application? ∧
    (∀ meeting ∈ expr.meetings host env before,
      (∀ application, meeting.application? = some application →
        meeting.node.compare host meeting.left meeting.right meeting.node.resolution =
            pure (meeting.node.op.apply application.answer) ∧
          application.WellTyped meeting.node.left.ty meeting.node.right.ty) ∧
      (meeting.application? = none →
        meeting.node.method.isSome = true ∨ meeting.DecidedByNull host)) ∧
    ∀ rules : RuleTable, rules.AgreesOnArms →
      EvalM.exec (mode.evalUnder rules host env expr) before =
        EvalM.exec (mode.evalExpr host env expr) before := by
  have formed := built.wellFormed
  refine ⟨?_, mode.applications_eq host env expr before, ?_, ?_⟩
  · intro value after evaluates
    rw [Mode.evalExpr_eq] at evaluates
    exact formed.inhabits_of_eval evaluates
  · intro meeting met
    have typed := formed.meetings_typed met
    constructor
    · intro application applied
      exact ⟨Terms.compare_of_application applied,
        typed.resolved.covers.application typed.left typed.right applied⟩
    · intro unapplied
      rw [← typed.resolved.method]
      exact meeting.method_or_decidedByNull host unapplied
  · intro rules agrees
    rw [Mode.evalUnder_eq, Mode.evalExpr_eq]
    exact formed.exec_evalUnder agrees host env before

/-- The value of a nullable property is compared with a constant by the integer rule, for neither is
null, and the answer with a flag by the rule of truth values. It would be so too if the rules took null
for equal to everything. -/
theorem nested_comparison_is_type_sound :
    let answer : Value := .int .i32 ⟨42, by decide, by decide⟩
    let limit : Property := ⟨"Config", "limit", .nullable (.int .i32), some ⟨0⟩⟩
    let inner : Comparison := ⟨⟨.equal, true, none, none⟩, ⟨3⟩, .property ⟨1⟩ limit,
      .constant ⟨2⟩ answer (.nullable (.int .i32))⟩
    let outer : Comparison := ⟨⟨.notEqual, true, none, none⟩, ⟨6⟩, inner.toExpr ⟨4⟩,
      .parameter ⟨5⟩ "flag" .bool⟩
    let host : Host Nat := ⟨fun _ reads => (answer, reads + 1),
      fun _ _ _ reads => (.bool true, reads), fun _ result reads => (result.getD false, reads)⟩
    let env := Environment.empty.bind "flag" (.bool true)
    let rules : RuleTable := fun rule left right =>
      left.isNull || right.isNull || rule.equal left right
    (outer.toExpr ⟨7⟩).Constructible ∧
      EvalM.exec (Mode.compiled.evalExpr host env (outer.toExpr ⟨7⟩)) ⟨0, #[]⟩ =
        (.ok (.bool false), ⟨1, #[.read limit]⟩) ∧
      (Value.bool false).inhabits (outer.toExpr ⟨7⟩).ty = true ∧
      Mode.compiled.applications host env (outer.toExpr ⟨7⟩) ⟨0, #[]⟩ =
        [.rule .integer answer answer, .rule .bool (.bool true) (.bool true)] ∧
      (Application.rule .integer answer answer).WellTyped (.nullable (.int .i32))
        (.nullable (.int .i32)) ∧
      rules.AgreesOnArms ∧
      EvalM.exec (Mode.compiled.evalUnder rules host env (outer.toExpr ⟨7⟩)) ⟨0, #[]⟩ =
        (.ok (.bool false), ⟨1, #[.read limit]⟩) := by
  intro answer limit inner outer host env rules
  have innerBuilt : (inner.toExpr ⟨4⟩).Constructible := by
    have made : Comparison.make ⟨3⟩ .equal (some (.property ⟨1⟩ limit))
        (some (.constant ⟨2⟩ answer (.nullable (.int .i32)))) .default = .ok inner := rfl
    have accepted : Expr.typedConstant ⟨2⟩ answer (.nullable (.int .i32)) =
        .ok (.constant ⟨2⟩ answer (.nullable (.int .i32))) := rfl
    exact .make (.property ⟨1⟩ limit) (.typedConstant accepted) made
  have outerMade : Comparison.make ⟨6⟩ .notEqual (some (inner.toExpr ⟨4⟩))
      (some (.parameter ⟨5⟩ "flag" .bool)) .default = .ok outer := rfl
  have built : (outer.toExpr ⟨7⟩).Constructible :=
    .make innerBuilt (.parameter ⟨5⟩ "flag" .bool) outerMade
  have evaluates : EvalM.exec (Mode.compiled.evalExpr host env (outer.toExpr ⟨7⟩)) ⟨0, #[]⟩ =
      (.ok (.bool false), ⟨1, #[.read limit]⟩) := rfl
  have agrees : rules.AgreesOnArms := by
    intro rule left right compares
    cases compares <;> rfl
  obtain ⟨inhabits, -, typed, unasked⟩ :=
    evaluation_is_type_sound built .compiled host env ⟨0, #[]⟩
  refine ⟨built, evaluates, inhabits _ _ evaluates, rfl, ?_, agrees,
    (unasked rules agrees).trans evaluates⟩
  exact ((typed ⟨inner, answer, answer⟩ List.mem_cons_self).1 _ rfl).2

end EqualityTree
