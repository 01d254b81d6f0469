import EqualityTree.Proofs.Backends

/-!
# Tables of rules

Each rule has arms for the values that it is made for and answers no to any others. What an evaluation
asks of the rules is seen by giving it other answers: evaluation under a table asks the table where
evaluation asks the rules, and does everything else in the same way. If every table with the answers of
the rules in their arms gives the same evaluation, no rule is ever asked outside of its arms.
-/

namespace EqualityTree

variable {σ : Type}

/-! ## Arms -/

/-- The arms of the rules: the pairs of values that a rule is made for. -/
inductive Rule.Compares : Rule → Value → Value → Prop
  | bool (a b : Bool) : Compares .bool (.bool a) (.bool b)
  | char (a b : Char) : Compares .char (.char a) (.char b)
  | integer {kind : IntKind} (a b : Fixed kind) : Compares .integer (.int kind a) (.int kind b)
  | float {kind : FloatKind} (a b : BitVec kind.width) :
      Compares .float (.float kind a) (.float kind b)
  | decimal (a b : Decimal) : Compares .decimal (.decimal a) (.decimal b)
  | enum {ty : EnumTy} (a b : Fixed .i64) : Compares .enum (.enum ty a) (.enum ty b)

namespace Rule

/-- A rule answers yes only in one of its arms; any other pair falls through to no. -/
theorem compares_of_equal {rule : Rule} {left right : Value}
    (same : rule.equal left right = true) : rule.Compares left right := by
  unfold equal at same
  split at same
  · exact .bool _ _
  · exact .char _ _
  · simp only [Bool.and_eq_true, decide_eq_true_eq] at same
    obtain ⟨rfl, -⟩ := same
    exact .integer _ _
  · simp only [Bool.and_eq_true, decide_eq_true_eq] at same
    obtain ⟨rfl, -⟩ := same
    exact .float _ _
  · exact .decimal _ _
  · simp only [Bool.and_eq_true, decide_eq_true_eq] at same
    obtain ⟨rfl, -⟩ := same
    exact .enum _ _
  · cases same

/-- The rule of a value type has an arm for any two of its values. -/
theorem compares_of_naturalTy {ty : ValueTy} {left right : Value}
    (leftTy : left.naturalTy = .value ty) (rightTy : right.naturalTy = .value ty) :
    ty.rule.Compares left right := by
  cases left <;> cases leftTy <;> cases right <;> cases rightTy <;> constructor

end Rule

/-- What is answered in place of each rule. -/
abbrev RuleTable : Type := Rule → Value → Value → Bool

/-- In the arms of a rule the table has its answer. Elsewhere it may have any. -/
def RuleTable.AgreesOnArms (rules : RuleTable) : Prop :=
  ∀ {rule : Rule} {left right : Value}, rule.Compares left right →
    rules rule left right = rule.equal left right

/-! ## Evaluation under a table -/

def Terms.compareUnder (rules : RuleTable) (terms : Terms) (host : Host σ) (left right : Value) :
    Resolution → EvalM σ Bool
  | .builtin rule false => pure (terms.op.apply (rules rule left right))
  | .builtin rule true => pure (terms.op.apply (Value.liftedEqual (rules rule) left right))
  | .reference => pure (terms.op.apply (left.sameInstance right))
  | .method method lifted => terms.compareBy host method lifted left right

def Expr.evalUnder (rules : RuleTable) (host : Host σ) (env : Environment) : Expr → EvalM σ Value
  | constant _ value _ => pure value
  | default _ ty => pure ty.default
  | parameter _ name ty => MonadExcept.ofExcept (env.argument name ty)
  | property _ place => place.value host
  | comparison _ node terms left right => do
      let leftValue ← left.evalUnder rules host env
      let rightValue ← right.evalUnder rules host env
      let resolution := (Comparison.mk terms node left right).resolution
      return .bool (← terms.compareUnder rules host leftValue rightValue resolution)

def Test.resolution : Test → Resolution
  | rule _ chosen => .builtin chosen false
  | liftedRule _ chosen => .builtin chosen true
  | sameInstance _ => .reference
  | method _ chosen lifted => .method chosen lifted

theorem Terms.resolution_test (terms : Terms) (resolution : Resolution) :
    (terms.test resolution).resolution = resolution := by
  cases resolution with
  | builtin rule lifted => cases lifted <;> rfl
  | reference => rfl
  | method method lifted => rfl

def Test.runUnder (rules : RuleTable) (host : Host σ) (left right : Value) : Test → EvalM σ Bool
  | rule op chosen => pure (op.apply (rules chosen left right))
  | liftedRule op chosen => pure (op.apply (Value.liftedEqual (rules chosen) left right))
  | sameInstance op => pure (op.apply (left.sameInstance right))
  | method terms chosen lifted => terms.compareBy host chosen lifted left right

def Code.runUnder (rules : RuleTable) (host : Host σ) (env : Environment) : Code → EvalM σ Value
  | value known => pure known
  | argument name ty => MonadExcept.ofExcept (env.argument name ty)
  | read place => place.value host
  | compare left right test => do
      let leftValue ← left.runUnder rules host env
      let rightValue ← right.runUnder rules host env
      return .bool (← test.runUnder rules host leftValue rightValue)

def Mode.evalUnder (mode : Mode) (rules : RuleTable) (host : Host σ) (env : Environment)
    (expr : Expr) : EvalM σ Value :=
  match mode with
  | compiled => expr.compile.runUnder rules host env
  | interpreted => expr.evalUnder rules host env

theorem Terms.runUnder_test (rules : RuleTable) (terms : Terms) (host : Host σ)
    (left right : Value) (resolution : Resolution) :
    (terms.test resolution).runUnder rules host left right =
      terms.compareUnder rules host left right resolution := by
  cases resolution with
  | builtin rule lifted => cases lifted <;> rfl
  | reference => rfl
  | method method lifted => rfl

theorem Expr.runUnder_compile (rules : RuleTable) (expr : Expr) (host : Host σ)
    (env : Environment) : expr.compile.runUnder rules host env = expr.evalUnder rules host env := by
  induction expr with
  | constant stamp value ty => rfl
  | default stamp ty => rfl
  | parameter stamp name ty => rfl
  | property stamp place => rfl
  | comparison stamp node terms left right leftAgrees rightAgrees =>
      simp only [Expr.compile, Code.runUnder, Expr.evalUnder, leftAgrees, rightAgrees,
        Terms.runUnder_test]

theorem Mode.evalUnder_eq (mode : Mode) (rules : RuleTable) (host : Host σ) (env : Environment)
    (expr : Expr) : mode.evalUnder rules host env expr = expr.evalUnder rules host env := by
  cases mode with
  | compiled => exact expr.runUnder_compile rules host env
  | interpreted => rfl

/-- Comparing is comparing under the table of the rules themselves. -/
theorem Terms.compareUnder_equal (terms : Terms) (host : Host σ) (left right : Value)
    (resolution : Resolution) :
    terms.compareUnder Rule.equal host left right resolution =
      terms.compare host left right resolution := by
  cases resolution with
  | builtin rule lifted => cases lifted <;> rfl
  | reference => rfl
  | method method lifted => rfl

/-- Where null decides, no rule is asked: the answers of the table do not matter. -/
theorem Terms.compareUnder_of_null {left right : Value}
    (null : (left.isNull || right.isNull) = true) (rules : RuleTable) (terms : Terms)
    (host : Host σ) (rule : Rule) :
    terms.compareUnder rules host left right (.builtin rule true) =
      pure (terms.op.apply (left.isNull && right.isNull)) := by
  rw [compareUnder, Value.liftedEqual_of_null null]

end EqualityTree
