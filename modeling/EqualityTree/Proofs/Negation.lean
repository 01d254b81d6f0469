import EqualityTree.Proofs.Backends
import EqualityTree.Proofs.Meetings

/-!
# Equality and inequality

Two nodes that differ in the operator alone do the same until their operand values are compared, and
then one answers the negation of the other. There is one exception: where null makes a lifted call
answer nothing, no operator is applied, and both answer what the conversion makes of nothing.
-/

namespace EqualityTree

variable {σ : Type}

/-! ## Opposite nodes -/

/-- Conversions that answer alike: one and the same, or two that are both the default. -/
inductive ConversionsAlike : Option Conversion → Option Conversion → Prop
  | same (conversion : Option Conversion) : ConversionsAlike conversion conversion
  | default (stamp other : Stamp) :
      ConversionsAlike (some (.nullAsFalse stamp)) (some (.nullAsFalse other))

theorem ConversionsAlike.answerFor_eq {first second : Option Conversion}
    (alike : ConversionsAlike first second) (host : Host σ) (result : Option Bool) (state : σ) :
    host.answerFor second result state = host.answerFor first result state := by
  cases alike with
  | same conversion => rfl
  | default stamp other => rfl

/-- The conversion, if there is one, answers a truth value with that value. -/
def Host.PassesAnswers (host : Host σ) (conversion : Option Conversion) : Prop :=
  ∀ answer state, host.answerFor conversion (some answer) state = answer

/-- The terms tell equal from unequal values in opposite senses and otherwise agree. -/
structure Terms.Opposite (equal notEqual : Terms) : Prop where
  op : equal.op = .equal
  otherOp : notEqual.op = .notEqual
  liftToNull : notEqual.liftToNull = equal.liftToNull
  method : notEqual.method = equal.method
  conversion : ConversionsAlike equal.conversion notEqual.conversion

/-- The nodes compare the same operands on opposite terms. -/
structure Comparison.Opposite (equal notEqual : Comparison) : Prop where
  terms : equal.toTerms.Opposite notEqual.toTerms
  left : notEqual.left = equal.left
  right : notEqual.right = equal.right

/-! ## Making opposite nodes -/

theorem Resolution.resolve_ok_of_op {op : Operator} {left right : Ty} {given : Option Method}
    {resolution : Resolution} (resolved : resolve op left right given = .ok resolution)
    (other : Operator) : resolve other left right given = .ok resolution := by
  cases given with
  | some chosen => exact resolved
  | none =>
      unfold resolve builtin? at resolved ⊢
      dsimp only at resolved ⊢
      split
      · next same =>
        rw [if_pos same] at resolved
        exact resolved
      · next differ =>
        rw [if_neg differ] at resolved
        split
        · next related =>
          rw [if_pos related] at resolved
          exact resolved
        · next unrelated =>
          rw [if_neg unrelated] at resolved
          cases resolved

namespace Comparison

/-- Whether a node can be made does not depend on its operator. -/
theorem make_ok_of_op {stamp : Stamp} {op : Operator} {left right : Option Expr}
    {options : Options} {node : Comparison} (made : make stamp op left right options = .ok node)
    (newStamp : Stamp) (other : Operator) :
    ∃ twin, make newStamp other left right options = .ok twin := by
  obtain ⟨leftExpr, rightExpr, resolution, leftGiven, leftReadable, rightGiven, rightReadable,
    resolved, -⟩ := make_eq_ok_iff.mp made
  exact ⟨_, make_eq_ok_iff.mpr ⟨leftExpr, rightExpr, resolution, leftGiven, leftReadable,
    rightGiven, rightReadable, Resolution.resolve_ok_of_op resolved other, rfl⟩⟩

theorem Opposite.of_make {stamp other : Stamp} {left right : Option Expr} {options : Options}
    {equal notEqual : Comparison} (made : make stamp .equal left right options = .ok equal)
    (otherMade : make other .notEqual left right options = .ok notEqual) :
    equal.Opposite notEqual := by
  obtain ⟨leftExpr, rightExpr, resolution, rfl, -, rfl, -, resolved, rfl⟩ :=
    make_eq_ok_iff.mp made
  obtain ⟨_, _, otherResolution, leftSame, -, rightSame, -, otherResolved, rfl⟩ :=
    make_eq_ok_iff.mp otherMade
  cases leftSame
  cases rightSame
  cases (Resolution.resolve_ok_of_op resolved .notEqual).symm.trans otherResolved
  refine ⟨⟨rfl, rfl, rfl, rfl, ?_⟩, rfl, rfl⟩
  cases resolution with
  | builtin rule lifted => exact .same none
  | reference => exact .same none
  | method chosen lifted =>
      cases lifted with
      | false => exact .same none
      | true => exact .default stamp other

/-- The equality of a node depends on its method and its operands alone. -/
theorem resolution_congr {first second : Comparison} (method : second.method = first.method)
    (left : second.left = first.left) (right : second.right = first.right) :
    second.resolution = first.resolution := by
  simp only [Comparison.resolution, isLifted, method, left, right]

theorem Opposite.resolution_eq {equal notEqual : Comparison}
    (opposite : equal.Opposite notEqual) : notEqual.resolution = equal.resolution :=
  resolution_congr opposite.terms.method opposite.left opposite.right

/-- The node has no answer of its own about the two values: its method is not called because of a
null, and it lifts to null. -/
def isUndecided (node : Comparison) (left right : Value) : Bool :=
  node.isLifted && node.liftToNull && (left.isNull || right.isNull)

end Comparison

/-! ## Comparing on opposite terms -/

def Event.access? : Event → Option Event
  | convert _ _ => none
  | event => some event

/-- The properties read and the methods called, with their arguments, in order. -/
def World.accesses (world : World σ) : List Event :=
  world.trace.toList.filterMap Event.access?

/-- What is accessed to compare two values does not depend on the operator or the conversion. -/
theorem EvalM.accesses_compare (terms : Terms) (host : Host σ) (left right : Value)
    (resolution : Resolution) (before : World σ) :
    (exec (terms.compare host left right resolution) before).2.accesses =
      before.accesses ++ (resolution.call? left right).toList.map fun call =>
        .call call.method call.left call.right := by
  rw [World.accesses, trace_compare, List.filterMap_append, Terms.filterMap_events fun _ _ => rfl]
  exact congrArg _ (congrFun List.filterMap_eq_map _)

/-- How the outcomes of opposite comparisons relate: one failure of both, an answer and its negation
where there is something to decide, or one answer of both where there is not. -/
inductive Opposed (undecided missing : Bool) :
    Except EvalError Bool → Except EvalError Bool → Prop
  | failure (error : EvalError) : Opposed undecided missing (.error error) (.error error)
  | negation (decided : undecided = false) (answer : Bool) :
      Opposed undecided missing (.ok answer) (.ok (!answer))
  | agreement (nothing : undecided = true) : Opposed undecided missing (.ok missing) (.ok missing)

theorem Terms.Opposite.opposed_apply {equal notEqual : Terms}
    (opposite : equal.Opposite notEqual) {undecided : Bool} (decided : undecided = false)
    (missing same : Bool) :
    Opposed undecided missing (.ok (equal.op.apply same)) (.ok (notEqual.op.apply same)) := by
  rw [opposite.op, opposite.otherOp]
  exact .negation decided same

/-- Comparisons by a method on opposite terms. The operator comes before the conversion, so the
conversion has to pass answers on. -/
theorem Terms.Opposite.opposed_compareBy {equal notEqual : Terms} {host : Host σ}
    (opposite : equal.Opposite notEqual) (passes : host.PassesAnswers equal.conversion)
    (chosen : Method) (lifted : Bool) (left right : Value) (before : World σ) :
    Opposed (lifted && equal.liftToNull && (left.isNull || right.isNull))
      (host.answerFor equal.conversion none before.state)
      (EvalM.exec (equal.compareBy host chosen lifted left right) before).1
      (EvalM.exec (notEqual.compareBy host chosen lifted left right) before).1 := by
  have alike := opposite.conversion.answerFor_eq host
  cases absent : lifted && (left.isNull || right.isNull) with
  | true =>
      obtain ⟨rfl, null⟩ := (Bool.and_eq_true _ _).mp absent
      rw [EvalM.exec_compareBy_of_null null, EvalM.exec_compareBy_of_null null,
        opposite.liftToNull, null]
      cases equal.liftToNull with
      | true =>
          rw [if_pos rfl, if_pos rfl, EvalM.exec_applyConversion, EvalM.exec_applyConversion, alike]
          exact .agreement rfl
      | false => exact opposite.opposed_apply rfl _ _
  | false =>
      have decided : (lifted && equal.liftToNull && (left.isNull || right.isNull)) = false := by
        rw [Bool.and_right_comm, absent, Bool.false_and]
      rw [EvalM.exec_compareBy_of_call absent, EvalM.exec_compareBy_of_call absent]
      dsimp only
      cases (host.call chosen left right before.state).1.asBool? with
      | none => exact .failure _
      | some same =>
          cases lifted with
          | false => exact opposite.opposed_apply decided _ same
          | true =>
              simp only [if_true, EvalM.exec_applyConversion, alike, passes _ _]
              exact opposite.opposed_apply decided _ same

theorem Terms.Opposite.opposed_compare {equal notEqual : Terms} {host : Host σ}
    (opposite : equal.Opposite notEqual) (passes : host.PassesAnswers equal.conversion)
    (left right : Value) (resolution : Resolution) (before : World σ) :
    Opposed (resolution.isLiftedCall && equal.liftToNull && (left.isNull || right.isNull))
      (host.answerFor equal.conversion none before.state)
      (EvalM.exec (equal.compare host left right resolution) before).1
      (EvalM.exec (notEqual.compare host left right resolution) before).1 := by
  cases resolution with
  | builtin rule lifted => cases lifted <;> exact opposite.opposed_apply rfl _ _
  | reference => exact opposite.opposed_apply rfl _ _
  | method chosen lifted => exact opposite.opposed_compareBy passes chosen lifted left right before

/-! ## Evaluating opposite nodes -/

/-- Nodes of opposite operators can be made of the same parts and are then opposite nodes. In either
mode opposite nodes read and call the same, and both fail with one error or both succeed. Then their
answers are each other's negation, except where null leaves a lifted call undecided: there both
answer what the conversion makes of nothing, which is no if there is no conversion or the default
one. -/
theorem inequality_negates_equality_but_for_null :
    (∀ stamp other left right options,
      ((∃ node, Comparison.make stamp .equal left right options = .ok node) ↔
        ∃ twin, Comparison.make other .notEqual left right options = .ok twin) ∧
      ∀ node twin, Comparison.make stamp .equal left right options = .ok node →
        Comparison.make other .notEqual left right options = .ok twin → node.Opposite twin) ∧
    ∀ {equal notEqual : Comparison} {host : Host σ}, equal.Opposite notEqual →
      host.PassesAnswers equal.conversion →
      (∀ (mode : Mode) (env : Environment) (before : World σ),
        let ends := EvalM.exec (mode.evalComparison host env equal) before
        let others := EvalM.exec (mode.evalComparison host env notEqual) before
        ends.2.accesses = others.2.accesses ∧
        ((∃ error, ends.1 = .error error ∧ others.1 = .error error) ∨
          ∃ left between right after,
            EvalM.exec (mode.evalExpr host env equal.left) before = (.ok left, between) ∧
            EvalM.exec (mode.evalExpr host env equal.right) between = (.ok right, after) ∧
            Opposed (equal.isUndecided left right)
              (host.answerFor equal.conversion none after.state) ends.1 others.1)) ∧
      ((equal.conversion = none ∨ ∃ stamp, equal.conversion = some (.nullAsFalse stamp)) →
        ∀ state, host.answerFor equal.conversion none state = false) := by
  refine ⟨?_, fun {equal notEqual host} opposite passes => ⟨?_, ?_⟩⟩
  · intro stamp other left right options
    refine ⟨?_, fun node twin made otherMade => .of_make made otherMade⟩
    constructor
    · rintro ⟨node, made⟩
      exact Comparison.make_ok_of_op made other .notEqual
    · rintro ⟨twin, made⟩
      exact Comparison.make_ok_of_op made stamp .equal
  · intro mode env before
    simp only [Mode.evalComparison_eq, Mode.evalExpr_eq]
    unfold Comparison.eval
    rw [opposite.left, opposite.right, opposite.resolution_eq]
    rcases leftEnds : EvalM.exec (equal.left.eval host env) before with ⟨error | left, between⟩
    · rw [EvalM.exec_bind_of_error leftEnds, EvalM.exec_bind_of_error leftEnds]
      exact ⟨rfl, Or.inl ⟨error, rfl, rfl⟩⟩
    · rw [EvalM.exec_bind_of_ok leftEnds, EvalM.exec_bind_of_ok leftEnds]
      rcases rightEnds : EvalM.exec (equal.right.eval host env) between with ⟨error | right, after⟩
      · rw [EvalM.exec_bind_of_error rightEnds, EvalM.exec_bind_of_error rightEnds]
        exact ⟨rfl, Or.inl ⟨error, rfl, rfl⟩⟩
      · rw [EvalM.exec_bind_of_ok rightEnds, EvalM.exec_bind_of_ok rightEnds,
          EvalM.accesses_compare, EvalM.accesses_compare]
        refine ⟨rfl, Or.inr ⟨left, between, right, after, rfl, rightEnds, ?_⟩⟩
        rw [Comparison.isUndecided, ← equal.isLiftedCall_resolution]
        exact opposite.terms.opposed_compare passes left right equal.resolution after
  · rintro (absent | ⟨stamp, default⟩) state
    · rw [absent]
      rfl
    · rw [default]
      rfl

/-- Two nodes that share a conversion for which nothing counts as true. A null operand makes both
answer yes, and numbers that the method takes for equal make one answer yes and the other no. -/
theorem shared_conversion_answers_for_null :
    let number : Value := .int .i32 ⟨7, by decide, by decide⟩
    let same : Method := .predicate ⟨0⟩ "same" (.value (.int .i32))
    let x : Expr := .parameter ⟨1⟩ "x" (.nullable (.int .i32))
    let lenient : Conversion := .named ⟨2⟩ "lenient"
    let equal : Comparison := ⟨⟨.equal, true, some same, some lenient⟩, ⟨5⟩, x, x⟩
    let notEqual : Comparison := ⟨⟨.notEqual, true, some same, some lenient⟩, ⟨6⟩, x, x⟩
    let host : Host Nat := ⟨fun _ calls => (.null, calls), fun _ _ _ calls => (.bool true, calls),
      fun _ result calls => (result.getD true, calls + 1)⟩
    let answers := fun (node : Comparison) (value : Value) =>
      (EvalM.exec (Mode.interpreted.evalComparison host (Environment.empty.bind "x" value) node)
        ⟨0, #[]⟩).1
    (∃ node, Comparison.make ⟨3⟩ .equal (some x) (some x) ⟨true, some same⟩ = .ok node ∧
      node.update ⟨5⟩ x (some lenient) x = .ok equal) ∧
    (∃ node, Comparison.make ⟨4⟩ .notEqual (some x) (some x) ⟨true, some same⟩ = .ok node ∧
      node.update ⟨6⟩ x (some lenient) x = .ok notEqual) ∧
    equal.Opposite notEqual ∧ host.PassesAnswers equal.conversion ∧
    answers equal .null = .ok true ∧ answers notEqual .null = .ok true ∧
    Opposed (equal.isUndecided .null .null) true (answers equal .null) (answers notEqual .null) ∧
    answers equal number = .ok true ∧ answers notEqual number = .ok false ∧
    Opposed (equal.isUndecided number number) true (answers equal number)
      (answers notEqual number) := by
  intro number same x lenient equal notEqual host answers
  have opposite : equal.Opposite notEqual := ⟨⟨rfl, rfl, rfl, rfl, .same _⟩, rfl, rfl⟩
  have passes : host.PassesAnswers equal.conversion := fun answer state => rfl
  have ends := (inequality_negates_equality_but_for_null.2 opposite passes).1 .interpreted
  refine ⟨⟨_, rfl, rfl⟩, ⟨_, rfl, rfl⟩, opposite, passes, rfl, rfl, ?_, rfl, rfl, ?_⟩
  · rcases (ends (Environment.empty.bind "x" .null) ⟨0, #[]⟩).2 with
      ⟨error, failed, -⟩ | ⟨left, between, right, after, leftEnds, rightEnds, opposed⟩
    · cases failed
    · cases leftEnds
      cases rightEnds
      exact opposed
  · rcases (ends (Environment.empty.bind "x" number) ⟨0, #[]⟩).2 with
      ⟨error, failed, -⟩ | ⟨left, between, right, after, leftEnds, rightEnds, opposed⟩
    · cases failed
    · cases leftEnds
      cases rightEnds
      exact opposed

end EqualityTree
