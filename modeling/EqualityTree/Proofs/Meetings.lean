import EqualityTree.Proofs.Execution

/-!
# Where operand values meet

An evaluation compares values at some nodes of its tree: those whose operands both have a value
before an error ends it. The meetings of an evaluation are these nodes with the two values, in the
order in which they are compared. Every method call of an evaluation belongs to one of its
meetings, so what holds of all meetings holds of all calls.
-/

namespace EqualityTree

variable {σ α γ : Type}

structure Meeting where
  node : Comparison
  left : Value
  right : Value

structure Call where
  method : Method
  left : Value
  right : Value
deriving DecidableEq

theorem filterMap_singleton {δ : Type} (choose : γ → Option δ) (item : γ) :
    [item].filterMap choose = (choose item).toList := by
  rw [List.filterMap_cons, List.filterMap_nil]
  cases choose item <;> rfl

namespace EvalM

/-- What comes after a step: nothing where the step fails. -/
def afterwards (step : EvalM σ α) (before : World σ) (next : α → World σ → List γ) : List γ :=
  match exec step before with
  | (.ok value, between) => next value between
  | (.error _, _) => []

theorem afterwards_of_ok {step : EvalM σ α} {before between : World σ} {value : α}
    (succeeds : exec step before = (.ok value, between)) (next : α → World σ → List γ) :
    step.afterwards before next = next value between := by
  rw [afterwards, succeeds]

theorem afterwards_of_error {step : EvalM σ α} {before between : World σ} {error : EvalError}
    (fails : exec step before = (.error error, between)) (next : α → World σ → List γ) :
    step.afterwards before next = [] := by
  rw [afterwards, fails]

theorem mem_afterwards_iff {step : EvalM σ α} {before : World σ} {next : α → World σ → List γ}
    {item : γ} :
    item ∈ step.afterwards before next ↔
      ∃ value between, exec step before = (.ok value, between) ∧ item ∈ next value between := by
  unfold afterwards
  rcases exec step before with ⟨outcome, between⟩
  cases outcome with
  | error error => simp
  | ok value =>
      constructor
      · intro member
        exact ⟨value, between, rfl, member⟩
      · rintro ⟨_, _, same, member⟩
        cases same
        exact member

theorem filterMap_afterwards {δ : Type} (step : EvalM σ α) (before : World σ)
    (next : α → World σ → List γ) (choose : γ → Option δ) :
    (step.afterwards before next).filterMap choose =
      step.afterwards before fun value between => (next value between).filterMap choose := by
  unfold afterwards
  split <;> rfl

theorem map_afterwards {δ : Type} (step : EvalM σ α) (before : World σ)
    (next : α → World σ → List γ) (change : γ → δ) :
    (step.afterwards before next).map change =
      step.afterwards before fun value between => (next value between).map change := by
  unfold afterwards
  split <;> rfl

@[simp] theorem afterwards_nil (step : EvalM σ α) (before : World σ) :
    (step.afterwards before fun _ _ => ([] : List γ)) = [] := by
  unfold afterwards
  split <;> rfl

end EvalM

/-- The meetings of a walk from a world. The operands' own meetings come first, those of the left
operand before those of the right one. -/
def Expr.meetings (host : Host σ) (env : Environment) : Expr → World σ → List Meeting
  | comparison _ node terms left right, before =>
      left.meetings host env before ++
        (left.eval host env).afterwards before fun leftValue between =>
          right.meetings host env between ++
            (right.eval host env).afterwards between fun rightValue _ =>
              [⟨⟨terms, node, left, right⟩, leftValue, rightValue⟩]
  | _, _ => []

/-- The meetings of a walk of a node, its own the last of them. -/
def Comparison.meetings (host : Host σ) (env : Environment) (node : Comparison)
    (before : World σ) : List Meeting :=
  node.left.meetings host env before ++
    (node.left.eval host env).afterwards before fun left between =>
      node.right.meetings host env between ++
        (node.right.eval host env).afterwards between fun right _ => [⟨node, left, right⟩]

/-- It does not matter in which expression a node is wrapped. -/
@[simp] theorem Expr.meetings_toExpr (host : Host σ) (env : Environment) (node : Comparison)
    (stamp : Stamp) (before : World σ) :
    (node.toExpr stamp).meetings host env before = node.meetings host env before :=
  rfl

/-- A meeting is one of the left operand, one of the right operand, or that of the two values. -/
theorem Comparison.mem_meetings_iff {host : Host σ} {env : Environment} {node : Comparison}
    {before : World σ} {meeting : Meeting} :
    meeting ∈ node.meetings host env before ↔
      meeting ∈ node.left.meetings host env before ∨
        ∃ left between, EvalM.exec (node.left.eval host env) before = (.ok left, between) ∧
          (meeting ∈ node.right.meetings host env between ∨
            ∃ right after, EvalM.exec (node.right.eval host env) between = (.ok right, after) ∧
              meeting = ⟨node, left, right⟩) := by
  unfold Comparison.meetings
  simp only [List.mem_append, EvalM.mem_afterwards_iff, List.mem_singleton]

/-- What is seen of the walk of a node: what is seen of the operands' walks, one after the other, and
then of the comparison. -/
theorem EvalM.view_evalNode {host : Host σ} {env : Environment} {node : Comparison}
    {view ofLeft ofRight : World σ → List γ} {own : Value → Value → List γ}
    (leftSeen : ∀ before, view (exec (node.left.eval host env) before).2 =
      view before ++ ofLeft before)
    (rightSeen : ∀ before, view (exec (node.right.eval host env) before).2 =
      view before ++ ofRight before)
    (ownSeen : ∀ left right before,
      view (exec (node.compare host left right node.resolution) before).2 =
        view before ++ own left right)
    (before : World σ) :
    view (exec (node.eval host env) before).2 =
      view before ++ (ofLeft before ++
        (node.left.eval host env).afterwards before fun left between =>
          ofRight between ++
            (node.right.eval host env).afterwards between fun right _ => own left right) := by
  have fromLeft := leftSeen before
  unfold Comparison.eval
  rcases leftEnds : exec (node.left.eval host env) before with ⟨_ | left, between⟩
  · rw [leftEnds] at fromLeft
    rw [exec_bind_of_error leftEnds, afterwards_of_error leftEnds, List.append_nil]
    exact fromLeft
  · rw [leftEnds] at fromLeft
    have fromRight := rightSeen between
    rw [exec_bind_of_ok leftEnds, afterwards_of_ok leftEnds, ← List.append_assoc, ← fromLeft]
    rcases rightEnds : exec (node.right.eval host env) between with ⟨_ | right, after⟩
    · rw [rightEnds] at fromRight
      rw [exec_bind_of_error rightEnds, afterwards_of_error rightEnds, List.append_nil]
      exact fromRight
    · rw [rightEnds] at fromRight
      rw [exec_bind_of_ok rightEnds, afterwards_of_ok rightEnds, ← List.append_assoc, ← fromRight]
      exact ownSeen left right after

/-! ## Calls -/

def Event.call? : Event → Option Call
  | call method left right => some ⟨method, left, right⟩
  | _ => none

def World.calls (world : World σ) : List Call :=
  world.trace.toList.filterMap Event.call?

/-- The call that the equality makes to compare two values, if it makes one. -/
def Resolution.call? (resolution : Resolution) (left right : Value) : Option Call :=
  match resolution with
  | method chosen lifted =>
      if lifted && (left.isNull || right.isNull) then none else some ⟨chosen, left, right⟩
  | _ => none

def Meeting.call? (meeting : Meeting) : Option Call :=
  meeting.node.resolution.call? meeting.left meeting.right

/-! ## The trace of a comparison -/

/-- The event that applying a conversion leaves, if there is one to apply. -/
def conversionEvents (conversion : Option Conversion) (result : Option Bool) : List Event :=
  conversion.toList.map fun conversion => .convert conversion result

/-- The events of comparing two values: the call of the method and then the conversion of what it
answers, or the conversion alone where a null operand answers nothing. -/
def Terms.events (terms : Terms) (host : Host σ) (left right : Value) (state : σ) :
    Resolution → List Event
  | .method chosen lifted =>
      if lifted && (left.isNull || right.isNull) then
        if terms.liftToNull then conversionEvents terms.conversion none else []
      else
        .call chosen left right ::
          match (host.call chosen left right state).1.asBool? with
          | none => []
          | some equal =>
              if lifted then conversionEvents terms.conversion (some (terms.op.apply equal)) else []
  | _ => []

/-- Whatever takes no notice of conversions sees of a comparison the call of its equality alone. -/
theorem Terms.filterMap_events {select : Event → Option γ}
    (blind : ∀ conversion result, select (.convert conversion result) = none) (terms : Terms)
    (host : Host σ) (left right : Value) (state : σ) (resolution : Resolution) :
    (terms.events host left right state resolution).filterMap select =
      (resolution.call? left right).toList.filterMap fun call =>
        select (.call call.method call.left call.right) := by
  have converted : ∀ conversion result,
      (conversionEvents conversion result).filterMap select = [] := by
    intro conversion result
    cases conversion with
    | none => rfl
    | some conversion =>
        rw [conversionEvents, Option.toList_some, List.map_singleton, filterMap_singleton, blind,
          Option.toList_none]
  cases resolution with
  | builtin rule lifted => rfl
  | reference => rfl
  | method chosen lifted =>
      unfold events Resolution.call?
      dsimp only
      split
      · split
        · exact converted terms.conversion none
        · rfl
      · rw [Option.toList_some, filterMap_singleton, ← List.singleton_append,
          List.filterMap_append, filterMap_singleton]
        split
        · exact List.append_nil _
        · split
          · rw [converted]
            exact List.append_nil _
          · exact List.append_nil _

namespace EvalM

theorem filterMap_push (select : Event → Option γ) (trace : Array Event) (event : Event) :
    (trace.push event).toList.filterMap select =
      trace.toList.filterMap select ++ (select event).toList := by
  rw [Array.toList_push, List.filterMap_append, filterMap_singleton]

theorem trace_applyConversion (host : Host σ) (conversion : Option Conversion)
    (result : Option Bool) (before : World σ) :
    (exec (host.applyConversion conversion result) before).2.trace.toList =
      before.trace.toList ++ conversionEvents conversion result := by
  cases conversion with
  | none => exact (List.append_nil _).symm
  | some conversion =>
      rw [Host.applyConversion, exec_perform]
      exact Array.toList_push

/-- A comparison of two values leaves its events in the trace and nothing else. -/
theorem trace_compare (terms : Terms) (host : Host σ) (left right : Value)
    (resolution : Resolution) (before : World σ) :
    (exec (terms.compare host left right resolution) before).2.trace.toList =
      before.trace.toList ++ terms.events host left right before.state resolution := by
  cases resolution with
  | builtin rule lifted => cases lifted <;> exact (List.append_nil _).symm
  | reference => exact (List.append_nil _).symm
  | method chosen lifted =>
      rw [Terms.compare, Terms.events]
      cases absent : lifted && (left.isNull || right.isNull) with
      | true =>
          obtain ⟨rfl, null⟩ := (Bool.and_eq_true _ _).mp absent
          rw [exec_compareBy_of_null null, if_pos rfl]
          split
          · exact trace_applyConversion host terms.conversion none before
          · exact (List.append_nil _).symm
      | false =>
          rw [exec_compareBy_of_call absent, if_neg Bool.false_ne_true,
            ← List.singleton_append, ← List.append_assoc, ← Array.toList_push]
          dsimp only
          cases (host.call chosen left right before.state).1.asBool? with
          | none => exact (List.append_nil _).symm
          | some equal =>
              cases lifted with
              | false => exact (List.append_nil _).symm
              | true => exact trace_applyConversion host terms.conversion _ _

/-- A comparison of two values makes the call of its equality and no other. -/
theorem calls_compare (terms : Terms) (host : Host σ) (left right : Value)
    (resolution : Resolution) (before : World σ) :
    (exec (terms.compare host left right resolution) before).2.calls =
      before.calls ++ (resolution.call? left right).toList := by
  rw [World.calls, trace_compare, List.filterMap_append, Terms.filterMap_events fun _ _ => rfl]
  exact congrArg _ (List.filterMap_some)

theorem calls_value (place : Property) (host : Host σ) (before : World σ) :
    (exec (place.value host) before).2.calls = before.calls := by
  cases readable : place.isReadable with
  | true =>
      rw [exec_value readable, World.calls, filterMap_push]
      exact List.append_nil _
  | false => rw [exec_value_of_unreadable readable]

/-- Where the calls of both operands belong to meetings, those of the node do. -/
theorem calls_evalNode {host : Host σ} {env : Environment} {node : Comparison}
    (leftCalls : ∀ before, (exec (node.left.eval host env) before).2.calls =
      before.calls ++ (node.left.meetings host env before).filterMap Meeting.call?)
    (rightCalls : ∀ before, (exec (node.right.eval host env) before).2.calls =
      before.calls ++ (node.right.meetings host env before).filterMap Meeting.call?)
    (before : World σ) :
    (exec (node.eval host env) before).2.calls =
      before.calls ++ (node.meetings host env before).filterMap Meeting.call? := by
  have ownCall : ∀ left right between,
      (exec (node.compare host left right node.resolution) between).2.calls =
        between.calls ++ (node.resolution.call? left right).toList :=
    fun left right => calls_compare node.toTerms host left right node.resolution
  rw [view_evalNode leftCalls rightCalls ownCall]
  simp only [Comparison.meetings, List.filterMap_append, filterMap_afterwards, filterMap_singleton]
  rfl

/-- Every method call of a walk belongs to one of its meetings, in the order of the meetings. -/
theorem calls_eval (host : Host σ) (env : Environment) (expr : Expr) (before : World σ) :
    (exec (expr.eval host env) before).2.calls =
      before.calls ++ (expr.meetings host env before).filterMap Meeting.call? := by
  induction expr generalizing before with
  | constant stamp value ty => exact (List.append_nil _).symm
  | default stamp ty => exact (List.append_nil _).symm
  | parameter stamp name ty =>
      rw [Expr.eval, exec_ofExcept]
      exact (List.append_nil _).symm
  | property stamp place =>
      rw [Expr.eval, calls_value]
      exact (List.append_nil _).symm
  | comparison stamp node terms left right leftCalls rightCalls =>
      rw [Expr.eval_comparison, exec_bind_pure]
      exact calls_evalNode leftCalls rightCalls before

end EvalM

end EqualityTree
