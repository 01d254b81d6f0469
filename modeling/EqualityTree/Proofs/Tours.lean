import EqualityTree.Expr.Parts
import EqualityTree.Proofs.Effects
import EqualityTree.Proofs.Faults
import Mathlib.Data.List.Basic

/-!
# Tours of a tree

An evaluation comes to the parts of its tree in postorder, until it has been at all of them or one of
them fails. The tour of an evaluation lists these visits. What is done at a visit is known from its
part, the values of the operands and the state of the host, and all that an evaluation does is done at
its visits: so the tour tells the outcome and every effect, in order.
-/

namespace EqualityTree

variable {σ : Type} {host : Host σ} {env : Environment}

/-! ## Visits -/

def Call.event (call : Call) : Event := .call call.method call.left call.right

namespace Comparison

/-- The call that the node makes of its method for operands of these values, if it makes one. A
lifted call is not made for null. -/
def call? (node : Comparison) (left right : Value) : Option Call :=
  node.method.bind fun method =>
    if node.isLifted && (left.isNull || right.isNull) then none else some ⟨method, left, right⟩

/-- What the node has its conversion convert, if anything. That is the answer of a lifted call in the
sense of the operator, or nothing in place of an answer if null keeps the call from being made and the
node lifts to null. -/
def converts? (node : Comparison) (host : Host σ) (left right : Value) (state : σ) :
    Option (Option Bool) :=
  if node.isLifted then
    match node.call? left right with
    | some call =>
        (host.call call.method call.left call.right state).1.asBool?.map fun equal =>
          some (node.op.apply equal)
    | none => if node.liftToNull then some none else none
  else none

theorem call?_eq (node : Comparison) (left right : Value) :
    node.call? left right = node.resolution.call? left right := by
  unfold call?
  rw [← node.chosenMethod_resolution, ← node.isLiftedCall_resolution]
  cases node.resolution with
  | builtin rule lifted => rfl
  | reference => rfl
  | method chosen lifted => rfl

/-- Where the method returns no truth value there is nothing to convert. -/
theorem converts?_of_broken {node : Comparison} {left right : Value} {call : Call} {state : σ}
    (called : node.call? left right = some call)
    (broken : (host.call call.method call.left call.right state).1.asBool? = none) :
    node.converts? host left right state = none := by
  rw [converts?, called]
  dsimp only
  rw [broken]
  exact ite_self none

/-- The effects of comparing the operand values: the call, and after it the conversion. -/
def effects (node : Comparison) (host : Host σ) (left right : Value) (state : σ) : List Event :=
  ((node.call? left right).map Call.event).toList ++
    (node.converts? host left right state).toList.flatMap (conversionEvents node.conversion)

/-- A node has the effects of the equality that it is resolved by. -/
theorem effects_eq (node : Comparison) (host : Host σ) (left right : Value) (state : σ) :
    node.effects host left right state =
      node.events host left right state node.resolution := by
  unfold effects converts? call?
  rw [← node.chosenMethod_resolution, ← node.isLiftedCall_resolution]
  cases node.resolution with
  | builtin rule lifted => rfl
  | reference => rfl
  | method chosen lifted =>
      rw [Resolution.chosenMethod, Resolution.isLiftedCall, Option.bind_some, Terms.events]
      cases absent : lifted && (left.isNull || right.isNull) with
      | true =>
          obtain ⟨rfl, -⟩ := (Bool.and_eq_true _ _).mp absent
          cases node.liftToNull with
          | true => exact List.append_nil _
          | false => rfl
      | false =>
          rw [if_neg Bool.false_ne_true, if_neg Bool.false_ne_true]
          dsimp only
          cases lifted with
          | false => cases (host.call chosen left right state).1.asBool? <;> rfl
          | true =>
              cases (host.call chosen left right state).1.asBool? with
              | none => rfl
              | some equal => exact congrArg (List.cons _) (List.append_nil _)

end Comparison

/-- What an evaluation comes to, in a state of the host: a leaf, or a node in its wrapper once both
operands have values. -/
inductive Visit (σ : Type)
  | leaf (leaf : Expr) (state : σ)
  | node (wrapper : Stamp) (node : Comparison) (left right : Value) (state : σ)

namespace Visit

def part : Visit σ → Expr
  | leaf expr _ => expr
  | node wrapper comparison _ _ _ => comparison.toExpr wrapper

def state : Visit σ → σ
  | leaf _ state => state
  | node _ _ _ _ state => state

def action (host : Host σ) (env : Environment) : Visit σ → EvalM σ Value
  | leaf expr _ => expr.eval host env
  | node _ comparison left right _ =>
      comparison.compare host left right comparison.resolution >>= fun answer =>
        pure (.bool answer)

def outcome (host : Host σ) (env : Environment) (visit : Visit σ) : Except EvalError Value :=
  (EvalM.exec (visit.action host env) ⟨visit.state, #[]⟩).1

def next (host : Host σ) (env : Environment) (visit : Visit σ) : σ :=
  (EvalM.exec (visit.action host env) ⟨visit.state, #[]⟩).2.state

/-- The effects at the part. Of the leaves only a property that can be read has one. -/
def events (host : Host σ) : Visit σ → List Event
  | leaf (.property _ place) _ => if place.isReadable then [.read place] else []
  | leaf _ _ => []
  | node _ comparison left right state => comparison.effects host left right state

def Succeeds (host : Host σ) (env : Environment) (visit : Visit σ) : Prop :=
  ∃ value, visit.outcome host env = .ok value

/-- A node is visited with the values of its operands, the right one evaluated after the left one. -/
def Prepared (mode : Mode) (host : Host σ) (env : Environment) : Visit σ → Prop
  | leaf _ _ => True
  | node _ comparison left right state =>
      ∃ before between after,
        EvalM.exec (mode.evalExpr host env comparison.left) before = (.ok left, between) ∧
          EvalM.exec (mode.evalExpr host env comparison.right) between = (.ok right, after) ∧
            after.state = state

/-- The visit is to a leaf, or what it does last is to call a method. -/
def StopsAtLeafOrCall (host : Host σ) : Visit σ → Prop
  | leaf _ _ => True
  | node _ comparison left right state =>
      ∃ call, comparison.call? left right = some call ∧
        comparison.effects host left right state = [call.event]

/-- What happened before makes no difference to a visit, as long as the host is in the same state. -/
theorem exec_action (visit : Visit σ) (before : World σ) (same : before.state = visit.state) :
    (EvalM.exec (visit.action host env) before).1 = visit.outcome host env ∧
      (EvalM.exec (visit.action host env) before).2.state = visit.next host env := by
  have closed : host.Closed fun _ action => EvalM.Parallel (fun _ => false) action action :=
    EvalM.Parallel.closed host
  have steady : EvalM.Parallel (fun _ => false) (visit.action host env)
      (visit.action host env) := by
    cases visit with
    | leaf expr state => exact closed.eval env expr
    | node wrapper comparison left right state =>
        exact closed.bind (closed.compare _ left right _) fun answer => closed.pure _
  have hidden : ∀ world : World σ, world.effects (fun _ => false) = [] :=
    fun world => List.filter_eq_nil_iff.mpr fun _ _ => Bool.false_ne_true
  have look : before.seen (fun _ => false) =
      (⟨visit.state, #[]⟩ : World σ).seen (fun _ => false) :=
    Prod.ext same ((hidden _).trans (hidden _).symm)
  obtain ⟨outcome, seen⟩ := steady before ⟨visit.state, #[]⟩ look
  exact ⟨outcome, congrArg Prod.fst seen⟩

end Visit

/-! ## Tours -/

/-- The visits of an evaluation, of which the last one ends it. -/
structure Tour (σ : Type) where
  earlier : List (Visit σ)
  last : Visit σ

namespace Tour

def visits (tour : Tour σ) : List (Visit σ) := tour.earlier ++ [tour.last]

/-- The tour followed by another one, which starts from the value and the state that this one ends
with. Where this one ends with an error no other one follows. -/
def andThen (host : Host σ) (env : Environment) (tour : Tour σ) (rest : Value → σ → Tour σ) :
    Tour σ :=
  match tour.last.outcome host env with
  | .ok value =>
      ⟨tour.visits ++ (rest value (tour.last.next host env)).earlier,
        (rest value (tour.last.next host env)).last⟩
  | .error _ => tour

end Tour

/-- The tour of an evaluation that starts in a state of the host. -/
def Expr.tour (host : Host σ) (env : Environment) : Expr → σ → Tour σ
  | comparison stamp node terms left right, state =>
      (left.tour host env state).andThen host env fun leftValue between =>
        (right.tour host env between).andThen host env fun rightValue after =>
          ⟨[], .node stamp ⟨terms, node, left, right⟩ leftValue rightValue after⟩
  | leaf, state => ⟨[], .leaf leaf state⟩

namespace Tour

variable {tour : Tour σ} {rest : Value → σ → Tour σ}

theorem andThen_of_ok {value : Value} (succeeds : tour.last.outcome host env = .ok value) :
    tour.andThen host env rest =
      ⟨tour.visits ++ (rest value (tour.last.next host env)).earlier,
        (rest value (tour.last.next host env)).last⟩ := by
  rw [andThen, succeeds]

theorem andThen_of_error {error : EvalError} (fails : tour.last.outcome host env = .error error) :
    tour.andThen host env rest = tour := by
  rw [andThen, fails]

theorem visits_andThen_of_ok {value : Value} (succeeds : tour.last.outcome host env = .ok value) :
    (tour.andThen host env rest).visits =
      tour.visits ++ (rest value (tour.last.next host env)).visits := by
  rw [andThen_of_ok succeeds, visits, List.append_assoc]
  rfl

/-- A visit of both tours is one of the first, or the first succeeds and it is one of the second. -/
theorem mem_visits_andThen {visit : Visit σ}
    (member : visit ∈ (tour.andThen host env rest).visits) :
    visit ∈ tour.visits ∨ ∃ value, tour.last.outcome host env = .ok value ∧
      visit ∈ (rest value (tour.last.next host env)).visits := by
  cases ends : tour.last.outcome host env with
  | error error =>
      rw [andThen_of_error ends] at member
      exact Or.inl member
  | ok value =>
      rw [visits_andThen_of_ok ends, List.mem_append] at member
      exact member.imp_right fun inRest => ⟨value, rfl, inRest⟩

/-! ## What a tour tells -/

/-- The tour tells how the evaluation ends and what it does. -/
structure Tells (host : Host σ) (env : Environment) (tour : Tour σ) (before : World σ)
    (ends : Except EvalError Value × World σ) : Prop where
  outcome : ends.1 = tour.last.outcome host env
  state : ends.2.state = tour.last.next host env
  trace : ends.2.trace.toList = before.trace.toList ++ tour.visits.flatMap (Visit.events host)

theorem Tells.single (visit : Visit σ) {before : World σ} (same : before.state = visit.state)
    (trace : (EvalM.exec (visit.action host env) before).2.trace.toList =
      before.trace.toList ++ visit.events host) :
    (Tour.mk [] visit).Tells host env before (EvalM.exec (visit.action host env) before) := by
  obtain ⟨outcome, state⟩ := visit.exec_action before same
  refine ⟨outcome, state, ?_⟩
  rw [trace, visits, List.nil_append, List.flatMap_singleton]

/-- Tours follow one another as evaluations do. -/
theorem Tells.andThen {before : World σ} {first : EvalM σ Value} {next : Value → EvalM σ Value}
    (told : tour.Tells host env before (EvalM.exec first before))
    (restTold : ∀ value between, EvalM.exec first before = (.ok value, between) →
      (rest value between.state).Tells host env between (EvalM.exec (next value) between)) :
    (tour.andThen host env rest).Tells host env before (EvalM.exec (first >>= next) before) := by
  obtain ⟨outcome, state, trace⟩ := told
  rcases ends : EvalM.exec first before with ⟨error | value, between⟩
  · rw [ends] at outcome state trace
    rw [andThen_of_error outcome.symm, EvalM.exec_bind_of_error ends]
    exact ⟨outcome, state, trace⟩
  · have later := restTold value between ends
    rw [ends] at outcome state trace
    dsimp only at outcome state trace
    rw [state] at later
    rw [EvalM.exec_bind_of_ok ends]
    refine ⟨?_, ?_, ?_⟩
    · rw [andThen_of_ok outcome.symm]
      exact later.outcome
    · rw [andThen_of_ok outcome.symm]
      exact later.state
    · rw [visits_andThen_of_ok outcome.symm, List.flatMap_append, ← List.append_assoc, ← trace]
      exact later.trace

/-- The tour of a tree tells how its evaluation ends and what it does. -/
theorem tells_eval (host : Host σ) (env : Environment) (expr : Expr) (before : World σ) :
    (expr.tour host env before.state).Tells host env before
      (EvalM.exec (expr.eval host env) before) := by
  induction expr generalizing before with
  | constant stamp value ty =>
      exact .single (.leaf (.constant stamp value ty) before.state) rfl (List.append_nil _).symm
  | default stamp ty =>
      exact .single (.leaf (.default stamp ty) before.state) rfl (List.append_nil _).symm
  | parameter stamp name ty =>
      refine .single (.leaf (.parameter stamp name ty) before.state) rfl ?_
      rw [Visit.action, Expr.eval, EvalM.exec_ofExcept]
      exact (List.append_nil _).symm
  | property stamp place =>
      refine .single (.leaf (.property stamp place) before.state) rfl ?_
      rw [Visit.action, Expr.eval, Visit.events]
      cases readable : place.isReadable with
      | true =>
          rw [EvalM.exec_value readable]
          exact Array.toList_push
      | false =>
          rw [EvalM.exec_value_of_unreadable readable]
          exact (List.append_nil _).symm
  | comparison stamp node terms left right leftTold rightTold =>
      refine (leftTold before).andThen fun leftValue between _ => ?_
      refine (rightTold between).andThen fun rightValue after _ => ?_
      refine .single (.node stamp ⟨terms, node, left, right⟩ leftValue rightValue after.state)
        rfl ?_
      rw [Visit.action, EvalM.exec_bind_pure, EvalM.trace_compare, Visit.events,
        Comparison.effects_eq]

/-! ## The course of a tour -/

/-- The tour visits the parts in order. All visits but the last succeed, and if the last one does
then no part is left over. -/
structure Follows (host : Host σ) (env : Environment) (tour : Tour σ) (parts : List Expr) :
    Prop where
  earlier : ∀ visit ∈ tour.earlier, visit.Succeeds host env
  within : tour.visits.map Visit.part <+: parts
  complete : tour.last.Succeeds host env → tour.visits.map Visit.part = parts

theorem Follows.single (visit : Visit σ) : (Tour.mk [] visit).Follows host env [visit.part] :=
  ⟨fun _ member => (List.not_mem_nil member).elim, List.prefix_refl _, fun _ => rfl⟩

theorem Follows.all_succeed {parts : List Expr} (follows : tour.Follows host env parts)
    (succeeds : tour.last.Succeeds host env) : ∀ visit ∈ tour.visits, visit.Succeeds host env := by
  intro visit member
  rcases List.mem_append.mp member with early | last
  · exact follows.earlier visit early
  · rw [List.mem_singleton.mp last]
    exact succeeds

theorem Follows.andThen {parts more : List Expr} (follows : tour.Follows host env parts)
    (restFollows : ∀ value state, (rest value state).Follows host env more) :
    (tour.andThen host env rest).Follows host env (parts ++ more) := by
  cases ends : tour.last.outcome host env with
  | error error =>
      rw [andThen_of_error ends]
      refine ⟨follows.earlier, follows.within.trans (List.prefix_append parts more), ?_⟩
      rintro ⟨value, succeeds⟩
      cases ends.symm.trans succeeds
  | ok value =>
      have later := restFollows value (tour.last.next host env)
      have parted := follows.complete ⟨value, ends⟩
      have visited : (tour.andThen host env rest).visits.map Visit.part =
          parts ++ (rest value (tour.last.next host env)).visits.map Visit.part := by
        rw [visits_andThen_of_ok ends, List.map_append, parted]
      refine ⟨?_, ?_, ?_⟩
      · rw [andThen_of_ok ends]
        intro visit member
        rcases List.mem_append.mp member with early | late
        · exact follows.all_succeed ⟨value, ends⟩ visit early
        · exact later.earlier visit late
      · rw [visited]
        exact (List.prefix_append_right_inj parts).mpr later.within
      · rw [visited, andThen_of_ok ends]
        intro succeeds
        rw [later.complete succeeds]

/-- The tour of a tree visits its parts in postorder. -/
theorem follows_postorder (host : Host σ) (env : Environment) (expr : Expr) (state : σ) :
    (expr.tour host env state).Follows host env expr.postorder := by
  induction expr generalizing state with
  | comparison stamp node terms left right leftFollows rightFollows =>
      refine (leftFollows state).andThen fun leftValue between => ?_
      refine (rightFollows between).andThen fun rightValue after => ?_
      exact .single (.node stamp ⟨terms, node, left, right⟩ leftValue rightValue after)
  | _ => exact .single (.leaf _ state)

/-- Along the tour of a tree every node is visited with the values of its operands. -/
theorem prepared_of_mem (mode : Mode) {expr : Expr} {before : World σ} {visit : Visit σ}
    (member : visit ∈ (expr.tour host env before.state).visits) :
    visit.Prepared mode host env := by
  induction expr generalizing before with
  | comparison stamp node terms left right fromLeft fromRight =>
      have leftTold := tells_eval host env left before
      rcases mem_visits_andThen member with inLeft | ⟨leftValue, leftSucceeds, later⟩
      · exact fromLeft inLeft
      rw [← leftTold.state] at later
      generalize leftEnds : EvalM.exec (left.eval host env) before = leftEnd at leftTold later
      have rightTold := tells_eval host env right leftEnd.2
      rcases mem_visits_andThen later with inRight | ⟨rightValue, rightSucceeds, here⟩
      · exact fromRight inRight
      · -- The node itself: the tours of its operands end with the values that they evaluate to.
        rw [List.mem_singleton.mp here]
        refine ⟨before, leftEnd.2, (EvalM.exec (right.eval host env) leftEnd.2).2, ?_, ?_, ?_⟩
        · rw [mode.evalExpr_eq, leftEnds]
          exact Prod.ext (leftTold.outcome.trans leftSucceeds) rfl
        · rw [mode.evalExpr_eq]
          exact Prod.ext (rightTold.outcome.trans rightSucceeds) rfl
        · exact rightTold.state
  | _ =>
      rw [List.mem_singleton.mp member]
      trivial

end Tour

/-- A node fails in the call of its method, and then its conversion is not called. -/
theorem Visit.stopsAtLeafOrCall_of_error {visit : Visit σ} {error : EvalError}
    (fails : visit.outcome host env = .error error) : visit.StopsAtLeafOrCall host := by
  cases visit with
  | leaf expr state => trivial
  | node wrapper comparison left right state =>
      rw [outcome, action, EvalM.exec_bind_pure] at fails
      rcases compared : EvalM.exec (comparison.compare host left right comparison.resolution)
        ⟨state, #[]⟩ with ⟨broken | answer, after⟩
      · obtain ⟨call, called, broken, -⟩ := Terms.compare_eq_error compared
        rw [← comparison.call?_eq] at called
        refine ⟨call, called, ?_⟩
        rw [Comparison.effects, Comparison.converts?_of_broken called broken, called]
        rfl
      · rw [Visit.state, compared] at fails
        cases fails

/-! ## The reads of a tour -/

/-- A part that a visit succeeds at has been read if it is a property. -/
theorem Visit.Succeeds.reads {visit : Visit σ} (succeeds : visit.Succeeds host env) :
    (visit.events host).filterMap Event.read? = visit.part.place?.toList := by
  obtain ⟨value, found⟩ := succeeds
  cases visit with
  | leaf expr state =>
      cases expr with
      | property stamp place =>
          cases readable : place.isReadable with
          | true =>
              rw [events, if_pos readable]
              rfl
          | false =>
              rw [outcome, action, Expr.eval, EvalM.exec_value_of_unreadable readable] at found
              cases found
      | _ => rfl
  | node wrapper comparison left right state =>
      rw [events, Comparison.effects_eq, Terms.filterMap_events fun _ _ => rfl]
      exact List.filterMap_eq_nil_iff.mpr fun _ _ => rfl

theorem Expr.filterMap_postorder {γ : Type} {select : Expr → Option γ}
    (atLeaves : ∀ stamp node terms left right, select (.comparison stamp node terms left right) = none)
    (expr : Expr) : expr.postorder.filterMap select = expr.leaves.filterMap select := by
  induction expr with
  | comparison stamp node terms left right fromLeft fromRight =>
      rw [postorder, leaves, List.filterMap_append, List.filterMap_append, List.filterMap_append,
        fromLeft, fromRight, filterMap_singleton, atLeaves, Option.toList_none, List.append_nil]
  | _ => rfl

/-- An evaluation that succeeds reads every property of its tree once, from left to right. -/
theorem Tour.Tells.reads {tour : Tour σ} {expr : Expr} {before : World σ}
    {ends : Except EvalError Value × World σ} (told : tour.Tells host env before ends)
    (follows : tour.Follows host env expr.postorder) (succeeds : tour.last.Succeeds host env) :
    ends.2.reads = before.reads ++ expr.leaves.filterMap Expr.place? := by
  have ofVisits : (tour.visits.flatMap (Visit.events host)).filterMap Event.read? =
      (tour.visits.map Visit.part).filterMap Expr.place? := by
    rw [List.filterMap_flatMap, List.filterMap_eq_flatMap_toList, List.flatMap_map]
    exact List.flatMap_congr fun visit member => (follows.all_succeed succeeds visit member).reads
  rw [World.reads, told.trace, List.filterMap_append, ofVisits, follows.complete succeeds,
    Expr.filterMap_postorder fun _ _ _ _ _ => rfl]
  rfl

/-! ## Evaluations as tours -/

/-- In either mode an evaluation does what its tour tells, and nothing else: it ends as the last visit
ends, and leaves the effects of all visits, in order. The visits are to the parts of the tree in
postorder, each node with the values of its operands, and go on up to the first leaf or method call
that fails. So an evaluation with a value has visited every part and read every property once. A node
that is evaluated as such does the same. -/
theorem evaluation_tours_the_tree_in_postorder (mode : Mode) (host : Host σ) (env : Environment)
    (expr : Expr) (before : World σ) :
    let tour := expr.tour host env before.state
    let ends := EvalM.exec (mode.evalExpr host env expr) before
    ends.1 = tour.last.outcome host env ∧
      ends.2.state = tour.last.next host env ∧
      ends.2.trace.toList = before.trace.toList ++ tour.visits.flatMap (Visit.events host) ∧
      tour.visits.map Visit.part <+: expr.postorder ∧
      (∀ visit ∈ tour.visits, visit.Prepared mode host env) ∧
      (∀ visit ∈ tour.earlier, visit.Succeeds host env) ∧
      (∀ error, ends.1 = .error error → tour.last.StopsAtLeafOrCall host) ∧
      (∀ value, ends.1 = .ok value →
        tour.visits.map Visit.part = expr.postorder ∧
          ends.2.reads = before.reads ++ expr.leaves.filterMap Expr.place?) ∧
      ∀ wrapper node, expr = node.toExpr wrapper →
        let answers := EvalM.exec (mode.evalComparison host env node) before
        ends = (answers.1.map .bool, answers.2) := by
  intro tour ends
  have told : tour.Tells host env before ends := by
    have walk := Tour.tells_eval host env expr before
    rw [← mode.evalExpr_eq] at walk
    exact walk
  have follows : tour.Follows host env expr.postorder :=
    Tour.follows_postorder host env expr before.state
  refine ⟨told.outcome, told.state, told.trace, follows.within, ?_, follows.earlier, ?_, ?_, ?_⟩
  · intro visit member
    exact Tour.prepared_of_mem mode member
  · intro error fails
    exact Visit.stopsAtLeafOrCall_of_error (told.outcome.symm.trans fails)
  · intro value succeeds
    have lastSucceeds : tour.last.Succeeds host env := ⟨value, told.outcome.symm.trans succeeds⟩
    exact ⟨follows.complete lastSucceeds, told.reads follows lastSucceeds⟩
  · rintro wrapper node rfl
    dsimp only [ends]
    rw [mode.evalExpr_eq, mode.evalComparison_eq, Comparison.toExpr, Expr.eval_comparison,
      EvalM.exec_bind_pure]

/-- A getter gives null once and a number from then on. Null does not keep the right operand from
being read, but it keeps the method from being called, and the conversion converts nothing. Where both
reads give the number the method is called and returns no truth value, so neither the conversion nor
anything to the right of the node is come to. -/
theorem tours_past_null_and_up_to_a_broken_call :
    let number : Value := .int .i32 ⟨7, by decide, by decide⟩
    let same : Method := .predicate ⟨0⟩ "same" (.value (.int .i32))
    let limit : Property := ⟨"Config", "limit", .nullable (.int .i32), some ⟨1⟩⟩
    let size : Property := ⟨"Config", "size", .nullable (.int .i32), some ⟨2⟩⟩
    let lenient : Conversion := .named ⟨3⟩ "lenient"
    let inner : Comparison := ⟨⟨.equal, true, some same, some lenient⟩, ⟨4⟩, .property ⟨5⟩ limit,
      .property ⟨6⟩ size⟩
    let flag : Expr := .parameter ⟨7⟩ "flag" .bool
    let outer : Comparison := ⟨⟨.notEqual, true, none, none⟩, ⟨8⟩, inner.toExpr ⟨9⟩, flag⟩
    let root : Expr := outer.toExpr ⟨10⟩
    let host : Host Nat := ⟨fun _ reads => (if reads = 0 then .null else number, reads + 1),
      fun _ _ _ reads => (.null, reads), fun _ result reads => (result.getD true, reads)⟩
    let env := Environment.empty.bind "flag" (.bool true)
    let run := fun reads : Nat => EvalM.exec (Mode.compiled.evalExpr host env root) ⟨reads, #[]⟩
    run 0 = (.ok (.bool false), ⟨2, #[.read limit, .read size, .convert lenient none]⟩) ∧
      (root.tour host env 0).visits.map Visit.part = root.postorder ∧
      (run 0).2.reads = [limit, size] ∧
      run 1 = (.error (.methodReturnedNonBool "same" .object),
        ⟨3, #[.read limit, .read size, .call same number number]⟩) ∧
      (root.tour host env 1).visits.map Visit.part =
        [.property ⟨5⟩ limit, .property ⟨6⟩ size, inner.toExpr ⟨9⟩] ∧
      (root.tour host env 1).last.StopsAtLeafOrCall host := by
  intro number same limit size lenient inner flag outer root host env run
  have succeeds : run 0 =
      (.ok (.bool false), ⟨2, #[.read limit, .read size, .convert lenient none]⟩) := rfl
  have fails : run 1 = (.error (.methodReturnedNonBool "same" .object),
      ⟨3, #[.read limit, .read size, .call same number number]⟩) := rfl
  obtain ⟨-, -, -, -, -, -, -, complete, -⟩ :=
    evaluation_tours_the_tree_in_postorder .compiled host env root ⟨0, #[]⟩
  obtain ⟨-, -, -, -, -, -, stops, -, -⟩ :=
    evaluation_tours_the_tree_in_postorder .compiled host env root ⟨1, #[]⟩
  obtain ⟨visited, reads⟩ := complete _ (congrArg Prod.fst succeeds)
  exact ⟨succeeds, visited, reads, fails, rfl, stops _ (congrArg Prod.fst fails)⟩

end EqualityTree
