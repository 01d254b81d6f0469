import EqualityTree.Expr.Parts
import EqualityTree.Proofs.MethodCalls
import EqualityTree.Proofs.Reads

/-!
# Whose fault a failure is

An evaluation of a tree that exists fails only where the environment or the host breaks a promise: a
parameter has no value or one of another type, a getter gives a value of another type than its
property has, or a method returns no truth value although its arguments are of its parameter types.
An operand that cannot be read is never met, because no node has one.
-/

namespace EqualityTree

variable {σ : Type}

/-! ## Failures of the parts -/

theorem Environment.argument_eq_error {env : Environment} {name : String} {ty : Ty}
    {error : EvalError} (fails : env.argument name ty = .error error) :
    (env.lookup name = none ∧ error = .unboundParameter name) ∨
      ∃ value, env.lookup name = some value ∧ value.inhabits ty = false ∧
        error = .argumentTypeMismatch name ty value.naturalTy := by
  unfold argument at fails
  split at fails
  · next missing =>
    cases fails
    exact Or.inl ⟨missing, rfl⟩
  · next value bound =>
    split at fails
    · cases fails
    · next misfit =>
      cases fails
      exact Or.inr ⟨value, bound, Bool.eq_false_iff.mpr misfit, rfl⟩

/-- A comparison of two values fails only where it calls a method that returns no truth value. -/
theorem Terms.compare_eq_error {terms : Terms} {host : Host σ} {left right : Value}
    {resolution : Resolution} {before after : World σ} {error : EvalError}
    (fails : EvalM.exec (terms.compare host left right resolution) before = (.error error, after)) :
    ∃ call, resolution.call? left right = some call ∧
      (host.call call.method call.left call.right before.state).1.asBool? = none ∧
      error = .methodReturnedNonBool call.method.name
        (host.call call.method call.left call.right before.state).1.naturalTy := by
  cases resolution with
  | builtin rule lifted => cases lifted <;> cases fails
  | reference => cases fails
  | method chosen lifted =>
      rw [Terms.compare] at fails
      have converts : ∀ result between,
          EvalM.exec (host.applyConversion terms.conversion result) between ≠
            (.error error, after) := by
        intro result between converted
        cases (EvalM.exec_applyConversion host terms.conversion result between).symm.trans
          (congrArg Prod.fst converted)
      cases absent : lifted && (left.isNull || right.isNull) with
      | true =>
          obtain ⟨rfl, null⟩ := (Bool.and_eq_true _ _).mp absent
          rw [EvalM.exec_compareBy_of_null null] at fails
          split at fails
          · exact absurd fails (converts _ _)
          · cases fails
      | false =>
          rw [EvalM.exec_compareBy_of_call absent] at fails
          refine ⟨⟨chosen, left, right⟩, if_neg (Bool.eq_false_iff.mp absent), ?_⟩
          dsimp only at fails ⊢
          split at fails
          · next broken =>
            cases fails
            exact ⟨broken, rfl⟩
          · split at fails
            · exact absurd fails (converts _ _)
            · cases fails

theorem Resolution.chosenMethod_of_call? {resolution : Resolution} {left right : Value}
    {call : Call} (called : resolution.call? left right = some call) :
    resolution.chosenMethod = some call.method := by
  cases resolution with
  | builtin rule lifted => cases called
  | reference => cases called
  | method chosen lifted =>
      unfold call? at called
      dsimp only at called
      split at called
      · cases called
      · cases called
        rfl

/-! ## Faults -/

/-- A promise broken to a tree of these leaves and nodes on a walk with these reads, and the error in
which it shows. -/
inductive Fault (host : Host σ) (env : Environment) (leaves : List Expr) (nodes : List Comparison)
    (reads : List Read) : EvalError → Prop
  | unbound {stamp : Stamp} {name : String} {ty : Ty}
      (occurs : .parameter stamp name ty ∈ leaves) (missing : env.lookup name = none) :
      Fault host env leaves nodes reads (.unboundParameter name)
  | argument {stamp : Stamp} {name : String} {ty : Ty} {value : Value}
      (occurs : .parameter stamp name ty ∈ leaves) (bound : env.lookup name = some value)
      (misfit : value.inhabits ty = false) :
      Fault host env leaves nodes reads (.argumentTypeMismatch name ty value.naturalTy)
  | property {read : Read} (made : read ∈ reads)
      (misfit : read.value.inhabits read.place.ty = false) :
      Fault host env leaves nodes reads
        (.propertyTypeMismatch read.place.owner read.place.name read.place.ty read.value.naturalTy)
  | method {node : Comparison} {call : Call} {state : σ} (occurs : node ∈ nodes)
      (chosen : node.method = some call.method) (typed : call.WellTyped)
      (broken : (host.call call.method call.left call.right state).1.asBool? = none) :
      Fault host env leaves nodes reads
        (.methodReturnedNonBool call.method.name
          (host.call call.method call.left call.right state).1.naturalTy)

theorem Fault.mono {host : Host σ} {env : Environment} {leaves allLeaves : List Expr}
    {nodes allNodes : List Comparison} {reads allReads : List Read} {error : EvalError}
    (fault : Fault host env leaves nodes reads error) (leavesWithin : leaves ⊆ allLeaves)
    (nodesWithin : nodes ⊆ allNodes) (readsWithin : reads ⊆ allReads) :
    Fault host env allLeaves allNodes allReads error := by
  cases fault with
  | unbound occurs missing => exact .unbound (leavesWithin occurs) missing
  | argument occurs bound misfit => exact .argument (leavesWithin occurs) bound misfit
  | property made misfit => exact .property (readsWithin made) misfit
  | method occurs chosen typed broken => exact .method (nodesWithin occurs) chosen typed broken

/-- A node that fails to compare two values of its operand types is let down by its method. -/
theorem Comparison.ResolvedBy.fault_of_compare {node : Comparison} {resolution : Resolution}
    {host : Host σ} {left right : Value} {before after : World σ} {error : EvalError}
    (resolved : node.ResolvedBy resolution) (leftHolds : left.inhabits node.left.ty = true)
    (rightHolds : right.inhabits node.right.ty = true)
    (fails : EvalM.exec (node.compare host left right node.resolution) before =
      (.error error, after)) (env : Environment) :
    Fault host env [] [node] [] error := by
  obtain ⟨call, called, broken, rfl⟩ := Terms.compare_eq_error fails
  rw [resolved.resolution_eq] at called
  have chosen : node.method = some call.method := by
    rw [← resolved.method]
    exact Resolution.chosenMethod_of_call? called
  exact .method (List.mem_singleton_self node) chosen
    (resolved.covers.call leftHolds rightHolds called).1 broken

/-- The failure of a well-formed expression that can be read is the fault of something outside it. -/
theorem Expr.WellFormed.fault_of_eval {expr : Expr} {host : Host σ} {env : Environment}
    {before after : World σ} {error : EvalError} (formed : expr.WellFormed)
    (readable : expr.isReadable = true)
    (fails : EvalM.exec (expr.eval host env) before = (.error error, after)) :
    Fault host env expr.leaves expr.nodes (expr.reads host env before) error := by
  induction formed generalizing before after with
  | constant holds => cases fails
  | default stamp ty => cases fails
  | parameter stamp name ty =>
      rw [Expr.eval, EvalM.exec_ofExcept] at fails
      rcases Environment.argument_eq_error (congrArg Prod.fst fails) with
        ⟨missing, rfl⟩ | ⟨value, bound, misfit, rfl⟩
      · exact .unbound (List.mem_singleton_self _) missing
      · exact .argument (List.mem_singleton_self _) bound misfit
  | property stamp place =>
      rw [Expr.eval, EvalM.exec_value readable] at fails
      split at fails
      · cases fails
      · next misfit =>
        cases fails
        have made : ⟨place, (host.read place before.state).1⟩ ∈
            (Expr.property stamp place).reads host env before := by
          have getter : place.isReadable = true := readable
          rw [Expr.reads, if_pos getter]
          exact List.mem_singleton_self _
        exact .property made (Bool.eq_false_iff.mpr misfit)
  | @comparison stamp node terms left right resolution leftFormed rightFormed resolved
      leftFault rightFault =>
      rw [Expr.eval_comparison, EvalM.exec_bind_eq_error_iff] at fails
      rcases fails with fails | ⟨answer, between, -, impossible⟩
      · simp only [Comparison.eval, EvalM.exec_bind_eq_error_iff] at fails
        rcases fails with inLeft | ⟨leftValue, between, leftEnds, inRight | here⟩
        · refine (leftFault resolved.leftReadable inLeft).mono ?_ ?_ ?_
          · exact List.subset_append_left _ _
          · exact List.subset_cons_of_subset _ (List.subset_append_left _ _)
          · exact List.subset_append_left _ _
        · refine (rightFault resolved.rightReadable inRight).mono ?_ ?_ ?_
          · exact List.subset_append_right _ _
          · exact List.subset_cons_of_subset _ (List.subset_append_right _ _)
          · rw [Expr.reads, EvalM.afterwards_of_ok leftEnds]
            exact List.subset_append_right _ _
        · obtain ⟨rightValue, last, rightEnds, comparing⟩ := here
          refine (resolved.fault_of_compare (leftFormed.inhabits_of_eval leftEnds)
            (rightFormed.inhabits_of_eval rightEnds) comparing env).mono ?_ ?_ ?_
          · exact List.nil_subset _
          · exact List.cons_subset_cons _ (List.nil_subset _)
          · exact List.nil_subset _
      · cases impossible

/-- The failure of a node that exists is the fault of something outside it. -/
theorem Comparison.Constructible.fault_of_eval {node : Comparison} {host : Host σ}
    {env : Environment} {before after : World σ} {error : EvalError} (built : node.Constructible)
    (fails : EvalM.exec (node.eval host env) before = (.error error, after)) :
    Fault host env node.leaves node.nodes (node.reads host env before) error := by
  have wrapped : EvalM.exec ((node.toExpr node.stamp).eval host env) before =
      (.error error, after) := by
    rw [Comparison.toExpr, Expr.eval_comparison]
    exact EvalM.exec_bind_of_error fails
  have fault := (built.wellFormed node.stamp).fault_of_eval rfl wrapped
  rw [Expr.leaves_toExpr, Expr.nodes_toExpr, Expr.reads_toExpr] at fault
  exact fault

/-! ## Promises -/

/-- The method returns a truth value whenever its arguments are of its parameter types. -/
def Host.Honours (host : Host σ) (method : Method) : Prop :=
  ∀ left right state, (Call.mk method left right).WellTyped →
    ∃ answer, (host.call method left right state).1 = .bool answer

/-- What a tree of these leaves and nodes relies on along a walk with these reads. -/
structure PromisesKept (host : Host σ) (env : Environment) (leaves : List Expr)
    (nodes : List Comparison) (reads : List Read) : Prop where
  parameters : ∀ stamp name ty, .parameter stamp name ty ∈ leaves →
    ∃ value, env.lookup name = some value ∧ value.inhabits ty = true
  properties : ∀ read ∈ reads, read.value.inhabits read.place.ty = true
  methods : ∀ node ∈ nodes, ∀ method, node.method = some method → host.Honours method

theorem PromisesKept.no_fault {host : Host σ} {env : Environment} {leaves : List Expr}
    {nodes : List Comparison} {reads : List Read} {error : EvalError}
    (kept : PromisesKept host env leaves nodes reads) :
    ¬Fault host env leaves nodes reads error := by
  intro fault
  cases fault with
  | unbound occurs missing =>
      obtain ⟨value, bound, -⟩ := kept.parameters _ _ _ occurs
      cases missing.symm.trans bound
  | argument occurs bound misfit =>
      obtain ⟨value, same, holds⟩ := kept.parameters _ _ _ occurs
      cases bound.symm.trans same
      cases misfit.symm.trans holds
  | property made misfit => cases misfit.symm.trans (kept.properties _ made)
  | method occurs chosen typed broken =>
      obtain ⟨answer, returned⟩ := kept.methods _ occurs _ chosen _ _ _ typed
      rw [returned] at broken
      cases broken

/-- In either mode a node that exists never fails because a property cannot be read, and it has an
answer wherever its parameters are bound to values of their types, the getters give values of the
types of their properties in the reads that are made, and the methods keep to what they declare. -/
theorem failures_come_from_outside {node : Comparison} (built : node.Constructible) (mode : Mode)
    (host : Host σ) (env : Environment) (before : World σ) :
    (∀ owner name after,
      EvalM.exec (mode.evalComparison host env node) before ≠
        (.error (.unreadableProperty owner name), after)) ∧
    (EvalM.exec (mode.evalComparison host env node) before).2.reads =
      before.reads ++ (node.reads host env before).map Read.place ∧
    (PromisesKept host env node.leaves node.nodes (node.reads host env before) →
      ∃ answer after,
        EvalM.exec (mode.evalComparison host env node) before = (.ok answer, after)) := by
  rw [Mode.evalComparison_eq]
  refine ⟨?_, ?_, ?_⟩
  · intro owner name after fails
    cases built.fault_of_eval fails
  · exact EvalM.reads_evalNode (EvalM.reads_eval host env node.left)
      (EvalM.reads_eval host env node.right) before
  · intro kept
    rcases ends : EvalM.exec (node.eval host env) before with ⟨error | answer, after⟩
    · exact absurd (built.fault_of_eval ends) kept.no_fault
    · exact ⟨answer, after, rfl⟩

/-- A getter that gives a number of the right type at first and a truth value later is read once, a
lifted method compares the number with a parameter, and the tree has an answer. -/
theorem kept_promises_give_an_answer :
    let number : Value := .int .i32 ⟨7, by decide, by decide⟩
    let same : Method := .predicate ⟨0⟩ "same" (.value (.int .i32))
    let limit : Property := ⟨"Config", "limit", .nullable (.int .i32), some ⟨1⟩⟩
    let argument : Expr := .parameter ⟨3⟩ "x" (.nullable (.int .i32))
    let inner : Comparison := ⟨⟨.equal, true, some same, some (.nullAsFalse ⟨4⟩)⟩, ⟨4⟩,
      .property ⟨2⟩ limit, argument⟩
    let flag : Expr := .parameter ⟨6⟩ "flag" .bool
    let outer : Comparison := ⟨⟨.notEqual, true, none, none⟩, ⟨7⟩, inner.toExpr ⟨5⟩, flag⟩
    let host : Host Nat := ⟨fun _ made => (if made = 0 then number else .bool true, made + 1),
      fun _ _ _ made => (.bool false, made), fun _ result made => (result.getD false, made)⟩
    let env := (Environment.empty.bind "x" number).bind "flag" (.bool true)
    outer.Constructible ∧
      PromisesKept host env outer.leaves outer.nodes (outer.reads host env ⟨0, #[]⟩) ∧
      ∃ answer after, EvalM.exec (Mode.compiled.evalComparison host env outer) ⟨0, #[]⟩ =
        (.ok answer, after) := by
  intro number same limit argument inner flag outer host env
  have innerMade : Comparison.make ⟨4⟩ .equal (some (.property ⟨2⟩ limit)) (some argument)
      ⟨true, some same⟩ = .ok inner := rfl
  have outerMade : Comparison.make ⟨7⟩ .notEqual (some (inner.toExpr ⟨5⟩)) (some flag) .default =
      .ok outer := rfl
  have innerBuilt : (inner.toExpr ⟨5⟩).Constructible :=
    .make (.property ⟨2⟩ limit) (.parameter ⟨3⟩ "x" _) innerMade
  have built : outer.Constructible :=
    ⟨⟨7⟩, .make innerBuilt (.parameter ⟨6⟩ "flag" _) outerMade⟩
  have kept : PromisesKept host env outer.leaves outer.nodes (outer.reads host env ⟨0, #[]⟩) := by
    refine ⟨?_, ?_, ?_⟩
    · intro stamp name ty occurs
      have places : outer.leaves = [.property ⟨2⟩ limit, argument, flag] := rfl
      simp only [places, List.mem_cons, List.not_mem_nil, or_false, reduceCtorEq, false_or] at occurs
      rcases occurs with same | same
      · obtain ⟨-, rfl, rfl⟩ := Expr.parameter.inj same
        exact ⟨number, rfl, rfl⟩
      · obtain ⟨-, rfl, rfl⟩ := Expr.parameter.inj same
        exact ⟨.bool true, rfl, rfl⟩
    · intro read made
      have reads : outer.reads host env ⟨0, #[]⟩ = [⟨limit, number⟩] := rfl
      rw [reads, List.mem_singleton] at made
      rw [made]
      rfl
    · intro node occurs method chosen left right state typed
      exact ⟨false, rfl⟩
  exact ⟨built, kept, (failures_come_from_outside built .compiled host env ⟨0, #[]⟩).2.2 kept⟩

end EqualityTree
