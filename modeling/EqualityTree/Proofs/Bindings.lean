import EqualityTree.Expr.Parts
import EqualityTree.Proofs.Backends
import Mathlib.Logic.Relation

/-!
# What evaluation needs of an environment

An evaluation looks up the parameters of its tree and nothing else, so environments that agree on
those names are the same to it. An environment is built by bindings one after another, and of the
bindings of a name the last one counts. So the order in which different names are bound, bindings that
are later replaced and names that a tree does not mention never show.
-/

namespace EqualityTree

namespace Environment

/-! ## Bindings one after another -/

def bindAll (env : Environment) (bindings : List (String × Value)) : Environment :=
  bindings.foldl (fun bound binding => bound.bind binding.1 binding.2) env

theorem bindAll_append (env : Environment) (early late : List (String × Value)) :
    env.bindAll (early ++ late) = (env.bindAll early).bindAll late :=
  List.foldl_append

theorem bindAll_cons (env : Environment) (name : String) (value : Value)
    (late : List (String × Value)) :
    env.bindAll ((name, value) :: late) = (env.bind name value).bindAll late :=
  rfl

/-- The last binding of a name counts, and without one the name keeps what it was bound to before. -/
theorem lookup_bindAll (env : Environment) (bindings : List (String × Value)) (name : String) :
    (env.bindAll bindings).lookup name = (bindings.reverse.lookup name).or (env.lookup name) := by
  induction bindings generalizing env with
  | nil => rfl
  | cons binding late ih =>
      rw [bindAll_cons, ih, lookup_bind, List.reverse_cons, List.lookup_append, Option.or_assoc]
      by_cases same : name = binding.1
      · rw [if_pos same, List.lookup_cons, beq_iff_eq.mpr same, Option.some_or]
      · rw [if_neg same, List.lookup_cons, beq_eq_false_iff_ne.mpr same, List.lookup_nil,
          Option.none_or]

/-- The name is bound by one of the pairs, whatever it was bound to before. -/
theorem lookup_bindAll_of_mem {bindings : List (String × Value)} {name : String}
    (bound : name ∈ bindings.map Prod.fst) (first second : Environment) :
    (first.bindAll bindings).lookup name = (second.bindAll bindings).lookup name := by
  obtain ⟨binding, member, rfl⟩ := List.mem_map.mp bound
  have found : (bindings.reverse.lookup binding.1).isSome = true := by
    rw [List.lookup_isSome_iff]
    exact ⟨binding, List.mem_reverse.mpr member, beq_self_eq_true binding.1⟩
  rw [lookup_bindAll, lookup_bindAll, Option.or_of_isSome found, Option.or_of_isSome found]

/-! ## Agreement -/

/-- Each of the names is bound to the same value in both environments, or in neither. -/
def AgreeOn (names : List String) (first second : Environment) : Prop :=
  ∀ name ∈ names, first.lookup name = second.lookup name

namespace AgreeOn

variable {names : List String} {first second : Environment}

theorem of_append_left {more : List String} (agree : AgreeOn (names ++ more) first second) :
    AgreeOn names first second :=
  fun name mentioned => agree name (List.mem_append_left more mentioned)

theorem of_append_right {more : List String} (agree : AgreeOn (more ++ names) first second) :
    AgreeOn names first second :=
  fun name mentioned => agree name (List.mem_append_right more mentioned)

/-- What is bound later does not part environments that agree. -/
theorem bindAll (agree : AgreeOn names first second) (late : List (String × Value)) :
    AgreeOn names (first.bindAll late) (second.bindAll late) := by
  intro name mentioned
  rw [lookup_bindAll, lookup_bindAll, agree name mentioned]

end AgreeOn

/-- A change to a history of bindings that no tree with these parameter names notices. -/
inductive Unnoticed (names : List String) :
    List (String × Value) → List (String × Value) → Prop
  | reordered (early late : List (String × Value)) {first second : String} (left right : Value)
      (differ : first ≠ second) :
      Unnoticed names (early ++ (first, left) :: (second, right) :: late)
        (early ++ (second, right) :: (first, left) :: late)
  | overwritten (early late : List (String × Value)) {name : String} (value : Value)
      (again : name ∈ late.map Prod.fst) :
      Unnoticed names (early ++ (name, value) :: late) (early ++ late)
  | unmentioned (early late : List (String × Value)) {name : String} (value : Value)
      (absent : name ∉ names) :
      Unnoticed names (early ++ (name, value) :: late) (early ++ late)

theorem Unnoticed.agree {names : List String} {history changed : List (String × Value)}
    (unnoticed : Unnoticed names history changed) (env : Environment) :
    AgreeOn names (env.bindAll history) (env.bindAll changed) := by
  cases unnoticed with
  | @reordered early late first second left right differ =>
      simp only [bindAll_append, bindAll_cons]
      refine AgreeOn.bindAll (fun name _ => ?_) late
      simp only [lookup_bind]
      by_cases isFirst : name = first
      · rw [if_pos isFirst, if_pos isFirst, if_neg (isFirst ▸ differ)]
      · rw [if_neg isFirst, if_neg isFirst]
  | @overwritten early late name value again =>
      intro other _
      rw [bindAll_append, bindAll_append, bindAll_cons]
      by_cases same : other = name
      · rw [same]
        exact lookup_bindAll_of_mem again _ _
      · rw [lookup_bindAll, lookup_bindAll, lookup_bind, if_neg same]
  | @unmentioned early late name value absent =>
      rw [bindAll_append, bindAll_append, bindAll_cons]
      refine AgreeOn.bindAll (fun other mentioned => ?_) late
      have differ : other ≠ name := fun same => absent (same ▸ mentioned)
      rw [lookup_bind, if_neg differ]

/-- Any number of changes that are not noticed, made or undone, is not noticed either. -/
theorem agree_of_unnoticed {names : List String} {history changed : List (String × Value)}
    (unnoticed : Relation.EqvGen (Unnoticed names) history changed) (env : Environment) :
    AgreeOn names (env.bindAll history) (env.bindAll changed) := by
  induction unnoticed with
  | rel history changed step => exact step.agree env
  | refl history => exact fun _ _ => rfl
  | symm history changed _ agree => exact fun name mentioned => (agree name mentioned).symm
  | trans history between changed _ _ agree further =>
      exact fun name mentioned => (agree name mentioned).trans (further name mentioned)

end Environment

/-! ## Evaluation -/

variable {σ : Type}

/-- The walk looks up the parameters of its tree and nothing else. -/
theorem Expr.eval_congr {expr : Expr} {first second : Environment}
    (agree : Environment.AgreeOn expr.parameterNames first second) (host : Host σ) :
    expr.eval host first = expr.eval host second := by
  induction expr with
  | constant stamp value ty => rfl
  | default stamp ty => rfl
  | parameter stamp name ty =>
      have same : first.lookup name = second.lookup name := agree name (List.mem_singleton_self name)
      rw [eval, eval, Environment.argument_congr same ty]
  | property stamp place => rfl
  | comparison stamp node terms left right leftSame rightSame =>
      rw [parameterNames, leaves, List.filterMap_append] at agree
      rw [eval, eval, leftSame agree.of_append_left, rightSame agree.of_append_right]

theorem Comparison.eval_congr {node : Comparison} {first second : Environment}
    (agree : Environment.AgreeOn node.parameterNames first second) (host : Host σ) :
    node.eval host first = node.eval host second := by
  rw [parameterNames, leaves, List.filterMap_append] at agree
  rw [eval, eval, Expr.eval_congr agree.of_append_left, Expr.eval_congr agree.of_append_right]

/-- In either mode environments that agree on the parameters of a tree, in that each is bound to the
same value or in neither, make its evaluation end in the same way, with the same effects and in the
same state of the host. So histories of bindings do if they can be turned into each other by binding
different names in another order and by adding or leaving out bindings that are later replaced or that
are of names that the tree does not mention. -/
theorem evaluation_depends_on_own_parameters (mode : Mode) (host : Host σ) (before : World σ) :
    (∀ (expr : Expr) {first second : Environment},
      Environment.AgreeOn expr.parameterNames first second →
        EvalM.exec (mode.evalExpr host first expr) before =
          EvalM.exec (mode.evalExpr host second expr) before) ∧
    (∀ (node : Comparison) {first second : Environment},
      Environment.AgreeOn node.parameterNames first second →
        EvalM.exec (mode.evalComparison host first node) before =
          EvalM.exec (mode.evalComparison host second node) before) ∧
    (∀ (expr : Expr) {history changed : List (String × Value)},
      Relation.EqvGen (Environment.Unnoticed expr.parameterNames) history changed →
        EvalM.exec (mode.evalExpr host (Environment.empty.bindAll history) expr) before =
          EvalM.exec (mode.evalExpr host (Environment.empty.bindAll changed) expr) before) ∧
    ∀ (node : Comparison) {history changed : List (String × Value)},
      Relation.EqvGen (Environment.Unnoticed node.parameterNames) history changed →
        EvalM.exec (mode.evalComparison host (Environment.empty.bindAll history) node) before =
          EvalM.exec (mode.evalComparison host (Environment.empty.bindAll changed) node) before := by
  simp only [mode.evalExpr_eq, mode.evalComparison_eq]
  refine ⟨?_, ?_, ?_, ?_⟩
  · intro expr first second agree
    rw [Expr.eval_congr agree]
  · intro node first second agree
    rw [Comparison.eval_congr agree]
  · intro expr history changed unnoticed
    rw [Expr.eval_congr (Environment.agree_of_unnoticed unnoticed .empty)]
  · intro node history changed unnoticed
    rw [Comparison.eval_congr (Environment.agree_of_unnoticed unnoticed .empty)]

/-- A name bound twice, two names bound in another order and a name bound that the tree does not
mention: the tree finds its two parameters different all the same, and it misses a third one that
neither history binds. -/
theorem rebinding_is_not_noticed :
    let five : Value := .int .i32 ⟨5, by decide, by decide⟩
    let seven : Value := .int .i32 ⟨7, by decide, by decide⟩
    let x : Expr := .parameter ⟨0⟩ "x" (.value (.int .i32))
    let y : Expr := .parameter ⟨1⟩ "y" (.value (.int .i32))
    let inner : Comparison := ⟨⟨.notEqual, true, none, none⟩, ⟨2⟩, x, y⟩
    let outer : Comparison :=
      ⟨⟨.equal, true, none, none⟩, ⟨3⟩, inner.toExpr ⟨4⟩, .parameter ⟨5⟩ "flag" .bool⟩
    let host : Host Unit := ⟨fun _ state => (.null, state), fun _ _ _ state => (.null, state),
      fun _ result state => (result.getD false, state)⟩
    let history := [("x", .null), ("y", five), ("x", seven)]
    let changed := [("z", .null), ("x", seven), ("y", five)]
    let ends := fun (node : Comparison) (bindings : List (String × Value)) =>
      (EvalM.exec (Mode.compiled.evalComparison host (Environment.empty.bindAll bindings) node)
        ⟨(), #[]⟩).1
    Relation.EqvGen (Environment.Unnoticed inner.parameterNames) history changed ∧
      Relation.EqvGen (Environment.Unnoticed outer.parameterNames) history changed ∧
      ends inner history = .ok true ∧ ends inner changed = .ok true ∧
      ends outer history = .error (.unboundParameter "flag") ∧
      ends outer changed = .error (.unboundParameter "flag") := by
  intro five seven x y inner outer host history changed ends
  have unnoticed : ∀ names : List String, "z" ∉ names →
      Relation.EqvGen (Environment.Unnoticed names) history changed := by
    intro names absent
    have replaced : Environment.Unnoticed names history [("y", five), ("x", seven)] :=
      .overwritten [] [("y", five), ("x", seven)] .null (by decide)
    have reordered : Environment.Unnoticed names [("y", five), ("x", seven)]
        [("x", seven), ("y", five)] := .reordered [] [] five seven (by decide)
    have added : Environment.Unnoticed names changed [("x", seven), ("y", five)] :=
      .unmentioned [] [("x", seven), ("y", five)] .null absent
    exact .trans _ _ _ (.rel _ _ replaced)
      (.trans _ _ _ (.rel _ _ reordered) (.symm _ _ (.rel _ _ added)))
  have ofInner := unnoticed inner.parameterNames (by decide)
  have ofOuter := unnoticed outer.parameterNames (by decide)
  have answers : ends inner history = .ok true := rfl
  have misses : ends outer history = .error (.unboundParameter "flag") := rfl
  obtain ⟨-, -, -, same⟩ := evaluation_depends_on_own_parameters .compiled host ⟨(), #[]⟩
  refine ⟨ofInner, ofOuter, answers, ?_, misses, ?_⟩
  · exact (congrArg Prod.fst (same inner ofInner)).symm.trans answers
  · exact (congrArg Prod.fst (same outer ofOuter)).symm.trans misses

end EqualityTree
