import EqualityTree.Proofs.Construction
import EqualityTree.Proofs.Execution

/-!
# Compiled code and the walk

Compiled code decides once which equality a node needs, and the walk decides it at every
evaluation. Both evaluate operands in the same order and compare their values in the same way, so
they agree as evaluations: on the outcome, on every effect and on the world they leave. Compiling
has no effect of its own.
-/

namespace EqualityTree

variable {σ α : Type}

/-- The test that a node is compiled to compares as the walk does for the same equality. -/
theorem Terms.run_test (terms : Terms) (host : Host σ) (left right : Value)
    (resolution : Resolution) :
    (terms.test resolution).run host left right = terms.compare host left right resolution := by
  cases resolution with
  | builtin rule lifted => cases lifted <;> rfl
  | reference => rfl
  | method method lifted => rfl

theorem Expr.run_compile (expr : Expr) (host : Host σ) (env : Environment) :
    expr.compile.run host env = expr.eval host env := by
  induction expr with
  | constant stamp value ty => rfl
  | default stamp ty => rfl
  | parameter stamp name ty => rfl
  | property stamp place => rfl
  | comparison stamp node terms left right leftAgrees rightAgrees =>
      simp only [Expr.compile, Code.run, Expr.eval, leftAgrees, rightAgrees, Terms.run_test]

theorem CompiledExpr.invoke_ofExpr (expr : Expr) (host : Host σ) (env : Environment) :
    (CompiledExpr.ofExpr expr).invoke host env = expr.eval host env :=
  expr.run_compile host env

theorem CompiledComparison.invoke_ofNode (stamp : Stamp) (node : Comparison) (host : Host σ)
    (env : Environment) :
    (CompiledComparison.ofNode stamp node).invoke host env = node.eval host env := by
  simp only [CompiledComparison.invoke, CompiledComparison.ofNode, Comparison.eval,
    Expr.run_compile, Terms.run_test]

namespace Mode

theorem evalExpr_eq (mode : Mode) (host : Host σ) (env : Environment) (expr : Expr) :
    mode.evalExpr host env expr = expr.eval host env := by
  cases mode with
  | compiled => exact CompiledExpr.invoke_ofExpr expr host env
  | interpreted => rfl

theorem evalComparison_eq (mode : Mode) (host : Host σ) (env : Environment) (node : Comparison) :
    mode.evalComparison host env node = node.eval host env := by
  cases mode with
  | compiled => exact CompiledComparison.invoke_ofNode _ node host env
  | interpreted => rfl

end Mode

/-- Evaluates in one environment after another and collects how each evaluation ends. One that
fails does not keep the next from starting. -/
def EvalM.inTurn (evaluate : Environment → EvalM σ α) (envs : List Environment) :
    StateM (World σ) (List (Except EvalError α)) :=
  envs.mapM fun env => (evaluate env).run

/-- Code that is compiled once does for every host, in every environment and from every world,
exactly what a walk does: it ends with the same value or error, has the same effects with the same
arguments in the same order, and leaves the host in the same state. So it does if it is invoked any
number of times. The code is that of the tree alone, given before there is a host, so compiling reads
no property and calls nothing. -/
theorem compiled_code_agrees_with_walk (expr : Expr) (node : Comparison) (stamp : Stamp) :
    let compiledExpr := CompiledExpr.ofExpr expr
    let compiledNode := CompiledComparison.ofNode stamp node
    ∀ {σ : Type} (host : Host σ),
      (∀ env before,
        EvalM.exec (compiledExpr.invoke host env) before = EvalM.exec (expr.eval host env) before) ∧
      (∀ env before,
        EvalM.exec (compiledNode.invoke host env) before = EvalM.exec (node.eval host env) before) ∧
      (∀ envs before,
        (EvalM.inTurn (compiledExpr.invoke host) envs).run before =
          (EvalM.inTurn (expr.eval host) envs).run before) ∧
      ∀ envs before,
        (EvalM.inTurn (compiledNode.invoke host) envs).run before =
          (EvalM.inTurn (node.eval host) envs).run before := by
  intro compiledExpr compiledNode σ host
  have exprAgrees : compiledExpr.invoke host = expr.eval host :=
    funext (CompiledExpr.invoke_ofExpr expr host)
  have nodeAgrees : compiledNode.invoke host = node.eval host :=
    funext (CompiledComparison.invoke_ofNode stamp node host)
  rw [exprAgrees, nodeAgrees]
  exact ⟨fun _ _ => rfl, fun _ _ => rfl, fun _ _ => rfl, fun _ _ => rfl⟩

end EqualityTree
