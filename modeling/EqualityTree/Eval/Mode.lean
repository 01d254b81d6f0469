import EqualityTree.Eval.Code
import EqualityTree.Eval.Walk

/-!
# Modes of evaluation

An expression or a node is evaluated by running its compiled code or by walking the tree.
-/

namespace EqualityTree

inductive Mode
  | compiled
  | interpreted
deriving DecidableEq

namespace Mode

def default : Mode := compiled

variable {σ : Type}

def evalExpr (mode : Mode) (host : Host σ) (env : Environment) (expr : Expr) : EvalM σ Value :=
  match mode with
  | compiled => (CompiledExpr.ofExpr expr).invoke host env
  | interpreted => expr.eval host env

def evalComparison (mode : Mode) (host : Host σ) (env : Environment) (node : Comparison) :
    EvalM σ Bool :=
  match mode with
  -- The code is kept nowhere, so any stamp will do.
  | compiled => (CompiledComparison.ofNode ⟨0⟩ node).invoke host env
  | interpreted => node.eval host env

end Mode

end EqualityTree
