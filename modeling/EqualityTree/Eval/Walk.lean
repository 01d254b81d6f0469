import EqualityTree.Eval.Compare

/-!
# Evaluation by walking the tree

The walk evaluates the left operand of a comparison before the right one, and then decides from
the fields of the node which equality compares their values. An error ends the walk.
-/

namespace EqualityTree

variable {σ : Type}

def Expr.eval (host : Host σ) (env : Environment) : Expr → EvalM σ Value
  | constant _ value _ => pure value
  | default _ ty => pure ty.default
  | parameter _ name ty => MonadExcept.ofExcept (env.argument name ty)
  | property _ place => place.value host
  | comparison _ node terms left right => do
      let leftValue ← left.eval host env
      let rightValue ← right.eval host env
      let resolution := (Comparison.mk terms node left right).resolution
      return .bool (← terms.compare host leftValue rightValue resolution)

def Comparison.eval (host : Host σ) (env : Environment) (node : Comparison) : EvalM σ Bool := do
  let left ← node.left.eval host env
  let right ← node.right.eval host env
  node.compare host left right node.resolution

end EqualityTree
