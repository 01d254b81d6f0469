import EqualityTree.Comparison.Update
import EqualityTree.Expr.Parts

/-!
# Rewriting trees

Trees are immutable, so another part at some place means new nodes from there up to the root. Each
is the old node updated with its rebuilt operand, its own conversion and its other operand, and it is
wrapped anew.
-/

namespace EqualityTree

def Comparison.withOperand (node : Comparison) (stamp : Stamp) (operand : Expr) :
    Side → Except ConstructionError Comparison
  | .left => node.update stamp operand node.conversion node.right
  | .right => node.update stamp node.left node.conversion operand

/-- The tree with another part at the end of the path. What is rebuilt at a height above that place
receives the stamps for the height, one for the node and one for its wrapper. A path that leads out
of the tree changes nothing. -/
def Expr.rewriteAt (fresh : Nat → Stamp × Stamp) (part : Expr) :
    List Side → Expr → Except ConstructionError Expr
  | [], _ => .ok part
  | side :: path, expr =>
      match expr.node? with
      | none => .ok expr
      | some node => do
          let operand ← rewriteAt fresh part path (node.operand side)
          let updated ← node.withOperand (fresh path.length).1 operand side
          return updated.toExpr (fresh path.length).2

end EqualityTree
