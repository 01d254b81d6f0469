import EqualityTree.Expr.Basic
import EqualityTree.Expr.Error

/-!
# The parts of a tree

The leaves and the nodes that an expression is built of, the order in which evaluation comes to them,
and the part that stands at a place. A shared part is listed once for every place where it stands, and
a place is a path of sides from the root.
-/

namespace EqualityTree

def Comparison.operand (node : Comparison) : Side → Expr
  | .left => node.left
  | .right => node.right

namespace Expr

def leaves : Expr → List Expr
  | comparison _ _ _ left right => left.leaves ++ right.leaves
  | leaf => [leaf]

/-- The nodes, each before those of its operands. -/
def nodes : Expr → List Comparison
  | comparison _ node terms left right => ⟨terms, node, left, right⟩ :: (left.nodes ++ right.nodes)
  | _ => []

/-- The parts from left to right, each node after the parts of both of its operands. -/
def postorder : Expr → List Expr
  | comparison stamp node terms left right =>
      left.postorder ++ (right.postorder ++ [comparison stamp node terms left right])
  | leaf => [leaf]

def place? : Expr → Option Property
  | property _ place => some place
  | _ => none

def parameterName? : Expr → Option String
  | parameter _ name _ => some name
  | _ => none

def parameterNames (expr : Expr) : List String := expr.leaves.filterMap parameterName?

/-- The part at the end of the path; the empty path ends at the expression itself. -/
def subtree? : List Side → Expr → Option Expr
  | [], expr => some expr
  | side :: path, expr => expr.node?.bind fun node => subtree? path (node.operand side)

end Expr

namespace Comparison

def leaves (node : Comparison) : List Expr := node.left.leaves ++ node.right.leaves

def nodes (node : Comparison) : List Comparison := node :: (node.left.nodes ++ node.right.nodes)

def parameterNames (node : Comparison) : List String := node.leaves.filterMap Expr.parameterName?

end Comparison

@[simp] theorem Expr.leaves_toExpr (node : Comparison) (stamp : Stamp) :
    (node.toExpr stamp).leaves = node.leaves :=
  rfl

@[simp] theorem Expr.nodes_toExpr (node : Comparison) (stamp : Stamp) :
    (node.toExpr stamp).nodes = node.nodes :=
  rfl

end EqualityTree
