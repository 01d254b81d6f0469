import EqualityTree.Comparison.Resolution

/-!
# Updating comparisons

An update replaces the operands and the conversion of a node and keeps its other terms. An update
with the node's own parts is the node itself. A replacement must be readable and of the type of
the operand it replaces; a reference operand may be replaced by any that its type accepts. A
conversion is allowed only where the method call is lifted.
-/

namespace EqualityTree

/-- Whether the operand may take the place of the current one. The current operand itself needs
no check. -/
def Expr.checkReplacement (side : Side) (current replacement : Expr) :
    Except ConstructionError Unit :=
  if current = replacement then .ok ()
  else if !replacement.isReadable then .error (.unreadableOperand side)
  else if current.ty = replacement.ty ||
      (current.ty.isReference && current.ty.accepts replacement.ty) then .ok ()
  else .error (.mismatch (.updateOperand side current.ty replacement.ty))

/-- The node with these operands and this conversion. Any other node than this one itself is a new
one with the given stamp. -/
def Comparison.update (node : Comparison) (stamp : Stamp) (left : Expr)
    (conversion : Option Conversion) (right : Expr) : Except ConstructionError Comparison :=
  if left = node.left ∧ right = node.right ∧ conversion = node.conversion then .ok node
  else do
    Expr.checkReplacement .left node.left left
    Expr.checkReplacement .right node.right right
    let updated : Comparison :=
      ⟨⟨node.op, node.liftToNull, node.method, conversion⟩, stamp, left, right⟩
    if conversion.isSome && !updated.isLifted then throw (.mismatch .conversionNotAllowed)
    return updated

/-- A node updated with its own parts is the node itself. -/
@[simp] theorem Comparison.update_self (stamp : Stamp) (node : Comparison) :
    node.update stamp node.left node.conversion node.right = .ok node :=
  if_pos ⟨rfl, rfl, rfl⟩

end EqualityTree
