import EqualityTree.Comparison.Resolution

/-!
# Making comparisons

A node is made only of operands that are present and readable and whose types resolve. The checks
run in that order, the left operand before the right, and the first failure is the answer. A node
whose method call is lifted receives the default conversion, and no other node receives one.
-/

namespace EqualityTree

structure Options where
  liftToNull : Bool
  method : Option Method

def Options.default : Options := ⟨true, none⟩

def Expr.readableOperand (side : Side) : Option Expr → Except ConstructionError Expr
  | none => .error (.nullOperand side)
  | some operand => if operand.isReadable then .ok operand else .error (.unreadableOperand side)

/-- The conversion that a new node of this resolution receives. -/
def Resolution.newConversion (stamp : Stamp) : Resolution → Option Conversion
  | .method _ true => some (.nullAsFalse stamp)
  | _ => none

/-- The comparison of two operands. Its stamp is also that of the default conversion, so every
node has a default conversion of its own. -/
def Comparison.make (stamp : Stamp) (op : Operator) (left right : Option Expr)
    (options : Options) : Except ConstructionError Comparison := do
  let left ← Expr.readableOperand .left left
  let right ← Expr.readableOperand .right right
  match Resolution.resolve op left.ty right.ty options.method with
  | .error mismatch => throw (.mismatch mismatch)
  | .ok resolution =>
      return ⟨⟨op, options.liftToNull, options.method, resolution.newConversion stamp⟩,
        stamp, left, right⟩

end EqualityTree
