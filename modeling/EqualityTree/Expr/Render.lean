import EqualityTree.Expr.Basic
import EqualityTree.Value.Text

/-!
# The text of an expression

A comparison is written in parentheses with its operator between the operands, so the text of a
tree shows its shape. A constant is written as its value, a property with its owner.
-/

namespace EqualityTree

def Property.structureText (place : Property) : String :=
  "Property \x7b owner: " ++ Text.quoteName place.owner ++ ", name: " ++
    Text.quoteName place.name ++ ", ty: " ++ place.ty.structureText ++ ", readable: " ++
    (if place.isReadable then "true" else "false") ++ " \x7d"

/-- The text of a node whose operands are written already. -/
def Operator.renderBetween (op : Operator) (left right : String) : String :=
  "(" ++ left ++ " " ++ op.symbol ++ " " ++ right ++ ")"

namespace Expr

/-- A text with the text of an expression after it. Each piece is written once, at the end of what
is there. -/
def renderOnto (before : String) : Expr → String
  | constant _ value _ => before ++ value.text
  | default _ ty => before ++ ("default(" ++ ty.name ++ ")")
  | parameter _ name _ => before ++ name
  | property _ place => before ++ (place.owner ++ "." ++ place.name)
  | comparison _ _ terms left right =>
      right.renderOnto (left.renderOnto (before ++ "(") ++ " " ++ terms.op.symbol ++ " ") ++ ")"

def render (expr : Expr) : String := expr.renderOnto ""

/-- What stands before an expression does not change its text. -/
theorem renderOnto_eq_append (before : String) (expr : Expr) :
    expr.renderOnto before = before ++ expr.render := by
  unfold render
  induction expr generalizing before with
  | constant _ _ _ => simp [renderOnto]
  | default _ _ => simp [renderOnto]
  | parameter _ _ _ => simp [renderOnto]
  | property _ _ => simp [renderOnto]
  | comparison _ _ terms left right left_ih right_ih =>
      simp only [renderOnto, right_ih (_ ++ " "), left_ih (_ ++ "(")]
      simp [String.append_assoc]

@[simp] theorem render_constant (stamp : Stamp) (value : Value) (ty : Ty) :
    (constant stamp value ty).render = value.text := by
  simp [render, renderOnto]

@[simp] theorem render_default (stamp : Stamp) (ty : Ty) :
    (default stamp ty).render = "default(" ++ ty.name ++ ")" := by
  simp [render, renderOnto]

@[simp] theorem render_parameter (stamp : Stamp) (name : String) (ty : Ty) :
    (parameter stamp name ty).render = name := by
  simp [render, renderOnto]

@[simp] theorem render_property (stamp : Stamp) (place : Property) :
    (property stamp place).render = place.owner ++ "." ++ place.name := by
  simp [render, renderOnto]

/-- The operands stand in the text of a comparison as they stand alone. -/
@[simp] theorem render_comparison (stamp node : Stamp) (terms : Terms) (left right : Expr) :
    (comparison stamp node terms left right).render =
      terms.op.renderBetween left.render right.render := by
  rw [render, renderOnto, renderOnto_eq_append, renderOnto_eq_append]
  simp [Operator.renderBetween, String.append_assoc]

end Expr

def Comparison.render (node : Comparison) : String :=
  node.right.renderOnto (node.left.renderOnto "(" ++ " " ++ node.op.symbol ++ " ") ++ ")"

/-- A node has the text of an expression that wraps it. -/
@[simp] theorem Expr.render_toExpr (node : Comparison) (stamp : Stamp) :
    (node.toExpr stamp).render = node.render := by
  simp [Comparison.toExpr, Comparison.render, Operator.renderBetween, Expr.renderOnto_eq_append,
    String.append_assoc]

end EqualityTree
