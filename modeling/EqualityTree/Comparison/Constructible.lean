import EqualityTree.Comparison.Make
import EqualityTree.Comparison.Update
import EqualityTree.Expr.Build

/-!
# Constructible expressions

The expressions that can be built: leaves, and wrapped nodes that were made of constructible
operands and then updated any number of times. A node keeps being constructible whatever it is
wrapped in, so constructibility of a node is that of any expression around it.
-/

namespace EqualityTree

/-- An expression that the functions of this library build. -/
inductive Expr.Constructible : Expr → Prop
  | ofValue (stamp : Stamp) (value : Value) : Constructible (.ofValue stamp value)
  | typedConstant {stamp : Stamp} {value : Value} {ty : Ty} {expr : Expr}
      (accepted : Expr.typedConstant stamp value ty = .ok expr) : Constructible expr
  | default (stamp : Stamp) (ty : Ty) : Constructible (.default stamp ty)
  | parameter (stamp : Stamp) (name : String) (ty : Ty) : Constructible (.parameter stamp name ty)
  | property (stamp : Stamp) (place : Property) : Constructible (.property stamp place)
  | make {stamp wrapper : Stamp} {op : Operator} {left right : Expr} {options : Options}
      {node : Comparison} (leftBuilt : Constructible left) (rightBuilt : Constructible right)
      (made : Comparison.make stamp op (some left) (some right) options = .ok node) :
      Constructible (node.toExpr wrapper)
  | update {stamp old wrapper : Stamp} {node updated : Comparison} {left right : Expr}
      {conversion : Option Conversion} (nodeBuilt : Constructible (node.toExpr old))
      (leftBuilt : Constructible left) (rightBuilt : Constructible right)
      (accepted : node.update stamp left conversion right = .ok updated) :
      Constructible (updated.toExpr wrapper)

/-- A node that can be made and then updated. -/
def Comparison.Constructible (node : Comparison) : Prop :=
  ∃ wrapper, (node.toExpr wrapper).Constructible

end EqualityTree
