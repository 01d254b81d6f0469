import EqualityTree.Method
import EqualityTree.Operator
import EqualityTree.Value.Basic

/-!
# Expressions

An expression is a constant, the default of a type, a parameter, a property or a comparison of two
expressions. Expressions are immutable and may be shared, and each carries the stamp of its
making. A comparison node has a stamp of its own, because one node may be wrapped in several
expressions.
-/

namespace EqualityTree

/-- A place `owner.name`. A property without a getter can be written but not read. -/
structure Property where
  owner : String
  name : String
  ty : Ty
  getter : Option Stamp
deriving DecidableEq

def Property.isReadable (property : Property) : Bool := property.getter.isSome

/-- How a node compares the values of its operands. -/
structure Terms where
  op : Operator
  /-- Whether a null operand makes a lifted call answer nothing instead of comparing nullness. -/
  liftToNull : Bool
  method : Option Method
  conversion : Option Conversion
deriving DecidableEq

inductive Expr
  | constant (stamp : Stamp) (value : Value) (ty : Ty)
  | default (stamp : Stamp) (ty : Ty)
  | parameter (stamp : Stamp) (name : String) (ty : Ty)
  | property (stamp : Stamp) (place : Property)
  | comparison (stamp node : Stamp) (terms : Terms) (left right : Expr)
deriving DecidableEq

/-- A comparison node: two operands and the terms on which their values are compared. -/
structure Comparison extends Terms where
  stamp : Stamp
  left : Expr
  right : Expr
deriving DecidableEq

def Comparison.toExpr (node : Comparison) (stamp : Stamp) : Expr :=
  .comparison stamp node.stamp node.toTerms node.left node.right

namespace Expr

def node? : Expr → Option Comparison
  | comparison _ node terms left right => some ⟨terms, node, left, right⟩
  | _ => none

/-- The static type of the value. A comparison answers a truth value, never a nullable one. -/
def ty : Expr → Ty
  | constant _ _ ty => ty
  | default _ ty => ty
  | parameter _ _ ty => ty
  | property _ place => place.ty
  | comparison _ _ _ _ _ => .bool

/-- Whether evaluation yields a value: only a property without a getter does not. -/
def isReadable : Expr → Bool
  | property _ place => place.isReadable
  | _ => true

/-- Whether the expression stands for simpler ones. No expression does. -/
def canReduce : Expr → Bool := fun _ => false

/-- The expression in its simpler form; one that cannot be reduced is its own. -/
def reduce (expr : Expr) : Expr := expr

@[simp] theorem ty_toExpr (node : Comparison) (stamp : Stamp) :
    (node.toExpr stamp).ty = .bool :=
  rfl

@[simp] theorem isReadable_toExpr (node : Comparison) (stamp : Stamp) :
    (node.toExpr stamp).isReadable = true :=
  rfl

@[simp] theorem node?_toExpr (node : Comparison) (stamp : Stamp) :
    (node.toExpr stamp).node? = some node :=
  rfl

end Expr

namespace Comparison

/-- Whether the method is called on unwrapped operands. -/
def isLifted (node : Comparison) : Bool :=
  match node.method with
  | some method => method.liftsOver node.left.ty node.right.ty
  | none => false

def canReduce : Comparison → Bool := fun _ => false

end Comparison

end EqualityTree
