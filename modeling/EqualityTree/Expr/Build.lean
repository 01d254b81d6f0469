import EqualityTree.Expr.Basic
import EqualityTree.Expr.Error

/-!
# Building leaves

A constant takes the most specific type of its value, or a declared type that the value inhabits.
The other leaves are always accepted. Reduction is refused of every expression, because none
stands for simpler ones.
-/

namespace EqualityTree.Expr

/-- The constant typed by its value. -/
def ofValue (stamp : Stamp) (value : Value) : Expr := .constant stamp value value.naturalTy

/-- The constant of a declared type, which the value must inhabit. -/
def typedConstant (stamp : Stamp) (value : Value) (ty : Ty) : Except ConstructionError Expr :=
  if value.inhabits ty then .ok (.constant stamp value ty)
  else .error (.mismatch (.constantType value.naturalTy ty))

def reduceAndCheck (expr : Expr) : Except ConstructionError Expr :=
  if expr.canReduce then .ok expr.reduce else .error .mustBeReducible

end EqualityTree.Expr
