import EqualityTree.Operator
import EqualityTree.Ty.Basic

/-!
# Why an expression is refused

The causes for which building or updating an expression fails, and their wording. Types are
worded by their names.
-/

namespace EqualityTree

inductive Side
  | left
  | right
deriving DecidableEq

def Side.name : Side → String
  | left => "left"
  | right => "right"

inductive Mismatch
  | noBuiltinEquality (op : Operator) (left right : Ty)
  | methodArity (method : String) (count : Nat)
  | methodReturn (method : String) (returns : Ty)
  | methodOperand (method : String) (side : Side) (param operand : Ty)
  | conversionNotAllowed
  | constantType (value ty : Ty)
  | updateOperand (side : Side) (expected found : Ty)
deriving DecidableEq

inductive ConstructionError
  | nullOperand (side : Side)
  | unreadableOperand (side : Side)
  | mismatch (cause : Mismatch)
  | mustBeReducible
deriving DecidableEq

namespace Mismatch

def side? : Mismatch → Option Side
  | methodOperand _ side _ _ => some side
  | updateOperand side _ _ => some side
  | _ => none

def message : Mismatch → String
  | noBuiltinEquality op left right =>
      "the binary operator " ++ op.symbol ++ " is not defined for the types '" ++ left.name ++
        "' and '" ++ right.name ++ "'"
  | methodArity method count =>
      "equality method '" ++ method ++ "' must take exactly 2 parameters, found " ++ count.repr
  | methodReturn method returns =>
      "equality method '" ++ method ++ "' must return 'bool', found '" ++ returns.name ++ "'"
  | methodOperand method side param operand =>
      side.name ++ " operand of type '" ++ operand.name ++ "' does not match parameter type '" ++
        param.name ++ "' of '" ++ method ++ "'"
  | conversionNotAllowed =>
      "a conversion is only allowed on a lifted comparison with an equality method"
  | constantType value ty =>
      "value of type '" ++ value.name ++ "' cannot be stored as '" ++ ty.name ++ "'"
  | updateOperand side expected found =>
      "replacement " ++ side.name ++ " operand has type '" ++ found.name ++ "', expected '" ++
        expected.name ++ "'"

end Mismatch

namespace ConstructionError

def side? : ConstructionError → Option Side
  | nullOperand side => some side
  | unreadableOperand side => some side
  | mismatch cause => cause.side?
  | mustBeReducible => none

def message : ConstructionError → String
  | nullOperand side => side.name ++ " operand is missing"
  | unreadableOperand side => side.name ++ " operand must be readable"
  | mismatch cause => cause.message
  | mustBeReducible => "expression must be reducible"

end ConstructionError

end EqualityTree
