import EqualityTree.Ty.Basic

/-!
# Why an evaluation fails

The rules of equality are total. An evaluation fails at a leaf, because what the parameter or the
property yields is missing or of a wrong type, or at a method that breaks its declaration.
-/

namespace EqualityTree

inductive EvalError
  | unboundParameter (name : String)
  | argumentTypeMismatch (name : String) (expected found : Ty)
  | unreadableProperty (owner name : String)
  | propertyTypeMismatch (owner name : String) (expected found : Ty)
  | methodReturnedNonBool (method : String) (found : Ty)
deriving DecidableEq

def EvalError.message : EvalError → String
  | unboundParameter name => "parameter '" ++ name ++ "' is not bound"
  | argumentTypeMismatch name expected found =>
      "parameter '" ++ name ++ "' expects a value of type '" ++ expected.name ++ "', got '" ++
        found.name ++ "'"
  | unreadableProperty owner name =>
      "property '" ++ owner ++ "." ++ name ++ "' cannot be read"
  | propertyTypeMismatch owner name expected found =>
      "property '" ++ owner ++ "." ++ name ++ "' is declared '" ++ expected.name ++
        "' but produced '" ++ found.name ++ "'"
  | methodReturnedNonBool method found =>
      "equality method '" ++ method ++ "' returned '" ++ found.name ++ "' instead of 'bool'"

end EqualityTree
