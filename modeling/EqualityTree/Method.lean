import EqualityTree.Text.Quoted
import EqualityTree.Ty.Structure

/-!
# Equality methods and conversions

A method is an equality of the user's own: here its identity, its name and the signature that it
declares. A conversion turns the result of a lifted method call into a truth value. What a method
or a named conversion answers belongs to the host that runs it, not to the tree that mentions it.
-/

namespace EqualityTree

/-- An equality method, as it is declared. -/
structure Method where
  stamp : Stamp
  name : String
  params : List Ty
  returns : Ty
deriving DecidableEq

namespace Method

/-- The method of two parameters of one type that returns a truth value. -/
def predicate (stamp : Stamp) (name : String) (param : Ty) : Method :=
  ⟨stamp, name, [param, param], .bool⟩

/-- Whether a call on operands of these types is lifted: both operands are unwrapped for their
parameters. -/
def liftsOver (method : Method) (left right : Ty) : Bool :=
  match method.params with
  | [leftParam, rightParam] => left.liftsInto leftParam && right.liftsInto rightParam
  | _ => false

def structureText (method : Method) : String :=
  "UserMethod \x7b name: " ++ Text.quoteName method.name ++ ", params: [" ++
    ", ".intercalate (method.params.map Ty.structureText) ++ "], returns: " ++
    method.returns.structureText ++ ", .. \x7d"

end Method

/-- A conversion of the result of a lifted call: the answer of the method in the sense of the
operator, or nothing where a null operand kept the method from being called. -/
inductive Conversion
  /-- Passes an answer through and takes nothing for false. -/
  | nullAsFalse (stamp : Stamp)
  /-- A conversion of the user's own. -/
  | named (stamp : Stamp) (name : String)
deriving DecidableEq

namespace Conversion

def name : Conversion → String
  | nullAsFalse _ => "null_as_false"
  | named _ name => name

def structureText (conversion : Conversion) : String :=
  "Conversion \x7b name: " ++ Text.quoteName conversion.name ++ ", .. \x7d"

end Conversion

end EqualityTree
