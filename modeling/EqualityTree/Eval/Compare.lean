import EqualityTree.Comparison.Resolution
import EqualityTree.Eval.Environment
import EqualityTree.Eval.World

/-!
# Comparing operand values

How the values of two operands are compared once it is known which equality applies. Built-in
rules and identity answer whether the values are equal, and the operator comes last. On the path
of a method the operator comes before the conversion, and it does not apply at all where a null
operand makes a lifted call answer nothing, so both operators then answer the same.
-/

namespace EqualityTree

variable {σ : Type}

/-- The value of a property, which must have a getter and be of its declared type. -/
def Property.value (place : Property) (host : Host σ) : EvalM σ Value :=
  if place.isReadable then do
    let value ← host.readProperty place
    if value.inhabits place.ty then return value
    else throw (.propertyTypeMismatch place.owner place.name place.ty value.naturalTy)
  else throw (.unreadableProperty place.owner place.name)

/-- The comparison by a method. A lifted call never gives null to the method: a null operand makes
it answer nothing where the node lifts to null, and otherwise null equals null alone. -/
def Terms.compareBy (terms : Terms) (host : Host σ) (method : Method) (lifted : Bool)
    (left right : Value) : EvalM σ Bool :=
  if lifted && (left.isNull || right.isNull) then
    if terms.liftToNull then host.applyConversion terms.conversion none
    else pure (terms.op.apply (left.isNull && right.isNull))
  else do
    let result ← host.callMethod method left right
    match result.asBool? with
    | none => throw (.methodReturnedNonBool method.name result.naturalTy)
    | some equal =>
        if lifted then host.applyConversion terms.conversion (some (terms.op.apply equal))
        else return terms.op.apply equal

def Terms.compare (terms : Terms) (host : Host σ) (left right : Value) :
    Resolution → EvalM σ Bool
  | .builtin rule false => pure (terms.op.apply (rule.equal left right))
  | .builtin rule true => pure (terms.op.apply (rule.liftedEqual left right))
  | .reference => pure (terms.op.apply (left.sameInstance right))
  | .method method lifted => terms.compareBy host method lifted left right

end EqualityTree
