import EqualityTree.Expr.Basic
import EqualityTree.Expr.Error
import EqualityTree.Value.Rule

/-!
# Resolution

Resolution decides which equality compares two operands: a built-in rule, identity of instances,
or a method, the first and the last possibly lifted over nullable operands. It is decided from the
operand types when a node is built, and again from the fields of the finished node whenever the
node is evaluated or compiled.
-/

namespace EqualityTree

/-- The equality that applies to a comparison. -/
inductive Resolution
  | builtin (rule : Rule) (lifted : Bool)
  | reference
  | method (method : Method) (lifted : Bool)
deriving DecidableEq

def Ty.builtinResolution : Ty → Resolution
  | value ty => .builtin ty.rule false
  | nullable ty => .builtin ty.rule true
  | ref _ => .reference

namespace Resolution

def pathName : Resolution → String
  | builtin _ false => "builtin"
  | builtin _ true => "lifted builtin"
  | reference => "reference"
  | method _ false => "method"
  | method _ true => "lifted method"

/-- The built-in equality: the operand types are the same, or both are reference types of which
one accepts the other. -/
def builtin? (op : Operator) (left right : Ty) : Except Mismatch Resolution :=
  if left = right then .ok left.builtinResolution
  else if left.isReference && right.isReference && (left.accepts right || right.accepts left) then
    .ok .reference
  else .error (.noBuiltinEquality op left right)

/-- Whether a parameter takes an operand at all, directly or unwrapped. -/
def fits (param operand : Ty) : Bool := param.accepts operand || operand.liftsInto param

/-- The operand to blame where a method of two parameters takes its operands neither directly nor
lifted: the first that its parameter does not take at all. Where one parameter takes its operand
only directly and the other only unwrapped, it is the one that is not nullable, for lifting needs
both. -/
def blame (leftParam rightParam left right : Ty) : Side :=
  if !fits leftParam left then .left
  else if !fits rightParam right then .right
  else if !left.isNullable then .left
  else .right

/-- The equality of a method: it declares two parameters and returns a truth value, and each
parameter accepts its operand, or each unwraps it. -/
def method? (method : Method) (left right : Ty) : Except Mismatch Resolution :=
  match method.params with
  | [leftParam, rightParam] =>
      if method.returns = .bool then
        if leftParam.accepts left && rightParam.accepts right then .ok (.method method false)
        else if method.liftsOver left right then .ok (.method method true)
        else
          match blame leftParam rightParam left right with
          | .left => .error (.methodOperand method.name .left leftParam left)
          | .right => .error (.methodOperand method.name .right rightParam right)
      else .error (.methodReturn method.name method.returns)
  | params => .error (.methodArity method.name params.length)

def resolve (op : Operator) (left right : Ty) : Option Method → Except Mismatch Resolution
  | some chosen => method? chosen left right
  | none => builtin? op left right

end Resolution

/-- The equality of a finished node, from its own fields. -/
def Comparison.resolution (node : Comparison) : Resolution :=
  match node.method with
  | some method => .method method node.isLifted
  | none =>
      if node.left.ty.isReference || node.right.ty.isReference then .reference
      else node.left.ty.builtinResolution

end EqualityTree
