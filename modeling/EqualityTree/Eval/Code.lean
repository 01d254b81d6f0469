import EqualityTree.Eval.Compare

/-!
# Compiled code

A tree is compiled once into code that can be run any number of times. Which equality a node needs
is decided when it is compiled: the code of a comparison holds its test, and running it looks at
no operand type again. Compiling is given no host, so it reads no property and calls nothing. Each
time a node is compiled its code takes a stamp, which tells it from that of another time.
-/

namespace EqualityTree

/-- How the code of a comparison compares two operand values. -/
inductive Test
  | rule (op : Operator) (rule : Rule)
  | liftedRule (op : Operator) (rule : Rule)
  | sameInstance (op : Operator)
  | method (terms : Terms) (method : Method) (lifted : Bool)

inductive Code
  | value (value : Value)
  | argument (name : String) (ty : Ty)
  | read (place : Property)
  | compare (left right : Code) (test : Test)

/-- The test for terms under the equality that applies. -/
def Terms.test (terms : Terms) : Resolution → Test
  | .builtin rule false => .rule terms.op rule
  | .builtin rule true => .liftedRule terms.op rule
  | .reference => .sameInstance terms.op
  | .method method lifted => .method terms method lifted

def Expr.compile : Expr → Code
  | constant _ value _ => .value value
  | default _ ty => .value ty.default
  | parameter _ name ty => .argument name ty
  | property _ place => .read place
  | comparison _ node terms left right =>
      .compare left.compile right.compile
        (terms.test (Comparison.mk terms node left right).resolution)

variable {σ : Type}

def Test.run (host : Host σ) (left right : Value) : Test → EvalM σ Bool
  | rule op chosen => pure (op.apply (chosen.equal left right))
  | liftedRule op chosen => pure (op.apply (chosen.liftedEqual left right))
  | sameInstance op => pure (op.apply (left.sameInstance right))
  | method terms chosen lifted => terms.compareBy host chosen lifted left right

def Code.run (host : Host σ) (env : Environment) : Code → EvalM σ Value
  | value known => pure known
  | argument name ty => MonadExcept.ofExcept (env.argument name ty)
  | read place => place.value host
  | compare left right test => do
      let leftValue ← left.run host env
      let rightValue ← right.run host env
      return .bool (← test.run host leftValue rightValue)

structure CompiledExpr where
  code : Code
  ty : Ty

structure CompiledComparison where
  stamp : Stamp
  left : Code
  right : Code
  test : Test
  op : Operator

namespace CompiledExpr

def ofExpr (expr : Expr) : CompiledExpr := ⟨expr.compile, expr.ty⟩

def invoke (compiled : CompiledExpr) (host : Host σ) (env : Environment) : EvalM σ Value :=
  compiled.code.run host env

def structureText (compiled : CompiledExpr) : String :=
  "CompiledExpr \x7b ty: " ++ compiled.ty.structureText ++ ", .. \x7d"

end CompiledExpr

namespace CompiledComparison

/-- The compiled form of a node, under a stamp. -/
def ofNode (stamp : Stamp) (node : Comparison) : CompiledComparison :=
  ⟨stamp, node.left.compile, node.right.compile, node.test node.resolution, node.op⟩

/-- Compiles a node, which draws the stamp of its code. -/
def compile (node : Comparison) : StateM Stamp CompiledComparison := do
  let stamp ← Stamp.draw
  return ofNode stamp node

def invoke (compiled : CompiledComparison) (host : Host σ) (env : Environment) : EvalM σ Bool := do
  let left ← compiled.left.run host env
  let right ← compiled.right.run host env
  compiled.test.run host left right

def structureText (compiled : CompiledComparison) : String :=
  let op := match compiled.op with
    | .equal => "Equal"
    | .notEqual => "NotEqual"
  "CompiledComparison \x7b op: " ++ op ++ ", .. \x7d"

end CompiledComparison

end EqualityTree
