import EqualityTree.Comparison.Update
import EqualityTree.Expr.Render
import EqualityTree.Session.Methods

/-!
# Commands on expressions and nodes

Commands that build expressions and comparison nodes, wrap a node many times over, and update one.
-/

namespace EqualityTree

/-- An expression as answers show it; a constant comes with its value. -/
structure ShownExpr where
  expr : Expr
  constant : Option Shown

structure Updated where
  before : Comparison
  after : Comparison

namespace Updated

def sameNode (updated : Updated) : Bool := updated.after = updated.before

def sameLeft (updated : Updated) : Bool := updated.after.left = updated.before.left

def sameRight (updated : Updated) : Bool := updated.after.right = updated.before.right

def sameConversion (updated : Updated) : Bool :=
  updated.after.conversion = updated.before.conversion

end Updated

namespace Session

def nameNode (id : Option String) (node : Comparison) : SessionM Unit :=
  match id with
  | none => pure ()
  | some id => modify fun session => { session with nodes := session.nodes.insert id node }

def nameExpr (id : Option String) (expr : Expr) : SessionM Unit :=
  match id with
  | none => pure ()
  | some id => modify fun session => { session with exprs := session.exprs.insert id expr }

def showExpr (spec : ExprSpec) (id : Field String) : SessionM ShownExpr := do
  let expr ← expr spec
  nameExpr (← id.optional) expr
  match expr with
  | .constant _ value _ => return ⟨expr, some (← shown value)⟩
  | _ => return ⟨expr, none⟩

/-- Makes a comparison and, where an id is given, names it. What is wrong with the comparison counts
before what is wrong with the id. -/
def makeNode (op : Field Operator) (left right : ExprSpec) (method : Field String)
    (general lift : Field Bool) (id : Field String) : SessionM Comparison := do
  let op ← op.required
  let left ← operand left
  let right ← operand right
  let options ← options method general lift
  let node ← built (Comparison.make (← drawStamp) op left right options)
  nameNode (← id.optional) node
  return node

def wrap (other : Expr) (onRight : Bool) (node : Comparison) (op : Operator) :
    SessionM Comparison := do
  let inner := node.toExpr (← drawStamp)
  let (left, right) := if onRight then (other, inner) else (inner, other)
  built (Comparison.make (← drawStamp) op left right .default)

/-- The operator at a place in the endless repetition of a list. -/
def operatorAt (first : Operator) (rest : List Operator) (index : Nat) : Operator :=
  (first :: rest)[index % (rest.length + 1)]?.getD first

/-- Wraps a node as often as asked, each time with the next operator of the list. The first
comparison that cannot be made ends it, however often is asked. -/
def nest (id : Field String) (other : ExprSpec) (ops : Field (List (Field Operator)))
    (onRight : Field Bool) (depth : Field Nat) (newId : Field String) : SessionM Comparison := do
  let node ← find Session.nodes id
  let other ← expr other
  match ← (← ops.required).mapM Field.required with
  | [] => refuse
  | first :: rest =>
      let onRight := (← onRight.optional).getD false
      let depth ← depth.required
      let nested ← depth.foldM
        (fun index _ inner => wrap other onRight inner (operatorAt first rest index)) node
      nameNode (some (← newId.required)) nested
      return nested

def updateNode (id : Field String) (left right : ExprSpec) (conversionSpec : ConversionSpec)
    (newId : Field String) : SessionM Updated := do
  let node ← find Session.nodes id
  let left ← expr left
  let right ← expr right
  let conversion ← conversion conversionSpec
  let updated ← built (node.update (← drawStamp) left conversion right)
  nameNode (← newId.optional) updated
  return ⟨node, updated⟩

def describedProperty (spec : ExprSpec) : SessionM Property := do
  match ← expr spec with
  | .property _ place => return place
  | _ => refuse

end Session

end EqualityTree
