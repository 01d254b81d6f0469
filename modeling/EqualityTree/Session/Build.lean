import EqualityTree.Comparison.Make
import EqualityTree.Expr.Build
import EqualityTree.Session.State

/-!
# Building what commands describe

Types, values, expressions and environments from their descriptions. Parts are built in the order
in which a description lists them, from left to right and inside out, and the first failure of any
part is the failure of the whole.
-/

namespace EqualityTree.Session

def plainTypes : List ValueTy :=
  [.bool, .char, .int .i8, .int .i16, .int .i32, .int .i64, .int .u8, .int .u16, .int .u32,
    .int .u64, .float .single, .float .double, .decimal]

def baseType? (session : Session) (name : List Char) : Option Ty :=
  match name with
  | 'e' :: 'n' :: 'u' :: 'm' :: ':' :: id =>
      (session.enums.get? (String.ofList id)).map fun ty => .value (.enum ty)
  | 'c' :: 'l' :: 'a' :: 's' :: 's' :: ':' :: id =>
      (session.classes.get? (String.ofList id)).map fun ty => .ref (.cls ty)
  | ['s', 't', 'r'] => some (.ref .str)
  | ['o', 'b', 'j', 'e', 'c', 't'] => some .object
  | name => (plainTypes.find? (·.name = String.ofList name)).map .value

/-- The type that a text describes; question marks at its end make it nullable. -/
def type? (session : Session) (text : String) : Option Ty :=
  let reversed := text.toList.reverse
  let base := session.baseType? (reversed.dropWhile (· = '?')).reverse
  if reversed.head? = some '?' then base.map .asNullable else base

def type (text : Field String) : SessionM Ty := do
  let text ← text.required
  require ((← get).type? text)

def optionalType (text : Field String) : SessionM (Option Ty) := do
  match ← text.optional with
  | none => return none
  | some text => return some (← require ((← get).type? text))

def types (texts : Field (List (Field String))) : SessionM (List Ty) := do
  (← texts.required).mapM type

def value : ValueSpec → SessionM Value
  | .null => return .null
  | .bool b => return .bool (← b.required)
  | .char text => do
      match (← text.required).toList with
      | [c] => return .char c
      | _ => refuse
  | .int kind digits => do
      return .int kind (← require (Fixed.read? kind (← digits.required)))
  | .float kind digits => do
      return .float kind (← require (kind.read? (← digits.required)))
  | .decimal mantissa scale => do
      let mantissa ← mantissa.required
      return .decimal (← require (Decimal.read? mantissa (← scale.required)))
  | .enum ty ordinal => do
      let ty ← find Session.enums ty
      return .enum ty (← require (Fixed.read? .i64 (← ordinal.required)))
  | .str text => do
      let text ← text.required
      return .str (← drawStamp) text
  | .object cls => do
      let cls ← find Session.classes cls
      return .object (← drawStamp) cls
  | .named id => find Session.values id
  | .default ty => do
      return (← type ty).default
  | .unreadable => refuse

def valueList (specs : Field (List ValueSpec)) : SessionM (List Value) := do
  (← specs.required).mapM value

/-- The getter that yields these values in turn; a property without values has none. -/
def getter : Option (List ValueSpec) → SessionM (Option Stamp)
  | none => return none
  | some specs => do
      match ← specs.mapM value with
      | [] => refuse
      | first :: rest =>
          let stamp ← drawStamp
          modify fun session =>
            { session with scripts :=
              { session.scripts with
                readers := session.scripts.readers.insert stamp ⟨first, rest, 0⟩ } }
          return some stamp

/-- What the maker of a comparison chooses. Every way to make one agrees, so it does not matter
whether the general way is asked for. -/
def options (method : Field String) (general lift : Field Bool) : SessionM Options := do
  let method ← findOptional Session.methods method
  let _ ← general.optional
  let lift := (← lift.optional).getD Options.default.liftToNull
  return ⟨lift, method⟩

def expr : ExprSpec → SessionM Expr
  | .absent => refuse
  | .unreadable => refuse
  | .stored id => find Session.exprs (.given id)
  | .constant spec ty => do
      let value ← value spec
      match ← optionalType ty with
      | none => return .ofValue (← drawStamp) value
      | some ty => built (Expr.typedConstant (← drawStamp) value ty)
  | .default ty => do
      let ty ← type ty
      return .default (← drawStamp) ty
  | .parameter ty name => do
      let ty ← type ty
      let name ← name.required
      return .parameter (← drawStamp) name ty
  | .property owner name ty values => do
      let owner ← owner.required
      let name ← name.required
      let ty ← type ty
      let getter ← getter (← values.optional)
      return .property (← drawStamp) ⟨owner, name, ty, getter⟩
  | .node id => do
      let node ← find Session.nodes id
      return node.toExpr (← drawStamp)
  | .leftOf id => return (← find Session.nodes id).left
  | .rightOf id => return (← find Session.nodes id).right
  | .comparison op leftSpec rightSpec method general lift => do
      let op ← op.required
      let left ← match leftSpec with
        | .absent => pure none
        | spec => some <$> expr spec
      let right ← match rightSpec with
        | .absent => pure none
        | spec => some <$> expr spec
      let options ← options method general lift
      let node ← built (Comparison.make (← drawStamp) op left right options)
      return node.toExpr (← drawStamp)

def operand : ExprSpec → SessionM (Option Expr)
  | .absent => return none
  | spec => some <$> expr spec

def environment : EnvironmentSpec → SessionM Environment
  | .empty => return .empty
  | .unreadable => refuse
  | .stored id => find Session.environments (.given id)
  | .bindings entries =>
      entries.foldlM (fun env entry => do
        let name ← entry.1.required
        return env.bind name (← value entry.2)) Environment.empty

end EqualityTree.Session
