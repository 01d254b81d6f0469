import EqualityTree.Eval.Compare
import EqualityTree.Session.Catalog

/-!
# Commands on methods and conversions

Commands that define methods and conversions, call them, and ask which equality applies to a pair
of types. The log of an answer holds the lines that the command's own calls left.
-/

namespace EqualityTree

structure Outcome (α : Type) where
  result : Except EvalError α
  log : List String

structure ConversionReport where
  conversion : Conversion
  onNull : Bool
  onTrue : Bool
  onFalse : Bool

namespace Session

def run {α : Type} (action : EvalM Scripts α) : SessionM (Outcome α) :=
  modifyGet fun session =>
    let done := action.run ⟨session.scripts, #[]⟩
    (⟨done.1, done.2.log⟩, { session with scripts := done.2.state })

def methodBody : BodySpec → SessionM MethodBody
  | .named name => require (MethodBody.named? name)
  | .value spec => return .constant (← value spec)

/-- The method of a predicate type, which only a body that answers truth values may take, or else
of the declared parameters and result. -/
def signature (stamp : Stamp) (name : String) (body : MethodBody) (predicate : Field String)
    (params : Field (List (Field String))) (returns : Field String) : SessionM Method := do
  let predicate ← if body.isPredicate then optionalType predicate else pure none
  match predicate with
  | some param => return .predicate stamp name param
  | none =>
      let params ← types params
      return ⟨stamp, name, params, ← type returns⟩

def defineMethod (name : Field String) (body : Field BodySpec) (predicate : Field String)
    (params : Field (List (Field String))) (returns id : Field String) : SessionM Method := do
  let name ← name.required
  let body ← methodBody (← body.required)
  let method ← signature (← drawStamp) name body predicate params returns
  let id ← id.required
  modify fun session =>
    { session with
      methods := session.methods.insert id method
      scripts := { session.scripts with
        methods := session.scripts.methods.insert method.stamp body } }
  return method

def invokeMethod (method : Field String) (left right : ValueSpec) :
    SessionM (Shown × List String) := do
  let method ← find Session.methods method
  let left ← value left
  let right ← value right
  let outcome ← run (Scripts.host.callMethod method left right)
  match outcome.result with
  | .ok result => return (← shown result, outcome.log)
  | .error _ => refuse

def liftsOver (method left right : Field String) : SessionM Bool := do
  let method ← find Session.methods method
  let left ← type left
  return method.liftsOver left (← type right)

def newConversion (builtin : Field Bool) (name body : Field String) : SessionM Conversion := do
  if (← builtin.optional).getD false then return .nullAsFalse (← drawStamp)
  else do
    let name ← name.required
    let body ← require (ConversionBody.named? (← body.required))
    let stamp ← drawStamp
    modify fun session =>
      { session with scripts :=
        { session.scripts with
          conversions := session.scripts.conversions.insert stamp body } }
    return .named stamp name

/-- Defines a conversion under an id and applies it to the three results in turn. -/
def defineConversion (builtin : Field Bool) (name body id : Field String) :
    SessionM (Outcome ConversionReport) := do
  let conversion ← newConversion builtin name body
  let id ← id.required
  modify fun session =>
    { session with conversions := session.conversions.insert id conversion }
  run do
    let onNull ← Scripts.host.applyConversion conversion none
    let onTrue ← Scripts.host.applyConversion conversion (some true)
    let onFalse ← Scripts.host.applyConversion conversion (some false)
    return ⟨conversion, onNull, onTrue, onFalse⟩

def conversion : ConversionSpec → SessionM (Option Conversion)
  | .absent => return none
  | .unreadable => refuse
  | .stored id => some <$> find Session.conversions (.given id)
  | .ofNode id => return (← find Session.nodes id).conversion

def compareByMethod (method : Field String) (conversionSpec : ConversionSpec)
    (op : Field Operator) (lifted lift : Field Bool) (left right : ValueSpec) :
    SessionM (Outcome Bool) := do
  let method ← find Session.methods method
  let conversion ← conversion conversionSpec
  let op ← op.required
  let lifted := (← lifted.optional).getD false
  let lift := (← lift.optional).getD Options.default.liftToNull
  let left ← value left
  let right ← value right
  let terms : Terms := ⟨op, lift, some method, conversion⟩
  run (terms.compareBy Scripts.host method lifted left right)

/-- Which equality applies to two types. It is resolved in one way, whether or not the direct way is
asked for. -/
def resolve (left right : Field String) (op : Field Operator) (method : Field String)
    (direct : Field Bool) : SessionM Resolution := do
  let left ← type left
  let right ← type right
  let op ← op.required
  let method ← findOptional Session.methods method
  let _ ← direct.optional
  built ((Resolution.resolve op left right method).mapError .mismatch)

/-- Which equality applies to each pair of some types: a row is a left type, a column a right
one. -/
def resolveMatrix (texts : Field (List (Field String))) (method : Field String)
    (op : Field Operator) : SessionM (List (List (Except Mismatch Resolution))) := do
  let types ← types texts
  let method ← findOptional Session.methods method
  let op ← op.required
  return types.map fun left => types.map fun right => Resolution.resolve op left right method

end Session

end EqualityTree
