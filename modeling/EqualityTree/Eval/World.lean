import EqualityTree.Eval.Error
import EqualityTree.Expr.Basic
import EqualityTree.Value.Text

/-!
# Effects of evaluation

Properties, methods and named conversions answer through a host, which may keep a state of any
kind. Evaluation reaches the host through three operations only, and each leaves an event in the
trace, so the trace holds every read and call with its arguments, in order.
-/

namespace EqualityTree

/-- What answers for the getters, methods and named conversions that trees mention. -/
structure Host (σ : Type) where
  read : Property → σ → Value × σ
  call : Method → Value → Value → σ → Value × σ
  convert : Conversion → Option Bool → σ → Bool × σ

inductive Event
  | read (place : Property)
  | call (method : Method) (left right : Value)
  | convert (conversion : Conversion) (result : Option Bool)
deriving DecidableEq

def optionText : Option Bool → String
  | none => "null"
  | some true => "true"
  | some false => "false"

/-- The line that a log shows for an event. The default conversion leaves none. -/
def Event.logLine? : Event → Option String
  | read place => some ("get " ++ place.owner ++ "." ++ place.name)
  | call method left right =>
      some ("call " ++ method.name ++ "(" ++ left.text ++ ", " ++ right.text ++ ")")
  | convert (.nullAsFalse _) _ => none
  | convert (.named _ name) result => some ("convert " ++ name ++ "(" ++ optionText result ++ ")")

/-- The state of an evaluation: that of the host, and the effects so far. -/
structure World (σ : Type) where
  state : σ
  trace : Array Event

def World.log {σ : Type} (world : World σ) : List String :=
  world.trace.toList.filterMap Event.logLine?

/-- An evaluation: it changes the world and ends with a value or an error. -/
abbrev EvalM (σ : Type) : Type → Type := ExceptT EvalError (StateM (World σ))

namespace Host

variable {σ : Type}

/-- Lets the host act and records the effect. -/
def perform {α : Type} (event : Event) (action : σ → α × σ) : EvalM σ α :=
  modifyGet fun world =>
    let done := action world.state
    (done.1, ⟨done.2, world.trace.push event⟩)

def readProperty (host : Host σ) (place : Property) : EvalM σ Value :=
  perform (.read place) (host.read place)

def callMethod (host : Host σ) (method : Method) (left right : Value) : EvalM σ Value :=
  perform (.call method left right) (host.call method left right)

/-- What a conversion answers. The default conversion answers without the host. -/
def conversionAnswer (host : Host σ) (conversion : Conversion) (result : Option Bool) :
    σ → Bool × σ :=
  match conversion with
  | .nullAsFalse _ => fun state => (result.getD false, state)
  | .named stamp name => host.convert (.named stamp name) result

/-- Applies the conversion of a node. A node without one takes nothing for false. -/
def applyConversion (host : Host σ) (conversion : Option Conversion) (result : Option Bool) :
    EvalM σ Bool :=
  match conversion with
  | none => pure (result.getD false)
  | some conversion =>
      perform (.convert conversion result) (host.conversionAnswer conversion result)

end Host

end EqualityTree
