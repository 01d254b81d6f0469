import EqualityTree.Eval.World
import EqualityTree.Table
import EqualityTree.Value.Rule
import EqualityTree.Value.Text

/-!
# The scripted host

Methods and conversions of a session have one of a fixed set of bodies, and a readable property
has a list of values that its reads go through again and again. Bodies depend on their arguments
alone, so the only state of this host is how far each list has been read.
-/

namespace EqualityTree

inductive MethodBody
  | always (answer : Bool)
  /-- The operands have one text. -/
  | sameText
  /-- The operands have one most specific type. -/
  | sameTy
  /-- Both operands are 32-bit integers with one last digit and, where it is not zero, one sign. -/
  | sameLastDigit
  | bothNull
  | leftNull
  | sameInstance
  | leftTrue
  /-- The left operand itself. -/
  | left
  /-- The right operand itself. -/
  | right
  | constant (value : Value)

namespace MethodBody

def named? : String → Option MethodBody
  | "true" => some (always true)
  | "false" => some (always false)
  | "same_text" => some sameText
  | "same_ty" => some sameTy
  | "mod_ten" => some sameLastDigit
  | "both_null" => some bothNull
  | "left_null" => some leftNull
  | "identity" => some sameInstance
  | "left_true" => some leftTrue
  | "left" => some left
  | "right" => some right
  | _ => none

def isPredicate : MethodBody → Bool
  | left | right | constant _ => false
  | _ => true

/-- Whether two values are 32-bit integers of one remainder by ten, rounding toward zero. -/
def sameRemainder : Value → Value → Bool
  | .int .i32 a, .int .i32 b => a.val.tmod 10 = b.val.tmod 10
  | _, _ => false

def run : MethodBody → Value → Value → Value
  | always answer, _, _ => .bool answer
  | sameText, a, b => .bool (a.text = b.text)
  | sameTy, a, b => .bool (a.naturalTy = b.naturalTy)
  | sameLastDigit, a, b => .bool (sameRemainder a b)
  | bothNull, a, b => .bool (a.isNull && b.isNull)
  | leftNull, a, _ => .bool a.isNull
  | sameInstance, a, b => .bool (a.sameInstance b)
  | leftTrue, a, _ => .bool (a.asBool?.getD false)
  | left, a, _ => a
  | right, _, b => b
  | constant value, _, _ => value

end MethodBody

inductive ConversionBody
  /-- The answer itself, or this one where there is none. -/
  | orElse (missing : Bool)
  | always (answer : Bool)
  /-- The opposite answer; none counts as false. -/
  | negate
  | isNull

namespace ConversionBody

def named? : String → Option ConversionBody
  | "or_false" => some (orElse false)
  | "or_true" => some (orElse true)
  | "true" => some (always true)
  | "false" => some (always false)
  | "not" => some negate
  | "is_null" => some isNull
  | _ => none

def run : ConversionBody → Option Bool → Bool
  | orElse missing, result => result.getD missing
  | always answer, _ => answer
  | negate, result => !result.getD false
  | isNull, result => result.isNone

end ConversionBody

/-- The values that a getter yields in turn, and how many of them it has yielded. -/
structure Reader where
  first : Value
  rest : List Value
  position : Nat

namespace Reader

def current (reader : Reader) : Value :=
  (reader.first :: reader.rest)[reader.position]?.getD reader.first

/-- The getter after a read; after the last value it starts again. -/
def advance (reader : Reader) : Reader :=
  { reader with position := (reader.position + 1) % (reader.rest.length + 1) }

end Reader

/-- The bodies and readers of a session, by stamp. -/
structure Scripts where
  readers : Table Stamp Reader
  methods : Table Stamp MethodBody
  conversions : Table Stamp ConversionBody

namespace Scripts

def empty : Scripts := ⟨.empty, .empty, .empty⟩

def read (place : Property) (scripts : Scripts) : Value × Scripts :=
  match place.getter with
  | none => (.null, scripts)
  | some stamp =>
      match scripts.readers.get? stamp with
      | none => (.null, scripts)
      | some reader =>
          (reader.current,
            { scripts with readers := scripts.readers.insert stamp reader.advance })

def call (method : Method) (left right : Value) (scripts : Scripts) : Value :=
  match scripts.methods.get? method.stamp with
  | none => .null
  | some body => body.run left right

def convert (conversion : Conversion) (result : Option Bool) (scripts : Scripts) : Bool :=
  match conversion with
  | .nullAsFalse _ => result.getD false
  | .named stamp _ =>
      match scripts.conversions.get? stamp with
      | none => result.getD false
      | some body => body.run result

/-- The host whose state is the scripts themselves. -/
def host : Host Scripts where
  read := read
  call method left right scripts := (call method left right scripts, scripts)
  convert conversion result scripts := (convert conversion result scripts, scripts)

end Scripts

end EqualityTree
