import EqualityTree.Session.Build

/-!
# Commands on types and values

Commands that define nominal types, name values, and ask about types, values and the rules of
equality.
-/

namespace EqualityTree

/-- A value as answers show it. An instance comes with the ids of all named values that are the
same instance, in ascending order. -/
structure Shown where
  value : Value
  aliases : Option (List String)

structure Derivation where
  derives : Bool
  same : Bool

structure RuleAnswer where
  equal : Bool
  lifted : Bool

/-- The answers for all pairs of some values: a row is a left value, a column a right value. -/
structure RuleMatrix where
  equal : List (List Bool)
  lifted : List (List Bool)
  reference : List (List Bool)

def Rule.named? (name : String) : Option Rule :=
  [bool, char, integer, float, decimal, enum].find? (·.name = name)

namespace Session

/-- The ids of the named values that are the same instance, in ascending order. -/
def aliases (session : Session) (value : Value) : List String :=
  ((session.values.entries.filter (·.2.sameInstance value)).map Prod.fst).mergeSort
    (fun first second => first ≤ second)

def shown (value : Value) : SessionM Shown := do
  match value with
  | .str _ _ | .object _ _ => return ⟨value, some ((← get).aliases value)⟩
  | _ => return ⟨value, none⟩

def defineEnum (name id : Field String) : SessionM EnumTy := do
  let name ← name.required
  let id ← id.required
  let ty : EnumTy := ⟨← drawStamp, name⟩
  modify fun session => { session with enums := session.enums.insert id ty }
  return ty

def defineClass (name base id : Field String) : SessionM ClassTy := do
  let name ← name.required
  let base ← findOptional Session.classes base
  let id ← id.required
  let stamp ← drawStamp
  let cls : ClassTy := match base with
    | none => .root stamp name
    | some base => .derived stamp name base
  modify fun session => { session with classes := session.classes.insert id cls }
  return cls

def derivation (cls ancestor : Field String) : SessionM Derivation := do
  let cls ← find Session.classes cls
  let ancestor ← find Session.classes ancestor
  return ⟨cls.derivesFrom ancestor, cls = ancestor⟩

def typePair (first second : Field String) : SessionM (Ty × Ty) := do
  return (← type first, ← type second)

def firstOccurrences (seen : List Ty) : List Ty → List Bool
  | [] => []
  | ty :: rest => (!seen.contains ty) :: firstOccurrences (ty :: seen) rest

def distinctTypes (texts : Field (List (Field String))) : SessionM (List Bool) := do
  return firstOccurrences [] (← types texts)

def showValue (spec : ValueSpec) (id : Field String) : SessionM Shown := do
  let value ← value spec
  let id ← id.optional
  let shown ← shown value
  match id with
  | none => return shown
  | some id =>
      modify fun session => { session with values := session.values.insert id value }
      return shown

def inhabits (spec : ValueSpec) (ty : Field String) : SessionM Bool := do
  let value ← value spec
  return value.inhabits (← type ty)

def rule (name : Field String) : SessionM Rule := do
  require (Rule.named? (← name.required))

def askRule (name : Field String) (left right : ValueSpec) : SessionM RuleAnswer := do
  let rule ← rule name
  let left ← value left
  let right ← value right
  return ⟨rule.equal left right, rule.liftedEqual left right⟩

def ruleMatrix (name : Field String) (values : Field (List ValueSpec)) : SessionM RuleMatrix := do
  let rule ← rule name
  let values ← valueList values
  let table (compare : Value → Value → Bool) : List (List Bool) :=
    values.map fun left => values.map fun right => compare left right
  return ⟨table rule.equal, table rule.liftedEqual, table Value.sameInstance⟩

def sameInstance (left right : ValueSpec) : SessionM Bool := do
  let left ← value left
  return left.sameInstance (← value right)

end Session

end EqualityTree
