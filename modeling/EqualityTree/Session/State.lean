import EqualityTree.Eval.Cache
import EqualityTree.Session.Scripts
import EqualityTree.Session.Spec

/-!
# Sessions

A session keeps what its commands have named, in one table a kind. Naming an id again replaces
the entry; what was built from the old entry keeps it. A command either answers, or fails and
leaves the session as it was.
-/

namespace EqualityTree

inductive Compiled
  | expr (code : CompiledExpr)
  | node (code : CompiledComparison)

structure Session where
  /-- The stamp that is drawn next. -/
  stamp : Stamp
  enums : Table String EnumTy
  classes : Table String ClassTy
  values : Table String Value
  exprs : Table String Expr
  nodes : Table String Comparison
  methods : Table String Method
  conversions : Table String Conversion
  environments : Table String Environment
  codes : Table String Compiled
  caches : Table String Cache
  scripts : Scripts

inductive Failure
  /-- A part of the command is missing or unreadable, or names nothing. -/
  | badInput
  | construction (error : ConstructionError)

abbrev SessionM : Type → Type := StateT Session (Except Failure)

namespace Session

def empty : Session :=
  ⟨⟨0⟩, .empty, .empty, .empty, .empty, .empty, .empty, .empty, .empty, .empty, .empty, .empty⟩

/-- The answer of a command and the session after it. -/
def answer {α : Type} (session : Session) (command : SessionM α) : Except Failure α × Session :=
  match command.run session with
  | .ok (answer, after) => (.ok answer, after)
  | .error failure => (.error failure, session)

/-- A failed command leaves the session as it was. -/
theorem answer_of_error {α : Type} {session : Session} {command : SessionM α} {failure : Failure}
    (failed : (session.answer command).1 = .error failure) :
    (session.answer command).2 = session := by
  unfold answer at failed ⊢
  cases run : command.run session with
  | error other => rfl
  | ok result =>
      rw [run] at failed
      cases failed

/-- Gives what draws stamps the stamps of the session. -/
def drawing {α : Type} (action : StateM Stamp α) : SessionM α :=
  modifyGet fun session =>
    let (drawn, stamp) := action.run session.stamp
    (drawn, { session with stamp })

/-- A stamp that nothing in the session has. -/
def drawStamp : SessionM Stamp := drawing Stamp.draw

/-- The failure of a command whose description does not hold good. -/
def refuse {α : Type} : SessionM α := throw .badInput

def require {α : Type} : Option α → SessionM α
  | some found => pure found
  | none => refuse

def built {α : Type} : Except ConstructionError α → SessionM α
  | .ok result => pure result
  | .error error => throw (.construction error)

end Session

namespace Field

def required {α : Type} : Field α → SessionM α
  | given value => pure value
  | _ => Session.refuse

def optional {α : Type} : Field α → SessionM (Option α)
  | absent => pure none
  | unreadable => Session.refuse
  | given value => pure (some value)

end Field

namespace Session

def find {α : Type} (table : Session → Table String α) (id : Field String) : SessionM α := do
  let id ← id.required
  require ((table (← get)).get? id)

def findOptional {α : Type} (table : Session → Table String α) (id : Field String) :
    SessionM (Option α) := do
  match ← id.optional with
  | none => return none
  | some id => return some (← require ((table (← get)).get? id))

end Session

end EqualityTree
