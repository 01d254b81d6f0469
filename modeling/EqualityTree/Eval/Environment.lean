import EqualityTree.Eval.Error
import EqualityTree.Table
import EqualityTree.Value.Basic

/-!
# Environments

An environment binds values to parameter names; the last binding of a name counts. A parameter of
an expression is looked up by its name, and the bound value must inhabit the declared type.
-/

namespace EqualityTree

structure Environment where
  bindings : Table String Value

namespace Environment

def empty : Environment := ⟨.empty⟩

def bind (env : Environment) (name : String) (value : Value) : Environment :=
  ⟨env.bindings.insert name value⟩

def lookup (env : Environment) (name : String) : Option Value := env.bindings.get? name

def size (env : Environment) : Nat := env.bindings.size

def isEmpty (env : Environment) : Bool := env.bindings.isEmpty

def argument (env : Environment) (name : String) (ty : Ty) : Except EvalError Value :=
  match env.lookup name with
  | none => .error (.unboundParameter name)
  | some value =>
      if value.inhabits ty then .ok value
      else .error (.argumentTypeMismatch name ty value.naturalTy)

@[simp] theorem lookup_empty (name : String) : empty.lookup name = none := rfl

/-- The last binding of a name counts, and other names keep theirs. -/
theorem lookup_bind (env : Environment) (name other : String) (value : Value) :
    (env.bind name value).lookup other = if other = name then some value else env.lookup other :=
  Table.get?_insert env.bindings name other value

/-- A parameter depends on nothing but the binding of its name. -/
theorem argument_congr {first second : Environment} {name : String}
    (same : first.lookup name = second.lookup name) (ty : Ty) :
    first.argument name ty = second.argument name ty := by
  simp only [argument, same]

end Environment

end EqualityTree
