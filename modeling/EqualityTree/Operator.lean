/-!
# Equality operators

An operator turns the answer to "are they equal" into its own answer. Inequality has no meaning of
its own: it is always the negation.
-/

namespace EqualityTree

inductive Operator
  | equal
  | notEqual
deriving DecidableEq

namespace Operator

def symbol : Operator → String
  | equal => "=="
  | notEqual => "!="

/-- The operator's answer about operands that are equal or not. -/
def apply : Operator → Bool → Bool
  | equal, same => same
  | notEqual, same => !same

@[simp] theorem apply_equal (same : Bool) : equal.apply same = same := rfl

@[simp] theorem apply_notEqual (same : Bool) : notEqual.apply same = !same := rfl

end Operator

end EqualityTree
