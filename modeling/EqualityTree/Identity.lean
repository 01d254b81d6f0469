/-!
# Identity

Some things of this library are told apart by identity: two enum types of one name are two types,
and two strings of one text are two instances. Such a thing carries the stamp it received when it
was made. A stamp is part of the thing, so identity is plain equality, and it is decidable.
-/

namespace EqualityTree

/-- A mark that tells one thing from another that looks alike. -/
structure Stamp where
  index : Nat
deriving DecidableEq

namespace Stamp

/-- The stamp drawn after this one. -/
def next (stamp : Stamp) : Stamp := ⟨stamp.index + 1⟩

/-- Draws a stamp. The state is the stamp that is drawn next, so its index tells how many have been. -/
def draw : StateM Stamp Stamp := modifyGet fun stamp => (stamp, stamp.next)

end Stamp

end EqualityTree
