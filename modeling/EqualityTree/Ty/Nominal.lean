import EqualityTree.Identity

/-!
# Nominal types

Enum types and class types are told apart by identity, never by name. A class carries its base
class, so a hierarchy is a chain and ends at a root; derivation walks that chain.
-/

namespace EqualityTree

structure EnumTy where
  stamp : Stamp
  name : String
deriving DecidableEq

/-- A class type: the root of a hierarchy, or a class derived from a base class. -/
inductive ClassTy
  | root (stamp : Stamp) (name : String)
  | derived (stamp : Stamp) (name : String) (base : ClassTy)
deriving DecidableEq

namespace ClassTy

def name : ClassTy → String
  | root _ name => name
  | derived _ name _ => name

def base? : ClassTy → Option ClassTy
  | root _ _ => none
  | derived _ _ base => some base

/-- The class and its ancestors, up to the root. -/
def chain : ClassTy → List ClassTy
  | root stamp name => [root stamp name]
  | derived stamp name base => derived stamp name base :: base.chain

/-- Whether the class is the ancestor or inherits from it. -/
def derivesFrom (cls ancestor : ClassTy) : Bool :=
  match cls with
  | root stamp name => root stamp name = ancestor
  | derived stamp name base => derived stamp name base = ancestor || base.derivesFrom ancestor

/-- The ancestors of a class, itself included, are the classes of its chain. -/
theorem derivesFrom_iff_mem_chain (cls ancestor : ClassTy) :
    cls.derivesFrom ancestor = true ↔ ancestor ∈ cls.chain := by
  induction cls with
  | root stamp name =>
      simp only [derivesFrom, chain, decide_eq_true_eq, List.mem_singleton]
      exact eq_comm
  | derived stamp name base ih =>
      simp only [derivesFrom, chain, Bool.or_eq_true, decide_eq_true_eq, List.mem_cons, ih]
      exact or_congr_left eq_comm

theorem mem_chain_self (cls : ClassTy) : cls ∈ cls.chain := by
  cases cls <;> simp [chain]

@[simp] theorem derivesFrom_self (cls : ClassTy) : cls.derivesFrom cls = true :=
  (derivesFrom_iff_mem_chain cls cls).mpr (mem_chain_self cls)

theorem derivesFrom_trans {lower middle upper : ClassTy}
    (first : lower.derivesFrom middle = true) (second : middle.derivesFrom upper = true) :
    lower.derivesFrom upper = true := by
  induction lower with
  | root stamp name =>
      have same : root stamp name = middle := by simpa [derivesFrom] using first
      rw [same]
      exact second
  | derived stamp name base ih =>
      rw [derivesFrom, Bool.or_eq_true] at first ⊢
      rcases first with same | inherited
      · have here : derived stamp name base = middle := by simpa using same
        rw [← here, derivesFrom, Bool.or_eq_true] at second
        exact second
      · exact Or.inr (ih inherited)

/-- A chain has no branches: of two ancestors of one class, one derives from the other. -/
theorem derivesFrom_linear {cls first second : ClassTy}
    (above : cls.derivesFrom first = true) (alsoAbove : cls.derivesFrom second = true) :
    first.derivesFrom second = true ∨ second.derivesFrom first = true := by
  induction cls with
  | root stamp name =>
      have here : root stamp name = first := by simpa [derivesFrom] using above
      rw [← here]
      exact Or.inl alsoAbove
  | derived stamp name base ih =>
      have fromHere : derived stamp name base = first ∨ base.derivesFrom first = true := by
        simpa [derivesFrom] using above
      have alsoFromHere : derived stamp name base = second ∨ base.derivesFrom second = true := by
        simpa [derivesFrom] using alsoAbove
      rcases fromHere with here | inherited
      · rw [← here]
        exact Or.inl alsoAbove
      · rcases alsoFromHere with here | alsoInherited
        · rw [← here]
          exact Or.inr above
        · exact ih inherited alsoInherited

end ClassTy

end EqualityTree
