import EqualityTree.Proofs.Meetings

/-!
# Property reads

A walk reads the properties of its tree from left to right until an error ends it. The reads of a
walk tell what each getter gave, which the trace does not show; their places are those that the trace
shows.
-/

namespace EqualityTree

variable {σ : Type}

/-- A read of a property and the value that its getter gave. -/
structure Read where
  place : Property
  value : Value
deriving DecidableEq

/-- The reads of a walk from a world. A property without a getter is not read. -/
def Expr.reads (host : Host σ) (env : Environment) : Expr → World σ → List Read
  | property _ place, before =>
      if place.isReadable then [⟨place, (host.read place before.state).1⟩] else []
  | comparison _ _ _ left right, before =>
      left.reads host env before ++
        (left.eval host env).afterwards before fun _ between => right.reads host env between
  | _, _ => []

/-- The reads of a walk of a node. Comparing the operand values reads nothing. -/
def Comparison.reads (host : Host σ) (env : Environment) (node : Comparison)
    (before : World σ) : List Read :=
  node.left.reads host env before ++
    (node.left.eval host env).afterwards before fun _ between => node.right.reads host env between

@[simp] theorem Expr.reads_toExpr (host : Host σ) (env : Environment) (node : Comparison)
    (stamp : Stamp) (before : World σ) :
    (node.toExpr stamp).reads host env before = node.reads host env before :=
  rfl

def Event.read? : Event → Option Property
  | read place => some place
  | _ => none

def World.reads (world : World σ) : List Property :=
  world.trace.toList.filterMap Event.read?

namespace EvalM

theorem reads_compare (terms : Terms) (host : Host σ) (left right : Value)
    (resolution : Resolution) (before : World σ) :
    (exec (terms.compare host left right resolution) before).2.reads = before.reads ++ [] := by
  rw [World.reads, trace_compare, List.filterMap_append, Terms.filterMap_events fun _ _ => rfl]
  exact congrArg _ (List.filterMap_eq_nil_iff.mpr fun _ _ => rfl)

theorem reads_value (place : Property) (host : Host σ) (before : World σ) :
    (exec (place.value host) before).2.reads =
      before.reads ++ if place.isReadable then [place] else [] := by
  cases readable : place.isReadable with
  | true =>
      rw [exec_value readable, World.reads, filterMap_push]
      rfl
  | false =>
      rw [exec_value_of_unreadable readable]
      exact (List.append_nil _).symm

theorem reads_evalNode {host : Host σ} {env : Environment} {node : Comparison}
    (leftReads : ∀ before, (exec (node.left.eval host env) before).2.reads =
      before.reads ++ (node.left.reads host env before).map Read.place)
    (rightReads : ∀ before, (exec (node.right.eval host env) before).2.reads =
      before.reads ++ (node.right.reads host env before).map Read.place)
    (before : World σ) :
    (exec (node.eval host env) before).2.reads =
      before.reads ++ (node.reads host env before).map Read.place := by
  have ownReads : ∀ left right between,
      (exec (node.compare host left right node.resolution) between).2.reads =
        between.reads ++ [] :=
    fun left right => reads_compare node.toTerms host left right node.resolution
  rw [view_evalNode leftReads rightReads ownReads]
  simp only [Comparison.reads, List.map_append, map_afterwards, afterwards_nil, List.append_nil]

/-- The reads of a walk are those that its trace shows. -/
theorem reads_eval (host : Host σ) (env : Environment) (expr : Expr) (before : World σ) :
    (exec (expr.eval host env) before).2.reads =
      before.reads ++ (expr.reads host env before).map Read.place := by
  induction expr generalizing before with
  | constant stamp value ty => exact (List.append_nil _).symm
  | default stamp ty => exact (List.append_nil _).symm
  | parameter stamp name ty =>
      rw [Expr.eval, exec_ofExcept]
      exact (List.append_nil _).symm
  | property stamp place =>
      rw [Expr.eval, reads_value, Expr.reads]
      split <;> rfl
  | comparison stamp node terms left right leftReads rightReads =>
      rw [Expr.eval_comparison, exec_bind_pure]
      exact reads_evalNode leftReads rightReads before

end EvalM

end EqualityTree
