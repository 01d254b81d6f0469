import EqualityTree.Proofs.TypeSoundness

/-!
# Updated nodes and new ones

An update checks replacements against the operands that they replace, and the maker of a node checks
operands against each other. The two agree wherever plain data or a method is compared. Where
instances are compared, updates may bring together types that have nothing to do with each other,
which no new node would compare; but no instance is of two such types, so all that the node can find
equal is null with null.
-/

namespace EqualityTree

/-! ## Unrelated types -/

def RefTy.Unrelated (first second : RefTy) : Prop :=
  first.accepts second = false ∧ second.accepts first = false

namespace Value

/-- The types of one instance lie on one chain. -/
theorem not_unrelated_of_inhabits {value : Value} {first second : RefTy} (present : value ≠ .null)
    (holds : value.inhabits (.ref first) = true) (alsoHolds : value.inhabits (.ref second) = true) :
    ¬first.Unrelated second := by
  rw [inhabits_of_ne_null _ present] at holds alsoHolds
  obtain ⟨narrow, natural, accepted⟩ := (Ty.accepts_ref_iff _ _).mp holds
  obtain ⟨other, otherNatural, alsoAccepted⟩ := (Ty.accepts_ref_iff _ _).mp alsoHolds
  have same : narrow = other := Ty.ref.inj (natural.symm.trans otherNatural)
  rw [← same] at alsoAccepted
  rintro ⟨refused, alsoRefused⟩
  rcases RefTy.accepts_linear accepted alsoAccepted with related | related
  · cases refused.symm.trans related
  · cases alsoRefused.symm.trans related

/-- Values of unrelated types are the same only if both are null. -/
theorem sameInstance_of_unrelated {left right : Value} {leftTy rightTy : RefTy}
    (unrelated : leftTy.Unrelated rightTy) (leftHolds : left.inhabits (.ref leftTy) = true)
    (rightHolds : right.inhabits (.ref rightTy) = true) :
    left.sameInstance right = (left.isNull && right.isNull) := by
  rw [Bool.eq_iff_iff, Bool.and_eq_true, isNull_iff, isNull_iff]
  constructor
  · intro same
    have shared : left = right := eq_of_sameInstance same
    rw [← shared] at rightHolds ⊢
    by_cases null : left = .null
    · exact ⟨null, null⟩
    · exact absurd unrelated (not_unrelated_of_inhabits null leftHolds rightHolds)
  · rintro ⟨rfl, rfl⟩
    rfl

end Value

/-! ## Resolving once more -/

namespace Resolution

theorem builtin?_ref (op : Operator) (left right : RefTy) :
    builtin? op (.ref left) (.ref right) =
      if left.accepts right || right.accepts left then .ok .reference
      else .error (.noBuiltinEquality op (.ref left) (.ref right)) := by
  unfold builtin?
  split
  · next same =>
    cases same
    rw [RefTy.accepts_self]
    rfl
  · rfl

/-- An equality that covers the operand types is the one chosen for them, except that identity is
not chosen for unrelated types. -/
theorem Covers.resolve {resolution : Resolution} {left right : Ty}
    (covers : resolution.Covers left right) (op : Operator) :
    resolve op left right resolution.chosenMethod = .ok resolution ∨
      resolution = .reference ∧ ∃ leftTy rightTy, left = .ref leftTy ∧ right = .ref rightTy ∧
        leftTy.Unrelated rightTy ∧
        resolve op left right none = .error (.noBuiltinEquality op left right) := by
  cases covers with
  | value ty => exact Or.inl (if_pos rfl)
  | nullable ty => exact Or.inl (if_pos rfl)
  | reference leftTy rightTy =>
      cases related : leftTy.accepts rightTy || rightTy.accepts leftTy with
      | true => exact Or.inl ((builtin?_ref op leftTy rightTy).trans (if_pos related))
      | false =>
          refine Or.inr ⟨rfl, leftTy, rightTy, rfl, rfl, Bool.or_eq_false_iff.mp related, ?_⟩
          exact (builtin?_ref op leftTy rightTy).trans (if_neg (Bool.eq_false_iff.mp related))
  | direct declared leftAccepted rightAccepted =>
      left
      simp [Resolution.resolve, chosenMethod, method?, declared.params, declared.returns,
        leftAccepted, rightAccepted]
  | lifted declared =>
      left
      simp [Resolution.resolve, chosenMethod, method?, Method.liftsOver, declared.params,
        declared.returns, Ty.accepts]

end Resolution

/-! ## Making once more -/

namespace Comparison

/-- The node that is made anew of the parts of this one. It has the conversion of a new node. -/
def remade (node : Comparison) (stamp : Stamp) : Comparison :=
  ⟨⟨node.op, node.liftToNull, node.method, node.resolution.newConversion stamp⟩, stamp, node.left,
    node.right⟩

/-- The equality of a node depends on neither its stamp nor its conversion. -/
@[simp] theorem resolution_remade (node : Comparison) (stamp : Stamp) :
    (node.remade stamp).resolution = node.resolution :=
  rfl

theorem make_of_readable {left right : Expr} (leftReadable : left.isReadable = true)
    (rightReadable : right.isReadable = true) (stamp : Stamp) (op : Operator) (options : Options) :
    make stamp op (some left) (some right) options =
      match Resolution.resolve op left.ty right.ty options.method with
      | .error mismatch => .error (.mismatch mismatch)
      | .ok resolution => .ok ⟨⟨op, options.liftToNull, options.method,
          resolution.newConversion stamp⟩, stamp, left, right⟩ := by
  have leftTaken : Expr.readableOperand .left (some left) = .ok left := if_pos leftReadable
  have rightTaken : Expr.readableOperand .right (some right) = .ok right := if_pos rightReadable
  rw [make, leftTaken, rightTaken]
  rfl

/-- A node that exists can be made anew, unless it compares instances of unrelated types. -/
theorem ResolvedBy.make {node : Comparison} {resolution : Resolution}
    (resolved : node.ResolvedBy resolution) (stamp : Stamp) :
    Comparison.make stamp node.op (some node.left) (some node.right)
        ⟨node.liftToNull, node.method⟩ = .ok (node.remade stamp) ∨
      resolution = .reference ∧ ∃ leftTy rightTy, node.left.ty = .ref leftTy ∧
        node.right.ty = .ref rightTy ∧ leftTy.Unrelated rightTy ∧
        Comparison.make stamp node.op (some node.left) (some node.right)
          ⟨node.liftToNull, node.method⟩ =
            .error (.mismatch (.noBuiltinEquality node.op node.left.ty node.right.ty)) := by
  rw [make_of_readable resolved.leftReadable resolved.rightReadable]
  rcases resolved.covers.resolve node.op with
    chosen | ⟨reference, leftTy, rightTy, leftIs, rightIs, unrelated, refused⟩
  · left
    rw [← resolved.method, chosen, remade, resolved.resolution_eq, ← resolved.method]
  · right
    have unmethodical : node.method = none := by
      rw [← resolved.method, reference]
      rfl
    refine ⟨reference, leftTy, rightTy, leftIs, rightIs, unrelated, ?_⟩
    rw [unmethodical, refused]

/-- So a node can be made of the new operands of an updated one on the terms of the old one. -/
theorem ResolvedBy.make_updated {node updated : Comparison} {resolution : Resolution}
    {stamp : Stamp} {left right : Expr} {conversion : Option Conversion}
    (resolved : node.ResolvedBy resolution)
    (accepted : node.update stamp left conversion right = .ok updated) (newStamp : Stamp) :
    Comparison.make newStamp node.op (some left) (some right) ⟨node.liftToNull, node.method⟩ =
        .ok (updated.remade newStamp) ∨
      resolution = .reference ∧ ∃ leftTy rightTy, left.ty = .ref leftTy ∧ right.ty = .ref rightTy ∧
        leftTy.Unrelated rightTy ∧
        Comparison.make newStamp node.op (some left) (some right)
          ⟨node.liftToNull, node.method⟩ =
            .error (.mismatch (.noBuiltinEquality node.op left.ty right.ty)) := by
  have remaking := (resolved.update accepted).make newStamp
  obtain ⟨rfl, rfl, terms⟩ := parts_of_update accepted
  have op : updated.op = node.op := by rw [terms]
  have liftToNull : updated.liftToNull = node.liftToNull := by rw [terms]
  have method : updated.method = node.method := by rw [terms]
  rw [op, liftToNull, method] at remaking
  exact remaking

theorem ResolvedBy.of_reference {node : Comparison} (resolved : node.ResolvedBy .reference) :
    node.method = none ∧ node.left.ty.isReference = true ∧ node.right.ty.isReference = true := by
  refine ⟨resolved.method.symm, ?_⟩
  have covers := resolved.covers
  generalize node.left.ty = left, node.right.ty = right at covers ⊢
  cases covers
  exact ⟨rfl, rfl⟩

/-- A node that compares instances of unrelated types tells only whether both values are null. -/
theorem ResolvedBy.eval_of_unrelated {σ : Type} {node : Comparison} {leftTy rightTy : RefTy}
    {host : Host σ} {env : Environment} {before between after : World σ} {left right : Value}
    (resolved : node.ResolvedBy .reference) (leftFormed : node.left.WellFormed)
    (rightFormed : node.right.WellFormed) (leftIs : node.left.ty = .ref leftTy)
    (rightIs : node.right.ty = .ref rightTy) (unrelated : leftTy.Unrelated rightTy)
    (leftEnds : EvalM.exec (node.left.eval host env) before = (.ok left, between))
    (rightEnds : EvalM.exec (node.right.eval host env) between = (.ok right, after)) :
    EvalM.exec (node.eval host env) before =
      (.ok (node.op.apply (left.isNull && right.isNull)), after) := by
  have leftHolds := leftFormed.inhabits_of_eval leftEnds
  have rightHolds := rightFormed.inhabits_of_eval rightEnds
  rw [leftIs] at leftHolds
  rw [rightIs] at rightHolds
  unfold Comparison.eval
  rw [EvalM.exec_bind_of_ok leftEnds, EvalM.exec_bind_of_ok rightEnds, resolved.resolution_eq,
    Terms.compare, EvalM.exec_pure, Value.sameInstance_of_unrelated unrelated leftHolds rightHolds]

/-- A node can be made anew of the parts of an updated node, and is resolved like it, if a method or
plain data are compared. Where instances are compared, making it may fail in one way, because
no equality is built in for the operand types; then the updated node answers whether both operands
are null. -/
theorem updated_node_agrees_with_new_node {node updated : Comparison} {stamp : Stamp}
    {left right : Expr} {conversion : Option Conversion} (built : node.Constructible)
    (leftBuilt : left.Constructible) (rightBuilt : right.Constructible)
    (accepted : node.update stamp left conversion right = .ok updated) (newStamp : Stamp) :
    let made := Comparison.make newStamp node.op (some left) (some right)
      ⟨node.liftToNull, node.method⟩
    ((node.method.isSome = true ∨ node.left.ty.isReference = false ∨
        node.right.ty.isReference = false) →
      ∃ new, made = .ok new ∧ new.resolution = updated.resolution) ∧
    (node.resolution = .reference →
      (∃ new, made = .ok new ∧ new.resolution = .reference) ∨
      made = .error (.mismatch (.noBuiltinEquality node.op left.ty right.ty)) ∧
        ∀ {σ : Type} (mode : Mode) (host : Host σ) (env : Environment)
          (before between after : World σ) (leftValue rightValue : Value),
          EvalM.exec (mode.evalExpr host env left) before = (.ok leftValue, between) →
          EvalM.exec (mode.evalExpr host env right) between = (.ok rightValue, after) →
            EvalM.exec (mode.evalComparison host env updated) before =
              (.ok (node.op.apply (leftValue.isNull && rightValue.isNull)), after)) := by
  obtain ⟨-, -, resolution, resolved⟩ := Expr.wellFormed_toExpr_iff.mp (built.wellFormed stamp)
  have updatedResolved : updated.ResolvedBy resolution := resolved.update accepted
  have remaking := resolved.make_updated accepted newStamp
  obtain ⟨rfl, rfl, terms⟩ := parts_of_update accepted
  have op : updated.op = node.op := by rw [terms]
  intro made
  constructor
  · intro compared
    rcases remaking with remade | ⟨rfl, -⟩
    · exact ⟨_, remade, updated.resolution_remade newStamp⟩
    · obtain ⟨unmethodical, leftReference, rightReference⟩ := resolved.of_reference
      simp [unmethodical, leftReference, rightReference] at compared
  · intro reference
    rw [resolved.resolution_eq] at reference
    subst reference
    rcases remaking with remade | ⟨-, leftTy, rightTy, leftIs, rightIs, unrelated, refused⟩
    · exact Or.inl ⟨_, remade, updatedResolved.resolution_eq⟩
    · refine Or.inr ⟨refused, ?_⟩
      intro σ mode host env before between after leftValue rightValue leftEnds rightEnds
      rw [Mode.evalExpr_eq] at leftEnds rightEnds
      rw [Mode.evalComparison_eq, ← op]
      exact updatedResolved.eval_of_unrelated leftBuilt.wellFormed rightBuilt.wellFormed leftIs
        rightIs unrelated leftEnds rightEnds

/-- Two operands of the root type are narrowed to unrelated classes, of which no new node can be
made. The updated node tells an instance of the one from an instance of the other, and takes null
for the same as null. -/
theorem narrowed_operands_are_equal_only_if_null :
    let circle : ClassTy := .root ⟨0⟩ "Circle"
    let square : ClassTy := .root ⟨1⟩ "Square"
    let a : Expr := .parameter ⟨2⟩ "a" .object
    let b : Expr := .parameter ⟨3⟩ "b" .object
    let left : Expr := .parameter ⟨4⟩ "a" (.ref (.cls circle))
    let right : Expr := .parameter ⟨5⟩ "b" (.ref (.cls square))
    let node : Comparison := ⟨⟨.notEqual, true, none, none⟩, ⟨6⟩, a, b⟩
    let updated : Comparison := ⟨⟨.notEqual, true, none, none⟩, ⟨7⟩, left, right⟩
    let host : Host Unit := ⟨fun _ state => (.null, state), fun _ _ _ state => (.null, state),
      fun _ result state => (result.getD false, state)⟩
    let instances := (Environment.empty.bind "a" (.object ⟨8⟩ circle)).bind "b" (.object ⟨9⟩ square)
    let nulls := (Environment.empty.bind "a" .null).bind "b" .null
    make ⟨6⟩ .notEqual (some a) (some b) .default = .ok node ∧
      node.update ⟨7⟩ left none right = .ok updated ∧
      make ⟨10⟩ .notEqual (some left) (some right) .default =
        .error (.mismatch (.noBuiltinEquality .notEqual left.ty right.ty)) ∧
      EvalM.exec (Mode.compiled.evalComparison host instances updated) ⟨(), #[]⟩ =
        (.ok true, ⟨(), #[]⟩) ∧
      EvalM.exec (Mode.interpreted.evalComparison host nulls updated) ⟨(), #[]⟩ =
        (.ok false, ⟨(), #[]⟩) := by
  intro circle square a b left right node updated host instances nulls
  have made : make ⟨6⟩ .notEqual (some a) (some b) .default = .ok node := rfl
  have accepted : node.update ⟨7⟩ left none right = .ok updated := rfl
  have refused : make ⟨10⟩ .notEqual (some left) (some right) .default =
      .error (.mismatch (.noBuiltinEquality .notEqual left.ty right.ty)) := rfl
  have built : node.Constructible :=
    ⟨⟨6⟩, .make (.parameter ⟨2⟩ "a" .object) (.parameter ⟨3⟩ "b" .object) made⟩
  have agrees := updated_node_agrees_with_new_node built (.parameter ⟨4⟩ "a" (.ref (.cls circle)))
    (.parameter ⟨5⟩ "b" (.ref (.cls square))) accepted ⟨10⟩
  rcases agrees.2 rfl with ⟨new, remade, -⟩ | ⟨-, answers⟩
  · cases remade
  · exact ⟨made, accepted, refused, answers .compiled host instances _ _ _ _ _ rfl rfl,
      answers .interpreted host nulls _ _ _ _ _ rfl rfl⟩

end Comparison

end EqualityTree
