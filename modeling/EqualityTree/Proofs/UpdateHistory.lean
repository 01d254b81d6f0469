import EqualityTree.Proofs.Construction

/-!
# Histories of updates

A node is made once and may be updated any number of times. What is resolved when it is made stays
the answer for every later node, although updates may narrow reference operands to types that could
not be compared in a new node.
-/

namespace EqualityTree

structure Edit where
  stamp : Stamp
  left : Expr
  conversion : Option Conversion
  right : Expr

namespace Comparison

variable {node later : Comparison} {resolution : Resolution}

def edit (node : Comparison) (request : Edit) : Except ConstructionError Comparison :=
  node.update request.stamp request.left request.conversion request.right

def editAll (node : Comparison) (requests : List Edit) : Except ConstructionError Comparison :=
  requests.foldlM edit node

theorem editAll_cons_eq_ok_iff {request : Edit} {rest : List Edit} :
    node.editAll (request :: rest) = .ok later ↔
      ∃ next, node.edit request = .ok next ∧ next.editAll rest = .ok later := by
  unfold editAll
  rw [List.foldlM_cons, bind_eq_ok_iff]

/-- No history of updates changes what a node is resolved by. -/
theorem ResolvedBy.editAll {requests : List Edit} (resolved : node.ResolvedBy resolution)
    (accepted : node.editAll requests = .ok later) : later.ResolvedBy resolution := by
  induction requests generalizing node with
  | nil =>
      cases accepted
      exact resolved
  | cons request rest ih =>
      obtain ⟨next, first, others⟩ := editAll_cons_eq_ok_iff.mp accepted
      exact ih (resolved.update first) others

/-- The equality that a node is made with is the one found again in it and in every node that any
updates turn it into, and only for a lifted call such a node has a conversion. -/
theorem resolution_survives_updates {stamp : Stamp} {op : Operator} {left right : Expr}
    {options : Options} (made : make stamp op (some left) (some right) options = .ok node) :
    ∃ resolution,
      Resolution.resolve op left.ty right.ty options.method = .ok resolution ∧
      ∀ (requests : List Edit) (later : Comparison), node.editAll requests = .ok later →
        later.resolution = resolution ∧
          (later.conversion.isSome = true → ∃ method, resolution = .method method true) := by
  obtain ⟨resolution, found, resolved⟩ := ResolvedBy.of_make made
  obtain ⟨_, _, _, leftGiven, -, rightGiven, -, -, rfl⟩ := make_eq_ok_iff.mp made
  cases leftGiven
  cases rightGiven
  refine ⟨resolution, found, ?_⟩
  intro requests later accepted
  have kept := resolved.editAll accepted
  refine ⟨kept.resolution_eq, fun present => ?_⟩
  have lifted := kept.conversion present
  cases resolution with
  | builtin rule lifted => cases lifted
  | reference => cases lifted
  | method chosen lifted =>
      cases lifted
      exact ⟨chosen, rfl⟩

/-- Two operands of the root type, narrowed one after the other to classes that have nothing to do
with each other, are still compared by identity, although no new node compares such classes. -/
theorem unrelated_classes_survive_updates :
    let a : Expr := .parameter ⟨0⟩ "a" .object
    let b : Expr := .parameter ⟨1⟩ "b" .object
    let circle : Expr := .parameter ⟨2⟩ "a" (.ref (.cls (.root ⟨3⟩ "Circle")))
    let square : Expr := .parameter ⟨4⟩ "b" (.ref (.cls (.root ⟨5⟩ "Square")))
    let node : Comparison := ⟨⟨.equal, true, none, none⟩, ⟨6⟩, a, b⟩
    let later : Comparison := ⟨⟨.equal, true, none, none⟩, ⟨8⟩, circle, square⟩
    make ⟨6⟩ .equal (some a) (some b) .default = .ok node ∧
      node.editAll [⟨⟨7⟩, circle, none, b⟩, ⟨⟨8⟩, circle, none, square⟩] = .ok later ∧
      later.resolution = .reference ∧
      Resolution.resolve .equal circle.ty square.ty none =
        .error (.noBuiltinEquality .equal circle.ty square.ty) := by
  intro a b circle square node later
  have made : make ⟨6⟩ .equal (some a) (some b) .default = .ok node := rfl
  have accepted :
      node.editAll [⟨⟨7⟩, circle, none, b⟩, ⟨⟨8⟩, circle, none, square⟩] = .ok later := rfl
  obtain ⟨resolution, found, survives⟩ := resolution_survives_updates made
  have reference : resolution = .reference := (Except.ok.inj found).symm
  refine ⟨made, accepted, ?_, rfl⟩
  rw [← reference]
  exact (survives _ later accepted).1

/-! ## The last update -/

variable {middle : Comparison} {stamp : Stamp} {left right : Expr} {conversion : Option Conversion}

/-- An update with these parts is accepted. The node's own conversion may stay with the node's own
operands even where no other conversion is allowed. -/
structure Allows (node : Comparison) (left : Expr) (conversion : Option Conversion)
    (right : Expr) : Prop where
  leftAdmitted : node.left.Admits left
  rightAdmitted : node.right.Admits right
  converts : conversion.isSome = true →
    (node.replaced node.stamp left conversion right).isLifted = true ∨
      (left = node.left ∧ right = node.right ∧ conversion = node.conversion)

theorem Allows.of_update {updated : Comparison}
    (accepted : node.update stamp left conversion right = .ok updated) :
    node.Allows left conversion right := by
  rw [update_eq_ok_iff] at accepted
  split at accepted
  · next own =>
    obtain ⟨rfl, rfl, rfl⟩ := own
    exact ⟨.refl _, .refl _, fun _ => Or.inr ⟨rfl, rfl, rfl⟩⟩
  · obtain ⟨leftAdmitted, rightAdmitted, allowed, -⟩ := accepted
    exact ⟨leftAdmitted, rightAdmitted, fun present => Or.inl (allowed present)⟩

theorem Allows.update (allows : node.Allows left conversion right) (stamp : Stamp) :
    ∃ updated, node.update stamp left conversion right = .ok updated := by
  simp only [update_eq_ok_iff]
  split
  · exact ⟨node, rfl⟩
  · next other =>
    refine ⟨_, allows.leftAdmitted, allows.rightAdmitted, fun present => ?_, rfl⟩
    rcases allows.converts present with lifted | own
    · exact lifted
    · exact absurd own other

/-- What an updated node allows was allowed before. -/
theorem Allows.of_edit {request : Edit} (accepted : node.edit request = .ok middle)
    (allows : middle.Allows left conversion right) : node.Allows left conversion right := by
  have first : node.Allows request.left request.conversion request.right := .of_update accepted
  obtain ⟨leftGiven, rightGiven, terms⟩ := parts_of_update accepted
  have method : middle.method = node.method := by rw [terms]
  have given : middle.conversion = request.conversion := by rw [terms]
  obtain ⟨leftAdmitted, rightAdmitted, converts⟩ := allows
  rw [leftGiven] at leftAdmitted converts
  rw [rightGiven] at rightAdmitted converts
  refine ⟨first.leftAdmitted.trans leftAdmitted, first.rightAdmitted.trans rightAdmitted,
    fun present => ?_⟩
  rcases converts present with lifted | ⟨rfl, rfl, own⟩
  · left
    unfold isLifted replaced at lifted ⊢
    rw [← method]
    exact lifted
  · -- The last update changed nothing, so the one before it had the same parts.
    rw [given] at own
    rw [own] at present ⊢
    exact first.converts present

theorem Allows.of_editAll {requests : List Edit} (accepted : node.editAll requests = .ok middle)
    (allows : middle.Allows left conversion right) : node.Allows left conversion right := by
  induction requests generalizing node with
  | nil =>
      cases accepted
      exact allows
  | cons request rest ih =>
      obtain ⟨next, first, others⟩ := editAll_cons_eq_ok_iff.mp accepted
      exact .of_edit first (ih others)

/-- Updates give a node other operands and another conversion, and never any other part. -/
theorem terms_of_editAll {requests : List Edit} (accepted : node.editAll requests = .ok middle) :
    middle.toTerms = ⟨node.op, node.liftToNull, node.method, middle.conversion⟩ := by
  induction requests generalizing node with
  | nil =>
      cases accepted
      rfl
  | cons request rest ih =>
      obtain ⟨next, first, others⟩ := editAll_cons_eq_ok_iff.mp accepted
      obtain ⟨-, -, terms⟩ := parts_of_update first
      have kept := ih others
      rw [terms] at kept
      exact kept

/-- Of updates one after another only the last one counts: made on the first node at once it is
accepted as well, and gives the same operator, operands, method, flag and conversion. An update gives
the node itself exactly if it is made with the node's own parts. -/
theorem only_the_last_update_counts (node : Comparison) :
    (∀ {earlier : List Edit} {last : Edit} {middle later : Comparison},
      node.editAll earlier = .ok middle → middle.edit last = .ok later →
        ∀ stamp, ∃ direct, node.update stamp last.left last.conversion last.right = .ok direct ∧
          direct.toTerms = later.toTerms ∧ direct.left = later.left ∧
          direct.right = later.right) ∧
    ∀ stamp left conversion right,
      node.update stamp left conversion right = .ok node ↔
        left = node.left ∧ right = node.right ∧ conversion = node.conversion := by
  constructor
  · intro earlier last middle later before accepted stamp
    have allows : node.Allows last.left last.conversion last.right :=
      .of_editAll before (.of_update accepted)
    obtain ⟨direct, updated⟩ := allows.update stamp
    obtain ⟨leftGiven, rightGiven, terms⟩ := parts_of_update updated
    obtain ⟨laterLeft, laterRight, laterTerms⟩ := parts_of_update accepted
    refine ⟨direct, updated, ?_, leftGiven.trans laterLeft.symm, rightGiven.trans laterRight.symm⟩
    rw [terms, laterTerms, terms_of_editAll before]
  · intro stamp left conversion right
    constructor
    · intro same
      obtain ⟨leftGiven, rightGiven, terms⟩ := parts_of_update same
      exact ⟨leftGiven.symm, rightGiven.symm, (congrArg Terms.conversion terms).symm⟩
    · rintro ⟨rfl, rfl, rfl⟩
      exact update_self stamp node

/-- An operand of the root type, narrowed to a class and then to a class derived from it, may be
narrowed to the latter at once, and the other operand to an unrelated class along with it. -/
theorem narrowing_step_by_step_is_narrowing_at_once :
    let shape : ClassTy := .root ⟨0⟩ "Shape"
    let a : Expr := .parameter ⟨1⟩ "a" .object
    let b : Expr := .parameter ⟨2⟩ "b" .object
    let wide : Expr := .parameter ⟨3⟩ "a" (.ref (.cls shape))
    let circle : Expr := .parameter ⟨4⟩ "a" (.ref (.cls (.derived ⟨5⟩ "Circle" shape)))
    let text : Expr := .parameter ⟨6⟩ "b" (.ref .str)
    let node : Comparison := ⟨⟨.notEqual, false, none, none⟩, ⟨7⟩, a, b⟩
    let middle : Comparison := ⟨⟨.notEqual, false, none, none⟩, ⟨8⟩, wide, b⟩
    let later : Comparison := ⟨⟨.notEqual, false, none, none⟩, ⟨9⟩, circle, text⟩
    make ⟨7⟩ .notEqual (some a) (some b) ⟨false, none⟩ = .ok node ∧
      node.editAll [⟨⟨8⟩, wide, none, b⟩] = .ok middle ∧
      middle.edit ⟨⟨9⟩, circle, none, text⟩ = .ok later ∧
      ∃ direct, node.update ⟨10⟩ circle none text = .ok direct ∧
        direct.toTerms = later.toTerms ∧ direct.left = circle ∧ direct.right = text := by
  intro shape a b wide circle text node middle later
  have first : node.editAll [⟨⟨8⟩, wide, none, b⟩] = .ok middle := rfl
  have second : middle.edit ⟨⟨9⟩, circle, none, text⟩ = .ok later := rfl
  exact ⟨rfl, first, second, (only_the_last_update_counts node).1 first second ⟨10⟩⟩

end Comparison

end EqualityTree
