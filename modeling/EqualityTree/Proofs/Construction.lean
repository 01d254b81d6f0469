import EqualityTree.Comparison.Constructible

/-!
# What building guarantees

An equality covers a pair of operand types when it can compare their values. Resolution only ever
chooses an equality that covers the operand types, an update only narrows operands, and coverage is
kept under narrowing. So every node that exists is resolved by the equality that it was made with,
and every expression that exists is well formed all the way down.
-/

namespace EqualityTree

/-! ## Types -/

namespace Ty

theorem accepts_value_iff (target : ValueTy) (source : Ty) :
    (value target).accepts source = true ↔ source = value target := by
  cases source <;> simp [accepts, eq_comm]

theorem accepts_nullable_iff (target : ValueTy) (source : Ty) :
    (nullable target).accepts source = true ↔ source = nullable target := by
  cases source <;> simp [accepts, eq_comm]

theorem accepts_ref_iff (target : RefTy) (source : Ty) :
    (ref target).accepts source = true ↔
      ∃ narrow, source = ref narrow ∧ target.accepts narrow = true := by
  cases source <;> simp [accepts]

theorem isReference_iff {ty : Ty} : ty.isReference = true ↔ ∃ narrow, ty = ref narrow := by
  cases ty <;> simp [isReference]

theorem isValueType_iff {ty : Ty} : ty.isValueType = true ↔ ∃ own, ty = value own := by
  cases ty <;> simp [isValueType]

theorem liftsInto_iff (operand param : Ty) :
    operand.liftsInto param = true ↔ ∃ ty, operand = nullable ty ∧ param = value ty := by
  cases operand <;> cases param <;>
    simp [liftsInto, isNullable, isValueType, accepts, nonNullable, eq_comm]

@[simp] theorem liftsInto_nullable_self (ty : ValueTy) :
    (nullable ty).liftsInto (value ty) = true :=
  (liftsInto_iff _ _).mpr ⟨ty, rfl, rfl⟩

/-- An operand may be replaced by one of its own type, or of an accepted type if it is a reference.
Acceptance alone decides that, because only references accept a type other than their own. -/
theorem replaceable_iff_accepts (current replacement : Ty) :
    (current = replacement || (current.isReference && current.accepts replacement)) =
      current.accepts replacement := by
  cases current with
  | value ty => cases replacement <;> simp [accepts, isReference]
  | nullable ty => cases replacement <;> simp [accepts, isReference]
  | ref ty =>
      by_cases same : ref ty = replacement
      · subst same
        simp
      · simp [same, isReference]

end Ty

/-! ## Coverage -/

/-- The method compares values of these two types and answers with a truth value. -/
structure Method.Declares (method : Method) (leftParam rightParam : Ty) : Prop where
  params : method.params = [leftParam, rightParam]
  returns : method.returns = .bool

namespace Resolution

def chosenMethod : Resolution → Option Method
  | method chosen _ => some chosen
  | _ => none

/-- Whether the equality is a method called on unwrapped operands. -/
def isLiftedCall : Resolution → Bool
  | method _ lifted => lifted
  | _ => false

/-- A new node has the default conversion if its call is lifted, and otherwise none. -/
theorem newConversion_eq (resolution : Resolution) (stamp : Stamp) :
    resolution.newConversion stamp =
      if resolution.isLiftedCall then some (.nullAsFalse stamp) else none := by
  cases resolution with
  | builtin rule lifted => rfl
  | reference => rfl
  | method chosen lifted => cases lifted <;> rfl

/-- The equality can compare operands of these types. Instances are compared whatever their types;
a value type has to be the same on both sides. -/
inductive Covers : Resolution → Ty → Ty → Prop
  | value (ty : ValueTy) : Covers (builtin ty.rule false) (.value ty) (.value ty)
  | nullable (ty : ValueTy) : Covers (builtin ty.rule true) (.nullable ty) (.nullable ty)
  | reference (left right : RefTy) : Covers reference (.ref left) (.ref right)
  | direct {chosen : Method} {leftParam rightParam left right : Ty}
      (declared : chosen.Declares leftParam rightParam)
      (leftAccepted : leftParam.accepts left = true)
      (rightAccepted : rightParam.accepts right = true) :
      Covers (method chosen false) left right
  | lifted {chosen : Method} {left right : ValueTy}
      (declared : chosen.Declares (.value left) (.value right)) :
      Covers (method chosen true) (.nullable left) (.nullable right)

theorem covers_of_builtin? {op : Operator} {left right : Ty} {resolution : Resolution}
    (resolved : builtin? op left right = .ok resolution) :
    resolution.Covers left right ∧ resolution.chosenMethod = none := by
  unfold builtin? at resolved
  split at resolved
  · next same =>
    subst same
    cases resolved
    cases left with
    | value ty => exact ⟨.value ty, rfl⟩
    | nullable ty => exact ⟨.nullable ty, rfl⟩
    | ref ty => exact ⟨.reference ty ty, rfl⟩
  · split at resolved
    · next references =>
      cases resolved
      simp only [Bool.and_eq_true] at references
      obtain ⟨⟨leftReference, rightReference⟩, -⟩ := references
      obtain ⟨leftTy, rfl⟩ := Ty.isReference_iff.mp leftReference
      obtain ⟨rightTy, rfl⟩ := Ty.isReference_iff.mp rightReference
      exact ⟨.reference leftTy rightTy, rfl⟩
    · cases resolved

theorem covers_of_method? {chosen : Method} {left right : Ty} {resolution : Resolution}
    (resolved : method? chosen left right = .ok resolution) :
    resolution.Covers left right ∧ resolution.chosenMethod = some chosen := by
  unfold method? at resolved
  split at resolved
  · next leftParam rightParam params =>
    split at resolved
    · next returns =>
      have declared : chosen.Declares leftParam rightParam := ⟨params, returns⟩
      split at resolved
      · next accepted =>
        cases resolved
        simp only [Bool.and_eq_true] at accepted
        exact ⟨.direct declared accepted.1 accepted.2, rfl⟩
      · split at resolved
        · next lifts =>
          cases resolved
          simp only [Method.liftsOver, params, Bool.and_eq_true, Ty.liftsInto_iff] at lifts
          obtain ⟨⟨leftTy, rfl, rfl⟩, ⟨rightTy, rfl, rfl⟩⟩ := lifts
          exact ⟨.lifted declared, rfl⟩
        · split at resolved <;> cases resolved
    · cases resolved
  · cases resolved

/-- Resolution chooses an equality that covers the operand types, by the method given if any. -/
theorem covers_of_resolve {op : Operator} {left right : Ty} {given : Option Method}
    {resolution : Resolution} (resolved : resolve op left right given = .ok resolution) :
    resolution.Covers left right ∧ resolution.chosenMethod = given := by
  cases given with
  | none => exact covers_of_builtin? resolved
  | some chosen => exact covers_of_method? resolved

namespace Covers

variable {resolution : Resolution} {left right : Ty}

/-- Narrower operands are covered by the same equality. -/
theorem narrow {narrowLeft narrowRight : Ty} (covers : resolution.Covers left right)
    (leftAccepted : left.accepts narrowLeft = true)
    (rightAccepted : right.accepts narrowRight = true) :
    resolution.Covers narrowLeft narrowRight := by
  cases covers with
  | value ty =>
      rw [Ty.accepts_value_iff] at leftAccepted rightAccepted
      subst leftAccepted rightAccepted
      exact .value ty
  | nullable ty =>
      rw [Ty.accepts_nullable_iff] at leftAccepted rightAccepted
      subst leftAccepted rightAccepted
      exact .nullable ty
  | reference _ _ =>
      obtain ⟨leftTy, rfl, -⟩ := (Ty.accepts_ref_iff _ _).mp leftAccepted
      obtain ⟨rightTy, rfl, -⟩ := (Ty.accepts_ref_iff _ _).mp rightAccepted
      exact .reference leftTy rightTy
  | direct declared leftParam rightParam =>
      exact .direct declared (Ty.accepts_trans leftParam leftAccepted)
        (Ty.accepts_trans rightParam rightAccepted)
  | lifted declared =>
      rw [Ty.accepts_nullable_iff] at leftAccepted rightAccepted
      subst leftAccepted rightAccepted
      exact .lifted declared

theorem liftsOver_eq {chosen : Method} {lifted : Bool}
    (covers : (Resolution.method chosen lifted).Covers left right) :
    chosen.liftsOver left right = lifted := by
  cases covers with
  | direct declared leftAccepted _ =>
      simp only [Method.liftsOver, declared.params,
        Ty.liftsInto_eq_false_of_accepts leftAccepted, Bool.false_and]
  | lifted declared =>
      rw [Method.liftsOver, declared.params]
      simp only [Ty.liftsInto_nullable_self, Bool.and_self]

end Covers

end Resolution

/-! ## Nodes -/

theorem bind_eq_ok_iff {ε α β : Type} {first : Except ε α} {next : α → Except ε β} {result : β} :
    (first >>= next) = .ok result ↔ ∃ value, first = .ok value ∧ next value = .ok result := by
  cases first <;> simp [bind, Except.bind]

theorem bind_eq_error_iff {ε α β : Type} {first : Except ε α} {next : α → Except ε β} {error : ε} :
    (first >>= next) = .error error ↔
      first = .error error ∨ ∃ value, first = .ok value ∧ next value = .error error := by
  cases first <;> simp [bind, Except.bind]

/-- The expression may take the place of the current one as an operand: it is the current one
itself, or it is readable and of a type that the current one's type accepts. -/
def Expr.Admits (current replacement : Expr) : Prop :=
  current = replacement ∨
    replacement.isReadable = true ∧ current.ty.accepts replacement.ty = true

namespace Expr

variable {current replacement : Expr}

theorem readableOperand_eq_ok_iff {side : Side} {operand : Option Expr} {expr : Expr} :
    readableOperand side operand = .ok expr ↔ operand = some expr ∧ expr.isReadable = true := by
  cases operand with
  | none => simp [readableOperand]
  | some given =>
      constructor
      · intro found
        simp only [readableOperand] at found
        split at found
        · next readable =>
          cases found
          exact ⟨rfl, readable⟩
        · cases found
      · rintro ⟨same, readable⟩
        cases same
        exact if_pos readable

theorem readableOperand_eq_error {side : Side} {operand : Option Expr} {error : ConstructionError}
    (refused : readableOperand side operand = .error error) :
    (operand = none ∧ error = .nullOperand side) ∨
      ∃ expr, operand = some expr ∧ expr.isReadable = false ∧ error = .unreadableOperand side := by
  cases operand with
  | none =>
      cases refused
      exact Or.inl ⟨rfl, rfl⟩
  | some given =>
      simp only [readableOperand] at refused
      split at refused
      · cases refused
      · next unreadable =>
        cases refused
        exact Or.inr ⟨given, rfl, Bool.eq_false_iff.mpr unreadable, rfl⟩

theorem checkReplacement_eq_ok_iff {side : Side} {done : Unit} :
    checkReplacement side current replacement = .ok done ↔ current.Admits replacement := by
  unfold checkReplacement Admits
  rw [Ty.replaceable_iff_accepts]
  split
  · next same => simp [same]
  · next differ =>
    split
    · next unreadable => simp_all
    · next readable =>
      split
      · next accepted => simp_all
      · next refused => simp_all

theorem Admits.refl (current : Expr) : current.Admits current := Or.inl rfl

theorem Admits.trans {further : Expr} (first : current.Admits replacement)
    (second : replacement.Admits further) : current.Admits further := by
  rcases second with same | ⟨readable, accepted⟩
  · rw [← same]
    exact first
  · refine Or.inr ⟨readable, ?_⟩
    rcases first with same | ⟨-, earlier⟩
    · rw [same]
      exact accepted
    · exact Ty.accepts_trans earlier accepted

theorem Admits.accepts (admits : current.Admits replacement) :
    current.ty.accepts replacement.ty = true := by
  rcases admits with same | ⟨-, accepted⟩
  · rw [same]
    exact Ty.accepts_self _
  · exact accepted

theorem Admits.isReadable (admits : current.Admits replacement)
    (currentReadable : current.isReadable = true) : replacement.isReadable = true := by
  rcases admits with same | ⟨readable, -⟩
  · rw [← same]
    exact currentReadable
  · exact readable

end Expr

namespace Comparison

def replaced (node : Comparison) (stamp : Stamp) (left : Expr) (conversion : Option Conversion)
    (right : Expr) : Comparison :=
  ⟨⟨node.op, node.liftToNull, node.method, conversion⟩, stamp, left, right⟩

/-- What a node is made of, and when it is made. -/
theorem make_eq_ok_iff {stamp : Stamp} {op : Operator} {left right : Option Expr}
    {options : Options} {node : Comparison} :
    make stamp op left right options = .ok node ↔
      ∃ leftExpr rightExpr resolution,
        left = some leftExpr ∧ leftExpr.isReadable = true ∧
        right = some rightExpr ∧ rightExpr.isReadable = true ∧
        Resolution.resolve op leftExpr.ty rightExpr.ty options.method = .ok resolution ∧
        node = ⟨⟨op, options.liftToNull, options.method, resolution.newConversion stamp⟩,
          stamp, leftExpr, rightExpr⟩ := by
  unfold make
  simp only [bind_eq_ok_iff, Expr.readableOperand_eq_ok_iff]
  constructor
  · rintro ⟨leftExpr, ⟨leftGiven, leftReadable⟩, rightExpr, ⟨rightGiven, rightReadable⟩, made⟩
    cases resolved : Resolution.resolve op leftExpr.ty rightExpr.ty options.method with
    | error mismatch =>
        rw [resolved] at made
        cases made
    | ok resolution =>
        rw [resolved] at made
        cases made
        exact ⟨leftExpr, rightExpr, resolution, leftGiven, leftReadable, rightGiven,
          rightReadable, resolved, rfl⟩
  · rintro ⟨leftExpr, rightExpr, resolution, leftGiven, leftReadable, rightGiven, rightReadable,
      resolved, rfl⟩
    refine ⟨leftExpr, ⟨leftGiven, leftReadable⟩, rightExpr, ⟨rightGiven, rightReadable⟩, ?_⟩
    rw [resolved]
    rfl

/-- What an update yields, and when it is accepted. The node's own parts are never checked. -/
theorem update_eq_ok_iff {node updated : Comparison} {stamp : Stamp} {left right : Expr}
    {conversion : Option Conversion} :
    node.update stamp left conversion right = .ok updated ↔
      if left = node.left ∧ right = node.right ∧ conversion = node.conversion then updated = node
      else node.left.Admits left ∧ node.right.Admits right ∧
        (conversion.isSome = true →
          (node.replaced stamp left conversion right).isLifted = true) ∧
        updated = node.replaced stamp left conversion right := by
  unfold update
  split
  · exact ⟨fun kept => (Except.ok.inj kept).symm, fun same => by rw [same]⟩
  · simp only [bind_eq_ok_iff, Expr.checkReplacement_eq_ok_iff]
    constructor
    · rintro ⟨-, leftAdmitted, -, rightAdmitted, checked⟩
      split at checked
      · cases checked
      · next allowed =>
        cases checked
        refine ⟨leftAdmitted, rightAdmitted, fun present => ?_, rfl⟩
        rw [present, Bool.true_and, Bool.not_eq_true, Bool.not_eq_false'] at allowed
        exact allowed
    · rintro ⟨leftAdmitted, rightAdmitted, allowed, rfl⟩
      refine ⟨(), leftAdmitted, (), rightAdmitted, if_neg ?_⟩
      rw [Bool.and_eq_true, Bool.not_eq_true']
      rintro ⟨present, direct⟩
      cases direct.symm.trans (allowed present)

/-- The parts of an updated node: those given, and the operator, the flag and the method of the
node itself. -/
theorem parts_of_update {node updated : Comparison} {stamp : Stamp} {left right : Expr}
    {conversion : Option Conversion}
    (accepted : node.update stamp left conversion right = .ok updated) :
    updated.left = left ∧ updated.right = right ∧
      updated.toTerms = ⟨node.op, node.liftToNull, node.method, conversion⟩ := by
  rw [update_eq_ok_iff] at accepted
  split at accepted
  · next same =>
    obtain ⟨rfl, rfl, rfl⟩ := same
    subst accepted
    exact ⟨rfl, rfl, rfl⟩
  · obtain ⟨-, -, -, rfl⟩ := accepted
    exact ⟨rfl, rfl, rfl⟩

theorem chosenMethod_resolution (node : Comparison) :
    node.resolution.chosenMethod = node.method := by
  unfold Comparison.resolution
  cases node.method with
  | some method => rfl
  | none =>
      dsimp only
      split
      · rfl
      · cases node.left.ty <;> rfl

theorem isLiftedCall_resolution (node : Comparison) :
    node.resolution.isLiftedCall = node.isLifted := by
  unfold Comparison.resolution
  cases chosen : node.method with
  | some method => rfl
  | none =>
      simp only [isLifted, chosen]
      split
      · rfl
      · cases node.left.ty <;> rfl

theorem isLifted_eq {node : Comparison} {resolution : Resolution}
    (covers : resolution.Covers node.left.ty node.right.ty)
    (method : resolution.chosenMethod = node.method) :
    node.isLifted = resolution.isLiftedCall := by
  unfold isLifted
  rw [← method]
  cases resolution with
  | builtin rule lifted => rfl
  | reference => rfl
  | method chosen lifted => exact covers.liftsOver_eq

/-- A covered node is resolved by the equality that covers it. -/
theorem resolution_eq {node : Comparison} {resolution : Resolution}
    (covers : resolution.Covers node.left.ty node.right.ty)
    (method : resolution.chosenMethod = node.method) :
    node.resolution = resolution := by
  have lifted := isLifted_eq covers method
  unfold Comparison.resolution
  rw [← method, lifted]
  cases resolution with
  | method chosen lifted => rfl
  | builtin rule lifted =>
      generalize node.left.ty = left, node.right.ty = right at covers
      cases covers <;> rfl
  | reference =>
      generalize node.left.ty = left, node.right.ty = right at covers
      cases covers
      rfl

/-- What holds of a node from the time when it is made: its operands are readable, the equality it
was made with covers them, and it has a conversion only for a lifted call. -/
structure ResolvedBy (node : Comparison) (resolution : Resolution) : Prop where
  leftReadable : node.left.isReadable = true
  rightReadable : node.right.isReadable = true
  covers : resolution.Covers node.left.ty node.right.ty
  method : resolution.chosenMethod = node.method
  conversion : node.conversion.isSome = true → resolution.isLiftedCall = true

namespace ResolvedBy

variable {node updated : Comparison} {resolution : Resolution} {stamp : Stamp}

theorem isLifted_eq (resolved : node.ResolvedBy resolution) :
    node.isLifted = resolution.isLiftedCall :=
  Comparison.isLifted_eq resolved.covers resolved.method

theorem resolution_eq (resolved : node.ResolvedBy resolution) : node.resolution = resolution :=
  Comparison.resolution_eq resolved.covers resolved.method

theorem of_make {op : Operator} {left right : Option Expr} {options : Options}
    (made : make stamp op left right options = .ok node) :
    ∃ resolution,
      Resolution.resolve op node.left.ty node.right.ty options.method = .ok resolution ∧
        node.ResolvedBy resolution := by
  obtain ⟨leftExpr, rightExpr, resolution, -, leftReadable, -, rightReadable, resolved, rfl⟩ :=
    make_eq_ok_iff.mp made
  obtain ⟨covers, method⟩ := Resolution.covers_of_resolve resolved
  refine ⟨resolution, resolved, leftReadable, rightReadable, covers, method, ?_⟩
  intro present
  cases resolution with
  | builtin rule lifted => cases present
  | reference => cases present
  | method chosen lifted =>
      cases lifted with
      | false => cases present
      | true => rfl

/-- An update keeps the equality, for it narrows the operands at most. -/
theorem update {left right : Expr} {conversion : Option Conversion}
    (resolved : node.ResolvedBy resolution)
    (accepted : node.update stamp left conversion right = .ok updated) :
    updated.ResolvedBy resolution := by
  rw [update_eq_ok_iff] at accepted
  split at accepted
  · rw [accepted]
    exact resolved
  · obtain ⟨leftAdmitted, rightAdmitted, allowed, rfl⟩ := accepted
    -- Coverage comes first: whether the updated call is lifted can be told only from it.
    have covers : resolution.Covers left.ty right.ty :=
      resolved.covers.narrow leftAdmitted.accepts rightAdmitted.accepts
    refine ⟨leftAdmitted.isReadable resolved.leftReadable,
      rightAdmitted.isReadable resolved.rightReadable, covers, resolved.method, ?_⟩
    intro present
    have lifted : (node.replaced stamp left conversion right).isLifted =
        resolution.isLiftedCall :=
      Comparison.isLifted_eq covers resolved.method
    rw [← lifted]
    exact allowed present

end ResolvedBy

end Comparison

/-! ## Expressions -/

namespace Expr

/-- What holds of an expression that exists, all the way down: a constant is of its type, and every
node is resolved by an equality. -/
inductive WellFormed : Expr → Prop
  | constant {stamp : Stamp} {value : Value} {ty : Ty} (holds : value.inhabits ty = true) :
      WellFormed (.constant stamp value ty)
  | default (stamp : Stamp) (ty : Ty) : WellFormed (.default stamp ty)
  | parameter (stamp : Stamp) (name : String) (ty : Ty) : WellFormed (.parameter stamp name ty)
  | property (stamp : Stamp) (place : Property) : WellFormed (.property stamp place)
  | comparison {stamp node : Stamp} {terms : Terms} {left right : Expr} {resolution : Resolution}
      (leftFormed : WellFormed left) (rightFormed : WellFormed right)
      (resolved : (Comparison.mk terms node left right).ResolvedBy resolution) :
      WellFormed (.comparison stamp node terms left right)

theorem wellFormed_toExpr_iff {node : Comparison} {stamp : Stamp} :
    (node.toExpr stamp).WellFormed ↔
      node.left.WellFormed ∧ node.right.WellFormed ∧
        ∃ resolution, node.ResolvedBy resolution := by
  constructor
  · intro formed
    cases formed with
    | comparison leftFormed rightFormed resolved => exact ⟨leftFormed, rightFormed, _, resolved⟩
  · rintro ⟨leftFormed, rightFormed, resolution, resolved⟩
    exact .comparison leftFormed rightFormed resolved

theorem WellFormed.update {node updated : Comparison} {old stamp wrapper : Stamp}
    {left right : Expr} {conversion : Option Conversion}
    (formed : (node.toExpr old).WellFormed) (leftFormed : left.WellFormed)
    (rightFormed : right.WellFormed)
    (accepted : node.update stamp left conversion right = .ok updated) :
    (updated.toExpr wrapper).WellFormed := by
  obtain ⟨-, -, resolution, resolved⟩ := wellFormed_toExpr_iff.mp formed
  obtain ⟨leftGiven, rightGiven, -⟩ := Comparison.parts_of_update accepted
  rw [wellFormed_toExpr_iff, leftGiven, rightGiven]
  exact ⟨leftFormed, rightFormed, resolution, resolved.update accepted⟩

theorem Constructible.wellFormed {expr : Expr} (built : expr.Constructible) :
    expr.WellFormed := by
  induction built with
  | ofValue stamp value => exact .constant (Value.inhabits_naturalTy value)
  | typedConstant accepted =>
      unfold Expr.typedConstant at accepted
      split at accepted
      · next holds =>
        cases accepted
        exact .constant holds
      · cases accepted
  | default stamp ty => exact .default stamp ty
  | parameter stamp name ty => exact .parameter stamp name ty
  | property stamp place => exact .property stamp place
  | make leftBuilt rightBuilt made leftFormed rightFormed =>
      obtain ⟨resolution, -, resolved⟩ := Comparison.ResolvedBy.of_make made
      obtain ⟨_, _, _, leftGiven, -, rightGiven, -, -, rfl⟩ := Comparison.make_eq_ok_iff.mp made
      cases leftGiven
      cases rightGiven
      exact wellFormed_toExpr_iff.mpr ⟨leftFormed, rightFormed, resolution, resolved⟩
  | update nodeBuilt leftBuilt rightBuilt accepted nodeFormed leftFormed rightFormed =>
      exact nodeFormed.update leftFormed rightFormed accepted

end Expr

theorem Comparison.Constructible.wellFormed {node : Comparison} (built : node.Constructible)
    (wrapper : Stamp) : (node.toExpr wrapper).WellFormed := by
  obtain ⟨other, wrapped⟩ := built
  exact Expr.wellFormed_toExpr_iff.mpr (Expr.wellFormed_toExpr_iff.mp wrapped.wellFormed)

end EqualityTree
