import EqualityTree.Comparison.Rewrite
import EqualityTree.Proofs.Effects
import EqualityTree.Proofs.TypeSoundness
import EqualityTree.Proofs.UpdateHistory

/-!
# Rewriting is sound

A part of a tree may be replaced by one that its place admits, at any depth: one level up the node
admits its rebuilt operand because its equality covers narrower operands, and what stands there then
is admitted by the next level, for a comparison is always a truth value. The rebuilt nodes keep their
equality, so a part that evaluates as the old one makes a tree that does.
-/

namespace EqualityTree

variable {σ : Type} {shown : Event → Bool} {host : Host σ} {env : Environment}

theorem Expr.node?_eq_some_iff {expr : Expr} {node : Comparison} :
    expr.node? = some node ↔ ∃ stamp, expr = node.toExpr stamp := by
  cases expr with
  | comparison stamp inner terms left right =>
      constructor
      · intro inside
        cases inside
        exact ⟨stamp, rfl⟩
      · rintro ⟨_, same⟩
        cases same
        rfl
  | _ => simp [Expr.node?, Comparison.toExpr]

/-- The operands of a node that can be built can be built. -/
theorem Expr.Constructible.operand {expr : Expr} {node : Comparison} (built : expr.Constructible)
    (inside : expr.node? = some node) (side : Side) : (node.operand side).Constructible := by
  cases built with
  | ofValue stamp value => cases inside
  | typedConstant accepted =>
      unfold Expr.typedConstant at accepted
      split at accepted
      · cases accepted
        cases inside
      · cases accepted
  | default stamp ty => cases inside
  | parameter stamp name ty => cases inside
  | property stamp place => cases inside
  | make leftBuilt rightBuilt made =>
      cases inside
      obtain ⟨_, _, _, leftGiven, -, rightGiven, -, -, rfl⟩ := Comparison.make_eq_ok_iff.mp made
      cases leftGiven
      cases rightGiven
      cases side with
      | left => exact leftBuilt
      | right => exact rightBuilt
  | update nodeBuilt leftBuilt rightBuilt accepted =>
      cases inside
      obtain ⟨leftGiven, rightGiven, -⟩ := Comparison.parts_of_update accepted
      cases side with
      | left =>
          rw [Comparison.operand, leftGiven]
          exact leftBuilt
      | right =>
          rw [Comparison.operand, rightGiven]
          exact rightBuilt

theorem Expr.Constructible.subtree {root part : Expr} {path : List Side}
    (built : root.Constructible) (found : root.subtree? path = some part) :
    part.Constructible := by
  induction path generalizing root with
  | nil =>
      cases found
      exact built
  | cons side path ih =>
      obtain ⟨node, inside, below⟩ := Option.bind_eq_some_iff.mp found
      exact ih (built.operand inside side) below

/-! ## One level -/

namespace Comparison

variable {node updated : Comparison} {resolution : Resolution} {stamp : Stamp} {operand : Expr}
  {side : Side}

/-- A node may keep its conversion with all operands that its own ones admit. -/
theorem ResolvedBy.allows {left right : Expr} (resolved : node.ResolvedBy resolution)
    (leftAdmitted : node.left.Admits left) (rightAdmitted : node.right.Admits right) :
    node.Allows left node.conversion right := by
  have covers : resolution.Covers left.ty right.ty :=
    resolved.covers.narrow leftAdmitted.accepts rightAdmitted.accepts
  have lifted : (node.replaced node.stamp left node.conversion right).isLifted =
      resolution.isLiftedCall :=
    Comparison.isLifted_eq covers resolved.method
  refine ⟨leftAdmitted, rightAdmitted, fun present => Or.inl ?_⟩
  rw [lifted]
  exact resolved.conversion present

theorem ResolvedBy.withOperand_accepted (resolved : node.ResolvedBy resolution)
    (admitted : (node.operand side).Admits operand) (stamp : Stamp) :
    ∃ updated, node.withOperand stamp operand side = .ok updated := by
  cases side with
  | left =>
      have allows : node.Allows operand node.conversion node.right :=
        resolved.allows admitted (.refl _)
      exact allows.update stamp
  | right =>
      have allows : node.Allows node.left node.conversion operand :=
        resolved.allows (.refl _) admitted
      exact allows.update stamp

theorem ResolvedBy.withOperand (resolved : node.ResolvedBy resolution)
    (accepted : node.withOperand stamp operand side = .ok updated) :
    updated.ResolvedBy resolution := by
  cases side with
  | left => exact resolved.update accepted
  | right => exact resolved.update accepted

theorem parts_of_withOperand (accepted : node.withOperand stamp operand side = .ok updated) :
    updated.toTerms = node.toTerms ∧ updated.operand side = operand ∧
      ∀ other, other ≠ side → updated.operand other = node.operand other := by
  cases side with
  | left =>
      obtain ⟨leftGiven, rightGiven, terms⟩ := parts_of_update accepted
      refine ⟨terms, leftGiven, fun other differ => ?_⟩
      cases other with
      | left => exact absurd rfl differ
      | right => exact rightGiven
  | right =>
      obtain ⟨leftGiven, rightGiven, terms⟩ := parts_of_update accepted
      refine ⟨terms, rightGiven, fun other differ => ?_⟩
      cases other with
      | left => exact leftGiven
      | right => exact absurd rfl differ

theorem constructible_withOperand {old wrapper : Stamp}
    (built : (node.toExpr old).Constructible) (operandBuilt : operand.Constructible)
    (accepted : node.withOperand stamp operand side = .ok updated) :
    (updated.toExpr wrapper).Constructible := by
  have leftBuilt : node.left.Constructible := built.operand rfl .left
  have rightBuilt : node.right.Constructible := built.operand rfl .right
  cases side with
  | left => exact .update built operandBuilt rightBuilt accepted
  | right => exact .update built leftBuilt operandBuilt accepted

/-- Nodes of the same terms and the same equality evaluate alike if their operands do. -/
theorem parallel_eval {first second : Comparison} (terms : first.toTerms = second.toTerms)
    (resolution : first.resolution = second.resolution)
    (operands : ∀ side, EvalM.Parallel shown ((first.operand side).eval host env)
      ((second.operand side).eval host env)) :
    EvalM.Parallel shown (first.eval host env) (second.eval host env) := by
  unfold Comparison.eval
  rw [terms, resolution]
  refine (operands .left).bind fun leftValue => (operands .right).bind fun rightValue => ?_
  exact (EvalM.Parallel.closed host).compare _ leftValue rightValue _

/-- What is told of the values of two comparisons is told of the answers of their nodes. -/
theorem alike_eval_of_toExpr {first second : Comparison} {wrapper other : Stamp}
    (alike : EvalM.Alike shown ((first.toExpr wrapper).eval host env)
      ((second.toExpr other).eval host env)) :
    EvalM.Alike shown (first.eval host env) (second.eval host env) := by
  rw [toExpr, toExpr, Expr.eval_comparison, Expr.eval_comparison] at alike
  exact alike.of_map fun _ _ => Value.bool.inj

end Comparison

/-! ## Any depth -/

namespace Expr

variable {root part x rewritten : Expr} {path : List Side} {fresh : Nat → Stamp × Stamp}

theorem rewriteAt_cons_eq_ok_iff {node : Comparison} {stamp : Stamp} {side : Side} :
    rewriteAt fresh part (side :: path) (node.toExpr stamp) = .ok rewritten ↔
      ∃ operand, rewriteAt fresh part path (node.operand side) = .ok operand ∧
        ∃ updated, node.withOperand (fresh path.length).1 operand side = .ok updated ∧
          rewritten = updated.toExpr (fresh path.length).2 := by
  rw [rewriteAt, node?_toExpr]
  simp only [bind_eq_ok_iff]
  constructor
  · rintro ⟨operand, rebuilt, updated, accepted, returned⟩
    cases returned
    exact ⟨operand, rebuilt, updated, accepted, rfl⟩
  · rintro ⟨operand, rebuilt, updated, accepted, rfl⟩
    exact ⟨operand, rebuilt, updated, accepted, rfl⟩

/-- What stands at the end of the path after rewriting is the new part. -/
theorem subtree?_of_rewriteAt (found : root.subtree? path = some x)
    (accepted : rewriteAt fresh part path root = .ok rewritten) :
    rewritten.subtree? path = some part := by
  induction path generalizing root rewritten with
  | nil =>
      cases accepted
      rfl
  | cons side path ih =>
      obtain ⟨node, inside, below⟩ := Option.bind_eq_some_iff.mp found
      obtain ⟨stamp, rfl⟩ := node?_eq_some_iff.mp inside
      obtain ⟨operand, rebuilt, updated, nodeAccepted, rfl⟩ := rewriteAt_cons_eq_ok_iff.mp accepted
      obtain ⟨-, operandGiven, -⟩ := Comparison.parts_of_withOperand nodeAccepted
      have placed : operand.subtree? path = some part := ih below rebuilt
      rw [subtree?, node?_toExpr, Option.bind_some, operandGiven]
      exact placed

/-- A part that its place admits is accepted at every level, and what is rebuilt may stand where the
old tree stood. -/
theorem Constructible.rewriteAt_accepted (built : root.Constructible)
    (found : root.subtree? path = some x) (partBuilt : part.Constructible)
    (admitted : x.Admits part) (fresh : Nat → Stamp × Stamp) :
    ∃ rewritten, rewriteAt fresh part path root = .ok rewritten ∧
      rewritten.Constructible ∧ root.Admits rewritten := by
  induction path generalizing root with
  | nil =>
      cases found
      exact ⟨part, rfl, partBuilt, admitted⟩
  | cons side path ih =>
      obtain ⟨node, inside, below⟩ := Option.bind_eq_some_iff.mp found
      obtain ⟨operand, rebuilt, operandBuilt, operandAdmitted⟩ := ih (built.operand inside side) below
      obtain ⟨stamp, rfl⟩ := node?_eq_some_iff.mp inside
      obtain ⟨-, -, resolution, resolved⟩ := wellFormed_toExpr_iff.mp built.wellFormed
      obtain ⟨updated, nodeAccepted⟩ :=
        resolved.withOperand_accepted operandAdmitted (fresh path.length).1
      refine ⟨updated.toExpr (fresh path.length).2, ?_, ?_, ?_⟩
      · exact rewriteAt_cons_eq_ok_iff.mpr ⟨operand, rebuilt, updated, nodeAccepted, rfl⟩
      · exact Comparison.constructible_withOperand built operandBuilt nodeAccepted
      -- Both trees are comparisons, which are always readable truth values.
      · exact Or.inr ⟨rfl, Ty.accepts_self _⟩

/-- A part that evaluates as the old one makes a tree that evaluates as the old one. -/
theorem Constructible.parallel_rewriteAt (built : root.Constructible)
    (found : root.subtree? path = some x)
    (accepted : rewriteAt fresh part path root = .ok rewritten)
    (parallel : EvalM.Parallel shown (part.eval host env) (x.eval host env)) :
    EvalM.Parallel shown (rewritten.eval host env) (root.eval host env) := by
  induction path generalizing root rewritten with
  | nil =>
      cases found
      cases accepted
      exact parallel
  | cons side path ih =>
      obtain ⟨node, inside, below⟩ := Option.bind_eq_some_iff.mp found
      have operandBuilt : (node.operand side).Constructible := built.operand inside side
      obtain ⟨stamp, rfl⟩ := node?_eq_some_iff.mp inside
      obtain ⟨operand, rebuilt, updated, nodeAccepted, rfl⟩ := rewriteAt_cons_eq_ok_iff.mp accepted
      obtain ⟨terms, operandGiven, othersKept⟩ := Comparison.parts_of_withOperand nodeAccepted
      obtain ⟨-, -, resolution, resolved⟩ := wellFormed_toExpr_iff.mp built.wellFormed
      have sameEquality : updated.resolution = node.resolution := by
        rw [(resolved.withOperand nodeAccepted).resolution_eq, resolved.resolution_eq]
      have operands : ∀ other, EvalM.Parallel shown ((updated.operand other).eval host env)
          ((node.operand other).eval host env) := by
        intro other
        by_cases same : other = side
        · rw [same, operandGiven]
          exact ih operandBuilt below rebuilt
        · rw [othersKept other same]
          exact (EvalM.Parallel.closed host).eval env _
      have nodes : EvalM.Parallel shown (updated.eval host env) (node.eval host env) :=
        Comparison.parallel_eval terms sameEquality operands
      rw [Comparison.toExpr, Comparison.toExpr, eval_comparison, eval_comparison]
      exact nodes.bind fun answer => .pure _

/-! ## Soundness -/

/-- The part may be put where the other one stands: it can be built and read, and it is of the same
type or, in place of a reference, of one that the other type accepts. -/
structure Suits (part x : Expr) : Prop where
  built : part.Constructible
  readable : part.isReadable = true
  typed : part.ty = x.ty ∨ x.ty.isReference = true ∧ x.ty.accepts part.ty = true

theorem Suits.admitted (suits : part.Suits x) : x.Admits part := by
  refine Or.inr ⟨suits.readable, ?_⟩
  rcases suits.typed with same | ⟨-, accepted⟩
  · rw [same]
    exact Ty.accepts_self _
  · exact accepted

/-- In the environment the part evaluates as the other one, from every world and in both modes, as
far as the shown effects tell. -/
def EvaluatesAs (shown : Event → Bool) (host : Host σ) (env : Environment) (part x : Expr) : Prop :=
  ∀ mode : Mode, EvalM.Alike shown (mode.evalExpr host env part) (mode.evalExpr host env x)

theorem evaluatesAs_iff :
    part.EvaluatesAs shown host env x ↔
      EvalM.Alike shown (part.eval host env) (x.eval host env) := by
  simp only [EvaluatesAs, Mode.evalExpr_eq]
  exact ⟨fun alike => alike .default, fun alike _ => alike⟩

end Expr

/-- A part of a tree that can be built may be replaced by any that suits its place: every level
accepts its rebuilt operand, and if the new part evaluates as the old one then the new tree, and the
node at its root, evaluates as the old. A value that was found without any effect of the host can be
stored as a constant that is such a part. -/
theorem rewriting_is_sound {root x : Expr} {path : List Side} (built : root.Constructible)
    (found : root.subtree? path = some x) (fresh : Nat → Stamp × Stamp) :
    (∀ part : Expr, part.Suits x →
      ∃ rewritten, Expr.rewriteAt fresh part path root = .ok rewritten ∧
        rewritten.Constructible ∧ rewritten.subtree? path = some part ∧
        ∀ {σ : Type} (host : Host σ) (env : Environment) (shown : Event → Bool),
          part.EvaluatesAs shown host env x →
            rewritten.EvaluatesAs shown host env root ∧
            ∀ node newNode, root.node? = some node → rewritten.node? = some newNode →
              ∀ mode : Mode, EvalM.Alike shown (mode.evalComparison host env newNode)
                (mode.evalComparison host env node)) ∧
    ∀ {σ : Type} (host : Host σ) (env : Environment) (shown : Event → Bool) (mode : Mode)
      (before after : World σ) (value : Value) (stamp : Stamp),
      Event.ShowsHost shown →
      EvalM.exec (mode.evalExpr host env x) before = (.ok value, after) →
      after.effects shown = before.effects shown →
        ∃ folded, Expr.typedConstant stamp value x.ty = .ok folded ∧ folded.Suits x ∧
          folded.EvaluatesAs shown host env x := by
  constructor
  · intro part suits
    obtain ⟨rewritten, accepted, rewrittenBuilt, -⟩ :=
      built.rewriteAt_accepted found suits.built suits.admitted fresh
    refine ⟨rewritten, accepted, rewrittenBuilt, Expr.subtree?_of_rewriteAt found accepted, ?_⟩
    intro σ host env shown evaluatesAs
    have steady : EvalM.Parallel shown (x.eval host env) (x.eval host env) :=
      (EvalM.Parallel.closed host).eval env x
    have parallel : EvalM.Parallel shown (part.eval host env) (x.eval host env) :=
      (Expr.evaluatesAs_iff.mp evaluatesAs).parallel steady
    have alike : EvalM.Alike shown (rewritten.eval host env) (root.eval host env) :=
      (built.parallel_rewriteAt found accepted parallel).alike
    refine ⟨Expr.evaluatesAs_iff.mpr alike, ?_⟩
    intro node newNode inside newInside mode
    obtain ⟨old, rfl⟩ := Expr.node?_eq_some_iff.mp inside
    obtain ⟨wrapper, rfl⟩ := Expr.node?_eq_some_iff.mp newInside
    rw [Mode.evalComparison_eq, Mode.evalComparison_eq]
    exact Comparison.alike_eval_of_toExpr alike
  · intro σ host env shown mode before after value stamp honest evaluates silent
    rw [Mode.evalExpr_eq] at evaluates
    have holds : value.inhabits x.ty = true :=
      (built.subtree found).wellFormed.inhabits_of_eval evaluates
    have accepted : Expr.typedConstant stamp value x.ty = .ok (.constant stamp value x.ty) :=
      if_pos holds
    refine ⟨.constant stamp value x.ty, accepted, ?_, ?_⟩
    · exact ⟨.typedConstant accepted, rfl, Or.inl rfl⟩
    · exact Expr.evaluatesAs_iff.mpr (Expr.alike_of_silent honest evaluates silent)

/-- Two levels down, a parameter of the root type that holds a string is declared a string. Beside
it, a comparison of null with null by a method, which only the default conversion answers, becomes
the constant no. -/
theorem narrowed_and_folded_tree_evaluates_as_before :
    let text : Value := .str ⟨0⟩ "text"
    let a : Expr := .parameter ⟨1⟩ "a" .object
    let b : Expr := .parameter ⟨2⟩ "b" .object
    let same : Method := .predicate ⟨3⟩ "same" (.value .char)
    let nothing : Expr := .default ⟨4⟩ (.nullable .char)
    let inner : Comparison := ⟨⟨.equal, true, none, none⟩, ⟨5⟩, a, b⟩
    let beside : Comparison :=
      ⟨⟨.equal, true, some same, some (.nullAsFalse ⟨7⟩)⟩, ⟨7⟩, nothing, nothing⟩
    let outer : Comparison :=
      ⟨⟨.notEqual, true, none, none⟩, ⟨9⟩, inner.toExpr ⟨6⟩, beside.toExpr ⟨8⟩⟩
    let root : Expr := outer.toExpr ⟨10⟩
    let narrow : Expr := .parameter ⟨11⟩ "a" (.ref .str)
    let folded : Expr := .constant ⟨12⟩ (.bool false) .bool
    let fresh := fun height => (⟨20 + 2 * height⟩, ⟨21 + 2 * height⟩)
    let host : Host Nat := ⟨fun _ calls => (.null, calls), fun _ _ _ calls => (.null, calls + 1),
      fun _ result calls => (result.getD true, calls + 1)⟩
    let env := (Environment.empty.bind "a" text).bind "b" text
    root.Constructible ∧ narrow.Suits a ∧ narrow.EvaluatesAs Event.isHosted host env a ∧
      (∃ rewritten, Expr.rewriteAt fresh narrow [.left, .left] root = .ok rewritten ∧
        rewritten.EvaluatesAs Event.isHosted host env root) ∧
      EvalM.exec (Mode.compiled.evalExpr host env (beside.toExpr ⟨8⟩)) ⟨0, #[]⟩ =
        (.ok (.bool false), ⟨0, #[.convert (.nullAsFalse ⟨7⟩) none]⟩) ∧
      Expr.typedConstant ⟨12⟩ (.bool false) .bool = .ok folded ∧
      ∃ rewritten, Expr.rewriteAt fresh folded [.right] root = .ok rewritten ∧
        rewritten.EvaluatesAs Event.isHosted host env root := by
  intro text a b same nothing inner beside outer root narrow folded fresh host env
  have innerMade : Comparison.make ⟨5⟩ .equal (some a) (some b) .default = .ok inner := rfl
  have besideMade : Comparison.make ⟨7⟩ .equal (some nothing) (some nothing) ⟨true, some same⟩ =
      .ok beside := rfl
  have outerMade : Comparison.make ⟨9⟩ .notEqual (some (inner.toExpr ⟨6⟩))
      (some (beside.toExpr ⟨8⟩)) .default = .ok outer := rfl
  have built : root.Constructible :=
    .make (.make (.parameter ⟨1⟩ "a" .object) (.parameter ⟨2⟩ "b" .object) innerMade)
      (.make (.default ⟨4⟩ _) (.default ⟨4⟩ _) besideMade) outerMade
  have suits : narrow.Suits a := ⟨.parameter ⟨11⟩ "a" _, rfl, Or.inr ⟨rfl, rfl⟩⟩
  have narrowAlike : narrow.EvaluatesAs Event.isHosted host env a := by
    intro mode before
    cases mode <;> exact ⟨rfl, rfl⟩
  have evaluates : EvalM.exec (Mode.compiled.evalExpr host env (beside.toExpr ⟨8⟩)) ⟨0, #[]⟩ =
      (.ok (.bool false), ⟨0, #[.convert (.nullAsFalse ⟨7⟩) none]⟩) := rfl
  have foundLeft : root.subtree? [.left, .left] = some a := rfl
  have foundRight : root.subtree? [.right] = some (beside.toExpr ⟨8⟩) := rfl
  refine ⟨built, suits, narrowAlike, ?_, evaluates, rfl, ?_⟩
  · obtain ⟨rewritten, accepted, -, -, alike⟩ :=
      (rewriting_is_sound built foundLeft fresh).1 narrow suits
    exact ⟨rewritten, accepted, (alike host env _ narrowAlike).1⟩
  · obtain ⟨replaced, folds⟩ := rewriting_is_sound built foundRight fresh
    obtain ⟨constant, accepted, constantSuits, constantAlike⟩ :=
      folds host env Event.isHosted .compiled _ _ _ ⟨12⟩ (fun _ hosted => hosted) evaluates rfl
    cases accepted
    obtain ⟨rewritten, accepted, -, -, alike⟩ := replaced folded constantSuits
    exact ⟨rewritten, accepted, (alike host env _ constantAlike).1⟩

end EqualityTree
