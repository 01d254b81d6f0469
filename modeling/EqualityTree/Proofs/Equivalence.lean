import EqualityTree.Expr.Parts
import EqualityTree.Proofs.Meaning
import EqualityTree.Proofs.NewNodes

/-!
# Equality as an equivalence

Where the methods and conversions in a tree depend on nothing but their arguments and no property is
read, the value of the tree is settled by the environment. Equality without a method tells of
settled values whether they stand for the same, whatever the static types of the operands, and that
is an equivalence but for NaNs. Which operands it accepts does not depend on their order either.
-/

namespace EqualityTree

variable {σ α β : Type}

/-! ## Steady evaluations -/

namespace EvalM

/-- The action ends in the same way wherever it starts. It may still change the world. -/
def Steady (action : EvalM σ α) : Prop :=
  ∀ before other, (exec action before).1 = (exec action other).1

namespace Steady

theorem pure (value : α) : Steady (Pure.pure value : EvalM σ α) :=
  fun _ _ => rfl

theorem throw (error : EvalError) : Steady (MonadExcept.throw error : EvalM σ α) :=
  fun _ _ => rfl

theorem ofExcept (outcome : Except EvalError α) :
    Steady (MonadExcept.ofExcept outcome : EvalM σ α) := by
  intro before other
  rw [exec_ofExcept, exec_ofExcept]

theorem bind {first : EvalM σ α} {next : α → EvalM σ β} (firstSteady : Steady first)
    (nextSteady : ∀ value, Steady (next value)) : Steady (first >>= next) := by
  intro before other
  have outcomes := firstSteady before other
  rcases ends : exec first before with ⟨outcome, between⟩
  rcases endsOther : exec first other with ⟨outcomeOther, betweenOther⟩
  rw [ends, endsOther] at outcomes
  dsimp only at outcomes
  subst outcomes
  cases outcome with
  | error error => rw [exec_bind_of_error ends, exec_bind_of_error endsOther]
  | ok value =>
      rw [exec_bind_of_ok ends, exec_bind_of_ok endsOther]
      exact nextSteady value between betweenOther

/-- A steady action that has ended with a value once ends with it always. -/
theorem ends {action : EvalM σ α} {value : α} {once later : World σ} (steady : Steady action)
    (ended : exec action once = (.ok value, later)) (before : World σ) :
    ∃ after, exec action before = (.ok value, after) := by
  have outcome := steady before once
  rw [ended] at outcome
  exact ⟨(exec action before).2, Prod.ext outcome rfl⟩

end Steady

end EvalM

/-- The method and the conversion of the terms, if any, answer by their arguments alone. -/
structure Host.PureFor (host : Host σ) (terms : Terms) : Prop where
  call : ∀ chosen, terms.method = some chosen → ∀ left right state other,
    (host.call chosen left right state).1 = (host.call chosen left right other).1
  convert : ∀ result state other,
    host.answerFor terms.conversion result state = host.answerFor terms.conversion result other

namespace Host.PureFor

variable {host : Host σ} {terms : Terms}

theorem steady_applyConversion (pure : host.PureFor terms) (result : Option Bool) :
    EvalM.Steady (host.applyConversion terms.conversion result) := by
  intro before other
  rw [EvalM.exec_applyConversion, EvalM.exec_applyConversion,
    pure.convert result before.state other.state]

theorem steady_callMethod (pure : host.PureFor terms) {chosen : Method}
    (method : terms.method = some chosen) (left right : Value) :
    EvalM.Steady (host.callMethod chosen left right) := by
  intro before other
  rw [callMethod, EvalM.exec_perform, EvalM.exec_perform]
  exact congrArg Except.ok (pure.call chosen method left right before.state other.state)

theorem steady_compareBy (pure : host.PureFor terms) {chosen : Method}
    (method : terms.method = some chosen) (lifted : Bool) (left right : Value) :
    EvalM.Steady (terms.compareBy host chosen lifted left right) := by
  unfold Terms.compareBy
  split
  · split
    · exact pure.steady_applyConversion none
    · exact .pure _
  · refine .bind (pure.steady_callMethod method left right) fun returned => ?_
    split
    · exact .throw _
    · split
      · exact pure.steady_applyConversion _
      · exact .pure _

/-- Where user code is pure, so is every comparison that uses no other method. -/
theorem steady_compare (pure : host.PureFor terms) {resolution : Resolution}
    (method : resolution.chosenMethod = terms.method) (left right : Value) :
    EvalM.Steady (terms.compare host left right resolution) := by
  cases resolution with
  | builtin rule lifted => cases lifted <;> exact .pure _
  | reference => exact .pure _
  | method chosen lifted => exact pure.steady_compareBy method.symm lifted left right

end Host.PureFor

/-- A well-formed tree that reads no property is steady if the user code in it is pure. -/
theorem Expr.WellFormed.steady_eval {expr : Expr} {host : Host σ} {env : Environment}
    (formed : expr.WellFormed) (noProperty : ∀ stamp place, .property stamp place ∉ expr.leaves)
    (pure : ∀ node ∈ expr.nodes, host.PureFor node.toTerms) :
    EvalM.Steady (expr.eval host env) := by
  induction formed with
  | constant holds => exact .pure _
  | default stamp ty => exact .pure _
  | parameter stamp name ty => exact .ofExcept _
  | property stamp place => exact absurd (List.mem_singleton_self _) (noProperty stamp place)
  | @comparison stamp node terms left right resolution leftFormed rightFormed resolved
      leftSteady rightSteady =>
      have fromLeft : EvalM.Steady (left.eval host env) := by
        refine leftSteady (fun stamp place inLeft => ?_) (fun node inLeft => ?_)
        · exact noProperty stamp place (List.mem_append_left _ inLeft)
        · exact pure node (List.mem_cons_of_mem _ (List.mem_append_left _ inLeft))
      have fromRight : EvalM.Steady (right.eval host env) := by
        refine rightSteady (fun stamp place inRight => ?_) (fun node inRight => ?_)
        · exact noProperty stamp place (List.mem_append_right _ inRight)
        · exact pure node (List.mem_cons_of_mem _ (List.mem_append_right _ inRight))
      have here : host.PureFor terms := pure ⟨terms, node, left, right⟩ List.mem_cons_self
      rw [Expr.eval]
      refine .bind fromLeft fun leftValue => .bind fromRight fun rightValue => ?_
      rw [resolved.resolution_eq]
      exact .bind (here.steady_compare resolved.method leftValue rightValue) fun answer => .pure _

/-! ## Settled values -/

/-- The expression can be built, reads no property and runs no user code but pure one, and it is
known to evaluate to the value. -/
structure Expr.Settled (host : Host σ) (env : Environment) (expr : Expr) (value : Value) :
    Prop where
  built : expr.Constructible
  noProperty : ∀ stamp place, .property stamp place ∉ expr.leaves
  pure : ∀ node ∈ expr.nodes, host.PureFor node.toTerms
  evaluates : ∃ (mode : Mode) (before after : World σ),
    EvalM.exec (mode.evalExpr host env expr) before = (.ok value, after)

namespace Expr.Settled

variable {host : Host σ} {env : Environment} {expr : Expr} {value : Value}

theorem isReadable (settled : expr.Settled host env value) : expr.isReadable = true := by
  cases expr with
  | property stamp place =>
      exact absurd (List.mem_singleton_self _) (settled.noProperty stamp place)
  | _ => rfl

/-- The value is found from everywhere. -/
theorem ends (settled : expr.Settled host env value) (before : World σ) :
    ∃ after, EvalM.exec (expr.eval host env) before = (.ok value, after) := by
  obtain ⟨mode, once, later, ended⟩ := settled.evaluates
  rw [mode.evalExpr_eq] at ended
  have steady : EvalM.Steady (expr.eval host env) :=
    settled.built.wellFormed.steady_eval settled.noProperty settled.pure
  exact steady.ends ended before

theorem inhabits (settled : expr.Settled host env value) : value.inhabits expr.ty = true := by
  obtain ⟨mode, before, after, ended⟩ := settled.evaluates
  rw [mode.evalExpr_eq] at ended
  exact settled.built.wellFormed.inhabits_of_eval ended

end Expr.Settled

/-! ## Equality without a method -/

/-- Equality is built in for two types in either order or in none. -/
theorem Resolution.builtin?_comm {op : Operator} {left right : Ty} {resolution : Resolution}
    (resolved : builtin? op left right = .ok resolution) :
    builtin? op right left = .ok resolution := by
  unfold builtin? at resolved ⊢
  split at resolved
  · next same =>
    rw [if_pos same.symm, ← same]
    exact resolved
  · next differ =>
    rw [if_neg (Ne.symm differ), Bool.and_comm right.isReference, Bool.or_comm (right.accepts left)]
    split at resolved
    · next references =>
      rw [if_pos references]
      exact resolved
    · cases resolved

namespace Comparison

/-- The node is made to find the two expressions equal, without a method. -/
def Equates (node : Comparison) (left right : Expr) : Prop :=
  ∃ stamp liftToNull,
    make stamp .equal (some left) (some right) ⟨liftToNull, none⟩ = .ok node

/-- The node answers so in both modes and from every world. -/
def Answers (host : Host σ) (env : Environment) (node : Comparison) (answer : Bool) : Prop :=
  ∀ (mode : Mode) before, (EvalM.exec (mode.evalComparison host env node) before).1 = .ok answer

variable {host : Host σ} {env : Environment} {a b : Expr} {x y : Value}

/-- Making the node is a matter of the operand types alone. -/
theorem make_of_builtin? {resolution : Resolution} (aReadable : a.isReadable = true)
    (bReadable : b.isReadable = true)
    (resolved : Resolution.builtin? .equal a.ty b.ty = .ok resolution) (stamp : Stamp)
    (liftToNull : Bool) :
    ∃ node, make stamp .equal (some a) (some b) ⟨liftToNull, none⟩ = .ok node := by
  rw [make_of_readable aReadable bReadable, Resolution.resolve, resolved]
  exact ⟨_, rfl⟩

/-- Equality accepts any readable expression with itself. -/
theorem make_self (readable : a.isReadable = true) (stamp : Stamp) (liftToNull : Bool) :
    ∃ node, make stamp .equal (some a) (some a) ⟨liftToNull, none⟩ = .ok node :=
  make_of_builtin? readable readable (if_pos rfl) stamp liftToNull

theorem Equates.swap {node : Comparison} (equates : node.Equates a b) (stamp : Stamp)
    (liftToNull : Bool) :
    ∃ swapped, make stamp .equal (some b) (some a) ⟨liftToNull, none⟩ = .ok swapped := by
  obtain ⟨_, _, made⟩ := equates
  obtain ⟨_, _, resolution, leftGiven, leftReadable, rightGiven, rightReadable, resolved, -⟩ :=
    make_eq_ok_iff.mp made
  cases leftGiven
  cases rightGiven
  exact make_of_builtin? rightReadable leftReadable (Resolution.builtin?_comm resolved) stamp
    liftToNull

/-- Of settled operands the node answers whether their values stand for the same. -/
theorem Equates.answers {node : Comparison} (equates : node.Equates a b)
    (aSettled : a.Settled host env x) (bSettled : b.Settled host env y) :
    node.Answers host env (x.sameMeaning y) := by
  obtain ⟨_, _, made⟩ := equates
  obtain ⟨resolution, -, resolved⟩ := ResolvedBy.of_make made
  obtain ⟨_, _, _, leftGiven, -, rightGiven, -, -, rfl⟩ := make_eq_ok_iff.mp made
  cases leftGiven
  cases rightGiven
  intro mode before
  -- The second operand starts in the world that the first one leaves, and settled it does not mind.
  obtain ⟨between, aEnds⟩ := aSettled.ends before
  obtain ⟨after, bEnds⟩ := bSettled.ends between
  rw [mode.evalComparison_eq, Comparison.eval, EvalM.exec_bind_of_ok aEnds,
    EvalM.exec_bind_of_ok bEnds, resolved.resolution_eq,
    resolved.covers.compare_eq resolved.method aSettled.inhabits bSettled.inhabits,
    EvalM.exec_pure]
  rfl

/-- Without a method, equality of settled expressions is an equivalence but for NaNs, in both modes.
It accepts every expression with itself and answers that it is equal unless its value is a NaN. It
accepts two expressions in either order or in none, and gives one answer for both orders. And it
finds the ends of a chain of equals equal, if it accepts them. -/
theorem equality_is_an_equivalence {c : Expr} {z : Value} (aSettled : a.Settled host env x)
    (bSettled : b.Settled host env y) (cSettled : c.Settled host env z) :
    (∀ stamp liftToNull, ∃ node,
      make stamp .equal (some a) (some a) ⟨liftToNull, none⟩ = .ok node ∧
        node.Answers host env !x.isNaN) ∧
    (∀ stamp liftToNull,
      (∃ node, make stamp .equal (some a) (some b) ⟨liftToNull, none⟩ = .ok node) ↔
        ∃ swapped, make stamp .equal (some b) (some a) ⟨liftToNull, none⟩ = .ok swapped) ∧
    (∃ answer, ∀ node : Comparison, node.Equates a b ∨ node.Equates b a →
      node.Answers host env answer) ∧
    (∀ first second third : Comparison, first.Equates a b → second.Equates b c →
      third.Equates a c → ∀ (mode : Mode) before,
        (EvalM.exec (mode.evalComparison host env first) before).1 = .ok true →
        (EvalM.exec (mode.evalComparison host env second) before).1 = .ok true →
          third.Answers host env true) := by
  refine ⟨?_, ?_, ⟨x.sameMeaning y, ?_⟩, ?_⟩
  · intro stamp liftToNull
    obtain ⟨node, made⟩ := make_self aSettled.isReadable stamp liftToNull
    have equates : node.Equates a a := ⟨stamp, liftToNull, made⟩
    have answers := equates.answers aSettled aSettled
    rw [Value.sameMeaning_self] at answers
    exact ⟨node, made, answers⟩
  · intro stamp liftToNull
    constructor
    · rintro ⟨node, made⟩
      exact Equates.swap ⟨stamp, liftToNull, made⟩ stamp liftToNull
    · rintro ⟨node, made⟩
      exact Equates.swap ⟨stamp, liftToNull, made⟩ stamp liftToNull
  · rintro node (equates | swapped)
    · exact equates.answers aSettled bSettled
    · rw [Value.sameMeaning_comm]
      exact swapped.answers bSettled aSettled
  · intro first second third firstEquates secondEquates thirdEquates mode before firstTrue
      secondTrue
    rw [firstEquates.answers aSettled bSettled mode before] at firstTrue
    rw [secondEquates.answers bSettled cSettled mode before] at secondTrue
    have same : x.sameMeaning z = true :=
      Value.sameMeaning_trans (Except.ok.inj firstTrue) (Except.ok.inj secondTrue)
    rw [← same]
    exact thirdEquates.answers aSettled cSettled

/-- A lifted call of a method that counts its calls is settled all the same. It is equal to a flag
and the flag to a constant, so it is equal to the constant. A ratio that is a NaN is not even equal
to itself. -/
theorem settled_call_is_equal_along_a_chain :
    let bothGiven : Method := ⟨⟨0⟩, "both_given", [.value (.int .i32), .value (.int .i32)], .bool⟩
    let limit : Expr := .parameter ⟨1⟩ "limit" (.nullable (.int .i32))
    let call : Comparison :=
      ⟨⟨.equal, true, some bothGiven, some (.nullAsFalse ⟨2⟩)⟩, ⟨2⟩, limit, limit⟩
    let a : Expr := call.toExpr ⟨3⟩
    let flag : Expr := .parameter ⟨4⟩ "flag" .bool
    let yes : Expr := .ofValue ⟨5⟩ (.bool true)
    let ratio : Expr := .parameter ⟨6⟩ "ratio" (.nullable (.float .double))
    let nan : Value := .float .double 0x7ff8000000000000#64
    let host : Host Nat := ⟨fun _ calls => (.null, calls),
      fun _ left right calls => (.bool (!left.isNull && !right.isNull), calls + 1),
      fun _ result calls => (result.getD false, calls)⟩
    let env := ((Environment.empty.bind "limit" (.int .i32 ⟨42, by decide, by decide⟩)).bind "flag"
      (.bool true)).bind "ratio" nan
    let first : Comparison := ⟨⟨.equal, true, none, none⟩, ⟨7⟩, a, flag⟩
    let second : Comparison := ⟨⟨.equal, true, none, none⟩, ⟨8⟩, flag, yes⟩
    let third : Comparison := ⟨⟨.equal, false, none, none⟩, ⟨9⟩, a, yes⟩
    a.Settled host env (.bool true) ∧ flag.Settled host env (.bool true) ∧
      yes.Settled host env (.bool true) ∧ ratio.Settled host env nan ∧
      first.Equates a flag ∧ second.Equates flag yes ∧ third.Equates a yes ∧
      (EvalM.exec (first.eval host env) ⟨0, #[]⟩).1 = .ok true ∧
      (EvalM.exec (second.eval host env) ⟨0, #[]⟩).1 = .ok true ∧
      third.Answers host env true ∧
      ∃ node, make ⟨10⟩ .equal (some ratio) (some ratio) .default = .ok node ∧
        node.Answers host env false := by
  intro bothGiven limit call a flag yes ratio nan host env first second third
  have pure : ∀ terms : Terms, terms.conversion = some (.nullAsFalse ⟨2⟩) → host.PureFor terms := by
    intro terms default
    refine ⟨fun _ _ _ _ _ _ => rfl, fun result state other => ?_⟩
    rw [default]
    rfl
  have aSettled : a.Settled host env (.bool true) := by
    have limitBuilt : limit.Constructible := .parameter ⟨1⟩ "limit" _
    have made : make ⟨2⟩ .equal (some limit) (some limit) ⟨true, some bothGiven⟩ = .ok call := rfl
    refine ⟨.make limitBuilt limitBuilt made, ?_, ?_, .compiled, ⟨0, #[]⟩, _, rfl⟩
    · intro stamp place inside
      simp [a, call, limit, leaves, Expr.leaves] at inside
    · intro node inside
      simp only [a, call, limit, Expr.nodes_toExpr, nodes, Expr.nodes, List.append_nil,
        List.mem_singleton] at inside
      rw [inside]
      exact pure _ rfl
  have parameterSettled : ∀ stamp name ty value, env.argument name ty = .ok value →
      (Expr.parameter stamp name ty).Settled host env value := by
    intro stamp name ty value bound
    refine ⟨.parameter stamp name ty, ?_, ?_, .interpreted, ⟨0, #[]⟩, ⟨0, #[]⟩, ?_⟩
    · intro stamp place inside
      simp [Expr.leaves] at inside
    · intro node inside
      cases inside
    · rw [Mode.evalExpr_eq, Expr.eval, bound]
      rfl
  have flagSettled : flag.Settled host env (.bool true) := parameterSettled _ _ _ _ rfl
  have ratioSettled : ratio.Settled host env nan := parameterSettled _ _ _ _ rfl
  have yesSettled : yes.Settled host env (.bool true) := by
    refine ⟨.ofValue ⟨5⟩ _, ?_, ?_, .compiled, ⟨0, #[]⟩, ⟨0, #[]⟩, rfl⟩
    · intro stamp place inside
      simp [yes, Expr.ofValue, Expr.leaves] at inside
    · intro node inside
      cases inside
  have firstEquates : first.Equates a flag := ⟨⟨7⟩, true, rfl⟩
  have secondEquates : second.Equates flag yes := ⟨⟨8⟩, true, rfl⟩
  have thirdEquates : third.Equates a yes := ⟨⟨9⟩, false, rfl⟩
  have firstTrue : (EvalM.exec (first.eval host env) ⟨0, #[]⟩).1 = .ok true := rfl
  have secondTrue : (EvalM.exec (second.eval host env) ⟨0, #[]⟩).1 = .ok true := rfl
  obtain ⟨-, -, -, chain⟩ := equality_is_an_equivalence aSettled flagSettled yesSettled
  obtain ⟨reflexive, -⟩ := equality_is_an_equivalence ratioSettled ratioSettled ratioSettled
  obtain ⟨node, made, answers⟩ := reflexive ⟨10⟩ true
  exact ⟨aSettled, flagSettled, yesSettled, ratioSettled, firstEquates, secondEquates, thirdEquates,
    firstTrue, secondTrue, chain _ _ _ firstEquates secondEquates thirdEquates .interpreted _
      firstTrue secondTrue, node, made, answers⟩

/-- Pure methods alone are not enough. A conversion that says yes and no in turn answers for null where
a pure method is lifted, so a node with it ends with a value always and with the same one never: it is
not equal to itself. -/
theorem toggling_conversion_is_not_equal_to_itself :
    let bothGiven : Method := ⟨⟨0⟩, "both_given", [.value (.int .i32), .value (.int .i32)], .bool⟩
    let zero : Expr := .default ⟨1⟩ (.nullable (.int .i32))
    let call : Comparison :=
      ⟨⟨.equal, true, some bothGiven, some (.nullAsFalse ⟨2⟩)⟩, ⟨2⟩, zero, zero⟩
    let toggled : Comparison :=
      ⟨⟨.equal, true, some bothGiven, some (.named ⟨3⟩ "toggle")⟩, ⟨4⟩, zero, zero⟩
    let a : Expr := toggled.toExpr ⟨5⟩
    let node : Comparison := ⟨⟨.equal, true, none, none⟩, ⟨6⟩, a, a⟩
    let host : Host Bool := ⟨fun _ next => (.null, next),
      fun _ left right next => (.bool (!left.isNull && !right.isNull), next),
      fun _ _ next => (next, !next)⟩
    make ⟨2⟩ .equal (some zero) (some zero) ⟨true, some bothGiven⟩ = .ok call ∧
      call.update ⟨4⟩ zero (some (.named ⟨3⟩ "toggle")) zero = .ok toggled ∧
      a.Constructible ∧ a.isReadable = true ∧
      (∀ stamp place, .property stamp place ∉ a.leaves) ∧
      (∀ method left right state other,
        (host.call method left right state).1 = (host.call method left right other).1) ∧
      (∀ (mode : Mode) before, (EvalM.exec (mode.evalExpr host .empty a) before).1 =
        .ok (.bool before.state)) ∧
      make ⟨6⟩ .equal (some a) (some a) .default = .ok node ∧
      node.Answers host .empty false := by
  intro bothGiven zero call toggled a node host
  have made : make ⟨2⟩ .equal (some zero) (some zero) ⟨true, some bothGiven⟩ = .ok call := rfl
  have accepted : call.update ⟨4⟩ zero (some (.named ⟨3⟩ "toggle")) zero = .ok toggled := rfl
  have zeroBuilt : zero.Constructible := .default ⟨1⟩ _
  have callBuilt : (call.toExpr ⟨7⟩).Constructible := .make zeroBuilt zeroBuilt made
  refine ⟨made, accepted, .update callBuilt zeroBuilt zeroBuilt accepted, rfl, ?_,
    fun _ _ _ _ _ => rfl, ?_, rfl, ?_⟩
  · intro stamp place inside
    simp [a, toggled, zero, leaves, Expr.leaves] at inside
  · intro mode before
    rw [mode.evalExpr_eq]
    rfl
  · intro mode before
    rw [mode.evalComparison_eq]
    cases before with
    | mk next trace => cases next <;> rfl

end Comparison

end EqualityTree
