import EqualityTree.Proofs.Effects
import EqualityTree.Proofs.Negation
import EqualityTree.Proofs.NewNodes

/-!
# What lifting to null and conversions decide

Two nodes that compare the same operands by the same equality do the same up to the last step of a
lifted method call, where each applies its own conversion. So neither the conversion nor lifting to
null reaches any other comparison, and of a lifted call they decide what the method leaves open.
-/

namespace EqualityTree

variable {σ : Type}

/-! ## Nodes of one comparison -/

namespace Comparison

/-- The nodes compare the same operands with the same operator and method. They may differ in
lifting to null and in their conversions. -/
structure Twins (first second : Comparison) : Prop where
  op : second.op = first.op
  method : second.method = first.method
  left : second.left = first.left
  right : second.right = first.right

theorem Twins.resolution_eq {first second : Comparison} (twins : first.Twins second) :
    second.resolution = first.resolution :=
  resolution_congr twins.method twins.left twins.right

theorem twins_remade (node : Comparison) (stamp : Stamp) : node.Twins (node.remade stamp) :=
  ⟨rfl, rfl, rfl, rfl⟩

/-- Both operands evaluate, and one of the values is null. -/
def MeetsNull (mode : Mode) (host : Host σ) (env : Environment) (node : Comparison)
    (before : World σ) : Prop :=
  ∃ left between right after,
    EvalM.exec (mode.evalExpr host env node.left) before = (.ok left, between) ∧
      EvalM.exec (mode.evalExpr host env node.right) between = (.ok right, after) ∧
        (left.isNull || right.isNull) = true

end Comparison

/-! ## Applying conversions -/

/-- The effect without the stamp that tells one default conversion from another. -/
def Event.unstamped : Event → Event
  | convert (.nullAsFalse _) result => convert (.nullAsFalse ⟨0⟩) result
  | event => event

/-- What can be told of a world where default conversions look the same. -/
def World.unstamped (world : World σ) : σ × List Event :=
  (world.state, world.trace.toList.map Event.unstamped)

theorem EvalM.accesses_applyConversion (host : Host σ) (conversion : Option Conversion)
    (result : Option Bool) (before : World σ) :
    (exec (host.applyConversion conversion result) before).2.accesses = before.accesses := by
  cases conversion with
  | none => rfl
  | some conversion =>
      rw [Host.applyConversion, exec_perform, World.accesses, Array.toList_push,
        List.filterMap_append]
      exact List.append_nil _

theorem ConversionsAlike.unstamped_applyConversion {first second : Option Conversion}
    (alike : ConversionsAlike first second) (host : Host σ) (result : Option Bool)
    (before : World σ) :
    (EvalM.exec (host.applyConversion first result) before).1 =
        (EvalM.exec (host.applyConversion second result) before).1 ∧
      (EvalM.exec (host.applyConversion first result) before).2.unstamped =
        (EvalM.exec (host.applyConversion second result) before).2.unstamped := by
  cases alike with
  | same conversion => exact ⟨rfl, rfl⟩
  | default stamp other =>
      refine ⟨rfl, Prod.ext rfl ?_⟩
      simp only [Host.applyConversion, EvalM.exec_perform, World.unstamped, Array.toList_push,
        List.map_append]
      rfl

theorem Host.alike_defaultConversion (host : Host σ) (stamp : Stamp) (result : Option Bool) :
    EvalM.Alike Event.isHosted (host.applyConversion none result)
      (host.applyConversion (some (.nullAsFalse stamp)) result) := by
  intro before
  refine ⟨rfl, Prod.ext rfl ?_⟩
  simp only [Host.applyConversion, EvalM.exec_perform, World.seen, World.effects_push]
  exact (List.append_nil _).symm

/-! ## Up to the conversion -/

/-- How two evaluations end that differ at most in a last conversion: in the same way, or each by
applying its own conversion to the same answer or, where undecided, to nothing. -/
inductive UpToConversion (host : Host σ) (first second : Option Conversion) (undecided : Prop) :
    Except EvalError Bool × World σ → Except EvalError Bool × World σ → Prop
  | same (ended : Except EvalError Bool × World σ) :
      UpToConversion host first second undecided ended ended
  | answer (answer : Bool) (between : World σ) :
      UpToConversion host first second undecided
        (EvalM.exec (host.applyConversion first (some answer)) between)
        (EvalM.exec (host.applyConversion second (some answer)) between)
  | nothing (holds : undecided) (between : World σ) :
      UpToConversion host first second undecided
        (EvalM.exec (host.applyConversion first none) between)
        (EvalM.exec (host.applyConversion second none) between)

namespace UpToConversion

variable {host : Host σ} {first second : Option Conversion} {undecided : Prop}
  {ends others : Except EvalError Bool × World σ}

theorem imp {wider : Prop} (kindred : UpToConversion host first second undecided ends others)
    (widens : undecided → wider) : UpToConversion host first second wider ends others := by
  cases kindred with
  | same => exact .same _
  | answer answer between => exact .answer answer between
  | nothing holds between => exact .nothing (widens holds) between

/-- One conversion makes one end. -/
theorem eq (kindred : UpToConversion host first first undecided ends others) : ends = others := by
  cases kindred <;> rfl

/-- Conversions neither read properties nor call methods. -/
theorem accesses_eq (kindred : UpToConversion host first second undecided ends others) :
    ends.2.accesses = others.2.accesses := by
  cases kindred with
  | same => rfl
  | answer answer between => rw [EvalM.accesses_applyConversion, EvalM.accesses_applyConversion]
  | nothing holds between => rw [EvalM.accesses_applyConversion, EvalM.accesses_applyConversion]

/-- Conversions that pass answers on differ only where there is none. -/
theorem outcome_eq (kindred : UpToConversion host first second undecided ends others)
    (decided : ¬undecided) (passes : host.PassesAnswers first)
    (otherPasses : host.PassesAnswers second) : ends.1 = others.1 := by
  cases kindred with
  | same => rfl
  | answer answer between =>
      rw [EvalM.exec_applyConversion, EvalM.exec_applyConversion, passes, otherPasses]
  | nothing holds between => exact absurd holds decided

/-- Default conversions differ in their stamps alone. -/
theorem unstamped_eq (kindred : UpToConversion host first second undecided ends others)
    (alike : ConversionsAlike first second) :
    ends.1 = others.1 ∧ ends.2.unstamped = others.2.unstamped := by
  cases kindred with
  | same => exact ⟨rfl, rfl⟩
  | answer answer between => exact alike.unstamped_applyConversion host _ between
  | nothing holds between => exact alike.unstamped_applyConversion host _ between

/-- The default conversion does what is done without a conversion. -/
theorem hosted_eq {stamp : Stamp}
    (kindred : UpToConversion host none (some (.nullAsFalse stamp)) undecided ends others) :
    ends.1 = others.1 ∧ ends.2.seen Event.isHosted = others.2.seen Event.isHosted := by
  cases kindred with
  | same => exact ⟨rfl, rfl⟩
  | answer answer between => exact host.alike_defaultConversion stamp _ between
  | nothing holds between => exact host.alike_defaultConversion stamp _ between

end UpToConversion

namespace Terms

variable {first second : Terms}

theorem upToConversion_compareBy (op : second.op = first.op) (host : Host σ) (chosen : Method)
    {lifted : Bool} {left right : Value}
    (lift : (lifted && (left.isNull || right.isNull)) = true →
      second.liftToNull = first.liftToNull)
    (before : World σ) :
    UpToConversion host first.conversion second.conversion
      (lifted = true ∧ first.liftToNull = true ∧ (left.isNull || right.isNull) = true)
      (EvalM.exec (first.compareBy host chosen lifted left right) before)
      (EvalM.exec (second.compareBy host chosen lifted left right) before) := by
  cases absent : lifted && (left.isNull || right.isNull) with
  | true =>
      obtain ⟨rfl, null⟩ := (Bool.and_eq_true _ _).mp absent
      rw [EvalM.exec_compareBy_of_null null, EvalM.exec_compareBy_of_null null, lift absent, op]
      cases lifting : first.liftToNull with
      | true => exact .nothing ⟨rfl, rfl, null⟩ before
      | false => exact .same _
  | false =>
      rw [EvalM.exec_compareBy_of_call absent, EvalM.exec_compareBy_of_call absent, op]
      dsimp only
      cases (host.call chosen left right before.state).1.asBool? with
      | none => exact .same _
      | some equal =>
          cases lifted with
          | false => exact .same _
          | true => exact .answer _ _

/-- Comparisons by one equality do the same up to their conversions. Lifting to null has to agree
only where null keeps a lifted call from being made. -/
theorem upToConversion_compare (op : second.op = first.op) (host : Host σ) {left right : Value}
    {resolution : Resolution}
    (lift : (resolution.isLiftedCall && (left.isNull || right.isNull)) = true →
      second.liftToNull = first.liftToNull)
    (before : World σ) :
    UpToConversion host first.conversion second.conversion
      (resolution.isLiftedCall = true ∧ first.liftToNull = true ∧
        (left.isNull || right.isNull) = true)
      (EvalM.exec (first.compare host left right resolution) before)
      (EvalM.exec (second.compare host left right resolution) before) := by
  cases resolution with
  | builtin rule lifted =>
      cases lifted with
      | false =>
          rw [compare, compare, op]
          exact .same _
      | true =>
          rw [compare, compare, op]
          exact .same _
  | reference =>
      rw [compare, compare, op]
      exact .same _
  | method chosen lifted => exact upToConversion_compareBy op host chosen lift before

end Terms

/-- Twins do the same up to their conversions, if they agree in lifting to null where their call is
lifted and meets null. -/
theorem Comparison.Twins.upToConversion {first second : Comparison} (twins : first.Twins second)
    {mode : Mode} {host : Host σ} {env : Environment} {before : World σ}
    (lift : first.isLifted = true → first.MeetsNull mode host env before →
      second.liftToNull = first.liftToNull) :
    UpToConversion host first.conversion second.conversion
      (first.isLifted = true ∧ first.liftToNull = true ∧ first.MeetsNull mode host env before)
      (EvalM.exec (mode.evalComparison host env first) before)
      (EvalM.exec (mode.evalComparison host env second) before) := by
  rw [mode.evalComparison_eq, mode.evalComparison_eq]
  unfold Comparison.eval
  rw [twins.left, twins.right, twins.resolution_eq]
  -- The operands are the same, so the runs part at the comparison of their values or not at all.
  rcases leftEnds : EvalM.exec (first.left.eval host env) before with ⟨error | left, between⟩
  · rw [EvalM.exec_bind_of_error leftEnds, EvalM.exec_bind_of_error leftEnds]
    exact .same _
  · rw [EvalM.exec_bind_of_ok leftEnds, EvalM.exec_bind_of_ok leftEnds]
    rcases rightEnds : EvalM.exec (first.right.eval host env) between with ⟨error | right, after⟩
    · rw [EvalM.exec_bind_of_error rightEnds, EvalM.exec_bind_of_error rightEnds]
      exact .same _
    · rw [EvalM.exec_bind_of_ok rightEnds, EvalM.exec_bind_of_ok rightEnds]
      have meets : (left.isNull || right.isNull) = true → first.MeetsNull mode host env before := by
        intro null
        refine ⟨left, between, right, after, ?_, ?_, null⟩
        · rw [mode.evalExpr_eq]
          exact leftEnds
        · rw [mode.evalExpr_eq]
          exact rightEnds
      rw [← first.isLiftedCall_resolution] at lift ⊢
      refine (Terms.upToConversion_compare twins.op host (fun lifted => ?_) after).imp ?_
      · obtain ⟨called, null⟩ := (Bool.and_eq_true _ _).mp lifted
        exact lift called (meets null)
      · rintro ⟨called, lifting, null⟩
        exact ⟨called, lifting, meets null⟩

/-! ## Without a conversion -/

/-- A node whose call is lifted, updated to have no conversion, can be made anew of its operands.
The new node has the default conversion and does the same. -/
theorem Comparison.alike_without_conversion {node bare : Comparison} {stamp : Stamp}
    {left right : Expr} (built : node.Constructible) (lifted : node.isLifted = true)
    (accepted : node.update stamp left none right = .ok bare) (newStamp : Stamp) :
    ∃ fresh, Comparison.make newStamp node.op (some left) (some right)
        ⟨node.liftToNull, node.method⟩ = .ok fresh ∧
      fresh.conversion = some (.nullAsFalse newStamp) ∧
      ∀ (mode : Mode) (host : Host σ) (env : Environment),
        EvalM.Alike Event.isHosted (mode.evalComparison host env bare)
          (mode.evalComparison host env fresh) := by
  obtain ⟨-, -, resolution, resolved⟩ := Expr.wellFormed_toExpr_iff.mp (built.wellFormed stamp)
  have bareResolved : bare.ResolvedBy resolution := resolved.update accepted
  rw [resolved.isLifted_eq] at lifted
  obtain ⟨-, -, terms⟩ := parts_of_update accepted
  have conversion : bare.conversion = none := by rw [terms]
  have default : (bare.remade newStamp).conversion = some (.nullAsFalse newStamp) := by
    rw [remade, bareResolved.resolution_eq]
    exact (resolution.newConversion_eq newStamp).trans (if_pos lifted)
  rcases resolved.make_updated accepted newStamp with made | ⟨reference, -⟩
  · refine ⟨bare.remade newStamp, made, default, ?_⟩
    intro mode host env before
    have kindred : UpToConversion host bare.conversion (bare.remade newStamp).conversion _
        (EvalM.exec (mode.evalComparison host env bare) before)
        (EvalM.exec (mode.evalComparison host env (bare.remade newStamp)) before) :=
      (bare.twins_remade newStamp).upToConversion fun _ _ => rfl
    rw [conversion, default] at kindred
    exact kindred.hosted_eq
  · rw [reference] at lifted
    cases lifted

/-! ## Where they matter -/

/-- Lifting to null and the conversion matter only for lifted calls that meet null. Twins that
differ in lifting to null alone do the same in every mode, environment and world, unless their call
is lifted and an operand is null. Twins that differ in the conversion alone read and call the same,
and they end the same if both conversions pass answers on, unless the call is lifted, they lift to
null and an operand is null. And without its conversion a node whose call is lifted does what the
new node with the default conversion does, on null as well. -/
theorem lifting_and_conversions_decide_nulls_only :
    (∀ {first second : Comparison} (mode : Mode) (host : Host σ) env before,
      first.Twins second → ConversionsAlike first.conversion second.conversion →
        ¬(first.isLifted = true ∧ first.MeetsNull mode host env before) →
          let ends := EvalM.exec (mode.evalComparison host env first) before
          let others := EvalM.exec (mode.evalComparison host env second) before
          ends.1 = others.1 ∧ ends.2.unstamped = others.2.unstamped ∧
            (first.conversion = second.conversion → ends = others)) ∧
    (∀ {first second : Comparison} (mode : Mode) (host : Host σ) env before,
      first.Twins second → first.liftToNull = second.liftToNull →
        host.PassesAnswers first.conversion → host.PassesAnswers second.conversion →
          let ends := EvalM.exec (mode.evalComparison host env first) before
          let others := EvalM.exec (mode.evalComparison host env second) before
          ends.2.accesses = others.2.accesses ∧
            (¬(first.isLifted = true ∧ first.liftToNull = true ∧
              first.MeetsNull mode host env before) → ends.1 = others.1)) ∧
    ∀ {node bare : Comparison} {stamp : Stamp} {left right : Expr}, node.Constructible →
      node.isLifted = true → node.update stamp left none right = .ok bare → ∀ newStamp,
        ∃ fresh, Comparison.make newStamp node.op (some left) (some right)
            ⟨node.liftToNull, node.method⟩ = .ok fresh ∧
          fresh.conversion = some (.nullAsFalse newStamp) ∧
          ∀ (mode : Mode) (host : Host σ) (env : Environment),
            EvalM.Alike Event.isHosted (mode.evalComparison host env bare)
              (mode.evalComparison host env fresh) := by
  refine ⟨?_, ?_, Comparison.alike_without_conversion⟩
  · intro first second mode host env before twins alike unaffected ends others
    have kindred : UpToConversion host first.conversion second.conversion _ ends others :=
      twins.upToConversion fun lifted meets => absurd ⟨lifted, meets⟩ unaffected
    obtain ⟨outcome, unstamped⟩ := kindred.unstamped_eq alike
    refine ⟨outcome, unstamped, fun same => ?_⟩
    rw [← same] at kindred
    exact kindred.eq
  · intro first second mode host env before twins lifting passes otherPasses ends others
    have kindred : UpToConversion host first.conversion second.conversion _ ends others :=
      twins.upToConversion fun _ _ => lifting.symm
    exact ⟨kindred.accesses_eq, fun decided => kindred.outcome_eq decided passes otherPasses⟩

/-- A node that lifts to null and a twin that does not answer the same for a number and differ for
null, and so do two twins of which one has a conversion that takes nothing for true. Once the node
that has it is updated to have none, it answers for null as a new node does. -/
theorem twins_differ_for_null_only :
    let number : Value := .int .i32 ⟨7, by decide, by decide⟩
    let same : Method := .predicate ⟨0⟩ "same" (.value (.int .i32))
    let x : Expr := .parameter ⟨1⟩ "x" (.nullable (.int .i32))
    let lenient : Conversion := .named ⟨2⟩ "lenient"
    let lifting : Comparison := ⟨⟨.equal, true, some same, some (.nullAsFalse ⟨3⟩)⟩, ⟨3⟩, x, x⟩
    let plain : Comparison := ⟨⟨.equal, false, some same, some (.nullAsFalse ⟨4⟩)⟩, ⟨4⟩, x, x⟩
    let forgiving : Comparison := ⟨⟨.equal, true, some same, some lenient⟩, ⟨5⟩, x, x⟩
    let bare : Comparison := ⟨⟨.equal, true, some same, none⟩, ⟨6⟩, x, x⟩
    let host : Host Nat := ⟨fun _ calls => (.null, calls), fun _ _ _ calls => (.bool true, calls),
      fun _ result calls => (result.getD true, calls + 1)⟩
    let answer := fun (node : Comparison) (value : Value) =>
      (EvalM.exec (Mode.compiled.evalComparison host (Environment.empty.bind "x" value) node)
        ⟨0, #[]⟩).1
    Comparison.make ⟨3⟩ .equal (some x) (some x) ⟨true, some same⟩ = .ok lifting ∧
      Comparison.make ⟨4⟩ .equal (some x) (some x) ⟨false, some same⟩ = .ok plain ∧
      lifting.update ⟨5⟩ x (some lenient) x = .ok forgiving ∧
      forgiving.update ⟨6⟩ x none x = .ok bare ∧ forgiving.isLifted = true ∧
      lifting.Twins plain ∧ ConversionsAlike lifting.conversion plain.conversion ∧
      answer lifting number = answer plain number ∧
      answer lifting .null = .ok false ∧ answer plain .null = .ok true ∧
      lifting.Twins forgiving ∧ host.PassesAnswers lifting.conversion ∧
      host.PassesAnswers forgiving.conversion ∧
      answer lifting number = answer forgiving number ∧ answer forgiving .null = .ok true ∧
      ∃ fresh, Comparison.make ⟨7⟩ .equal (some x) (some x) ⟨true, some same⟩ = .ok fresh ∧
        answer bare .null = answer fresh .null := by
  intro number same x lenient lifting plain forgiving bare host answer
  have made : Comparison.make ⟨3⟩ .equal (some x) (some x) ⟨true, some same⟩ = .ok lifting := rfl
  have updated : lifting.update ⟨5⟩ x (some lenient) x = .ok forgiving := rfl
  have accepted : forgiving.update ⟨6⟩ x none x = .ok bare := rfl
  have xBuilt : x.Constructible := .parameter ⟨1⟩ "x" _
  have built : forgiving.Constructible := by
    have liftingBuilt : (lifting.toExpr ⟨3⟩).Constructible := .make xBuilt xBuilt made
    exact ⟨⟨5⟩, .update liftingBuilt xBuilt xBuilt updated⟩
  have plainTwins : lifting.Twins plain := ⟨rfl, rfl, rfl, rfl⟩
  have forgivingTwins : lifting.Twins forgiving := ⟨rfl, rfl, rfl, rfl⟩
  have alike : ConversionsAlike lifting.conversion plain.conversion := .default ⟨3⟩ ⟨4⟩
  have passes : host.PassesAnswers lifting.conversion := fun _ _ => rfl
  have otherPasses : host.PassesAnswers forgiving.conversion := fun _ _ => rfl
  let env := Environment.empty.bind "x" number
  have present : ¬lifting.MeetsNull .compiled host env ⟨0, #[]⟩ := by
    rintro ⟨left, between, right, after, leftEnds, rightEnds, null⟩
    cases leftEnds
    cases rightEnds
    cases null
  obtain ⟨byLifting, byConversion, withoutConversion⟩ :=
    @lifting_and_conversions_decide_nulls_only Nat
  obtain ⟨sameForPlain, -⟩ := byLifting .compiled host env ⟨0, #[]⟩ plainTwins alike
    fun meets => present meets.2
  obtain ⟨-, unlessNull⟩ := byConversion .compiled host env ⟨0, #[]⟩ forgivingTwins rfl passes
    otherPasses
  obtain ⟨fresh, remade, -, does⟩ := withoutConversion built rfl accepted ⟨7⟩
  exact ⟨made, rfl, updated, accepted, rfl, plainTwins, alike, sameForPlain, rfl, rfl,
    forgivingTwins, passes, otherPasses, unlessNull fun meets => present meets.2.2, rfl, fresh,
    remade, (does .compiled host (Environment.empty.bind "x" .null) ⟨0, #[]⟩).1⟩

end EqualityTree
