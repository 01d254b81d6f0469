import EqualityTree.Eval.Mode

/-!
# Running an evaluation

An evaluation started in a world ends with a value or an error and leaves a world. These are the
equations by which every statement about evaluations is proved: how steps are put together, and
what the effects do to the world. Property reads and conversions are no method calls, so only a
comparison by a method adds to the calls of a world, and it adds one at most.
-/

namespace EqualityTree

variable {σ α β : Type}

/-- What a conversion makes of a result. Without a conversion, nothing counts as false. -/
def Host.answerFor (host : Host σ) (conversion : Option Conversion) (result : Option Bool)
    (state : σ) : Bool :=
  match conversion with
  | none => result.getD false
  | some conversion => (host.conversionAnswer conversion result state).1

namespace EvalM

/-- How an evaluation ends that starts in a world, and the world after it. -/
def exec (action : EvalM σ α) (before : World σ) : Except EvalError α × World σ :=
  action.run before

@[simp] theorem exec_pure (value : α) (before : World σ) :
    exec (pure value) before = (.ok value, before) :=
  rfl

@[simp] theorem exec_throw (error : EvalError) (before : World σ) :
    exec (throw error : EvalM σ α) before = (.error error, before) :=
  rfl

@[simp] theorem exec_ofExcept (outcome : Except EvalError α) (before : World σ) :
    exec (MonadExcept.ofExcept outcome) before = (outcome, before) := by
  cases outcome <;> rfl

@[simp] theorem exec_perform (event : Event) (action : σ → α × σ) (before : World σ) :
    exec (Host.perform event action) before =
      (.ok (action before.state).1, ⟨(action before.state).2, before.trace.push event⟩) :=
  rfl

/-- The second step starts in the world that the first one leaves, if the first one succeeds. -/
theorem exec_bind (first : EvalM σ α) (next : α → EvalM σ β) (before : World σ) :
    exec (first >>= next) before =
      match exec first before with
      | (.ok value, between) => exec (next value) between
      | (.error error, between) => (.error error, between) := by
  have stepwise : exec (first >>= next) before =
      exec (ExceptT.mk (ExceptT.bindCont next (exec first before).1)) (exec first before).2 :=
    rfl
  rw [stepwise]
  rcases exec first before with ⟨outcome, between⟩
  cases outcome <;> rfl

theorem exec_bind_of_ok {first : EvalM σ α} {next : α → EvalM σ β} {before between : World σ}
    {value : α} (succeeds : exec first before = (.ok value, between)) :
    exec (first >>= next) before = exec (next value) between := by
  rw [exec_bind, succeeds]

theorem exec_bind_of_error {first : EvalM σ α} {next : α → EvalM σ β} {before between : World σ}
    {error : EvalError} (fails : exec first before = (.error error, between)) :
    exec (first >>= next) before = (.error error, between) := by
  rw [exec_bind, fails]

/-- A success of two steps is a success of each. -/
theorem exec_bind_eq_ok_iff {first : EvalM σ α} {next : α → EvalM σ β}
    {before after : World σ} {result : β} :
    exec (first >>= next) before = (.ok result, after) ↔
      ∃ value between, exec first before = (.ok value, between) ∧
        exec (next value) between = (.ok result, after) := by
  rw [exec_bind]
  rcases exec first before with ⟨outcome, between⟩
  cases outcome with
  | error error => simp
  | ok value =>
      constructor
      · intro succeeds
        exact ⟨value, between, rfl, succeeds⟩
      · rintro ⟨_, _, same, succeeds⟩
        cases same
        exact succeeds

/-- A failure of two steps is one of the first, or one of the second after a success of the first. -/
theorem exec_bind_eq_error_iff {first : EvalM σ α} {next : α → EvalM σ β}
    {before after : World σ} {error : EvalError} :
    exec (first >>= next) before = (.error error, after) ↔
      exec first before = (.error error, after) ∨
        ∃ value between, exec first before = (.ok value, between) ∧
          exec (next value) between = (.error error, after) := by
  rw [exec_bind]
  rcases exec first before with ⟨outcome, between⟩
  cases outcome with
  | error other => simp
  | ok value =>
      constructor
      · intro fails
        exact Or.inr ⟨value, between, rfl, fails⟩
      · rintro (impossible | ⟨_, _, same, fails⟩)
        · cases impossible
        · cases same
          exact fails

theorem exec_bind_pure (action : EvalM σ α) (change : α → β) (before : World σ) :
    exec (action >>= fun value => pure (change value)) before =
      ((exec action before).1.map change, (exec action before).2) := by
  rw [exec_bind]
  rcases exec action before with ⟨outcome, after⟩
  cases outcome <;> rfl

/-- A readable property is read once, and the value read must be of the declared type. -/
theorem exec_value {place : Property} (readable : place.isReadable = true) (host : Host σ)
    (before : World σ) :
    exec (place.value host) before =
      (if (host.read place before.state).1.inhabits place.ty then
          .ok (host.read place before.state).1
        else
          .error (.propertyTypeMismatch place.owner place.name place.ty
            (host.read place before.state).1.naturalTy),
        ⟨(host.read place before.state).2, before.trace.push (.read place)⟩) := by
  rw [Property.value, if_pos readable, Host.readProperty, exec_bind, exec_perform]
  dsimp only
  split <;> rfl

theorem exec_value_of_unreadable {place : Property} (unreadable : place.isReadable = false)
    (host : Host σ) (before : World σ) :
    exec (place.value host) before =
      (.error (.unreadableProperty place.owner place.name), before) := by
  rw [Property.value, if_neg (Bool.eq_false_iff.mp unreadable), exec_throw]

theorem exec_applyConversion (host : Host σ) (conversion : Option Conversion)
    (result : Option Bool) (before : World σ) :
    (exec (host.applyConversion conversion result) before).1 =
      .ok (host.answerFor conversion result before.state) := by
  cases conversion <;> rfl

/-- Where null keeps a lifted call from being made, the conversion decides or nullness does. -/
theorem exec_compareBy_of_null {left right : Value} (null : (left.isNull || right.isNull) = true)
    (terms : Terms) (host : Host σ) (chosen : Method) (before : World σ) :
    exec (terms.compareBy host chosen true left right) before =
      if terms.liftToNull then exec (host.applyConversion terms.conversion none) before
      else (.ok (terms.op.apply (left.isNull && right.isNull)), before) := by
  rw [Terms.compareBy, Bool.true_and, if_pos null]
  split <;> rfl

/-- Where the method is called, it decides, unless what it returns is no truth value. -/
theorem exec_compareBy_of_call {lifted : Bool} {left right : Value}
    (called : (lifted && (left.isNull || right.isNull)) = false) (terms : Terms) (host : Host σ)
    (chosen : Method) (before : World σ) :
    exec (terms.compareBy host chosen lifted left right) before =
      let returned := (host.call chosen left right before.state).1
      let between : World σ := ⟨(host.call chosen left right before.state).2,
        before.trace.push (.call chosen left right)⟩
      match returned.asBool? with
      | none => (.error (.methodReturnedNonBool chosen.name returned.naturalTy), between)
      | some equal =>
          if lifted then
            exec (host.applyConversion terms.conversion (some (terms.op.apply equal))) between
          else (.ok (terms.op.apply equal), between) := by
  rw [Terms.compareBy, if_neg (Bool.eq_false_iff.mp called), Host.callMethod, exec_bind,
    exec_perform]
  dsimp only
  cases (host.call chosen left right before.state).1.asBool? with
  | none => rfl
  | some equal => cases lifted <;> rfl

end EvalM

theorem Expr.eval_comparison (host : Host σ) (env : Environment) (stamp node : Stamp)
    (terms : Terms) (left right : Expr) :
    (comparison stamp node terms left right).eval host env =
      (Comparison.mk terms node left right).eval host env >>= fun answer =>
        pure (.bool answer) := by
  simp only [Expr.eval, Comparison.eval, bind_assoc]

end EqualityTree
