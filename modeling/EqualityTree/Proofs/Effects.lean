import EqualityTree.Proofs.Execution

/-!
# What every evaluation has in common

An evaluation is put together from the effects of its host, from values and from errors. So a
property of evaluations that all effects have and that sequencing keeps holds of the evaluation of
every tree. Two such properties are proved here, of what is shown of an evaluation: it depends on
nothing that is hidden, and where it shows no effect it depends on the environment alone.
-/

namespace EqualityTree

variable {σ : Type}

/-- A property that all effects of the host have and that sequencing keeps. -/
structure Host.Closed (host : Host σ) (holds : ∀ α : Type, EvalM σ α → Prop) : Prop where
  pure : ∀ {α : Type} (value : α), holds α (Pure.pure value)
  throw : ∀ {α : Type} (error : EvalError), holds α (MonadExcept.throw error)
  bind : ∀ {α β : Type} {first : EvalM σ α} {next : α → EvalM σ β},
    holds α first → (∀ value, holds β (next value)) → holds β (first >>= next)
  read : ∀ place, holds Value (host.readProperty place)
  call : ∀ method left right, holds Value (host.callMethod method left right)
  convert : ∀ conversion result, holds Bool (host.applyConversion (some conversion) result)

namespace Host.Closed

variable {host : Host σ} {holds : ∀ α : Type, EvalM σ α → Prop}

theorem value (closed : host.Closed holds) (place : Property) :
    holds Value (place.value host) := by
  unfold Property.value
  split
  · refine closed.bind (closed.read place) fun found => ?_
    split
    · exact closed.pure found
    · exact closed.throw _
  · exact closed.throw _

theorem applyConversion (closed : host.Closed holds) (conversion : Option Conversion)
    (result : Option Bool) : holds Bool (host.applyConversion conversion result) := by
  cases conversion with
  | none => exact closed.pure _
  | some conversion => exact closed.convert conversion result

theorem compareBy (closed : host.Closed holds) (terms : Terms) (chosen : Method) (lifted : Bool)
    (left right : Value) : holds Bool (terms.compareBy host chosen lifted left right) := by
  unfold Terms.compareBy
  split
  · split
    · exact closed.applyConversion _ _
    · exact closed.pure _
  · refine closed.bind (closed.call chosen left right) fun returned => ?_
    split
    · exact closed.throw _
    · split
      · exact closed.applyConversion _ _
      · exact closed.pure _

theorem compare (closed : host.Closed holds) (terms : Terms) (left right : Value)
    (resolution : Resolution) : holds Bool (terms.compare host left right resolution) := by
  cases resolution with
  | builtin rule lifted => cases lifted <;> exact closed.pure _
  | reference => exact closed.pure _
  | method chosen lifted => exact closed.compareBy terms chosen lifted left right

theorem eval (closed : host.Closed holds) (env : Environment) (expr : Expr) :
    holds Value (expr.eval host env) := by
  induction expr with
  | constant stamp value ty => exact closed.pure value
  | default stamp ty => exact closed.pure ty.default
  | parameter stamp name ty =>
      rw [Expr.eval]
      cases env.argument name ty with
      | error error => exact closed.throw error
      | ok value => exact closed.pure value
  | property stamp place => exact closed.value place
  | comparison stamp node terms left right leftHolds rightHolds =>
      refine closed.bind leftHolds fun leftValue => closed.bind rightHolds fun rightValue => ?_
      exact closed.bind (closed.compare terms leftValue rightValue _) fun answer => closed.pure _

end Host.Closed

/-! ## Shown effects -/

/-- Whether the effect is the work of the host: all are but the default conversion. -/
def Event.isHosted : Event → Bool
  | convert (.nullAsFalse _) _ => false
  | _ => true

/-- No effect of the host is hidden. -/
def Event.ShowsHost (shown : Event → Bool) : Prop :=
  ∀ event, event.isHosted = true → shown event = true

namespace World

variable (shown : Event → Bool)

/-- The effects so far, of those that are shown. -/
def effects (world : World σ) : List Event := world.trace.toList.filter shown

/-- What can be told of a world where some effects are hidden. -/
def seen (world : World σ) : σ × List Event := (world.state, world.effects shown)

theorem effects_push (state : σ) (trace : Array Event) (event : Event) :
    (⟨state, trace.push event⟩ : World σ).effects shown =
      trace.toList.filter shown ++ if shown event then [event] else [] := by
  rw [effects, Array.toList_push, List.filter_append, List.filter_cons, List.filter_nil]

end World

namespace EvalM

variable {α β : Type} {shown : Event → Bool}

/-- Started in the same world the evaluations end alike: with the same value or error, in the same
state of the host, and after the same shown effects. -/
def Alike (shown : Event → Bool) (first second : EvalM σ α) : Prop :=
  ∀ before, (exec first before).1 = (exec second before).1 ∧
    (exec first before).2.seen shown = (exec second before).2.seen shown

/-- Started in worlds that look the same the evaluations end alike. Other than `Alike` this is kept
by sequencing, because a first step leaves worlds that need only look the same. -/
def Parallel (shown : Event → Bool) (first second : EvalM σ α) : Prop :=
  ∀ before other, before.seen shown = other.seen shown →
    (exec first before).1 = (exec second other).1 ∧
      (exec first before).2.seen shown = (exec second other).2.seen shown

theorem Alike.of_map {first second : EvalM σ α} {change : α → β}
    (injective : Function.Injective change)
    (alike : Alike shown (first >>= fun value => pure (change value))
      (second >>= fun value => pure (change value))) :
    Alike shown first second := by
  intro before
  obtain ⟨outcome, seen⟩ := alike before
  rw [exec_bind_pure, exec_bind_pure] at outcome seen
  refine ⟨?_, seen⟩
  dsimp only at outcome
  generalize (exec first before).1 = ends, (exec second before).1 = endsOther at outcome ⊢
  cases ends with
  | error error =>
      cases endsOther with
      | error errorOther =>
          cases outcome
          rfl
      | ok valueOther => cases outcome
  | ok value =>
      cases endsOther with
      | error errorOther => cases outcome
      | ok valueOther =>
          have same : value = valueOther := injective (Except.ok.inj outcome)
          rw [same]

theorem Parallel.alike {first second : EvalM σ α} (parallel : Parallel shown first second) :
    Alike shown first second :=
  fun before => parallel before before rfl

theorem Alike.parallel {first second : EvalM σ α} (alike : Alike shown first second)
    (steady : Parallel shown second second) : Parallel shown first second := by
  intro before other same
  obtain ⟨outcome, seen⟩ := alike before
  obtain ⟨steadyOutcome, steadySeen⟩ := steady before other same
  exact ⟨outcome.trans steadyOutcome, seen.trans steadySeen⟩

theorem Parallel.pure (value : α) :
    Parallel shown (Pure.pure value : EvalM σ α) (Pure.pure value) :=
  fun _ _ same => ⟨rfl, same⟩

theorem Parallel.bind {first firstOther : EvalM σ α} {next nextOther : α → EvalM σ β}
    (firstParallel : Parallel shown first firstOther)
    (nextParallel : ∀ value, Parallel shown (next value) (nextOther value)) :
    Parallel shown (first >>= next) (firstOther >>= nextOther) := by
  intro before other same
  obtain ⟨outcomes, seen⟩ := firstParallel before other same
  rcases ends : exec first before with ⟨outcome, between⟩
  rcases endsOther : exec firstOther other with ⟨outcomeOther, betweenOther⟩
  rw [ends, endsOther] at outcomes seen
  dsimp only at outcomes
  subst outcomes
  cases outcome with
  | error error =>
      rw [exec_bind_of_error ends, exec_bind_of_error endsOther]
      exact ⟨rfl, seen⟩
  | ok value =>
      rw [exec_bind_of_ok ends, exec_bind_of_ok endsOther]
      exact nextParallel value between betweenOther seen

theorem Parallel.perform (event : Event) (action : σ → α × σ) :
    Parallel shown (Host.perform event action) (Host.perform event action) := by
  intro before other same
  obtain ⟨state, effects⟩ := Prod.mk.inj same
  rw [exec_perform, exec_perform, state]
  refine ⟨rfl, Prod.ext rfl ?_⟩
  dsimp only [World.seen]
  rw [World.effects_push, World.effects_push]
  exact congrArg (· ++ _) effects

/-- No evaluation depends on what happened before it. -/
theorem Parallel.closed (host : Host σ) :
    host.Closed fun _ action => Parallel shown action action where
  pure := .pure
  throw := fun _ _ _ same => ⟨rfl, same⟩
  bind := .bind
  read := fun _ => .perform _ _
  call := fun _ _ _ => .perform _ _
  convert := fun _ _ => .perform _ _

/-! ## Silence -/

/-- The shown effects account for all that the action depends on besides the environment: they only
grow, and where they do not grow the action ends in the same way from every world. -/
structure Accounted (shown : Event → Bool) (action : EvalM σ α) : Prop where
  grows : ∀ before, (before.effects shown).length ≤ ((exec action before).2.effects shown).length
  silent : ∀ before,
    ((exec action before).2.effects shown).length = (before.effects shown).length →
      ∀ other, (exec action other).1 = (exec action before).1 ∧
        (exec action other).2.seen shown = other.seen shown

namespace Accounted

theorem pure (value : α) : Accounted shown (Pure.pure value : EvalM σ α) :=
  ⟨fun _ => Nat.le_refl _, fun _ _ _ => ⟨rfl, rfl⟩⟩

theorem throw (error : EvalError) :
    Accounted shown (MonadExcept.throw error : EvalM σ α) :=
  ⟨fun _ => Nat.le_refl _, fun _ _ _ => ⟨rfl, rfl⟩⟩

theorem bind {first : EvalM σ α} {next : α → EvalM σ β} (firstAccounted : Accounted shown first)
    (nextAccounted : ∀ value, Accounted shown (next value)) :
    Accounted shown (first >>= next) := by
  constructor
  · intro before
    have firstGrows := firstAccounted.grows before
    rcases ends : exec first before with ⟨error | value, between⟩
    · rw [exec_bind_of_error ends]
      rw [ends] at firstGrows
      exact firstGrows
    · rw [exec_bind_of_ok ends]
      rw [ends] at firstGrows
      exact Nat.le_trans firstGrows ((nextAccounted value).grows between)
  · intro before quiet other
    have firstGrows := firstAccounted.grows before
    have firstSilent := firstAccounted.silent before
    rcases ends : exec first before with ⟨error | value, between⟩
    · rw [exec_bind_of_error ends] at quiet ⊢
      rw [ends] at firstSilent
      dsimp only at firstSilent
      obtain ⟨outcome, seen⟩ := firstSilent quiet other
      rw [exec_bind_of_error (Prod.ext outcome rfl)]
      exact ⟨rfl, seen⟩
    · rw [exec_bind_of_ok ends] at quiet ⊢
      rw [ends] at firstGrows firstSilent
      have nextGrows := (nextAccounted value).grows between
      dsimp only at firstGrows firstSilent
      -- Neither step can take back what the other one added, so both are silent.
      have firstQuiet : (between.effects shown).length = (before.effects shown).length := by omega
      have nextQuiet : ((exec (next value) between).2.effects shown).length =
          (between.effects shown).length := by omega
      obtain ⟨outcome, seen⟩ := firstSilent firstQuiet other
      obtain ⟨nextOutcome, nextSeen⟩ :=
        (nextAccounted value).silent between nextQuiet (exec first other).2
      rw [exec_bind_of_ok (Prod.ext outcome rfl)]
      exact ⟨nextOutcome, nextSeen.trans seen⟩

theorem length_effects_perform (event : Event) (action : σ → α × σ) (before : World σ) :
    ((exec (Host.perform event action) before).2.effects shown).length =
      (before.effects shown).length + if shown event then 1 else 0 := by
  rw [exec_perform, World.effects_push, List.length_append]
  cases shown event <;> rfl

/-- A shown effect is never silent. -/
theorem perform {event : Event} (visible : shown event = true) (action : σ → α × σ) :
    Accounted shown (Host.perform event action) := by
  constructor
  · intro before
    rw [length_effects_perform]
    exact Nat.le_add_right _ _
  · intro before quiet
    rw [length_effects_perform, if_pos visible] at quiet
    omega

/-- The default conversion needs no host, so it may be hidden. -/
theorem default (host : Host σ) (stamp : Stamp) (result : Option Bool) :
    Accounted shown (host.applyConversion (some (.nullAsFalse stamp)) result) := by
  cases visible : shown (.convert (.nullAsFalse stamp) result) with
  | true => exact perform visible _
  | false =>
      have hidden : ∀ before : World σ,
          (exec (host.applyConversion (some (.nullAsFalse stamp)) result) before).2.seen shown =
            before.seen shown := by
        intro before
        refine Prod.ext rfl ?_
        rw [Host.applyConversion, exec_perform]
        dsimp only [World.seen]
        rw [World.effects_push, visible]
        exact List.append_nil _
      constructor
      · intro before
        exact Nat.le_of_eq (congrArg (fun seen => seen.2.length) (hidden before)).symm
      · intro before _ other
        exact ⟨rfl, hidden other⟩

theorem closed (host : Host σ) (honest : Event.ShowsHost shown) :
    host.Closed fun _ action => Accounted shown action where
  pure := pure
  throw := throw
  bind := bind
  read := fun _ => perform (honest _ rfl) _
  call := fun _ _ _ => perform (honest _ rfl) _
  convert := by
    intro conversion result
    cases conversion with
    | nullAsFalse stamp => exact default host stamp result
    | named stamp name => exact perform (honest _ rfl) _

end Accounted

end EvalM

/-- A value that is found without a shown effect is found like that from everywhere, if no effect of
the host is hidden. -/
theorem Expr.alike_of_silent {shown : Event → Bool} {expr : Expr} {host : Host σ}
    {env : Environment} {before after : World σ} {value : Value}
    (honest : Event.ShowsHost shown)
    (evaluates : EvalM.exec (expr.eval host env) before = (.ok value, after))
    (silent : after.effects shown = before.effects shown) :
    EvalM.Alike shown (pure value) (expr.eval host env) := by
  have accounted : EvalM.Accounted shown (expr.eval host env) :=
    (EvalM.Accounted.closed host honest).eval env expr
  have quiet : ((EvalM.exec (expr.eval host env) before).2.effects shown).length =
      (before.effects shown).length := by
    rw [evaluates, silent]
  intro other
  obtain ⟨outcome, seen⟩ := accounted.silent before quiet other
  rw [evaluates] at outcome
  exact ⟨outcome.symm, seen.symm⟩

end EqualityTree
