import EqualityTree.Eval.Mode
import EqualityTree.Session.Trees

/-!
# Commands on environments, evaluation and compiled code

Commands that bind parameters, evaluate expressions and nodes in either mode, compile them, run
compiled code, and use compile caches. A target or an environment that a command describes is
built anew for each mode; what is stored is shared by both.
-/

namespace EqualityTree

inductive Target
  | node (node : Comparison)
  | expr (expr : Expr)

inductive Yield
  | answer (answer : Bool)
  | value (shown : Shown)

structure CachedAnswer where
  outcome : Outcome Bool
  op : Operator
  cache : Cache

structure Lookup where
  found : Option Shown
  environment : Environment

namespace Session

def target : TargetSpec → SessionM Target
  | .node id => return .node (← find Session.nodes id)
  | .expr spec => return .expr (← expr spec)

/-- Binds a name in the environment of an id, which is made at its first use. The answer shows what
the name was bound to before. -/
def bind (spec : ValueSpec) (name id : Field String) : SessionM Lookup := do
  let value ← value spec
  let name ← name.required
  let id ← id.required
  let env := ((← get).environments.get? id).getD .empty
  let bound := env.bind name value
  modify fun session =>
    { session with environments := session.environments.insert id bound }
  return ⟨← (env.lookup name).mapM shown, bound⟩

def lookup (spec : EnvironmentSpec) (name : Field String) : SessionM Lookup := do
  let env ← environment spec
  let name ← name.required
  return ⟨← (env.lookup name).mapM shown, env⟩

def shownOutcome (outcome : Outcome Value) : SessionM (Outcome Yield) := do
  match outcome.result with
  | .ok value => return ⟨.ok (.value (← shown value)), outcome.log⟩
  | .error error => return ⟨.error error, outcome.log⟩

def answerOutcome (outcome : Outcome Bool) : Outcome Yield :=
  ⟨outcome.result.map .answer, outcome.log⟩

def evaluateIn (mode : Mode) (env : Environment) : Target → SessionM (Outcome Yield)
  | .node node => return answerOutcome (← run (mode.evalComparison Scripts.host env node))
  | .expr expr => do shownOutcome (← run (mode.evalExpr Scripts.host env expr))

/-- The modes that a field asks for: without one, compiled code runs first and the walk second. -/
def modes (name : Field String) : SessionM (List Mode) := do
  match ← name.optional with
  | none => return [.compiled, .interpreted]
  | some "compiled" => return [.compiled]
  | some "interpreted" => return [.interpreted]
  | some "default" => return [.default]
  | some _ => refuse

def evaluate (mode : Field String) (targetSpec : TargetSpec) (envSpec : EnvironmentSpec) :
    SessionM (List (Mode × Outcome Yield)) := do
  (← modes mode).mapM fun mode => do
    let target ← target targetSpec
    let env ← environment envSpec
    return (mode, ← evaluateIn mode env target)

def interpret (envSpec : EnvironmentSpec) (targetSpec : TargetSpec) : SessionM (Outcome Yield) := do
  let env ← environment envSpec
  evaluateIn .interpreted env (← target targetSpec)

def compile (targetSpec : TargetSpec) (id : Field String) : SessionM Compiled := do
  let compiled ← match ← target targetSpec with
    | .node node => Compiled.node <$> drawing (CompiledComparison.compile node)
    | .expr expr => pure (Compiled.expr (.ofExpr expr))
  let id ← id.required
  modify fun session => { session with codes := session.codes.insert id compiled }
  return compiled

def invoke (envSpec : EnvironmentSpec) (id : Field String) : SessionM (Outcome Yield) := do
  let env ← environment envSpec
  match ← find Session.codes id with
  | .node code => return answerOutcome (← run (code.invoke Scripts.host env))
  | .expr code => do shownOutcome (← run (code.invoke Scripts.host env))

/-- The cache of that id, which is empty before its first use. -/
def cache (id : String) : SessionM Cache := do
  return ((← get).caches.get? id).getD .empty

def storeCache (id : String) (cache : Cache) : SessionM Unit :=
  modify fun session => { session with caches := session.caches.insert id cache }

/-- Answers a node by its code from a cache, compiling it there if it is new to the cache. -/
def answerCached (nodeId : Field String) (envSpec : EnvironmentSpec) (id : Field String) :
    SessionM CachedAnswer := do
  let node ← find Session.nodes nodeId
  let env ← environment envSpec
  let id ← id.required
  let (compiled, after) ← drawing ((← cache id).getOrCompile node)
  storeCache id after
  let outcome ← run (compiled.invoke Scripts.host env)
  return ⟨outcome, compiled.op, after⟩

def cacheState (id : Field String) : SessionM Cache := do
  cache (← id.required)

def clearCache (id : Field String) : SessionM Cache := do
  let id ← id.required
  let cleared := (← cache id).clear
  storeCache id cleared
  return cleared

end Session

end EqualityTree
