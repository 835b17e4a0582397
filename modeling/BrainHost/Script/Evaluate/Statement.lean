import BrainHost.Script.Evaluate.Expression

/-! # Evaluating statements -/

namespace BrainHost.Script

open Act

/-- What a loop does after its body. -/
inductive LoopStep
  | again
  | stop (c : Completion)

/-- What the end of a body means for a loop with labels. -/
def loopStep (labels : List Str) : Completion → LoopStep
  | .normal => .again
  | .continued l => if l.isEmpty || labels.contains l then .again else .stop (.continued l)
  | .broke l => .stop (if l.isEmpty then .normal else .broke l)
  | .returned v => .stop (.returned v)

/-- Copies a scope, so that each round of a loop has its own variables. -/
def freshScope (env : Env) (isFresh : Bool) : Act Env := do
  if !isFresh then pure env
  else
    let s ← read fun r => (r.scopes[env.scope]?).getD default
    pure { env with scope := ← newScope s }

def loopScope (env : Env) (lexicals : List Declared) : Act Env := do
  if lexicals.isEmpty then pure env
  else
    pure { env with scope := ← newScope { parent := some env.scope, bindings := declaredBindings lexicals } }

/-- The keys that a loop over an object visits: those that show, each once, also of its prototypes. -/
def loopKeys : Nat → Nat → List Key → Array Key → Act (Array Key)
  | 0, _, _, acc => pure acc
  | n + 1, ref, seen, acc => do
    let keys := (← ownKeys ref).filter fun k => !k.isSymbol && !seen.contains k
    let shown ← keys.filterM fun k => do
      match ← ownProperty ref k with
      | some p => pure p.enumerable
      | none => pure false
    match ← getPrototype reach ref with
    | some p => loopKeys n p (keys.toList ++ seen) (acc ++ shown)
    | none => pure (acc ++ shown)

namespace Evaluator

variable (ev : Evaluator)

def forget (tracked : Bool) : Act Unit :=
  if tracked then setResult .undefined else pure ()

/-- A loop with a test before its body. -/
def whileOf (env : Env) (labels : List Str) (test : Expr) (body : Stmt) : Act Completion :=
  loop () fun _ => do
    if (← ev.expr env test).truthy then
      match loopStep labels (← ev.stmt env body) with
      | .again => pure (.error ())
      | .stop c => pure (.ok c)
    else pure (.ok .normal)

/-- A loop with a test after its body. -/
def doOf (env : Env) (labels : List Str) (body : Stmt) (test : Expr) : Act Completion :=
  loop () fun _ => do
    match loopStep labels (← ev.stmt env body) with
    | .stop c => pure (.ok c)
    | .again => if (← ev.expr env test).truthy then pure (.error ()) else pure (.ok .normal)

def forLoopOf (env : Env) (labels : List Str) (lexicals : List Declared) (init : List Stmt) (isFresh : Bool)
    (test update : Expr) (body : Stmt) : Act Completion := do
  let env ← loopScope env lexicals
  let _ ← ev.run env init
  let env ← freshScope env isFresh
  loop env fun env => do
    let goes ← match test with
      | .missing => pure true
      | test => do pure (← ev.expr env test).truthy
    if !goes then pure (.ok .normal)
    else
      match loopStep labels (← ev.stmt env body) with
      | .stop c => pure (.ok c)
      | .again => do
        let env ← freshScope env isFresh
        let _ ← ev.expr env update
        pure (.error env)

def bindHead (env : Env) (kind : Option DeclarationKind) (target : Target) (v : Value) : Act Unit :=
  match kind with
  | some .let => ev.bind env true target v
  | some .const => ev.bind env true target v
  | _ => ev.bind env false target v

def forInOf (env : Env) (labels : List Str) (kind : Option DeclarationKind) (lexicals : List Declared)
    (target : Target) (init object : Expr) (body : Stmt) (place : Place) : Act Completion := do
  match init with
  | .missing => pure ()
  | init => do ev.bind env false target (← ev.expr env init)
  let head ← loopScope env lexicals
  let v ← ev.expr head object
  setPlace place
  if v.isNullish then pure .normal
  else
    let ref ← toObject v
    let keys ← loopKeys reach ref [] #[]
    loop (0 : Nat) fun i => do
      match keys[i]? with
      | none => pure (.ok .normal)
      | some k => do
        if !(← has ref k) then pure (.error (i + 1))
        else
          let env ← loopScope env lexicals
          ev.bindHead env kind target k.toValue
          match loopStep labels (← ev.stmt env body) with
          | .again => pure (.error (i + 1))
          | .stop c => pure (.ok c)

def forOfOf (env : Env) (labels : List Str) (isAsync : Bool) (kind : Option DeclarationKind)
    (lexicals : List Declared) (target : Target) (iterable : Expr) (body : Stmt) (place : Place) :
    Act Completion := do
  let head ← loopScope env lexicals
  let v ← ev.expr head iterable
  setPlace place
  let it ← if isAsync then Iteration.ofAsync v else Iteration.of v
  loop () fun _ => do
    match ← if isAsync then it.stepAsync else it.step with
    | none => pure (.ok .normal)
    | some item => do
      let round : Act Completion := do
        let env ← loopScope env lexicals
        ev.bindHead env kind target item
        ev.stmt env body
      match ← round.capture with
      | .thrown e => do
        it.closeQuietly
        throwValue e
      | .left v => do
        it.close isAsync
        leave v
      | .ok c =>
        match loopStep labels c with
        | .again => pure (.error ())
        | .stop c => do
          it.close isAsync
          pure (.ok c)

/-- The statements of a switch from the case that a value selects on. -/
def selectCase (env : Env) (v : Value) : List Case → Act (Option (List Case))
  | [] => pure none
  | .mk test body :: rest => do
    match test with
    | some test =>
      let w ← ev.expr env test
      if v.strictEq w then pure (some (.mk (some test) body :: rest)) else selectCase env v rest
    | none => selectCase env v rest

def defaultCases : List Case → List Case
  | [] => []
  | .mk none body :: rest => .mk none body :: rest
  | .mk (some _) _ :: rest => defaultCases rest

def caseStatements (cases : List Case) : List Stmt :=
  cases.flatMap fun c =>
    match c with
    | .mk _ body => body

def switchOf (env : Env) (value : Expr) (lexicals : List Declared) (cases : List Case) : Act Completion := do
  let v ← ev.expr env value
  let env ← enterBlock env lexicals (caseStatements cases)
  let selected ← ev.selectCase env v cases
  match ← ev.run env (caseStatements (selected.getD (defaultCases cases))) with
  | .broke l => pure (if l.isEmpty then .normal else .broke l)
  | c => pure c

def handlerOf (env : Env) (e : Value) : Handler → Act Completion
  | .mk target names lexicals body => do
    let env ← loopScope env (names.map Declared.let)
    match target with
    | some target => ev.bind env true target e
    | none => pure ()
    ev.run (← enterBlock env lexicals body) body

/-- Runs statements with a handler and what is done whatever happens. -/
def tryOf (env : Env) (body : List Stmt) (lexicals : List Declared) (handler : Option Handler)
    (cleanup : Option CleanUp) : Act Completion := do
  let attempt : Act Completion := do ev.run (← enterBlock env lexicals body) body
  let handled : Act Completion := match handler with
    | some h => attempt.catching fun e => ev.handlerOf env e h
    | none => attempt
  match cleanup with
  | none => handled
  | some (.mk lexicals body) => do
    let exit ← handled.capture
    let result ← read Realm.result
    match ← ev.run (← enterBlock env lexicals body) body with
    | .normal => do
      setResult result
      finish exit
    | c => pure c

/-- Gives the variable of the function around the function that a block declared. -/
def hoistOf (env : Env) (name : Str) : Act Unit := do
  let v ← readName env name
  let target ← read fun r => r.variableScope r.scopes.size env.scope
  if target = globalScope then setValue (.object Intrinsic.globalObject.ref) (.ofStr name) v false
  else
    match ← read fun r => ((r.scopes[target]?).bind fun s => s.find? name) with
    | some (i, _) => setBinding target i v
    | none => pure ()

def stmtOf (env : Env) (s : Stmt) : Act Completion := do
  let labels := env.labels
  let env := { env with labels := [] }
  match s with
  | .empty => pure .normal
  | .debugger => pure .normal
  | .expression e tracked => do
    let v ← ev.expr env e
    if tracked then setResult v
    pure .normal
  | .declare kind target init place => do
    match init, kind with
    | .missing, .var => pure ()
    | init, kind => do
      let v ← ev.expr env init
      setPlace place
      ev.bind env (kind ≠ .var) target v
    pure .normal
  | .function f hoisted => do
    if hoisted then hoistOf env f.info.name
    pure .normal
  | .classOf name c => do
    initializeName env name (← ev.makeClass env c)
    pure .normal
  | .block lexicals body => do ev.run (← enterBlock env lexicals body) body
  | .branch test whenTrue whenFalse tracked => do
    forget tracked
    if (← ev.expr env test).truthy then ev.stmt env whenTrue else ev.stmt env whenFalse
  | .whileLoop test body tracked => do
    forget tracked
    ev.whileOf env labels test body
  | .doLoop body test tracked => do
    forget tracked
    ev.doOf env labels body test
  | .forLoop lexicals init fresh test update body tracked => do
    forget tracked
    ev.forLoopOf env labels lexicals init (!fresh.isEmpty) test update body
  | .forIn kind lexicals target init object body place tracked => do
    forget tracked
    ev.forInOf env labels kind lexicals target init object body place
  | .forOf isAsync kind lexicals target iterable body place tracked => do
    forget tracked
    ev.forOfOf env labels isAsync kind lexicals target iterable body place
  | .switch value lexicals cases tracked => do
    forget tracked
    ev.switchOf env value lexicals cases
  | .labelled label body => do
    match ← ev.stmt { env with labels := label :: labels } body with
    | .broke l => pure (if l == label then .normal else .broke l)
    | c => pure c
  | .breakTo label => pure (.broke label)
  | .continueTo label => pure (.continued label)
  | .returns e => do
    let v ← ev.expr env e
    pure (.returned (← if env.info.coroutine = .asyncGenerator then awaitValue v else pure v))
  | .throws e place => do
    let v ← ev.expr env e
    setPlace place
    throwValue v
  | .tryCatch body lexicals handler cleanup tracked => do
    forget tracked
    ev.tryOf env body lexicals handler cleanup
  | .withObject e body place => do
    let v ← ev.expr env e
    setPlace place
    let ref ← toObject v
    let scope ← newScope { parent := some env.scope, object := some ref }
    ev.stmt { env with scope } body

end Evaluator

end BrainHost.Script
