import BrainHost.Script.Evaluate.Statement

/-! # The evaluator

Ties the parts of the evaluator together and starts functions. -/

namespace BrainHost.Script

open Act

/-- The evaluator, up to a depth of nesting. -/
def evaluatorTo : Nat → Evaluator
  | 0 =>
    { expr := fun _ _ => stackOverflow
      chain := fun _ _ => stackOverflow
      callee := fun _ _ => stackOverflow
      stmt := fun _ _ => stackOverflow
      bind := fun _ _ _ _ => stackOverflow }
  | depth + 1 =>
    { expr := fun env e => (evaluatorTo depth).exprOf env e
      chain := fun env e => (evaluatorTo depth).chainOf env e
      callee := fun env e => (evaluatorTo depth).calleeOf env e
      stmt := fun env s => (evaluatorTo depth).stmtOf env s
      bind := fun env declares target v => (evaluatorTo depth).bindTarget env declares target v }

def evaluator : Evaluator := evaluatorTo (16 * Parse.maxNesting)

/-! ## Starting functions -/

/-- Gives parameters that are names without defaults their values. -/
def plainParameters (names : List Str) (args : Array Value) (bindings : Array Binding) : Array Binding :=
  names.zipIdx.foldl (fun bindings (name, i) =>
    let v := args[i]?.getD .undefined
    match bindings.findIdx? fun b => b.name == name with
    | some j => bindings.modify j fun b => { b with value := some v }
    | none => bindings.push ⟨name, some v, .free⟩) bindings

/-- Gives parameters their values, one by one. -/
def bindParameters (env : Env) (args : Array Value) : List Parameter → Nat → Act Unit
  | [], _ => pure ()
  | .mk target fallback isRest :: rest, i => do
    if isRest then evaluator.bind env true target (← newArray (args.extract i args.size))
    else
      let v ← evaluator.orDefault env (args[i]?.getD .undefined) fallback
      evaluator.bind env true target v
    bindParameters env args rest (i + 1)

/-- Makes the scope of a call and gives the parameters their values. -/
def enterFunction (self : Nat) (c : Closure) (this : Option Value) (args : Array Value) (newTarget : Value) :
    Act Env := do
  match c.code with
  | .mk info params body =>
   if info.kind = .module then pure { scope := c.scope, info } else do
    let own ←
      if info.kind = .arrow then pure #[]
      else
        let base := callBindings (.object self) .undefined newTarget c.home
        let thisValue ← match this with
          | some v => do pure (some (← thisFor info.strict v))
          | none => pure none
        pure (base.modify 0 fun b => { b with value := thisValue })
    let arguments ←
      if info.usesArguments && info.kind ≠ .arrow && info.kind ≠ .initializer then do
        let v ← argumentsObject (info.strict || !info.simple) self args
        pure #[(⟨Str.ofString "arguments", some v, .free⟩ : Binding)]
      else pure #[]
    if info.simple then
      let scope ← newScope
        { parent := some c.scope, isVariableScope := true
          bindings := plainParameters info.paramNames args (own ++ arguments) }
      declareBody scope info body fun _ => pure .undefined
      pure { scope, info }
    else
      let names := info.paramNames.map fun name => (⟨name, none, .free⟩ : Binding)
      let outer ← newScope { parent := some c.scope, bindings := own ++ arguments ++ names.toArray }
      let env : Env := { scope := outer, info }
      bindParameters env args params 0
      let scope ← newScope { parent := some outer, isVariableScope := true }
      declareBody scope info body fun name => do
        let b ← read fun r => ((r.scopes[outer]?).bind fun s => s.find? name)
        pure ((b.bind fun (_, b) => b.value).getD .undefined)
      pure { scope, info }

def Function.body : Function → List Stmt
  | .mk _ _ body => body

/-- Notes which promise or generator the running function belongs to. -/
def setCoroutine (ref : Nat) : Act Unit :=
  modify (fun r =>
    match r.calls with
    | call :: calls => { r with calls := { call with coroutine := some ref } :: calls }
    | [] => r) fun r => by split <;> exact .of_objects rfl rfl

def generatorProto (self fallback : Nat) : Act Nat := do
  match ← getNamed self "prototype" with
  | .object p => pure p
  | _ => pure fallback

def settling (promise : Nat) (m : Act Value) : Act Value := do
  match ← m.capture with
  | .ok v => resolvePromise promise v
  | .thrown e => settlePromise promise true e
  | .left v => resolvePromise promise v
  pure (.object promise)

def runClosure (self : Nat) (c : Closure) (this : Option Value) (args : Array Value) (newTarget : Value) :
    Act Value := do
  let enter := enterFunction self c this args newTarget
  let run (env : Env) : Act Value := evaluator.runBody env c.code.body
  match c.code.info.coroutine with
  | .none => do run (← enter)
  | .async => do
    let promise ← newPromise
    setCoroutine promise
    settling promise do run (← enter)
  | .generator => do
    let env ← enter
    let proto ← generatorProto self Intrinsic.generatorPrototype.ref
    let generator ← newObject { kind := .generator .running, proto := some proto }
    setCoroutine generator
    let _ ← ask .begin
    run env
  | .asyncGenerator => do
    let env ← enter
    let proto ← generatorProto self Intrinsic.asyncGeneratorPrototype.ref
    let generator ← newObject { kind := .asyncGenerator .running [], proto := some proto }
    setCoroutine generator
    let _ ← ask .begin
    run env

def protoOfNew (newTarget : Value) (fallback : Nat) : Act Nat := do
  match newTarget with
  | .object ref =>
    match ← getNamed ref "prototype" with
    | .object p => pure p
    | _ => pure fallback
  | _ => pure fallback

def constructClosure (self : Nat) (c : Closure) (args : Array Value) (newTarget : Value) : Act Value := do
  let info := c.code.info
  if info.kind = .derivedConstructor then
    let env ← enterFunction self c none args newTarget
    match ← evaluator.runBody env c.code.body with
    | .object ref => pure (.object ref)
    | .undefined => readCall env thisName
    | _ => typeError "derived class constructor must return an object or undefined"
  else
    let proto ← protoOfNew newTarget Intrinsic.objectPrototype.ref
    let made ← newHeir (some proto)
    initializeFields made c.fields
    let env ← enterFunction self c (some (.object made)) args newTarget
    match ← evaluator.runBody env c.code.body with
    | .object ref => pure (.object ref)
    | _ => pure (.object made)

/-! ## Generators whose items come later -/

/-- The request that a generator is working on, and those that wait. -/
def takeRequest (owner : Nat) : Act (Option (Resumption × Value × Nat)) := do
  match (← getObject owner).kind with
  | .asyncGenerator state (request :: rest) => do
    setKind owner (.asyncGenerator state rest)
    pure (some request)
  | _ => pure none

def setSuspension (owner : Nat) (state : Suspension) : Act Unit := do
  match (← getObject owner).kind with
  | .asyncGenerator _ requests => setKind owner (.asyncGenerator state requests)
  | .generator _ => setKind owner (.generator state)
  | _ => pure ()

/-- Takes note of what came of a generator that was resumed. -/
def afterResume (owner thread : Nat) (exit : Exit Progress) : Act Unit := do
  let answer (rejects : Bool) (v : Value) : Act Unit := do
    match ← takeRequest owner with
    | some (_, _, promise) => if rejects then settlePromise promise true v else resolvePromise promise v
    | none => pure ()
  match exit with
  | .ok .waiting => pure ()
  | .ok (.yielded v) => do
    setSuspension owner (.suspended thread true)
    answer false (← itemResult v false)
  | .ok (.finished v) => do
    setSuspension owner .finished
    answer false (← itemResult v true)
  | .left v => do
    setSuspension owner .finished
    answer false (← itemResult v true)
  | .thrown e => do
    setSuspension owner .finished
    answer true e

/-- Works on the requests that wait, until the generator itself waits. -/
def serveRequests (owner : Nat) : Act Unit :=
  loop () fun _ => do
    match (← getObject owner).kind with
    | .asyncGenerator .running _ => pure (.ok ())
    | .asyncGenerator _ [] => pure (.ok ())
    | .asyncGenerator state ((how, v, _) :: _) => do
      let ended := match state, how with
        | .finished, _ => true
        | .suspended _ false, .next => false
        | .suspended _ false, _ => true
        | _, _ => false
      match state, ended with
      | .suspended thread _, false => do
        setSuspension owner .running
        afterResume owner thread (← (resume thread how v).capture)
      | _, _ => do
        setSuspension owner .finished
        match ← takeRequest owner, how with
        | some (_, _, promise), .throws => settlePromise promise true v
        | some (_, _, promise), .returns => do resolvePromise promise (← itemResult v true)
        | some (_, _, promise), .next => do resolvePromise promise (← itemResult .undefined true)
        | none, _ => pure ()
      pure (.error ())
    | _ => pure (.ok ())

def wakeThread (owner thread : Nat) (how : Resumption) (v : Value) : Act Unit := do
  let exit ← (resume thread how v).capture
  match (← getObject owner).kind with
  | .asyncGenerator _ _ => do
    afterResume owner thread exit
    serveRequests owner
  | _ => pure ()

end BrainHost.Script
