import BrainHost.Script.Operator

/-! # Promises

How promises are settled and what then becomes of those who wait. Whatever follows is a job that
is done after the running script. -/

namespace BrainHost.Script

open Act

def newNative (f : Native) (name : Str) (length : Nat) : Act Nat := do
  let o : Obj := { kind := .native f, proto := some Intrinsic.functionPrototype.ref }
  newObject ((o.put lengthKey (.readOnly (.nat length))).put (.text "name") (.readOnly (.string name)))

def newList (items : Array Value) : Act Nat := newObject { kind := .list items }

/-- Makes what is done only once. -/
def newLatch : Act Nat := newObject { kind := .primitive (.bool false) }

/-- Makes a promise that is not settled. -/
def newPromise : Act Nat :=
  newObject { kind := .promise (.pending #[] #[]), proto := some Intrinsic.promisePrototype.ref }

/-- Adds a job after those that wait. -/
def addJob (job : Job) : Act Unit where
  run r := .ok () { r with jobs := r.jobs ++ [job] }
  reaches r := ⟨List.prefix_append r.jobs [job], (Realm.Reaches.refl r).loans⟩

def settlePromise (ref : Nat) (rejects : Bool) (v : Value) : Act Unit := do
  match (← getObject ref).kind with
  | .promise (.pending onFulfilled onRejected) =>
    setKind ref (.promise (if rejects then .rejected v else .fulfilled v))
    (if rejects then onRejected else onFulfilled).toList.forM fun reaction => addJob (.react reaction rejects v)
  | _ => pure ()

/-- Resolves a promise with a value: it follows the value if that can be followed. -/
def resolvePromise (ref : Nat) (v : Value) : Act Unit := do
  match v with
  | .object other =>
    if other = ref then
      let error : Act Value := typeError "promise self resolution"
      match ← error.capture with
      | .thrown e => settlePromise ref true e
      | _ => pure ()
    else
      match ← (getNamed other "then").capture with
      | .ok action =>
        if ← read fun r => r.isCallable action then addJob (.adopt ref v action)
        else settlePromise ref false v
      | .thrown e => settlePromise ref true e
      | .left _ => pure ()
  | v => settlePromise ref false v

/-- Makes the two functions that settle a promise; the first call of either decides. -/
def newResolvers (promise : Nat) : Act (Value × Value) := do
  let latch ← newLatch
  let resolve ← newNative (.promise (.settle promise false latch)) .empty 1
  let reject ← newNative (.promise (.settle promise true latch)) .empty 1
  pure (.object resolve, .object reject)

/-- Closes a latch; tells whether it was open. -/
def closeLatch (latch : Nat) : Act Bool := do
  match (← getObject latch).kind with
  | .primitive (.bool false) =>
    setKind latch (.primitive (.bool true))
    pure true
  | _ => pure false

/-- Makes a promise of a constructor, with the functions that settle it. -/
def newCapability (constructor : Value) : Act PromiseCapability := do
  if constructor.ref? = some Intrinsic.promiseConstructor.ref then
    let p ← newPromise
    let (resolve, reject) ← newResolvers p
    pure ⟨.object p, resolve, reject⟩
  else if !(← read fun r => r.isConstructor constructor) then typeError "not a constructor"
  else
    let holder ← newList #[]
    let executor ← newNative (.promise (.takeCapability holder)) .empty 2
    let promise ← construct constructor #[.object executor] constructor
    match (← getObject holder).kind with
    | .list items =>
      let resolve := items[0]?.getD .undefined
      let reject := items[1]?.getD .undefined
      let callable ← read fun r => r.isCallable resolve && r.isCallable reject
      if callable then pure ⟨promise, resolve, reject⟩ else typeError "not a function"
    | _ => typeError "not a function"

/-- A promise for a value: the value itself if it is a promise of the constructor. -/
def promiseOf (constructor v : Value) : Act Value := do
  let own ← match v with
    | .object ref => do
      match (← getObject ref).kind with
      | .promise _ => do pure ((← getNamed ref "constructor").same constructor)
      | _ => pure false
    | _ => pure false
  if own then pure v
  else
    let capability ← newCapability constructor
    let _ ← call capability.resolve .undefined #[v]
    pure capability.promise

/-- Makes a promise for a value, as `await` does. -/
def awaitedPromise (v : Value) : Act Nat := do
  match ← promiseOf (.object Intrinsic.promiseConstructor.ref) v with
  | .object ref => pure ref
  | _ => newPromise

/-- Lets something follow when a promise is settled. -/
def followPromise (ref : Nat) (onFulfilled onRejected : Reaction) : Act Unit := do
  match (← getObject ref).kind with
  | .promise (.pending fs rs) => setKind ref (.promise (.pending (fs.push onFulfilled) (rs.push onRejected)))
  | .promise (.fulfilled v) => addJob (.react onFulfilled false v)
  | .promise (.rejected v) => addJob (.react onRejected true v)
  | _ => pure ()

/-- Suspends the running function until a value is there. -/
def awaitValue (v : Value) : Act Value := do
  let promise ← awaitedPromise v
  ask (.await promise)

/-! ## Jobs -/

def settleCapability (capability : Option PromiseCapability) (rejects : Bool) (v : Value) : Act Unit := do
  match capability with
  | some c =>
    let _ ← call (if rejects then c.reject else c.resolve) .undefined #[v]
  | none => pure ()

/-- Refuses to load a module for the code of a file, and lets the host know. -/
def refuseModule (name file : Str) : Act Unit := do
  let _ ← host .imported
  fail .referenceError
    (Str.ofString "Error resolving module '" ++ name ++ Str.ofString "' from '" ++ file
      ++ Str.ofString "': module imports are not supported")

def Job.perform : Job → Act Unit
  | .react reaction rejects argument => do
    if reaction.handler.isUndefined then settleCapability reaction.capability rejects argument
    else
      match ← (call reaction.handler .undefined #[argument]).capture with
      | .ok v => settleCapability reaction.capability false v
      | .thrown e => settleCapability reaction.capability true e
      | .left _ => pure ()
  | .adopt promise thenable action => do
    let (resolve, reject) ← newResolvers promise
    match ← (call action thenable #[resolve, reject]).capture with
    | .thrown e =>
      let _ ← call reject .undefined #[e]
    | _ => pure ()
  | .load promise name file => do
    let load : Act Unit := do
      let name ← toStr name
      refuseModule name (Str.ofString file)
    match ← load.capture with
    | .thrown e => settlePromise promise true e
    | _ => pure ()

end BrainHost.Script
