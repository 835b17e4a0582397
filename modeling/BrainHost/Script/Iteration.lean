import BrainHost.Script.Promise

/-! # Iteration

Steps through what an object hands out one by one. -/

namespace BrainHost.Script

open Act

/-- An iterator with its `next`; `awaitsItems` where its items are awaited one by one. -/
structure Iteration where
  object : Value
  next : Value
  awaitsItems : Bool := false

namespace Iteration

def ofMethod (v method : Value) (awaitsItems : Bool) : Act Iteration := do
  let object ← call method v #[]
  match object with
  | .object ref => do pure ⟨object, ← getNamed ref "next", awaitsItems⟩
  | _ => typeError "not an object"

def of (v : Value) : Act Iteration := do
  let method ← getValue v WellKnown.iterator.key
  if ← read fun r => r.isCallable method then ofMethod v method false
  else typeError "value is not iterable"

def ofAsync (v : Value) : Act Iteration := do
  let method ← getValue v WellKnown.asyncIterator.key
  if method.isNullish then do
    let inner ← of v
    pure { inner with awaitsItems := true }
  else if ← read fun r => r.isCallable method then ofMethod v method false
  else typeError "value is not iterable"

/-- The item of a result, unless it tells that there are no more. -/
def itemOf (result : Value) : Act (Option Value) := do
  match result with
  | .object ref =>
    if (← getNamed ref "done").truthy then pure none
    else do pure (some (← getNamed ref "value"))
  | _ => typeError "iterator must return an object"

def step (it : Iteration) : Act (Option Value) := do itemOf (← call it.next it.object #[])

/-- The next item of an iteration whose items may come later. -/
def stepAsync (it : Iteration) : Act (Option Value) := do
  if it.awaitsItems then
    match ← it.step with
    | some v => do pure (some (← awaitValue v))
    | none => pure none
  else itemOf (← awaitValue (← call it.next it.object #[]))

/-- Ends an iteration before its end. -/
def close (it : Iteration) (isAsync : Bool) : Act Unit := do
  let method ← getMethod it.object (.text "return")
  if method.isUndefined then pure ()
  else
    let result ← call method it.object #[]
    let result ← if isAsync && !it.awaitsItems then awaitValue result else pure result
    if result.isObject then pure () else typeError "not an object"

/-- Ends an iteration because of an exception, which is more important than those of the end. -/
def closeQuietly (it : Iteration) : Act Unit := do
  let _ ← it.close false |>.capture

/-- Does something with an item; ends the iteration if that throws. -/
def guarding {α : Type} (it : Iteration) (m : Act α) : Act α := do
  match ← m.capture with
  | .ok a => pure a
  | .thrown e =>
    closeQuietly it
    throwValue e
  | .left v =>
    it.close false
    leave v

end Iteration

def forEachItem (v : Value) (f : Value → Act Unit) : Act Unit := do
  let it ← Iteration.of v
  loop () fun _ => do
    match ← it.step with
    | none => pure (.ok ())
    | some item =>
      it.guarding (f item)
      pure (.error ())

def itemsOf (v : Value) : Act (Array Value) := do
  let it ← Iteration.of v
  loop #[] fun acc => do
    match ← it.step with
    | none => pure (.ok acc)
    | some item => pure (.error (acc.push item))

def itemResult (v : Value) (done : Bool) : Act Value := do
  let o : Obj := { proto := some Intrinsic.objectPrototype.ref }
  pure (.object (← newObject ((o.put (.text "value") (.plain v)).put (.text "done") (.plain (.bool done)))))

end BrainHost.Script
