import BrainHost.Script.Builtin.Collection

/-! # `Promise` -/

namespace BrainHost.Script

open Act

def speciesOf (ref : Nat) (fallback : Value) : Act Value := do
  match ← getNamed ref "constructor" with
  | .undefined => pure fallback
  | .object c => do
    let species ← getProperty c WellKnown.species.key
    if species.isNullish then pure fallback
    else if ← read fun r => r.isConstructor species then pure species
    else typeError "not a constructor"
  | _ => typeError "not an object"

/-- The constructor `Promise`. -/
def promiseConstructor : Value := .object Intrinsic.promiseConstructor.ref

/-- Lets functions follow a promise; gives the promise of what they give. -/
def thenPromise (this onFulfilled onRejected : Value) : Act Value := do
  match this with
  | .object ref =>
    match (← getObject ref).kind with
    | .promise _ => do
      let constructor ← speciesOf ref promiseConstructor
      let capability ← newCapability constructor
      let handler (v : Value) : Act Value := do
        pure (if ← read fun r => r.isCallable v then v else .undefined)
      let onFulfilled ← handler onFulfilled
      let onRejected ← handler onRejected
      followPromise ref ⟨onFulfilled, some capability⟩ ⟨onRejected, some capability⟩
      pure capability.promise
    | _ => typeError "Promise object expected"
  | _ => typeError "Promise object expected"

/-- How the outcomes of many promises are put together. -/
inductive Gathering
  | all | allSettled | any
  deriving DecidableEq

def newAggregate (errors : Array Value) : Act Value := do
  let o : Obj := { kind := .error, proto := some (Intrinsic.errorPrototype .aggregateError).ref }
  let list ← newArray errors
  pure (.object (← newObject (o.put (.text "errors") (.hidden list))))

/-- Counts an outcome down; hands all of them on after the last. -/
def countDown (list counter : Nat) (rejects : Bool) : Act Unit := do
  match (← getObject counter).kind, (← getObject list).kind with
  | .list #[.number x, settle], .list items => do
    setKind counter (.list #[.number (x - 1), settle])
    if x - 1 == 0 then
      let v ← if rejects then newAggregate items else newArray items
      let _ ← call settle .undefined #[v]
    else pure ()
  | _, _ => pure ()

/-- The record of an outcome, as `allSettled` gives it. -/
def outcomeRecord (status part : String) (v : Value) : Act Value := do
  let ref ← newPlain
  putNamed ref "status" (.text status)
  putNamed ref part v
  pure (.object ref)

/-- Puts an outcome into the list of outcomes, once. Shape 0 keeps the value, 1 and 2 make a record
of it, and 3 keeps an error. -/
def collectOutcome (list index counter latch shape : Nat) (v : Value) : Act Value := do
  if ← closeLatch latch then
    let v ← match shape with
      | 1 => outcomeRecord "fulfilled" "value" v
      | 2 => outcomeRecord "rejected" "reason" v
      | _ => pure v
    match (← getObject list).kind with
    | .list items =>
      let items := items ++ Array.replicate (index + 1 - items.size) .undefined
      setKind list (.list (items.set! index v))
    | _ => pure ()
    countDown list counter (shape = 3)
  pure .undefined

def gatherPromises (this source : Value) (how : Gathering) : Act Value := do
  if !this.isObject then typeError "not an object"
  else
    let capability ← newCapability this
    let work : Act Unit := do
      let resolve ← insistFunction (← getOf this (.text "resolve"))
      let list ← newList #[]
      let settle := if how = .any then capability.reject else capability.resolve
      let counter ← newList #[.nat 1, settle]
      let it ← Iteration.of source
      let _ ← loop (0 : Nat) fun index => do
        match ← it.step with
        | none => pure (.ok ())
        | some item => do
          it.guarding do
            let next ← call resolve this #[item]
            let latch ← newLatch
            let collector (shape : Nat) : Act Value := do
              pure (.object (← newNative (.promise (.collect list index counter latch shape)) .empty 1))
            let onFulfilled ← match how with
              | .all => collector 0
              | .allSettled => collector 1
              | .any => pure capability.resolve
            let onRejected ← match how with
              | .all => pure capability.reject
              | .allSettled => collector 2
              | .any => collector 3
            match (← getObject counter).kind with
            | .list #[.number x, settle] => setKind counter (.list #[.number (x + 1), settle])
            | _ => pure ()
            let _ ← callMethod next (.text "then") #[onFulfilled, onRejected]
          pure (.error (index + 1))
      countDown list counter (how = .any)
    match ← work.capture with
    | .thrown e => do
      let _ ← call capability.reject .undefined #[e]
    | _ => pure ()
    pure capability.promise

/-- Follows the first of many promises that is settled. -/
def racePromises (this source : Value) : Act Value := do
  if !this.isObject then typeError "not an object"
  else
    let capability ← newCapability this
    let work : Act Unit := do
      let resolve ← insistFunction (← getOf this (.text "resolve"))
      forEachItem source fun item => do
        let next ← call resolve this #[item]
        let _ ← callMethod next (.text "then") #[capability.resolve, capability.reject]
    match ← work.capture with
    | .thrown e => do
      let _ ← call capability.reject .undefined #[e]
    | _ => pure ()
    pure capability.promise

/-- The functions of `Promise`, and those that belong to promises. -/
def callPromise (f : PromiseFunction) (this : Value) (args : Array Value) (newTarget : Value) : Act Value := do
  let first := argOf args 0
  match f with
  | .construct => do
    if newTarget.isUndefined then typeError "must be called with new"
    else
      let executor ← insistFunction first
      let proto ← protoOfNew newTarget Intrinsic.promisePrototype.ref
      let p ← newObject { kind := .promise (.pending #[] #[]), proto := some proto }
      let (resolve, reject) ← newResolvers p
      match ← (call executor .undefined #[resolve, reject]).capture with
      | .thrown e => do
        let _ ← call reject .undefined #[e]
      | _ => pure ()
      pure (.object p)
  | .all => gatherPromises this first .all
  | .allSettled => gatherPromises this first .allSettled
  | .any => gatherPromises this first .any
  | .race => racePromises this first
  | .reject => do
    let capability ← newCapability this
    let _ ← call capability.reject .undefined #[first]
    pure capability.promise
  | .resolve => if this.isObject then promiseOf this first else typeError "not an object"
  | .andThen => thenPromise this first (argOf args 1)
  | .onReject => callMethod this (.text "then") #[.undefined, first]
  | .afterwards => do
    let ref ← insistObject this
    let constructor ← speciesOf ref promiseConstructor
    match first, constructor, ← read fun r => r.isCallable first with
    | .object action, .object c, true => do
      let onFulfilled ← newNative (.promise (.afterFinally action c false)) .empty 1
      let onRejected ← newNative (.promise (.afterFinally action c true)) .empty 1
      callMethod this (.text "then") #[.object onFulfilled, .object onRejected]
    | _, _, _ => callMethod this (.text "then") #[first, first]
  | .settle promise rejects latch => do
    if ← closeLatch latch then
      if rejects then settlePromise promise true first else resolvePromise promise first
    pure .undefined
  | .takeCapability holder => do
    match (← getObject holder).kind with
    | .list items =>
      if items.any fun v => !v.isUndefined then typeError "resolving function already set"
      else
        setKind holder (.list #[first, argOf args 1])
        pure .undefined
    | _ => pure .undefined
  | .collect list index counter latch shape => collectOutcome list index counter latch shape first
  | .afterFinally action constructor rejects => do
    let result ← call (.object action) .undefined #[]
    let promise ← promiseOf (.object constructor) result
    let holder ← newList #[first]
    let constant ← newNative (.promise (.constant holder rejects)) .empty 0
    callMethod promise (.text "then") #[.object constant]
  | .constant holder throws => do
    match (← getObject holder).kind with
    | .list items => if throws then throwValue (argOf items 0) else pure (argOf items 0)
    | _ => pure .undefined
  | .wake owner thread rejects => do
    wakeThread owner thread (if rejects then .throws else .next) first
    pure .undefined

end BrainHost.Script
