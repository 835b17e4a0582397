import BrainHost.Script.Evaluate
import BrainHost.Script.Builtin.Array

/-! # Keyed collections, iterators and generators -/

namespace BrainHost.Script

open Act

/-! ## Collections -/

/-- The entries of a collection, with gaps where one was removed. -/
abbrev Entries := Array (Option (Value × Value))

def collectionName (isSet weak : Bool) : String :=
  (if weak then "Weak" else "") ++ (if isSet then "Set" else "Map")

/-- The entries of the collection that a method is called on. -/
def thisEntries (isSet weak : Bool) (v : Value) : Act (Nat × Entries) := do
  let expected : Act (Nat × Entries) := typeError s!"{collectionName isSet weak} object expected"
  match v with
  | .object ref =>
    match (← getObject ref).kind, isSet with
    | .map entries w, false => if w == weak then pure (ref, entries) else expected
    | .set entries w, true => if w == weak then pure (ref, entries) else expected
    | _, _ => expected
  | _ => expected

def putEntries (isSet weak : Bool) (ref : Nat) (entries : Entries) : Act Unit :=
  setKind ref (if isSet then .set entries weak else .map entries weak)

/-- A key as collections hold it: without the sign of zero. -/
def keptKey : Value → Value
  | .number x => .number (if x == 0 then 0 else x)
  | v => v

def entryOf? (entries : Entries) (k : Value) : Option Nat :=
  entries.findIdx? fun e => (e.map fun p => p.1.sameOrZero k).getD false

def collectionProto (isSet weak : Bool) : Intrinsic :=
  match isSet, weak with
  | false, false => .mapPrototype
  | true, false => .setPrototype
  | false, true => .weakMapPrototype
  | true, true => .weakSetPrototype

/-- Makes a collection of the items that a value hands out. -/
def newCollection (isSet weak : Bool) (source newTarget : Value) : Act Value := do
  if newTarget.isUndefined then typeError "must be called with new"
  else
    let proto ← protoOfNew newTarget (collectionProto isSet weak).ref
    let ref ← newObject { kind := if isSet then .set #[] weak else .map #[] weak, proto := some proto }
    let this := Value.object ref
    if source.isNullish then pure this
    else
      let adder ← getNamed ref (if isSet then "add" else "set")
      if !(← read fun r => r.isCallable adder) then typeError "set/add is not a function"
      else
        forEachItem source fun item => do
          if isSet then
            let _ ← call adder this #[item]
          else
            match item with
            | .object entry => do
              let k ← getProperty entry (.index 0)
              let v ← getProperty entry (.index 1)
              let _ ← call adder this #[k, v]
            | _ => typeError "not an object"
        pure this

/-- The functions of collections; `isSet` and `weak` tell of which. -/
def callCollection (f : CollectionFunction) (isSet weak : Bool) (this : Value) (args : Array Value)
    (newTarget : Value) : Act Value := do
  let first := argOf args 0
  let second := argOf args 1
  let put (k v : Value) : Act Value := do
    let (ref, entries) ← thisEntries isSet weak this
    if weak && !k.isObject then typeError "not an object"
    else
      let k := keptKey k
      match entryOf? entries k with
      | some i => if isSet then pure () else putEntries isSet weak ref (entries.set! i (some (k, v)))
      | none => putEntries isSet weak ref (entries.push (some (k, v)))
      pure this
  let walk (kind : Nat) : Act Value := do
    let (ref, _) ← thisEntries isSet weak this
    pure (.object (← newObject
      { kind := .iterator (.collection ref 0 kind)
        proto := some (Intrinsic.collectionIteratorPrototype isSet).ref }))
  match f with
  | .construct => newCollection isSet weak first newTarget
  | .get => do
    let (_, entries) ← thisEntries isSet weak this
    pure (((entryOf? entries first).bind fun i => (entries[i]?).bind id).map (·.2) |>.getD .undefined)
  | .set => put first second
  | .add => put first first
  | .has => do
    let (_, entries) ← thisEntries isSet weak this
    pure (.bool (entryOf? entries first).isSome)
  | .delete => do
    let (ref, entries) ← thisEntries isSet weak this
    match entryOf? entries first with
    | some i => do
      putEntries isSet weak ref (entries.set! i none)
      pure (.bool true)
    | none => pure (.bool false)
  | .clear => do
    let (ref, entries) ← thisEntries isSet weak this
    putEntries isSet weak ref (entries.map fun _ => none)
    pure .undefined
  | .forEach => do
    let (ref, _) ← thisEntries isSet weak this
    let f ← insistFunction first
    loop (0 : Nat) fun i => do
      let (_, entries) ← thisEntries isSet weak (.object ref)
      match entries[i]? with
      | none => pure (.ok ())
      | some none => pure (.error (i + 1))
      | some (some (k, v)) => do
        let _ ← call f second #[v, k, this]
        pure (.error (i + 1))
    pure .undefined
  | .size => do
    let (_, entries) ← thisEntries isSet weak this
    pure (.nat (entries.filter Option.isSome).size)
  | .keys => walk 0
  | .values => walk 1
  | .entries => walk 2

/-! ## Iterators -/

/-- The next item of a built-in iterator, and how it goes on. -/
def walkOn (walk : Walk) : Act (Option Value × Walk) := do
  match walk with
  | .done => pure (none, .done)
  | .array source next kind =>
    match source with
    | .object ref => do
      if (← lengthOf ref) ≤ next then pure (none, .done)
      else
        let item ← match kind with
          | 0 => pure (Value.nat next)
          | 1 => getProperty ref (.ofNat next)
          | _ => do newArray #[.nat next, ← getProperty ref (.ofNat next)]
        pure (some item, .array source (next + 1) kind)
    | _ => pure (none, .done)
  | .string s next =>
    match (s.extract next (next + 2)).points[0]? with
    | none => pure (none, .done)
    | some n => pure (some (.string (Str.empty.pushPoint n)), .string s (if n < 0x10000 then next + 1 else next + 2))
  | .collection ref next kind => do
    let entries : Entries := match (← getObject ref).kind with
      | .map entries _ => entries
      | .set entries _ => entries
      | _ => #[]
    match (List.range (entries.size - next)).find? fun i => ((entries[next + i]?).getD none).isSome with
    | none => pure (none, .done)
    | some i =>
      match (entries[next + i]?).getD none with
      | none => pure (none, .done)
      | some (k, v) => do
        let item ← match kind with
          | 0 => pure k
          | 1 => pure v
          | _ => newArray #[k, v]
        pure (some item, .collection ref (next + i + 1) kind)
  | .matches _ _ _ _ => pure (none, .done)

def nextItem (this : Value) : Act Value := do
  match this with
  | .object ref =>
    match (← getObject ref).kind with
    | .iterator walk => do
      let (item, walk) ← walkOn walk
      setKind ref (.iterator walk)
      match item with
      | some v => itemResult v false
      | none => itemResult .undefined true
    | _ => typeError "Array Iterator object expected"
  | _ => typeError "Array Iterator object expected"

/-! ## Generators -/

def advanceGenerator (this : Value) (how : Resumption) (v : Value) : Act Value := do
  match this with
  | .object ref =>
    match (← getObject ref).kind with
    | .generator state => do
      let ended : Act Value := do
        setSuspension ref .finished
        match how with
        | .next => itemResult .undefined true
        | .returns => itemResult v true
        | .throws => throwValue v
      match state, how with
      | .running, _ => typeError "cannot invoke a running generator"
      | .finished, _ => ended
      | .suspended _ false, .returns => ended
      | .suspended _ false, .throws => ended
      | .suspended thread _, how => do
        setSuspension ref .running
        match ← (resume thread how v).capture with
        | .ok (.yielded w) => do
          setSuspension ref (.suspended thread true)
          itemResult w false
        | .ok (.finished w) => do
          setSuspension ref .finished
          itemResult w true
        | .ok .waiting => itemResult .undefined true
        | .thrown e => do
          setSuspension ref .finished
          throwValue e
        | .left w => do
          setSuspension ref .finished
          itemResult w true
    | _ => typeError "not a generator"
  | _ => typeError "not a generator"

def requestItem (this : Value) (how : Resumption) (v : Value) : Act Value := do
  let promise ← newPromise
  let refused : Act Unit := typeError "not an AsyncGenerator object"
  let refuse : Act Unit := do
    match ← refused.capture with
    | .thrown e => settlePromise promise true e
    | _ => pure ()
  match this with
  | .object ref =>
    match (← getObject ref).kind with
    | .asyncGenerator state requests => do
      setKind ref (.asyncGenerator state (requests ++ [(how, v, promise)]))
      serveRequests ref
    | _ => refuse
  | _ => refuse
  pure (.object promise)

def callIterator (f : IteratorFunction) (this : Value) (args : Array Value) : Act Value := do
  let first := argOf args 0
  match f with
  | .self => pure this
  | .next => nextItem this
  | .generatorNext => advanceGenerator this .next first
  | .generatorReturn => advanceGenerator this .returns first
  | .generatorThrow => advanceGenerator this .throws first
  | .asyncNext => requestItem this .next first
  | .asyncReturn => requestItem this .returns first
  | .asyncThrow => requestItem this .throws first

end BrainHost.Script
