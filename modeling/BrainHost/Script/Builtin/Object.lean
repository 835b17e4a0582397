import BrainHost.Script.Iteration

/-! # `Object`

The functions of `Object` and the methods of every object. -/

namespace BrainHost.Script

open Act

/-- An argument of a call; one that is missing is undefined. -/
def argOf (args : Array Value) (i : Nat) : Value := args[i]?.getD .undefined

/-- An object, or a type error. -/
def insistObject (v : Value) : Act Nat := do
  match v with
  | .object ref => pure ref
  | _ => typeError "not an object"

def protoValue (p : Option Nat) : Value :=
  match p with
  | some ref => .object ref
  | none => .null

/-- Which parts of its properties an object lists. -/
inductive Listed
  | keys | values | entries

def listProperties (ref : Nat) (what : Listed) : Act Value := do
  let keys ← (← ownKeys ref).filterM fun k => pure !k.isSymbol
  let items ← keys.toList.foldlM (fun (acc : Array Value) k => do
    match ← ownProperty ref k with
    | some p =>
      if !p.enumerable then pure acc
      else
        match what with
        | .keys => pure (acc.push k.toValue)
        | .values => do pure (acc.push (← getProperty ref k))
        | .entries => do
          let v ← getProperty ref k
          pure (acc.push (← newArray #[k.toValue, v]))
    | none => pure acc) #[]
  newArray items

def defineAll (ref : Nat) (v : Value) : Act Unit := do
  let source ← toObject v
  (← ownKeys source).toList.forM fun k => do
    match ← ownProperty source k with
    | some p =>
      if p.enumerable then
        let d ← toDescriptor (← getProperty source k)
        insist (defineOwn ref k d)
      else pure ()
    | none => pure ()

/-- Forbids new properties and the removal of others; also their change if `freeze` is set. -/
def sealObject (ref : Nat) (freeze : Bool) : Act Unit := do
  if !(← preventExtensions reach ref) then typeError "proxy preventExtensions handler returned false"
  else
    (← ownKeys ref).toList.forM fun k => do
      let d : Descriptor ←
        if !freeze then pure { configurable := some false }
        else
          match ← ownProperty ref k with
          | some ⟨.data _ _, _, _⟩ => pure { configurable := some false, writable := some false }
          | _ => pure { configurable := some false }
      insist (defineOwn ref k d)

/-- Whether an object is sealed or frozen. -/
def isSealed (ref : Nat) (frozen : Bool) : Act Bool := do
  let loose ← (← ownKeys ref).filterM fun k => do
    match ← ownProperty ref k with
    | some ⟨.data _ writable, _, configurable⟩ => pure (configurable || (frozen && writable))
    | some p => pure p.configurable
    | none => pure false
  if loose.isEmpty then do pure !(← isExtensible reach ref) else pure false

/-- The name of an object's kind in `[object …]`. -/
def Realm.kindName (r : Realm) (ref : Nat) : String :=
  match (r.object ref).kind with
  | .array _ _ _ => "Array"
  | .error => "Error"
  | .primitive (.bool _) => "Boolean"
  | .primitive (.number _) => "Number"
  | .primitive (.string _) => "String"
  | .date _ => "Date"
  | .regexp _ _ => "RegExp"
  | .arguments => "Arguments"
  | _ => if r.isCallable (.object ref) then "Function" else "Object"

/-- The text `[object …]` of a value. -/
def objectText (v : Value) : Act Value := do
  match v with
  | .undefined => pure (.text "[object Undefined]")
  | .null => pure (.text "[object Null]")
  | v => do
    let ref ← toObject v
    let isArray ← isArray (.object ref)
    let name ← if isArray then pure "Array" else read fun r => r.kindName ref
    let name := match ← getProperty ref WellKnown.toStringTag.key with
      | .string s => s
      | _ => Str.ofString name
    pure (.string (Str.ofString "[object " ++ name ++ Str.ofString "]"))

/-- Sets the prototype of an object, or throws. -/
def changePrototype (ref : Nat) (proto : Option Nat) : Act Unit := do
  match ← setPrototype reach ref proto with
  | .ok () => pure ()
  | .error message => typeError message

/-- A prototype: an object or null. -/
def asPrototype? : Value → Option (Option Nat)
  | .object p => some (some p)
  | .null => some none
  | _ => none

/-- Reads a function of a getter or setter along the prototypes. -/
def lookupAccessor (ref : Nat) (k : Key) (isGetter : Bool) : Act Value :=
  loop ref fun ref => do
    match ← ownProperty ref k with
    | some ⟨.accessor g s, _, _⟩ => pure (.ok (if isGetter then g else s))
    | some _ => pure (.ok .undefined)
    | none =>
      match ← getPrototype reach ref with
      | some p => pure (.error p)
      | none => pure (.ok .undefined)

/-- The functions of `Object`. -/
def callObject (f : ObjectFunction) (this : Value) (args : Array Value) (newTarget : Value) : Act Value := do
  let first := argOf args 0
  let second := argOf args 1
  match f with
  | .construct => do
    match newTarget with
    | .object target => do
      let own ← getNamed Intrinsic.objectPrototype.ref "constructor"
      if newTarget.same own then pure ()
      else
        match ← getNamed target "prototype" with
        | .object p => return .object (← newHeir (some p))
        | _ => pure ()
    | _ => pure ()
    if first.isNullish then do pure (.object (← newPlain)) else do pure (.object (← toObject first))
  | .assign => do
    let ref ← toObject first
    (args.extract 1 args.size).toList.forM fun source => do
      if source.isNullish then pure ()
      else
        let origin ← toObject source
        (← ownKeys origin).toList.forM fun k => do
          match ← ownProperty origin k with
          | some p => if p.enumerable then setProperty ref k (← getProperty origin k) else pure ()
          | none => pure ()
    pure (.object ref)
  | .create => do
    match asPrototype? first with
    | none => typeError "not a prototype"
    | some proto => do
      let ref ← newHeir proto
      if second.isUndefined then pure () else defineAll ref second
      pure (.object ref)
  | .defineProperties => do
    let ref ← insistObject first
    defineAll ref second
    pure first
  | .defineProperty => do
    let ref ← insistObject first
    let k ← toKey second
    let d ← toDescriptor (argOf args 2)
    insist (defineOwn ref k d)
    pure first
  | .entries => do listProperties (← toObject first) .entries
  | .keys => do listProperties (← toObject first) .keys
  | .values => do listProperties (← toObject first) .values
  | .freeze => do
    match first with
    | .object ref => sealObject ref true
    | _ => pure ()
    pure first
  | .sealUp => do
    match first with
    | .object ref => sealObject ref false
    | _ => pure ()
    pure first
  | .fromEntries => do
    let ref ← newPlain
    forEachEntry first fun k v => do createProperty ref (← toKey k) v
    pure (.object ref)
  | .getOwnPropertyDescriptor => do
    let ref ← toObject first
    match ← ownProperty ref (← toKey second) with
    | some p => descriptorObject p
    | none => pure .undefined
  | .getOwnPropertyDescriptors => do
    let ref ← toObject first
    let out ← newPlain
    (← ownKeys ref).toList.forM fun k => do
      match ← ownProperty ref k with
      | some p => createProperty out k (← descriptorObject p)
      | none => pure ()
    pure (.object out)
  | .getOwnPropertyNames => do
    let keys := (← ownKeys (← toObject first)).filter fun k => !k.isSymbol
    newArray (keys.map Key.toValue)
  | .getOwnPropertySymbols => do
    let keys := (← ownKeys (← toObject first)).filter Key.isSymbol
    newArray (keys.map Key.toValue)
  | .getPrototypeOf => do pure (protoValue (← getPrototype reach (← toObject first)))
  | .hasOwn => do
    let ref ← toObject first
    pure (.bool (← ownProperty ref (← toKey second)).isSome)
  | .is => pure (.bool (first.same second))
  | .isExtensible => do
    match first with
    | .object ref => do pure (.bool (← isExtensible reach ref))
    | _ => pure (.bool false)
  | .isFrozen => do
    match first with
    | .object ref => do pure (.bool (← isSealed ref true))
    | _ => pure (.bool true)
  | .isSealed => do
    match first with
    | .object ref => do pure (.bool (← isSealed ref false))
    | _ => pure (.bool true)
  | .preventExtensions => do
    match first with
    | .object ref =>
      if ← preventExtensions reach ref then pure first
      else typeError "proxy preventExtensions handler returned false"
    | _ => pure first
  | .setPrototypeOf => do
    if first.isNullish then typeError "not an object"
    else
      match asPrototype? second, first with
      | none, _ => typeError "not an object"
      | some proto, .object ref => do
        changePrototype ref proto
        pure first
      | some _, _ => pure first
  | .hasOwnProperty => do
    let k ← toKey first
    let ref ← toObject this
    pure (.bool (← ownProperty ref k).isSome)
  | .isPrototypeOf => do
    match first with
    | .object ref => do
      let own ← toObject this
      let found ← loop ref fun ref => do
        match ← getPrototype reach ref with
        | none => pure (.ok false)
        | some p => pure (if p = own then .ok true else .error p)
      pure (.bool found)
    | _ => pure (.bool false)
  | .propertyIsEnumerable => do
    let ref ← toObject this
    match ← ownProperty ref (← toKey first) with
    | some p => pure (.bool p.enumerable)
    | none => pure (.bool false)
  | .toLocaleString => callMethod this (.text "toString") #[]
  | .toString => objectText this
  | .valueOf => do pure (.object (← toObject this))
  | .getProto => do pure (protoValue (← getPrototype reach (← toObject this)))
  | .setProto => do
    if this.isNullish then typeError "not an object"
    else
      match asPrototype? first, this with
      | some proto, .object ref => do
        changePrototype ref proto
        pure .undefined
      | _, _ => pure .undefined
  | .defineGetter => do
    let ref ← toObject this
    if !(← read fun r => r.isCallable second) then typeError "not a function"
    else
      insist (defineOwn ref (← toKey first)
        { get := some second, enumerable := some true, configurable := some true })
      pure .undefined
  | .defineSetter => do
    let ref ← toObject this
    if !(← read fun r => r.isCallable second) then typeError "not a function"
    else
      insist (defineOwn ref (← toKey first)
        { set := some second, enumerable := some true, configurable := some true })
      pure .undefined
  | .lookupGetter => do lookupAccessor (← toObject this) (← toKey first) true
  | .lookupSetter => do lookupAccessor (← toObject this) (← toKey first) false
where
  /-- Does something with every pair that an iteration hands out. -/
  forEachEntry (v : Value) (f : Value → Value → Act Unit) : Act Unit := do
    forEachItem v fun item => do
      match item with
      | .object ref => do
        let k ← getProperty ref (.index 0)
        f k (← getProperty ref (.index 1))
      | _ => typeError "not an object"

end BrainHost.Script
