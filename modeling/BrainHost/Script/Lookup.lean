import BrainHost.Script.Own

/-! # Reading properties

Reading follows the chain of prototypes and asks proxies and getters on the way. -/

namespace BrainHost.Script

open Act

def reach : Nat := 100000

/-- The text of a key, as messages show it. -/
def Realm.keyText (r : Realm) : Key → Str
  | .symbol id => (r.symbols[id]?.getD none).getD .empty
  | k => k.toStr?.getD .empty

/-- Throws because of a refusal. -/
def refuse {α : Type} (why : Refusal) : Act α := do
  match why with
  | .readOnly k =>
    let name ← read fun r => r.keyText k
    fail .typeError (Str.ofString "'" ++ name ++ Str.ofString "' is read-only")
  | .noSetter => typeError "no setter for property"
  | .notExtensible => typeError "object is not extensible"
  | .notConfigurable => typeError "property is not configurable"
  | .notObject => typeError "not an object"
  | .byProxy => typeError "proxy: cannot set property"
  | .notRemovable => typeError "could not delete property"

/-- The prototype under which the properties of a primitive value are found. -/
def protoOfPrimitive : Value → Option Nat
  | .bool _ => some Intrinsic.booleanPrototype.ref
  | .number _ => some Intrinsic.numberPrototype.ref
  | .string _ => some Intrinsic.stringPrototype.ref
  | .symbol _ => some Intrinsic.symbolPrototype.ref
  | .bigint _ => some Intrinsic.bigintPrototype.ref
  | _ => none

/-- The handler of a proxy that is not revoked. -/
def proxyParts (target handler : Option Nat) : Act (Nat × Nat) :=
  match target, handler with
  | some t, some h => pure (t, h)
  | _, _ => typeError "revoked proxy"

/-- Throws if a method is there but cannot be called. -/
def checkMethod (v : Value) : Act Value := do
  if v.isNullish then pure .undefined
  else if ← read fun r => r.isCallable v then pure v
  else typeError "not a function"

/-- Reads a property of an object for the value it was asked of. -/
def getFrom : Nat → Nat → Key → Value → Act Value
  | 0, _, _, _ => stackOverflow
  | n + 1, ref, k, receiver => do
    let o ← getObject ref
    match o.kind with
    | .proxy target handler _ _ =>
      let (t, h) ← proxyParts target handler
      let trap ← getFrom n h (.text "get") (.object h)
      let trap ← checkMethod trap
      if trap.isUndefined then getFrom n t k receiver
      else
        let v ← call trap (.object h) #[.object t, k.toValue, receiver]
        match ← read fun r => r.ownProperty t k with
        | some ⟨.data w false, _, false⟩ => if v.same w then pure v else typeError "proxy: inconsistent get"
        | some ⟨.accessor .undefined _, _, false⟩ =>
          if v.isUndefined then pure v else typeError "proxy: inconsistent get"
        | _ => pure v
    | .typed t view =>
      match k with
      | .index i => read fun r => (r.element? t view i).getD .undefined
      | k => ordinary n o ref k receiver
    | .namespace exports =>
      match k with
      | .symbol _ => ordinary n o ref k receiver
      | k =>
        match exports.find? fun (name, _, _) => some name == k.toStr? with
        | none => pure .undefined
        | some (name, scope, binding) =>
          match ← read fun r => r.variableValue? scope binding with
          | some v => pure v
          | none => fail .referenceError (name ++ Str.ofString " is not initialized")
    | _ => ordinary n o ref k receiver
where
  /-- Reads a property the ordinary way. -/
  ordinary (n : Nat) (o : Obj) (ref : Nat) (k : Key) (receiver : Value) : Act Value := do
    match ← read fun r => r.ownProperty ref k with
    | some ⟨.data v _, _, _⟩ => pure v
    | some ⟨.accessor g _, _, _⟩ => if g.isUndefined then pure .undefined else call g receiver #[]
    | none =>
      match o.proto with
      | some p => getFrom n p k receiver
      | none => pure .undefined

def getProperty (ref : Nat) (k : Key) : Act Value := getFrom reach ref k (.object ref)

def getNamed (ref : Nat) (name : String) : Act Value := getProperty ref (.text name)

/-- The own property of a string, without making an object of it. -/
def stringProperty? (s : Str) : Key → Option Value
  | .index i => (s.units[i]?).map fun u => .string (.ofUnit u)
  | k => if k == lengthKey then some (.nat s.size) else none

/-- Reads a property of a value that is not nullish. -/
def getOf (v : Value) (k : Key) : Act Value :=
  match v with
  | .object ref => getFrom reach ref k v
  | .string s =>
    match stringProperty? s k with
    | some w => pure w
    | none => getFrom reach Intrinsic.stringPrototype.ref k v
  | v =>
    match protoOfPrimitive v with
    | some p => getFrom reach p k v
    | none => pure .undefined

/-- Throws because a property of a nullish value was read or written. -/
def failNullish {α : Type} (action : String) (k : Key) (v : Value) : Act α := do
  let name ← read fun r => r.keyText k
  let kind := match v with
    | .null => "null"
    | _ => "undefined"
  fail .typeError (Str.ofString s!"cannot {action} property '" ++ name ++ Str.ofString s!"' of {kind}")

def getValue (v : Value) (k : Key) : Act Value :=
  if v.isNullish then failNullish "read" k v else getOf v k

/-- Reads a property that may be called, if it is there. -/
def getMethod (v : Value) (k : Key) : Act Value := do checkMethod (← getValue v k)

def callMethod (v : Value) (k : Key) (args : Array Value) : Act Value := do
  call (← getValue v k) v args

def getPrototype : Nat → Nat → Act (Option Nat)
  | 0, _ => stackOverflow
  | n + 1, ref => do
    let o ← getObject ref
    match o.kind with
    | .proxy target handler _ _ =>
      let (t, h) ← proxyParts target handler
      let trap ← getMethod (.object h) (.text "getPrototypeOf")
      if trap.isUndefined then getPrototype n t
      else
        match ← call trap (.object h) #[.object t] with
        | .object p => pure (some p)
        | .null => pure none
        | _ => typeError "proxy: inconsistent prototype"
    | _ => pure o.proto

def isExtensible : Nat → Nat → Act Bool
  | 0, _ => stackOverflow
  | n + 1, ref => do
    let o ← getObject ref
    match o.kind with
    | .proxy target handler _ _ =>
      let (t, h) ← proxyParts target handler
      let trap ← getMethod (.object h) (.text "isExtensible")
      if trap.isUndefined then isExtensible n t
      else
        let answer := (← call trap (.object h) #[.object t]).truthy
        if answer == (← isExtensible n t) then pure answer else typeError "proxy: inconsistent isExtensible"
    | _ => pure o.extensible

/-- The truth of a property, if it is there. -/
def flag? (ref : Nat) (name : String) (hasIt : Bool) : Act (Option Bool) := do
  if hasIt then pure (some (← getNamed ref name).truthy) else pure none

/-- Whether an object or one of its prototypes has a property. -/
def hasProperty : Nat → Nat → Key → Act Bool
  | 0, _, _ => stackOverflow
  | n + 1, ref, k => do
    let o ← getObject ref
    match o.kind with
    | .proxy target handler _ _ =>
      let (t, h) ← proxyParts target handler
      let trap ← getMethod (.object h) (.text "has")
      if trap.isUndefined then hasProperty n t k
      else
        let answer := (← call trap (.object h) #[.object t, k.toValue]).truthy
        if answer then pure true
        else
          match ← read fun r => (r.ownProperty t k, (r.object t).extensible) with
          | (some p, extensible) =>
            if p.configurable && extensible then pure false else typeError "proxy: inconsistent has"
          | (none, _) => pure false
    | kind =>
      if (← read fun r => r.ownProperty ref k).isSome then pure true
      else
        match kind, k with
        | .typed _ _, .index _ => pure false
        | _, _ =>
          match o.proto with
          | some p => hasProperty n p k
          | none => pure false

def has (ref : Nat) (k : Key) : Act Bool := hasProperty reach ref k

def toDescriptor (v : Value) : Act Descriptor := do
  match v with
  | .object ref =>
    let part (name : String) : Act (Option Value) := do
      if ← has ref (.text name) then pure (some (← getNamed ref name)) else pure none
    let configurable ← part "configurable"
    let enumerable ← part "enumerable"
    let value ← part "value"
    let writable ← part "writable"
    let get ← part "get"
    let set ← part "set"
    let callable ← read fun r => fun (v : Option Value) =>
      match v with
      | some (.undefined) => true
      | some v => r.isCallable v
      | none => true
    if !callable get then typeError "invalid getter"
    else if !callable set then typeError "invalid setter"
    else if (get.isSome || set.isSome) && (value.isSome || writable.isSome) then
      typeError "cannot have setter/getter and value or writable"
    else
      pure ⟨value, writable.map Value.truthy, get, set, enumerable.map Value.truthy,
        configurable.map Value.truthy⟩
  | _ => typeError "not an object"

def getOwn : Nat → Nat → Key → Act (Option Property)
  | 0, _, _ => stackOverflow
  | n + 1, ref, k => do
    let o ← getObject ref
    match o.kind with
    | .proxy target handler _ _ =>
      let (t, h) ← proxyParts target handler
      let trap ← getMethod (.object h) (.text "getOwnPropertyDescriptor")
      if trap.isUndefined then getOwn n t k
      else
        match ← call trap (.object h) #[.object t, k.toValue] with
        | .undefined =>
          match ← getOwn n t k with
          | some p =>
            if !p.configurable || !(← isExtensible n t) then
              typeError "proxy: inconsistent getOwnPropertyDescriptor"
            else pure none
          | none => pure none
        | .object d =>
          let d ← toDescriptor (.object d)
          match ← getOwn n t k with
          | some p =>
            if d.allowedBy p then pure (some d.complete)
            else typeError "proxy: inconsistent getOwnPropertyDescriptor"
          | none => pure (some d.complete)
        | _ => typeError "proxy: invalid return value for getOwnPropertyDescriptor"
    | .namespace exports =>
      match k with
      | .symbol _ => read fun r => r.ownProperty ref k
      | k =>
        match exports.find? fun (name, _, _) => some name == k.toStr? with
        | none => pure none
        | some _ =>
          let v ← getFrom n ref k (.object ref)
          pure (some ⟨.data v true, true, false⟩)
    | _ => read fun r => r.ownProperty ref k

def ownProperty (ref : Nat) (k : Key) : Act (Option Property) := getOwn reach ref k

def listItems (ref : Nat) (count : Nat) : Act (Array Value) :=
  (List.range count).foldlM (fun acc i => do pure (acc.push (← getProperty ref (.ofNat i)))) #[]

/-- The key that a value of a list of keys is. -/
def keyOfValue? : Value → Option Key
  | .string s => some (.ofStr s)
  | .symbol id => some (.symbol id)
  | _ => none

def keysOf : Nat → Nat → Act (Array Key)
  | 0, _ => stackOverflow
  | n + 1, ref => do
    let o ← getObject ref
    match o.kind with
    | .proxy target handler _ _ =>
      let (t, h) ← proxyParts target handler
      let trap ← getMethod (.object h) (.text "ownKeys")
      if trap.isUndefined then keysOf n t
      else
        match ← call trap (.object h) #[.object t] with
        | .object list =>
          let count := match ← getNamed list "length" with
            | .number x => (toInteger x).toNat
            | _ => 0
          let items ← listItems list count
          match items.mapM keyOfValue? with
          | none => typeError "proxy: properties must be strings or symbols"
          | some keys =>
            if keys.toList.eraseDups.length ≠ keys.size then typeError "proxy: duplicate property"
            else
              let needed ← keysOf n t
              let extensible ← isExtensible n t
              let missing ← needed.filterM fun k => do
                if keys.contains k then pure false
                else
                  match ← getOwn n t k with
                  | some p => pure (!p.configurable || !extensible)
                  | none => pure false
              if !missing.isEmpty then typeError "proxy: target property must be present in proxy ownKeys"
              else if !extensible && keys.size ≠ needed.size then
                typeError "proxy: property not present in target were returned by non extensible proxy"
              else pure keys
        | _ => typeError "not an object"
    | _ => read fun r => r.ownKeys ref

def ownKeys (ref : Nat) : Act (Array Key) := keysOf reach ref

/-- The own keys of properties that show in loops, without symbols. -/
def enumerableKeys (ref : Nat) : Act (Array Key) := do
  (← ownKeys ref).filterM fun k => do
    if k.isSymbol then pure false
    else
      match ← ownProperty ref k with
      | some p => pure p.enumerable
      | none => pure false

end BrainHost.Script
