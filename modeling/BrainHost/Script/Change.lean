import BrainHost.Script.Convert

/-! # Changing properties

Writing follows the chain of prototypes, because a setter or a read-only property there decides,
and then changes the object that was asked. -/

namespace BrainHost.Script

open Act

/-- The outcome of a change that may be refused. -/
abbrev Change := Except Refusal Unit

def insist (m : Act Change) : Act Unit := do
  match ← m with
  | .ok () => pure ()
  | .error why => refuse why

def tryChange (f : Realm → Except Refusal Realm) (reaches : ∀ {r s}, f r = .ok s → r.Reaches s) : Act Change where
  run r :=
    match f r with
    | .ok r => .ok (.ok ()) r
    | .error why => .ok (.error why) r
  reaches r := by
    split
    · next h => exact reaches h
    · exact .refl r

def tryDefine (ref : Nat) (k : Key) (d : Descriptor) : Act Change :=
  tryChange (fun r => r.define ref k d) Realm.define_reaches

def tryRemove (ref : Nat) (k : Key) : Act Change := tryChange (fun r => r.removeOwn ref k) Realm.removeOwn_reaches

/-- An object with some properties. -/
def newNamed (parts : List (String × Value)) : Act Value := do
  let o : Obj := { proto := some Intrinsic.objectPrototype.ref }
  let properties := parts.map fun (name, v) => (Key.text name, Property.plain v)
  pure (.object (← newObject (o.putAll properties) (o.putAll_lent properties)))

def descriptorObject (p : Property) : Act Value := do
  let parts : List (String × Value) :=
    match p.slot with
    | .data v w => [("value", v), ("writable", .bool w)]
    | .accessor g s => [("get", g), ("set", s)]
  newNamed (parts ++ [("enumerable", .bool p.enumerable), ("configurable", .bool p.configurable)])

/-- A description as an object, with the parts that it has. -/
def partialObject (d : Descriptor) : Act Value := do
  let parts : List (String × Option Value) :=
    [("value", d.value), ("writable", d.writable.map .bool), ("get", d.get), ("set", d.set),
      ("enumerable", d.enumerable.map .bool), ("configurable", d.configurable.map .bool)]
  newNamed (parts.filterMap fun (name, v) => v.map (name, ·))

def toElement (t : ElementType) (v : Value) : Act Value := do
  if t.isBig then do pure (.bigint (← toBigInt v))
  else do pure (.number (← toNumber v))

def defineOn : Nat → Nat → Key → Descriptor → Act Change
  | 0, _, _, _ => stackOverflow
  | n + 1, ref, k, d => do
    let o ← getObject ref
    match o.kind with
    | .proxy target handler _ _ =>
      let (t, h) ← proxyParts target handler
      let trap ← getMethod (.object h) (.text "defineProperty")
      if trap.isUndefined then defineOn n t k d
      else
        let answer ← call trap (.object h) #[.object t, k.toValue, ← partialObject d]
        if !answer.truthy then pure (.error .byProxy)
        else
          match ← getOwn n t k with
          | none =>
            if !(← isExtensible n t) || d.configurable == some false then
              typeError "proxy: inconsistent defineProperty"
            else pure (.ok ())
          | some p =>
            if !d.allowedBy p || (d.configurable == some false && p.configurable) then
              typeError "proxy: inconsistent defineProperty"
            else pure (.ok ())
    | .typed t _ =>
      match k, d.value with
      | .index _, some v => do
        let v ← toElement t v
        tryDefine ref k { d with value := some v }
      | _, _ => tryDefine ref k d
    | .array _ _ _ =>
      match d.value with
      | some v =>
        if k == lengthKey then do
          let x ← toNumber v
          let n := toUInt32 x
          if natFloat n == x then tryDefine ref k { d with value := some (.nat n) }
          else rangeError "invalid array length"
        else tryDefine ref k d
      | none => tryDefine ref k d
    | _ => tryDefine ref k d

def defineOwn (ref : Nat) (k : Key) (d : Descriptor) : Act Change := defineOn reach ref k d

/-- Defines an own property that can be changed in every way, or throws. -/
def createProperty (ref : Nat) (k : Key) (v : Value) : Act Unit :=
  insist (defineOwn ref k (.ofProperty (.plain v)))

/-- Puts a property that is known not to be refused. -/
def putProperty (ref : Nat) (k : Key) (p : Property) : Act Unit :=
  modifyObject ref (fun o => o.store k p) fun o => o.store_lent k p

def putNamed (ref : Nat) (name : String) (v : Value) : Act Unit := putProperty ref (.text name) (.plain v)

/-- Writes a property on the object that was asked, where no setter decides. -/
def writeOwn (k : Key) (v receiver : Value) : Act Change := do
  match receiver with
  | .object target =>
    match ← ownProperty target k with
    | some ⟨.accessor _ _, _, _⟩ => pure (.error (.readOnly k))
    | some ⟨.data _ false, _, _⟩ => pure (.error (.readOnly k))
    | some _ => defineOwn target k { value := some v }
    | none => defineOwn target k (.ofProperty (.plain v))
  | _ => pure (.error .notObject)

/-- Writes a property of an object for the value that was asked. -/
def setOn : Nat → Nat → Key → Value → Value → Act Change
  | 0, _, _, _, _ => stackOverflow
  | n + 1, ref, k, v, receiver => do
    let o ← getObject ref
    match o.kind with
    | .proxy target handler _ _ =>
      let (t, h) ← proxyParts target handler
      let trap ← getMethod (.object h) (.text "set")
      if trap.isUndefined then setOn n t k v receiver
      else
        if (← call trap (.object h) #[.object t, k.toValue, v, receiver]).truthy then
          match ← read fun r => r.ownProperty t k with
          | some ⟨.data w false, _, false⟩ =>
            if v.same w then pure (.ok ()) else typeError "proxy: inconsistent set"
          | some ⟨.accessor _ .undefined, _, false⟩ => typeError "proxy: inconsistent set"
          | _ => pure (.ok ())
        else pure (.error .byProxy)
    | .typed t view =>
      match k with
      | .index i =>
        let v ← toElement t v
        if ← read fun r => (r.element? t view i).isSome then
          writeBuffer view.buffer (view.offset + i * t.size) (t.encode v)
        pure (.ok ())
      | k => ordinary n o ref k v receiver
    | .namespace _ => pure (.error (.readOnly k))
    | _ => ordinary n o ref k v receiver
where
  /-- Writes a property the ordinary way. -/
  ordinary (n : Nat) (o : Obj) (ref : Nat) (k : Key) (v receiver : Value) : Act Change := do
    match ← read fun r => r.ownProperty ref k with
    | some ⟨.accessor _ s, _, _⟩ =>
      if s.isUndefined then pure (.error .noSetter)
      else
        let _ ← call s receiver #[v]
        pure (.ok ())
    | some ⟨.data _ false, _, _⟩ => pure (.error (.readOnly k))
    | some ⟨.data _ true, enumerable, configurable⟩ =>
      if receiver.ref? != some ref then writeOwn k v receiver
      else if k == lengthKey then defineOwn ref k { value := some v }
      else
        putProperty ref k ⟨.data v true, enumerable, configurable⟩
        pure (.ok ())
    | none =>
      match o.proto with
      | some p => setOn n p k v receiver
      | none => writeOwn k v receiver

/-- Writes a property of a value that is not nullish. -/
def setOf (v : Value) (k : Key) (w : Value) : Act Change :=
  match v with
  | .object ref => setOn reach ref k w v
  | v =>
    match protoOfPrimitive v with
    | some p => setOn reach p k w v
    | none => pure (.error .notObject)

/-- Writes a property of any value; a refusal is thrown only in strict code. -/
def setValue (v : Value) (k : Key) (w : Value) (strict : Bool) : Act Unit := do
  if v.isNullish then failNullish "set" k v
  else
    match ← setOf v k w with
    | .ok () => pure ()
    | .error why => if strict then refuse why else pure ()

/-- Writes a property of an object, or throws. -/
def setProperty (ref : Nat) (k : Key) (w : Value) : Act Unit := insist (setOn reach ref k w (.object ref))

def deleteOn : Nat → Nat → Key → Act Change
  | 0, _, _ => stackOverflow
  | n + 1, ref, k => do
    let o ← getObject ref
    match o.kind with
    | .proxy target handler _ _ =>
      let (t, h) ← proxyParts target handler
      let trap ← getMethod (.object h) (.text "deleteProperty")
      if trap.isUndefined then deleteOn n t k
      else
        if (← call trap (.object h) #[.object t, k.toValue]).truthy then
          match ← getOwn n t k with
          | some p =>
            if p.configurable && (← isExtensible n t) then pure (.ok ())
            else typeError "proxy: inconsistent deleteProperty"
          | none => pure (.ok ())
        else pure (.error .notRemovable)
    | .namespace exports =>
      match k with
      | .symbol _ => tryRemove ref k
      | k =>
        if (exports.find? fun (name, _, _) => some name == k.toStr?).isSome then pure (.error .notRemovable)
        else pure (.ok ())
    | _ => tryRemove ref k

def deleteProperty (ref : Nat) (k : Key) : Act Change := deleteOn reach ref k

def preventExtensions : Nat → Nat → Act Bool
  | 0, _ => stackOverflow
  | n + 1, ref => do
    let o ← getObject ref
    match o.kind with
    | .proxy target handler _ _ =>
      let (t, h) ← proxyParts target handler
      let trap ← getMethod (.object h) (.text "preventExtensions")
      if trap.isUndefined then preventExtensions n t
      else
        let answer := (← call trap (.object h) #[.object t]).truthy
        if answer && (← isExtensible n t) then typeError "proxy: inconsistent preventExtensions" else pure answer
    | _ =>
      modifyObject ref fun o => { o with extensible := false }
      pure true

/-- Whether `other` is among an object and its prototypes. -/
def inheritsFrom : Nat → Nat → Nat → Act Bool
  | 0, _, _ => pure false
  | n + 1, ref, other => do
    if ref = other then pure true
    else
      let o ← getObject ref
      match o.kind, o.proto with
      | .proxy _ _ _ _, _ => pure false
      | _, some p => inheritsFrom n p other
      | _, none => pure false

/-- Sets the prototype of an object; tells whether that was possible. -/
def setPrototype : Nat → Nat → Option Nat → Act (Except String Unit)
  | 0, _, _ => stackOverflow
  | n + 1, ref, proto => do
    let o ← getObject ref
    match o.kind with
    | .proxy target handler _ _ =>
      let (t, h) ← proxyParts target handler
      let trap ← getMethod (.object h) (.text "setPrototypeOf")
      if trap.isUndefined then setPrototype n t proto
      else
        let p := match proto with
          | some p => .object p
          | none => .null
        if !(← call trap (.object h) #[.object t, p]).truthy then pure (.error "proxy: bad prototype")
        else if !(← isExtensible n t) && (← getPrototype n t) ≠ proto then
          typeError "proxy: inconsistent prototype"
        else pure (.ok ())
    | _ =>
      if o.proto = proto then pure (.ok ())
      else if !o.extensible then pure (.error "object is not extensible")
      else
        let circular ← match proto with
          | some p => inheritsFrom reach p ref
          | none => pure false
        if circular then pure (.error "circular prototype chain")
        else
          setProto ref proto
          pure (.ok ())

end BrainHost.Script
