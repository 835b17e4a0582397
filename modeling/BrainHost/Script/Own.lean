import BrainHost.Script.Bytes

/-! # Own properties

What an object holds by itself: reading, defining and removing its own properties, without asking
any script. An array keeps its first elements apart from its other properties as long as they are
plain. -/

namespace BrainHost.Script

/-- Why a property was not written, defined or removed. -/
inductive Refusal
  | readOnly (key : Key)
  | noSetter
  | notExtensible
  | notConfigurable
  | notObject
  | byProxy
  | notRemovable
  deriving DecidableEq

/-- A description of a property, of which parts may be left out. -/
structure Descriptor where
  value : Option Value := none
  writable : Option Bool := none
  get : Option Value := none
  set : Option Value := none
  enumerable : Option Bool := none
  configurable : Option Bool := none
  deriving Inhabited

namespace Descriptor

def ofProperty (p : Property) : Descriptor :=
  match p.slot with
  | .data v w =>
    { value := some v, writable := some w, enumerable := some p.enumerable, configurable := some p.configurable }
  | .accessor g s =>
    { get := some g, set := some s, enumerable := some p.enumerable, configurable := some p.configurable }

def isAccessor (d : Descriptor) : Bool := d.get.isSome || d.set.isSome

def isData (d : Descriptor) : Bool := d.value.isSome || d.writable.isSome

/-- The property that a description makes where there was none. -/
def complete (d : Descriptor) : Property :=
  let slot := if d.isAccessor then .accessor (d.get.getD .undefined) (d.set.getD .undefined)
    else .data (d.value.getD .undefined) (d.writable.getD false)
  ⟨slot, d.enumerable.getD false, d.configurable.getD false⟩

/-- Whether a description asks for nothing that a property that cannot be changed forbids. -/
def allowedBy (d : Descriptor) (p : Property) : Bool :=
  p.configurable ||
    (d.configurable != some true && (d.enumerable.isNone || d.enumerable == some p.enumerable)
      && match p.slot with
        | .data v w =>
          !d.isAccessor && (w || (d.writable != some true
            && match d.value with
              | some v' => v.same v'
              | none => true))
        | .accessor g s =>
          !d.isData && (d.get.map (·.same g)).getD true && (d.set.map (·.same s)).getD true)

def applyTo (d : Descriptor) (p : Property) : Property :=
  let slot :=
    if d.isAccessor then
      let (g, s) := match p.slot with
        | .accessor g s => (g, s)
        | .data _ _ => (.undefined, .undefined)
      .accessor (d.get.getD g) (d.set.getD s)
    else if d.isData then
      let (v, w) := match p.slot with
        | .data v w => (v, w)
        | .accessor _ _ => (.undefined, false)
      .data (d.value.getD v) (d.writable.getD w)
    else p.slot
  ⟨slot, d.enumerable.getD p.enumerable, d.configurable.getD p.configurable⟩

end Descriptor

def lengthKey : Key := .text "length"

namespace Obj

/-- Moves the elements from place `i` on to the other properties. -/
def spread (o : Obj) (i : Nat) : Obj :=
  match o with
  | ⟨.array dense length writable, proto, extensible, properties, secrets, lent⟩ =>
    let moved := (dense.extract i dense.size).mapIdx fun k v => (Key.ofNat (i + k), Property.plain v)
    ⟨.array (dense.extract 0 i) length writable, proto, extensible, properties ++ moved, secrets, lent⟩
  | o => o

/-- Whether a property is plain; gives its value. -/
def plainValue? (p : Property) : Option Value :=
  match p with
  | ⟨.data v true, true, true⟩ => some v
  | _ => none

/-- Puts an element into an array without asking anyone. -/
def putElement (o : Obj) (i : Nat) (p : Property) : Obj :=
  match o with
  | ⟨.array dense length writable, proto, extensible, properties, secrets, lent⟩ =>
    match plainValue? p with
    | some v =>
      if i < dense.size then
        ⟨.array (dense.set! i v) length writable, proto, extensible, properties, secrets, lent⟩
      else if i = dense.size && (properties.position? (.index i)).isNone then
        ⟨.array (dense.push v) (max length (i + 1)) writable, proto, extensible, properties, secrets, lent⟩
      else
        ⟨.array dense (max length (i + 1)) writable, proto, extensible, properties.insert (.ofNat i) p, secrets, lent⟩
    | none =>
      let o := if i < dense.size then
          Obj.spread ⟨.array dense length writable, proto, extensible, properties, secrets, lent⟩ i
        else ⟨.array dense length writable, proto, extensible, properties, secrets, lent⟩
      match o with
      | ⟨.array dense length writable, proto, extensible, properties, secrets, lent⟩ =>
        ⟨.array dense (max length (i + 1)) writable, proto, extensible, properties.insert (.ofNat i) p, secrets, lent⟩
      | o => o
  | o => o.put (.ofNat i) p

/-- Puts an own property without asking anyone. -/
def store (o : Obj) (k : Key) (p : Property) : Obj :=
  match k, o.kind with
  | .index i, .array _ _ _ => o.putElement i p
  | k, .array dense length _ =>
    if k == lengthKey then
      match p.slot with
      | .data _ w => { o with kind := .array dense length w }
      | .accessor _ _ => o
    else o.put k p
  | k, _ => o.put k p

def storeAll (o : Obj) (properties : List (Key × Property)) : Obj :=
  properties.foldl (fun o (k, p) => o.store k p) o

/-- Removes an own property without asking anyone. -/
def remove (o : Obj) (k : Key) : Obj :=
  match k, o.kind with
  | .index i, .array dense _ _ =>
    if i < dense.size then
      let o := o.spread (i + 1)
      match o.kind with
      | .array dense length writable => { o with kind := .array (dense.extract 0 i) length writable }
      | _ => o
    else { o with properties := o.properties.erase k }
  | k, _ => { o with properties := o.properties.erase k }

/-- Cuts or extends an array; elements that cannot be removed stay. Tells whether all went. -/
def resize (o : Obj) (n : Nat) : Obj × Bool :=
  match o.kind with
  | .array dense length writable =>
    if length ≤ n then ({ o with kind := .array dense n writable }, true)
    else
      let fixed := o.properties.foldl (fun top (k, p) =>
        match k with
        | .index i => if !p.configurable && top < i + 1 then i + 1 else top
        | _ => top) n
      let properties := o.properties.filter fun (k, _) =>
        match k with
        | .index i => i < fixed
        | _ => true
      ({ o with kind := .array (dense.extract 0 fixed) fixed writable, properties }, fixed = n)
  | _ => (o, true)

/-! An object that shows host memory goes on showing it. -/

@[simp] theorem spread_lent (o : Obj) (i : Nat) : (o.spread i).lent = o.lent := by
  unfold spread
  split <;> rfl

@[simp] theorem putElement_lent (o : Obj) (i : Nat) (p : Property) : (o.putElement i p).lent = o.lent := by
  unfold putElement
  split
  · split
    · split
      · rfl
      · split <;> rfl
    · next dense length writable proto extensible properties secrets lent _ _ =>
      have same : (if i < dense.size then
          spread ⟨.array dense length writable, proto, extensible, properties, secrets, lent⟩ i
        else ⟨.array dense length writable, proto, extensible, properties, secrets, lent⟩).lent = lent := by
        split
        · exact spread_lent _ i
        · rfl
      dsimp only
      split
      · next h => exact (congrArg Obj.lent h).symm.trans same
      · exact same
  · rfl

@[simp] theorem store_lent (o : Obj) (k : Key) (p : Property) : (o.store k p).lent = o.lent := by
  unfold store
  split
  · exact o.putElement_lent _ p
  · split
    · split <;> rfl
    · rfl
  · rfl

@[simp] theorem storeAll_lent (o : Obj) (properties : List (Key × Property)) :
    (o.storeAll properties).lent = o.lent := by
  induction properties generalizing o with
  | nil => rfl
  | cons p properties ih => exact (ih _).trans (o.store_lent _ _)

@[simp] theorem remove_lent (o : Obj) (k : Key) : (o.remove k).lent = o.lent := by
  unfold remove
  split
  · split
    · next i _ _ _ _ _ =>
      have same : (o.spread (i + 1)).lent = o.lent := o.spread_lent _
      dsimp only
      split
      · exact same
      · exact same
    · rfl
  · rfl

@[simp] theorem resize_lent (o : Obj) (n : Nat) : (o.resize n).1.lent = o.lent := by
  unfold resize
  split
  · split <;> rfl
  · rfl

end Obj

namespace Realm

def variableValue? (r : Realm) (scope : Nat) (name : Str) : Option Value :=
  (r.scopes[scope]?.bind fun s => s.bindings.find? fun b => b.name == name).bind Binding.value

/-- The own property of an object that is no proxy. -/
def ownProperty (r : Realm) (ref : Nat) (k : Key) : Option Property :=
  let o := r.object ref
  match o.kind with
  | .array dense length writable =>
    match k with
    | .index i =>
      match dense[i]? with
      | some v => some (.plain v)
      | none => o.properties.get? k
    | k => if k == lengthKey then some ⟨.data (.nat length) writable, false, false⟩ else o.properties.get? k
  | .primitive (.string s) =>
    match k with
    | .index i =>
      match s.units[i]? with
      | some u => some ⟨.data (.string (.ofUnit u)) false, true, false⟩
      | none => o.properties.get? k
    | k => if k == lengthKey then some (.constant (.nat s.size)) else o.properties.get? k
  | .typed t view =>
    match k with
    | .index i => (r.element? t view i).map Property.plain
    | k => o.properties.get? k
  | .namespace exports =>
    match k with
    | .symbol _ => o.properties.get? k
    | k =>
      match exports.find? fun (name, _, _) => some name == k.toStr? with
      | some (_, scope, name) => some ⟨.data ((r.variableValue? scope name).getD .undefined) true, true, false⟩
      | none => none
  | _ => o.properties.get? k

def sortNumbers (ns : Array Nat) : Array Nat := (ns.toList.mergeSort (· ≤ ·)).toArray

/-- The keys of properties: indices in order, then other strings, then symbols. -/
def orderKeys (before : Array Key) (ps : Properties) : Array Key :=
  let indices := ps.filterMap fun (k, _) =>
    match k with
    | .index i => some i
    | _ => none
  let names := ps.filterMap fun (k, _) =>
    match k with
    | .name s => some (Key.name s)
    | _ => none
  let symbols := ps.filterMap fun (k, _) =>
    match k with
    | .symbol id => some (Key.symbol id)
    | _ => none
  before ++ (sortNumbers indices).map Key.index ++ names ++ symbols

/-- The own keys of an object that is no proxy. -/
def ownKeys (r : Realm) (ref : Nat) : Array Key :=
  let o := r.object ref
  match o.kind with
  | .array dense _ _ =>
    let keys := orderKeys ((Array.range dense.size).map Key.index) o.properties
    let cut := (keys.findIdx? fun k =>
      match k with
      | .index _ => false
      | _ => true).getD keys.size
    keys.extract 0 cut ++ #[lengthKey] ++ keys.extract cut keys.size
  | .primitive (.string s) =>
    let keys := orderKeys ((Array.range s.size).map Key.index) o.properties
    let cut := (keys.findIdx? fun k =>
      match k with
      | .index _ => false
      | _ => true).getD keys.size
    keys.extract 0 cut ++ #[lengthKey] ++ keys.extract cut keys.size
  | .typed _ view => orderKeys ((Array.range (r.viewLength view)).map Key.index) o.properties
  | .namespace exports =>
    orderKeys (exports.map fun (name, _, _) => Key.ofStr name) o.properties
  | _ => orderKeys #[] o.properties

/-- Defines an own property of an object that is no proxy. -/
def define (r : Realm) (ref : Nat) (k : Key) (d : Descriptor) : Except Refusal Realm :=
  let o := r.object ref
  match o.kind, k with
  | .typed t view, .index i =>
    match r.element? t view i, d.value with
    | none, _ => .error (.readOnly k)
    | some _, none => .ok r
    | some _, some v => .ok (r.write view.buffer (view.offset + i * t.size) (t.encode v))
  | .namespace _, .name _ => .error (.readOnly k)
  | kind, k =>
    match r.ownProperty ref k with
    | some p =>
      if !d.allowedBy p then .error .notConfigurable
      else
        match kind with
        | .array _ length writable =>
          if k == lengthKey then
            match d.value with
            | some (.number x) =>
              let n := (natural? x).getD length
              if n != length && !writable then .error (.readOnly k)
              else
                let (o, complete) := o.resize n
                let o := match d.writable with
                  | some false => o.store k ⟨.data .undefined false, false, false⟩
                  | _ => o
                if complete then .ok (r.modifyObject ref fun _ => o) else .error .notConfigurable
            | _ =>
              match d.writable with
              | some false => .ok (r.modifyObject ref fun o => o.store k ⟨.data .undefined false, false, false⟩)
              | _ => .ok r
          else .ok (r.modifyObject ref fun o => o.store k (d.applyTo p))
        | _ => .ok (r.modifyObject ref fun o => o.store k (d.applyTo p))
    | none =>
      if !o.extensible then .error .notExtensible
      else
        match kind, k with
        | .array _ length writable, .index i =>
          if length ≤ i && !writable then .error (.readOnly lengthKey)
          else .ok (r.modifyObject ref fun o => o.store k d.complete)
        | _, _ => .ok (r.modifyObject ref fun o => o.store k d.complete)

theorem define_reaches {r s : Realm} {ref : Nat} {k : Key} {d : Descriptor} (h : r.define ref k d = .ok s) :
    r.Reaches s := by
  have stored (k : Key) (p : Property) : r.Reaches (r.modifyObject ref fun o => o.store k p) :=
    .of_still (.modifyObject r ref fun o _ => o.store_lent k p)
  have resized {o : Obj} (same : o.lent = (r.object ref).lent) : r.Reaches (r.modifyObject ref fun _ => o) :=
    .of_still (.modifyObject r ref fun o found => by rw [same, object, found, Option.getD_some])
  unfold define at h
  dsimp only at h
  split at h
  · split at h
    · cases h
    · cases h
      exact .refl r
    · cases h
      exact r.write_reaches _ _ _
  · cases h
  · split at h
    · split at h
      · cases h
      · split at h
        · split at h
          · split at h
            · split at h
              · cases h
              · split at h
                · cases h
                  split
                  · exact resized (by simp)
                  · exact resized (by simp)
                · cases h
            · split at h
              · cases h
                exact stored _ _
              · cases h
                exact .refl r
          · cases h
            exact stored _ _
        · cases h
          exact stored _ _
    · split at h
      · cases h
      · split at h
        · split at h
          · cases h
          · cases h
            exact stored _ _
        · cases h
          exact stored _ _

/-- Removes an own property of an object that is no proxy. -/
def removeOwn (r : Realm) (ref : Nat) (k : Key) : Except Refusal Realm :=
  match r.ownProperty ref k with
  | none => .ok r
  | some p =>
    if !p.configurable then .error .notRemovable
    else
      match (r.object ref).kind, k with
      | .typed _ _, .index _ => .error .notRemovable
      | _, _ => .ok (r.modifyObject ref fun o => o.remove k)

theorem removeOwn_reaches {r s : Realm} {ref : Nat} {k : Key} (h : r.removeOwn ref k = .ok s) : r.Reaches s := by
  unfold removeOwn at h
  split at h
  · cases h
    exact .refl r
  · split at h
    · cases h
    · split at h
      · cases h
      · cases h
        exact .of_still (.modifyObject r ref fun o _ => o.remove_lent _)

def isCallable (r : Realm) (v : Value) : Bool :=
  match v with
  | .object ref =>
    match (r.object ref).kind with
    | .closure _ => true
    | .native _ => true
    | .bound _ _ _ => true
    | .proxy _ _ callable _ => callable
    | _ => false
  | _ => false

end Realm

end BrainHost.Script
