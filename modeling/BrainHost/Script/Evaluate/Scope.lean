import BrainHost.Script.Operator

/-! # Scopes

Looks up variables through the scopes around the running code. The value of `this` and what else a
function is called with are variables too, under names that no script can write. -/

namespace BrainHost.Script

open Act

/-- What code is evaluated in: the innermost scope and the function that the code is part of. -/
structure Env where
  scope : Nat
  info : FunctionInfo
  labels : List Str := []

def Env.strict (env : Env) : Bool := env.info.strict

def globalScope : Nat := 0

def newScope (s : Scope) : Act Nat := update fun r => (r.scopes.size, { r with scopes := r.scopes.push s })

def modifyScope (scope : Nat) (f : Scope → Scope) : Act Unit :=
  modify fun r => { r with scopes := r.scopes.modify scope f }

def addBinding (scope : Nat) (b : Binding) : Act Unit :=
  modifyScope scope fun s => { s with bindings := s.bindings.push b }

/-- Where a variable is. -/
inductive Located
  | binding (scope index : Nat) (b : Binding)
  | property (ref : Nat) (isGlobal : Bool)
  | nowhere

/-- Where a search through scopes without objects ends. -/
inductive Search
  | found (scope index : Nat) (b : Binding)
  | object (ref : Nat) (parent : Option Nat)
  | ended

def Scope.find? (s : Scope) (name : Str) : Option (Nat × Binding) :=
  match s.bindings.findIdx? fun b => b.name == name with
  | some i => (s.bindings[i]?).map (i, ·)
  | none => none

/-- Looks for a variable up to the next scope that has an object. -/
def Realm.search (r : Realm) : Nat → Nat → Str → Search
  | 0, _, _ => .ended
  | n + 1, scope, name =>
    match r.scopes[scope]? with
    | none => .ended
    | some s =>
      match s.find? name with
      | some (i, b) => .found scope i b
      | none =>
        match s.object, s.parent with
        | some ref, parent => .object ref parent
        | none, some parent => r.search n parent name
        | none, none => .ended

/-- Whether an object keeps a name from being looked up in it. -/
def isHidden (ref : Nat) (k : Key) : Act Bool := do
  match ← getProperty ref WellKnown.unscopables.key with
  | .object list => do pure (← getProperty list k).truthy
  | _ => pure false

def locateFrom : Nat → Nat → Str → Act Located
  | 0, _, _ => pure .nowhere
  | n + 1, scope, name => do
    match ← read fun r => r.search r.scopes.size scope name with
    | .found scope i b => pure (.binding scope i b)
    | .ended => pure .nowhere
    | .object ref none => do
      if ← has ref (.ofStr name) then pure (.property ref true) else pure .nowhere
    | .object ref (some parent) => do
      if (← has ref (.ofStr name)) && !(← isHidden ref (.ofStr name)) then pure (.property ref false)
      else locateFrom n parent name

def locate (env : Env) (name : Str) : Act Located := locateFrom reach env.scope name

/-- Throws because a variable has no value yet. -/
def uninitialized {α : Type} (name : Str) : Act α := fail .referenceError (name ++ Str.ofString " is not initialized")

/-- Throws because there is no such variable. -/
def undefinedName {α : Type} (name : Str) : Act α :=
  fail .referenceError (Str.ofString "'" ++ name ++ Str.ofString "' is not defined")

/-- Throws because a variable cannot be written. -/
def readOnlyName {α : Type} (name : Str) : Act α :=
  fail .typeError (Str.ofString "'" ++ name ++ Str.ofString "' is read-only")

/-- Reads a variable, and the object that has it as a property where that is no global object. -/
def readNameOf (env : Env) (name : Str) : Act (Value × Value) := do
  match ← locate env name with
  | .binding _ _ b =>
    match b.value with
    | some v => pure (v, .undefined)
    | none => uninitialized name
  | .property ref isGlobal => do
    let v ← getProperty ref (.ofStr name)
    pure (v, if isGlobal then .undefined else .object ref)
  | .nowhere => undefinedName name

def readName (env : Env) (name : Str) : Act Value := do pure (← readNameOf env name).1

def setBinding (scope index : Nat) (v : Value) : Act Unit :=
  modifyScope scope fun s => { s with bindings := s.bindings.modify index fun b => { b with value := some v } }

/-- The nearest variable of a name that is declared and no property. -/
def Realm.declaration? (r : Realm) : Nat → Nat → Str → Option (Nat × Nat × Binding)
  | 0, _, _ => none
  | n + 1, scope, name =>
    match r.scopes[scope]? with
    | none => none
    | some s =>
      match s.find? name with
      | some (i, b) => some (scope, i, b)
      | none => s.parent.bind fun parent => r.declaration? n parent name

/-- Gives a declared variable its first value. -/
def initializeName (env : Env) (name : Str) (v : Value) : Act Unit := do
  match ← read fun r => r.declaration? r.scopes.size env.scope name with
  | some (scope, i, _) => setBinding scope i v
  | none => pure ()

def writeLocated (env : Env) (name : Str) (place : Located) (v : Value) : Act Unit := do
  match place with
  | .binding scope i b =>
    -- The variable may have got its first value while the new one was made.
    let b ← read fun r => ((r.scopes[scope]?.bind fun s => s.bindings[i]?).getD b)
    match b.value, b.writing with
    | none, _ => uninitialized name
    | some _, .free => setBinding scope i v
    | some _, .never => readOnlyName name
    | some _, .ignored => if env.strict then readOnlyName name else pure ()
  | .property ref _ => setValue (.object ref) (.ofStr name) v env.strict
  | .nowhere =>
    if env.strict then undefinedName name
    else setValue (.object Intrinsic.globalObject.ref) (.ofStr name) v false

/-- Looks for a variable that is going to be written. A local constant throws at once. -/
def locateTarget (env : Env) (name : Str) (place : Place) : Act Located := do
  match ← locate env name with
  | .binding scope i b =>
    let refused := b.writing = .never || (b.writing = .ignored && env.strict)
    if refused && scope ≠ globalScope then
      setPlace ⟨env.info.lastLine, place.column⟩
      readOnlyName name
    else pure (.binding scope i b)
  | found => pure found

def writeName (env : Env) (name : Str) (v : Value) : Act Unit := do
  writeLocated env name (← locate env name) v

/-- Removes a variable, where it is a property. -/
def deleteName (env : Env) (name : Str) : Act Bool := do
  match ← locate env name with
  | .binding _ _ _ => pure false
  | .property ref _ =>
    match ← deleteProperty ref (.ofStr name) with
    | .ok () => pure true
    | .error _ => pure false
  | .nowhere => pure true

/-- The scope in which `var` declares. -/
def Realm.variableScope (r : Realm) : Nat → Nat → Nat
  | 0, scope => scope
  | n + 1, scope =>
    match r.scopes[scope]? with
    | none => globalScope
    | some s =>
      if s.isVariableScope then scope
      else
        match s.parent with
        | some parent => r.variableScope n parent
        | none => scope

/-! ## What a function is called with -/

/-- The variable that holds the value of `this`. -/
def thisName : Str := Str.ofString "this"

/-- The variable that holds the value of `new.target`. -/
def newTargetName : Str := Str.ofString "new.target"

/-- The variable that holds the object whose parent `super` means. -/
def homeName : Str := Str.ofString "super"

def selfName : Str := Str.ofString "function"

/-- The variable that tells which class the hidden names belong to. -/
def hiddenName (name : Str) : Str := Str.ofString "#" ++ name

def callBindings (self this newTarget : Value) (home : Option Nat) : Array Binding :=
  #[⟨thisName, some this, .free⟩, ⟨newTargetName, some newTarget, .free⟩, ⟨homeName, some (.ofRef? home), .free⟩,
    ⟨selfName, some self, .free⟩]

/-- Reads a variable of the running call; undefined where there is none. -/
def readCall (env : Env) (name : Str) : Act Value := do
  match ← read fun r => r.declaration? r.scopes.size env.scope name with
  | some (_, _, b) =>
    match b.value with
    | some v => pure v
    | none => uninitialized name
  | none => pure .undefined

end BrainHost.Script
