import BrainHost.Script.Evaluate.Basic

/-! # Assignment

Targets of assignments and the patterns that take values apart. -/

namespace BrainHost.Script

open Act

/-- A target whose parts are evaluated. -/
inductive Reference
  | name (name : Str) (found : Located)
  | member (object : Value) (key : Key)
  | element (object key : Value)
  | superMember (this : Value) (parent : Option Nat) (key : Value)
  | hidden (object : Value) (owner : Nat) (name : Str)
  | pattern (target : Target)

/-- The prototype of the object that `super` belongs to. -/
def superParent (env : Env) : Act (Option Nat) := do
  match ← readCall env homeName with
  | .object home => getPrototype reach home
  | _ => pure none

def readSuper (this : Value) (parent : Option Nat) (k : Key) : Act Value := do
  match parent with
  | some p => getFrom reach p k this
  | none => failNullish "read" k .null

def writeSuper (env : Env) (this : Value) (parent : Option Nat) (k : Key) (v : Value) : Act Unit := do
  match parent with
  | some p =>
    match ← setOn reach p k v this with
    | .ok () => pure ()
    | .error why => if env.strict then refuse why else pure ()
  | none => failNullish "set" k .null

/-- Reads a target that is going to be written too; the key of an element is converted first. -/
def readReference : Reference → Act (Value × Reference)
  | .name n found => do
    match found with
    | .binding _ _ b =>
      match b.value with
      | some v => pure (v, .name n found)
      | none => uninitialized n
    | .property ref _ => do pure (← getProperty ref (.ofStr n), .name n found)
    | .nowhere => undefinedName n
  | .member object k => do pure (← getValue object k, .member object k)
  | .element object key => do
    if object.isNullish then typeError "value has no property"
    else
      let k ← toKey key
      pure (← getValue object k, .member object k)
  | .superMember this parent key => do
    let k ← toKey key
    pure (← readSuper this parent k, .superMember this parent k.toValue)
  | .hidden object owner name => do pure (← readSecret object owner name, .hidden object owner name)
  | .pattern target => pure (.undefined, .pattern target)

namespace Evaluator

variable (ev : Evaluator)

def reference (env : Env) : Target → Act Reference
  | .name n place => do
    let found ← locateTarget env n place
    match found with
    | .nowhere => do
      setPlace place
      pure (.name n found)
    | found => pure (.name n found)
  | .member object k place => do
    let object ← ev.expr env object
    setPlace place
    pure (.member object k)
  | .element object key place => do
    let object ← ev.expr env object
    let key ← ev.expr env key
    setPlace place
    pure (.element object key)
  | .superMember key place => do
    let this ← readCall env thisName
    let parent ← superParent env
    let key ← ev.expr env key
    setPlace place
    pure (.superMember this parent key)
  | .privateMember object name place => do
    let v ← ev.expr env object
    setPlace place
    pure (.hidden v (← hiddenOwner env name) name)
  | .invalid e place => do
    let _ ← ev.expr env e
    setPlace place
    fail .referenceError (Str.ofString "invalid assignment left-hand side")
  | target => pure (.pattern target)

def write (env : Env) (v : Value) : Reference → Act Unit
  | .name n found => writeLocated env n found v
  | .member object k => setValue object k v env.strict
  | .element object key => do
    let k ← toKey key
    setValue object k v env.strict
  | .superMember this parent key => do writeSuper env this parent (← toKey key) v
  | .hidden object owner name => writeSecret object owner name v
  | .pattern target => ev.bind env false target v

/-- The value that a pattern assigns: the given one, or the default where it is undefined. -/
def orDefault (env : Env) (v : Value) (fallback : Expr) : Act Value :=
  match v, fallback with
  | v, .missing => pure v
  | .undefined, e => ev.expr env e
  | v, _ => pure v

/-- Assigns to a target inside a pattern; the parts of the target come before the value. -/
def assignPart (env : Env) (declares : Bool) (target : Target) (value : Act Value) (fallback : Expr) : Act Unit := do
  if declares then
    let v ← value
    ev.bind env true target (← ev.orDefault env v fallback)
  else
    let reference ← ev.reference env target
    let v ← value
    ev.write env (← ev.orDefault env v fallback) reference

/-- Assigns the items of an iteration. Gives whether the iteration came to its end. -/
def assignItems (env : Env) (declares : Bool) (it : Iteration) : List TargetItem → Bool → Act Bool
  | [], done => pure done
  | item :: items, done => do
    let next (done : Bool) : Act (Value × Bool) := do
      if done then pure (.undefined, true)
      else
        match ← it.step with
        | some v => pure (v, false)
        | none => pure (.undefined, true)
    match item with
    | .hole => do
      let (_, done) ← next done
      assignItems env declares it items done
    | .item target fallback => do
      -- Exceptions of the iteration itself do not end it once more.
      let reference ← if declares then pure none else do
        pure (some (← guardUnless done it (ev.reference env target)))
      let (v, done) ← next done
      guardUnless done it do
        let v ← ev.orDefault env v fallback
        match reference with
        | some r => ev.write env v r
        | none => ev.bind env true target v
      assignItems env declares it items done
    | .rest target => do
      let reference ← if declares then pure none else do
        pure (some (← guardUnless done it (ev.reference env target)))
      let rest ← if done then pure #[] else
        loop #[] fun acc => do
          match ← it.step with
          | none => pure (.ok acc)
          | some v => pure (.error (acc.push v))
      let v ← newArray rest
      match reference with
      | some r => ev.write env v r
      | none => ev.bind env true target v
      assignItems env declares it items true
where
  /-- Does something, and ends the iteration if that throws before its end. -/
  guardUnless {α : Type} (done : Bool) (it : Iteration) (m : Act α) : Act α :=
    if done then m else it.guarding m

def assignMembers (env : Env) (declares : Bool) (v : Value) (ref : Nat) : List TargetMember → List Key → Act Unit
  | [], _ => pure ()
  | .member name target fallback :: members, taken => do
    let k ← ev.keyOf env name
    ev.assignPart env declares target (getFrom reach ref k v) fallback
    assignMembers env declares v ref members (k :: taken)
  | .rest target :: members, taken => do
    ev.assignPart env declares target (do
      let rest ← newPlain
      copyProperties rest (.object ref) taken
      pure (.object rest)) .missing
    assignMembers env declares v ref members taken

def bindTarget (env : Env) (declares : Bool) (target : Target) (v : Value) : Act Unit := do
  match target with
  | .array items place =>
    setPlace place
    let it ← Iteration.of v
    let done ← ev.assignItems env declares it items false
    if done then pure () else it.close false
  | .object members place =>
    setPlace place
    let ref ← toObject v
    ev.assignMembers env declares v ref members []
  | .name n _ => if declares then initializeName env n v else writeName env n v
  | target => do
    let reference ← ev.reference env target
    ev.write env v reference

end Evaluator

end BrainHost.Script
