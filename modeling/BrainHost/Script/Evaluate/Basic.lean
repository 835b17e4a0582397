import BrainHost.Script.Evaluate.Closure

/-! # Evaluation

What the parts of the evaluator know of each other. -/

namespace BrainHost.Script

open Act

/-- How a statement ends. -/
inductive Completion
  | normal
  | broke (label : Str)
  | continued (label : Str)
  | returned (v : Value)

/-- The parts of the evaluator that nest in each other. -/
structure Evaluator where
  expr : Env → Expr → Act Value
  /-- A part of a chain; nothing where an optional link ends the chain. -/
  chain : Env → Expr → Act (Option Value)
  /-- What is called, and the value that it is called on. -/
  callee : Env → Expr → Act (Option (Value × Value))
  stmt : Env → Stmt → Act Completion
  /-- Assigns a value; `declares` where the names get their first value. -/
  bind : Env → Bool → Target → Value → Act Unit

def Evaluator.keyOf (ev : Evaluator) (env : Env) : MemberName → Act Key
  | .fixed k => pure k
  | .computed e place => do
    let v ← ev.expr env e
    setPlace place
    toKey v
  | .hidden name => pure (.name name)

def copyProperties (target : Nat) (source : Value) (excluded : List Key) : Act Unit := do
  if source.isNullish then pure ()
  else
    let origin ← toObject source
    (← ownKeys origin).toList.forM fun k => do
      if excluded.contains k then pure ()
      else
        match ← ownProperty origin k with
        | some p =>
          if p.enumerable then createProperty target k (← getProperty origin k) else pure ()
        | none => pure ()

/-! ## Hidden members -/

def hiddenOwner (env : Env) (name : Str) : Act Nat := do
  match ← readCall env (hiddenName name) with
  | .number x => pure ((natural? x).getD 0)
  | _ => fail .syntaxError (Str.ofString "undefined private field '" ++ hiddenName name ++ Str.ofString "'")

def Obj.secret? (o : Obj) (owner : Nat) (name : Str) : Option Property :=
  (o.secrets.find? fun (c, n, _) => c = owner && n == name).map fun (_, _, p) => p

def Obj.putSecret (o : Obj) (owner : Nat) (name : Str) (p : Property) : Obj :=
  let secrets :=
    match o.secrets.findIdx? fun (c, n, _) => c = owner && n == name with
    | some i => o.secrets.set! i (owner, name, p)
    | none => o.secrets.push (owner, name, p)
  { o with secrets }

/-- Throws because an object has no such hidden member. -/
def noSecret {α : Type} (name : Str) : Act α :=
  fail .typeError (Str.ofString "private class field '" ++ hiddenName name ++ Str.ofString "' does not exist")

def readSecret (v : Value) (owner : Nat) (name : Str) : Act Value := do
  match v with
  | .object ref =>
    match (← getObject ref).secret? owner name with
    | some ⟨.data w _, _, _⟩ => pure w
    | some ⟨.accessor .undefined _, _, _⟩ => typeError "no getter for property"
    | some ⟨.accessor g _, _, _⟩ => call g v #[]
    | none => noSecret name
  | _ => typeError "not an object"

def writeSecret (v : Value) (owner : Nat) (name : Str) (w : Value) : Act Unit := do
  match v with
  | .object ref =>
    match (← getObject ref).secret? owner name with
    | some ⟨.data _ true, _, _⟩ => modifyObject ref fun o => o.putSecret owner name (.plain w)
    | some ⟨.data _ false, _, _⟩ => readOnlyName (hiddenName name)
    | some ⟨.accessor _ .undefined, _, _⟩ => refuse .noSetter
    | some ⟨.accessor _ s, _, _⟩ => do
      let _ ← call s v #[w]
    | none => noSecret name
  | _ => typeError "not an object"

/-- Gives an object a hidden member that it may not have yet. -/
def addSecret (ref : Nat) (owner : Nat) (name : Str) (slot : Slot) : Act Unit := do
  match (← getObject ref).secret? owner name with
  | some _ =>
    fail .typeError (Str.ofString "private class field '" ++ hiddenName name ++ Str.ofString "' already exists")
  | none => modifyObject ref fun o => o.putSecret owner name ⟨slot, true, true⟩

def initializeFields (ref : Nat) (fields : Array Field) : Act Unit := do
  fields.toList.forM fun field => do
    match field with
    | .method owner name slot => addSecret ref owner name slot
    | _ => pure ()
  fields.toList.forM fun field => do
    match field with
    | .method _ _ _ => pure ()
    | .plain k initializer => createProperty ref k (← initial initializer)
    | .hidden owner name initializer => addSecret ref owner name (.data (← initial initializer) true)
where
  /-- The first value of a field. -/
  initial (initializer : Value) : Act Value :=
    if initializer.isUndefined then pure .undefined else call initializer (.object ref) #[]

end BrainHost.Script
