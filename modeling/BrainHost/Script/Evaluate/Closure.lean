import BrainHost.Script.Evaluate.Scope
import BrainHost.Script.Iteration

/-! # Functions of scripts

Makes functions from their code and prepares the scope in which their bodies run. -/

namespace BrainHost.Script

open Act

def Function.info : Function → FunctionInfo
  | .mk info _ _ => info

/-- The prototype of functions that can be suspended in a way. -/
def Coroutine.functionPrototype : Coroutine → Nat
  | .none => Intrinsic.functionPrototype.ref
  | .generator => Intrinsic.generatorFunctionPrototype.ref
  | .async => Intrinsic.asyncFunctionPrototype.ref
  | .asyncGenerator => Intrinsic.asyncGeneratorFunctionPrototype.ref

/-- A function object without a prototype property. -/
def closureObject (code : Function) (scope : Nat) (home : Option Nat) : Obj :=
  let info := code.info
  let o : Obj :=
    { kind := .closure { code, scope, home }, proto := some info.coroutine.functionPrototype }
  (o.put lengthKey (.readOnly (.nat info.length))).put (.text "name") (.readOnly (.string info.name))

def makeFunction (scope : Nat) (code : Function) (home : Option Nat) : Act Nat := do
  let info := code.info
  let scope ← if info.selfName then newScope { parent := some scope } else pure scope
  let ref ← newObject (closureObject code scope home)
  if info.selfName then addBinding scope ⟨info.name, some (.object ref), .ignored⟩
  match info.coroutine with
  | .generator => do
    let proto ← newHeir (some Intrinsic.generatorPrototype.ref)
    putProperty ref (.text "prototype") ⟨.data (.object proto) true, false, false⟩
  | .asyncGenerator => do
    let proto ← newHeir (some Intrinsic.asyncGeneratorPrototype.ref)
    putProperty ref (.text "prototype") ⟨.data (.object proto) true, false, false⟩
  | .async => pure ()
  | .none =>
    if info.kind = .normal then
      let proto ← newPlain
      putProperty proto (.text "constructor") (.hidden (.object ref))
      putProperty ref (.text "prototype") ⟨.data (.object proto) true, false, false⟩
    else pure ()
  pure ref

/-- Sets the name of a function whose key is known only now. -/
def setFunctionName (ref : Nat) (accessor : String) (k : Key) : Act Unit := do
  let text ← read fun r =>
    match k with
    | .symbol id =>
      match (r.symbols[id]?).getD none with
      | some s => Str.ofString "[" ++ s ++ Str.ofString "]"
      | none => .empty
    | k => r.keyText k
  putProperty ref (.text "name") (.readOnly (.string (Str.ofString accessor ++ text)))

/-- Whether an expression makes a function or class that has no name of its own. -/
def isAnonymous : Expr → Bool
  | .function (.mk info _ _) => info.name.isEmpty
  | .classOf (.mk info _ _ _) => !info.hasName && info.name.isEmpty
  | _ => false

/-- The value of `this` in a function that is called with one. -/
def thisFor (strict : Bool) (v : Value) : Act Value := do
  if strict then pure v
  else if v.isNullish then pure (.object Intrinsic.globalObject.ref)
  else do pure (.object (← toObject v))

def argumentsObject (strict : Bool) (callee : Nat) (args : Array Value) : Act Value := do
  let o : Obj := { kind := .arguments, proto := some Intrinsic.objectPrototype.ref }
  let items := args.zipIdx.toList.map fun (v, i) => (Key.ofNat i, Property.plain v)
  let thrower := Value.object Intrinsic.thrower.ref
  let callee := if strict then ⟨.accessor thrower thrower, false, false⟩ else Property.hidden (.object callee)
  let properties := items ++ [(lengthKey, .hidden (.nat args.size)),
    (WellKnown.iterator.key, .hidden (.object Intrinsic.arrayValues.ref)), (.text "callee", callee)]
  pure (.object (← newObject (o.putAll properties) (o.putAll_lent properties)))

/-- The names that a list of declarations declares, without values. -/
def declaredBindings (ds : List Declared) : Array Binding :=
  (ds.map fun d =>
    match d with
    | .let name => (⟨name, none, .free⟩ : Binding)
    | .const name => ⟨name, none, .never⟩).toArray

/-- The functions that stand in a list of statements, also after labels. -/
def hoistedFunctions (ss : List Stmt) : List Function :=
  ss.filterMap functionOf
where
  functionOf : Stmt → Option Function
    | .function f _ => some f
    | .labelled _ s => functionOf s
    | _ => none

/-- Enters a block: declares its names and makes its functions. -/
def enterBlock (env : Env) (lexicals : List Declared) (body : List Stmt) : Act Env := do
  if lexicals.isEmpty then pure env
  else
    let scope ← newScope { parent := some env.scope, bindings := declaredBindings lexicals }
    let env := { env with scope }
    (hoistedFunctions body).forM fun f => do
      initializeName env f.info.name (.object (← makeFunction scope f none))
    pure env

/-- Adds names that `var` declares to a scope, where they are new. -/
def addVariables (scope : Nat) (names : List Str) (initial : Str → Act Value) : Act Unit :=
  names.forM fun name => do
    let known ← read fun r => ((r.scopes[scope]?).bind fun s => s.find? name).isSome
    if known then pure () else addBinding scope ⟨name, some (← initial name), .free⟩

def addFunctions (scope : Nat) (body : List Stmt) : Act Unit :=
  (hoistedFunctions body).forM fun f => do
    let v := Value.object (← makeFunction scope f none)
    match ← read fun r => ((r.scopes[scope]?).bind fun s => s.find? f.info.name) with
    | some (i, _) => setBinding scope i v
    | none => addBinding scope ⟨f.info.name, some v, .free⟩

def declareBody (scope : Nat) (info : FunctionInfo) (body : List Stmt) (initial : Str → Act Value) : Act Unit := do
  addVariables scope info.vars initial
  modifyScope scope fun s => { s with bindings := s.bindings ++ declaredBindings info.lexicals }
  addFunctions scope body

end BrainHost.Script
