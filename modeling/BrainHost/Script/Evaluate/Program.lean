import BrainHost.Script.Evaluate.Class
import BrainHost.Script.Parser

/-! # Running programs

Declares what a script or an evaluated text declares, and runs its statements. -/

namespace BrainHost.Script

open Act

/-- The error of a fault in a source: its place comes first in the stack. -/
def Realm.faultObject (r : Realm) (file : String) (fault : SyntaxFault) : Obj :=
  let place := Str.ofString s!"    at {file}:{fault.line}:{fault.column}\n"
  let o : Obj := { kind := .error, proto := some (Intrinsic.errorPrototype .syntaxError).ref }
  let o := o.put (.text "message") (.hidden (.string (Str.ofString fault.message)))
  let o := o.put (.text "fileName") (.hidden (.string (Str.ofString file)))
  let o := o.put (.text "lineNumber") (.hidden (.nat fault.line))
  let o := o.put (.text "columnNumber") (.hidden (.nat fault.column))
  o.put (.text "stack") (.hidden (.string (place ++ r.stack r.calls)))

/-- Throws because of a fault in a source. -/
def throwSyntax {α : Type} (file : String) (fault : SyntaxFault) : Act α where
  run r :=
    let (ref, r) := r.allocate (r.faultObject file fault)
    .thrown (.object ref) r
  reaches r := .of_still (.allocate r rfl)

def throwFault {α : Type} (file : String) (fault : SyntaxFault) : Act α :=
  if fault.located then throwSyntax file fault else fail .syntaxError (Str.ofString fault.message)

def readProgram (kind : ProgramKind) (name file : String) (source : List Char) : Act Program := do
  match Program.read kind name file (← read Realm.sites) source with
  | .error fault => throwFault file fault
  | .ok p =>
    modify fun r => { r with sites := p.sites }
    pure p

def Program.info (p : Program) : FunctionInfo := p.main.info

def Program.body (p : Program) : List Stmt :=
  match p.main with
  | .mk _ _ body => body

def withCall {α : Type} (c : Call) (m : Act α) : Act α := do
  modify fun r => { r with calls := c :: r.calls }
  m.ensuring (modify fun r => { r with calls := r.calls.drop 1 })

def Evaluator.run (ev : Evaluator) (env : Env) : List Stmt → Act Completion
  | [] => pure .normal
  | s :: rest => do
    match ← ev.stmt env s with
    | .normal => run ev env rest
    | jump => pure jump

/-- Runs the statements of a function; its result is that of `return`. -/
def Evaluator.runBody (ev : Evaluator) (env : Env) (body : List Stmt) : Act Value := do
  match ← ev.run env body with
  | .returned v => pure v
  | _ => pure .undefined

/-- Runs statements whose value is that of the last expression. -/
def Evaluator.runForValue (ev : Evaluator) (env : Env) (body : List Stmt) : Act Value := do
  let outer ← read Realm.result
  setResult .undefined
  let run : Act Value := do
    let _ ← ev.run env body
    read Realm.result
  run.ensuring (setResult outer)

/-! ## Global declarations -/

/-- Throws because a name is declared already. -/
def redeclared {α : Type} (name : Str) : Act α :=
  fail .syntaxError (Str.ofString "redeclaration of '" ++ name ++ Str.ofString "'")

def Realm.hasGlobalLexical (r : Realm) (name : Str) : Bool :=
  ((r.scopes[globalScope]?).bind fun s => s.find? name).isSome

/-- Checks that a global variable or function can be declared. -/
def checkGlobal (name : Str) (isFunction : Bool) : Act Unit := do
  let globalObject := Intrinsic.globalObject.ref
  let p ← read fun r => r.ownProperty globalObject (.ofStr name)
  let extensible := (← getObject globalObject).extensible
  let refused := match p with
    | none => !extensible
    | some ⟨.data _ writable, enumerable, configurable⟩ =>
      isFunction && !configurable && !(writable && enumerable)
    | some ⟨.accessor _ _, _, configurable⟩ => isFunction && !configurable
  if refused then fail .typeError (Str.ofString "cannot define variable '" ++ name ++ Str.ofString "'")
  else if ← read fun r => r.hasGlobalLexical name then redeclared name
  else pure ()

/-- Checks that a global name can be declared in blocks' manner. -/
def checkGlobalLexical (name : Str) : Act Unit := do
  let p ← read fun r => r.ownProperty Intrinsic.globalObject.ref (.ofStr name)
  if (p.map fun p => !p.configurable).getD false then redeclared name
  else if ← read fun r => r.hasGlobalLexical name then redeclared name
  else pure ()

/-- Declares global variables and functions; those of an evaluated text can be deleted. -/
def declareGlobals (info : FunctionInfo) (body : List Stmt) (scope : Nat) (deletable : Bool) : Act Unit := do
  let globalObject := Intrinsic.globalObject.ref
  let functions := hoistedFunctions body
  let isFunction (name : Str) : Bool := functions.any fun f => f.info.name == name
  info.vars.forM fun name => checkGlobal name (isFunction name)
  info.vars.forM fun name => do
    let p ← read fun r => r.ownProperty globalObject (.ofStr name)
    if p.isNone && !isFunction name then
      putProperty globalObject (.ofStr name) ⟨.data .undefined true, true, deletable⟩
  functions.forM fun f => do
    let v := Value.object (← makeFunction scope f none)
    let k := Key.ofStr f.info.name
    match ← read fun r => r.ownProperty globalObject k with
    | some ⟨_, enumerable, false⟩ => putProperty globalObject k ⟨.data v true, enumerable, false⟩
    | _ => putProperty globalObject k ⟨.data v true, true, deletable⟩

def namedCall (name file : String) : Act Call := do
  let o : Obj := {}
  let ref ← newObject (o.put (.text "name") (.readOnly (.string (Str.ofString name))))
  pure { function := some ref, file := some file, place := ⟨1, 1⟩ }

def Evaluator.runScript (ev : Evaluator) (p : Program) : Act Value := do
  withCall (← namedCall "<eval>" p.info.file) do
    p.info.lexicals.forM fun d => checkGlobalLexical (Parse.declaredName d)
    declareGlobals p.info p.body globalScope false
    modifyScope globalScope fun s => { s with bindings := s.bindings ++ declaredBindings p.info.lexicals }
    ev.runForValue { scope := globalScope, info := p.info } p.body

/-! ## Evaluated texts -/

def inputFile : String := "<input>"

/-- Declares variables and functions of an evaluated text in the function around it. -/
def declareAround (info : FunctionInfo) (body : List Stmt) (outer inner : Nat) : Act Unit := do
  let target ← read fun r => r.variableScope r.scopes.size outer
  if target = globalScope then declareGlobals info body inner true
  else
    addVariables target info.vars fun _ => pure .undefined
    (hoistedFunctions body).forM fun f => do
      let v := Value.object (← makeFunction inner f none)
      match ← read fun r => ((r.scopes[target]?).bind fun s => s.find? f.info.name) with
      | some (i, _) => setBinding target i v
      | none => addBinding target ⟨f.info.name, some v, .free⟩

/-- Runs an evaluated text in a scope. Strict code keeps its variables to itself. -/
def Evaluator.runText (ev : Evaluator) (p : Program) (outer : Nat) : Act Value := do
  withCall (← namedCall "<eval>" inputFile) do
    let scope ← newScope { parent := some outer, isVariableScope := p.info.strict }
    if p.info.strict then addVariables scope p.info.vars fun _ => pure .undefined
    modifyScope scope fun s => { s with bindings := s.bindings ++ declaredBindings p.info.lexicals }
    if p.info.strict then addFunctions scope p.body else declareAround p.info p.body outer scope
    ev.runForValue { scope, info := p.info } p.body

/-- Evaluates a text where it stands, or in the global scope. -/
def Evaluator.evalText (ev : Evaluator) (env : Option Env) (v : Value) : Act Value := do
  match v with
  | .string s =>
    let strict := (env.map Env.strict).getD false
    let allowed := (env.map fun env => env.info.allowed).getD {}
    let p ← readProgram (.script strict allowed) "<eval>" inputFile s.toChars
    ev.runText p ((env.map Env.scope).getD globalScope)
  | v => pure v

end BrainHost.Script
