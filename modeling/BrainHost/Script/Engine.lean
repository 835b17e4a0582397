import BrainHost.Script.Machine

/-! # The script engine

The engine's operations, each an action on a realm. -/

namespace BrainHost.Script

open Act

def scriptFile : String := "eval_script"

/-- A realm needs some memory for the objects that it begins with. -/
def leastMemory : Nat := 64 * 1024

/-- The stack that a realm has where no limit is set. -/
def usualStack : Nat := 256 * 1024

def callSize : Nat := 256

/-- Makes a context in which functions of the host are global. -/
def Context.create (config : EngineConfig) (table : List (String × Capability)) : Except String Context :=
  if config.memoryLimit.any (· < leastMemory) then .error "Allocation failed while creating object"
  else
    let depth := config.maxStackSize.getD usualStack / callSize
    .ok { realm := (Realm.initial depth).install table }

def evaluateScript (strict : Bool) (source : String) : Act Value := do
  let p ← readProgram (.script strict {}) "<eval>" scriptFile source.toList
  evaluator.runScript p

/-! ## Modules -/

/-- A compiled module: the function that runs it and its namespace object. -/
structure Compiled where
  main : Nat
  namespaceObject : Nat

def sortExports (exports : List Export) : List Export :=
  exports.mergeSort fun a b => !b.exported.less a.exported

def makeModule (p : Program) : Act Compiled := do
  let scope ← newScope
    { parent := some globalScope, isVariableScope := true
      bindings := callBindings .undefined .undefined .undefined none }
  let exports := (sortExports p.exports).map fun e => (e.exported, scope, e.binding)
  let o : Obj := { kind := .namespace exports.toArray, extensible := false }
  let namespaceObject ← newObject (o.put WellKnown.toStringTag.key (.constant (.text "Module")))
  declareBody scope p.info p.body fun _ => pure .undefined
  let main ← newObject (closureObject p.main scope none)
  pure { main, namespaceObject }

/-- Compiles a module; one that asks for other modules is refused. -/
def compileModule (file source : String) : Act Compiled := do
  let p ← readProgram .module "" file source.toList
  match p.missingExport? with
  | some name =>
    fail .syntaxError (Str.ofString "exported variable '" ++ name ++ Str.ofString "' does not exist")
  | none =>
    match p.requests with
    | [] => pure ()
    | name :: _ => refuseModule name (.ofString file)
    makeModule p

/-! ## Jobs and buffers -/

/-- Does the first job that waits. -/
def Context.runJob (c : Context) : Run Context Value (Context × Except Value Unit) :=
  match c.realm.jobs with
  | [] => .done (c, .ok ())
  | job :: rest => { c with realm := { c.realm with jobs := rest } }.run job.perform

/-- Makes a buffer that shows host memory. -/
def attachBuffer (bytes : ByteArray) (r : Realm) : Nat × Realm :=
  r.allocate
    { kind := .buffer .empty, proto := some Intrinsic.bufferPrototype.ref, lent := some { bytes := some bytes } }

/-- Cuts off a buffer that shows host memory. -/
def detachBuffer (v : Value) (r : Realm) : ByteArray × Realm :=
  match v with
  | .object ref =>
    match r.loan? ref with
    | some ⟨some bytes, writes⟩ => (bytes, r.modifyObject ref fun o => { o with lent := some ⟨none, writes⟩ })
    | _ => (.empty, r)
  | _ => (.empty, r)

/-! ## Values -/

/-- The outcome of a promise, once it is settled. -/
def Realm.outcome? (r : Realm) (v : Value) : Option (Except Value Value) :=
  match v with
  | .object ref =>
    match (r.object ref).kind with
    | .promise (.fulfilled v) => some (.ok v)
    | .promise (.rejected v) => some (.error v)
    | _ => none
  | _ => none

def Realm.isError (r : Realm) (v : Value) : Bool :=
  match v with
  | .object ref =>
    match (r.object ref).kind with
    | .error => true
    | _ => false
  | _ => false

/-- The number of a value, if it is whole and takes 32 bits. -/
def Value.integer? : Value → Option Int
  | .number x =>
    let n := toInt32 x
    if (intFloat n).toBits == x.toBits then some n else none
  | _ => none

def Value.text? : Value → Option String
  | .string s => s.toString?
  | _ => none

def Context.runTotal {α : Type} (c : Context) (fallback : α) (m : Act α) : Run Context Value (Context × α) := do
  match ← c.run m with
  | (c, .ok a) => pure (c, a)
  | (c, .error _) => pure (c, fallback)

def engine : BrainHost.Engine where
  Context := Context
  Value := Value
  Module := Compiled
  create := Context.create
  evaluate strict source c := c.run (evaluateScript strict source)
  global name c := c.run (getNamed Intrinsic.globalObject.ref name)
  isFunction c v := c.realm.isCallable v
  call f args c := c.run do
    let _ ← Act.call f .undefined args.toArray
  parseJson text c := c.runAlone (readJson (.ofString text))
  stringify v c := c.run do pure ((← writeJson v .undefined .undefined).map Str.toText)
  attach bytes c :=
    let (ref, realm) := attachBuffer bytes c.realm
    ({ c with realm }, .object ref)
  detach v c :=
    let (bytes, realm) := detachBuffer v c.realm
    ({ c with realm }, bytes)
  jobPending c := !c.realm.jobs.isEmpty
  runJob := Context.runJob
  compile file source c := c.run (compileModule file source)
  start m c := c.run (Act.call (.object m.main) .undefined #[])
  outcome? c v := c.realm.outcome? v
  namespaceOf m c := .done (c, .ok (.object m.namespaceObject))
  isError c v := c.realm.isError v
  property v name c := c.run (getValue v (.text name))
  text? := Value.text?
  integer? := Value.integer?
  isAbsent := Value.isNullish
  headline v c := c.runTotal "" (headline v)
  toText v c := c.runTotal none (textOf v)
  toInt32 v c := c.run (toInt v)

end BrainHost.Script
