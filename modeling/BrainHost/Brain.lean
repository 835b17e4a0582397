import BrainHost.Exception
import BrainHost.Marshal

/-! # Brains

A brain is a script with a context of its own. The host updates it with a state, and hands it
modules that the script can use. -/

namespace BrainHost

def updateAgentName : String := "updateAgent"

/-- The function that is called after an update's jobs, where a brain has it. -/
def postMessageFlushName : String := "postMessageFlush"

def actorFunctions : List (String × Capability) :=
  [("getActorBoolean", .field .get .boolean), ("setActorBoolean", .field .set .boolean),
    ("getActorFloat", .field .get .float), ("setActorFloat", .field .set .float),
    ("getActorVector3", .field .get .vector3), ("setActorVector3", .field .set .vector3),
    ("getActorQuaternion", .field .get .quaternion), ("setActorQuaternion", .field .set .quaternion),
    ("getActorString", .field .get .string), ("setActorString", .field .set .string)]

def logFunctions : List (String × Capability) := [("sysLog", .log), ("sysError", .logError)]

def brainFunctions : List (String × Capability) :=
  logFunctions ++ [("getModule", .getModule), ("callService", .callService)] ++ actorFunctions

/-- What the engine says of an exception where none is expected. -/
def unexpectedException : String := "Exception generated by QuickJS"

/-- More jobs than there is time for. -/
def endlessJobs : Nat := Nat.pow 2 62

/-- How often a drain looks for jobs: once more than a limit lets it do one. -/
def drainRounds (limit : Option Nat) : Nat := (limit.map (· + 1)).getD endlessJobs

namespace Brain

variable {E : Engine} {K : HostKind}

def surroundings (b : Brain E) : Surroundings E := { bridge := b.bridge, modules := b.modules }

/-- The source of a file: that of a module, or the brain's own. -/
def sourceOf (b : Brain E) (file : Option String) : Option String :=
  (file.bind fun f => (b.modules.lookup f).map StoredModule.source) <|> some b.source

/-! ## Making brains -/

def readGlobal (s : Surroundings E) (name : String) : Inside E K E.Value := do
  match ← Inside.perform s (E.global name) with
  | .ok v => pure v
  | .error _ => throw (.engine unexpectedException)

def entryPoints (s : Surroundings E) (source : String) : Inside E K (E.Value × Option E.Value) := do
  let _ ← Inside.evaluate s "Error while compiling brain JS: " "Exception caught while running brain JS: " source
  let update ← readGlobal s updateAgentName
  if !(← Inside.inspect fun c => E.isFunction c update) then
    throw (.script (.missingEntryPoint updateAgentName source))
  let flush ← readGlobal s postMessageFlushName
  let hasFlush ← Inside.inspect fun c => E.isFunction c flush
  pure (update, if hasFlush then some flush else none)

def make (source : String) (config : EngineConfig) : Attempt E K (Brain E) := do
  match E.create config brainFunctions with
  | .error reason => throw (.engine reason)
  | .ok context => do
    let bridge ← ExceptT.lift Act.newBridge
    let (result, context) ← Attempt.inside context (entryPoints { bridge } source)
    let (updateAgent, postMessageFlush) ← Attempt.finish result
    pure
      { context := some context, source, bridge, updateAgent, postMessageFlush
        maxPendingJobs := config.maxPendingJobs }

/-! ## Jobs -/

/-- Does the first job that waits. It is a failure if the job throws. -/
def doJob (s : Surroundings E) : Inside E K Unit := do
  match ← Inside.perform s E.runJob with
  | .ok () => pure ()
  | .error thrown => do
    let message ← Inside.perform s (E.headline thrown)
    throw (.script (.exception "Exception caught while pumping pending jobs: " { message }))

/-- Does the jobs that wait, and those that they leave, up to a limit. A job that throws ends this. -/
def drainFrom (s : Surroundings E) (limit : Option Nat) : Nat → Nat → Inside E K Nat
  | 0, _ => Inside.stuck
  | rounds + 1, executed => do
    if ← Inside.inspect E.jobPending then
      match limit.filter (· ≤ executed) with
      | some max => throw (.script (.pendingJobLimit max))
      | none => do
        doJob s
        drainFrom s limit rounds (executed + 1)
    else pure executed

/-- Does all jobs; gives their number. -/
def drain (b : Brain E) : Inside E K Nat :=
  drainFrom b.surroundings b.maxPendingJobs (drainRounds b.maxPendingJobs) 0

/-! ## Updates -/

def callEntry (b : Brain E) (activity : String) (f : E.Value) (args : List E.Value) : Inside E K Unit := do
  match ← Inside.perform b.surroundings (E.call f args) with
  | .ok () => pure ()
  | .error thrown => Inside.failWith b.surroundings .exception activity b.sourceOf thrown

def updateWith (b : Brain E) (state : String) (view : E.Value) : Inside E K String := do
  let v ← Inside.decodeState state
  b.callEntry "Error while calling updateAgent: " b.updateAgent [v, view]
  let _ ← b.drain
  match b.postMessageFlush with
  | some flush => b.callEntry "Error while calling postMessageFlush: " flush [v, view]
  | none => pure ()
  Inside.encodeState b.surroundings v

/-- An update; gives the new state and the bytes as the script left them. The script's view of the
bytes is cut off however the update ends. -/
def updateInside (b : Brain E) (state : String) (buffer : ByteArray) :
    Inside E K (Except Failure String × ByteArray) := do
  let max := Limit.buffer.maxBytes
  match ← (Act.checkLength .buffer buffer.size : Act E K _) with
  | .error _ => pure (.error (.marshal (.bufferTooLarge buffer.size max)), buffer)
  | .ok () => do
    let view ← Inside.change (E.attach buffer)
    Inside.closing (b.updateWith state view) (E.detach view)

/-! ## Modules -/

/-- Does jobs until a value tells that something is finished. Nobody hears of a job that throws. -/
def finishFrom (s : Surroundings E) (promise : E.Value) : Nat → Inside E K (Option (Except E.Value E.Value))
  | 0 => Inside.stuck
  | rounds + 1 => do
    match ← Inside.inspect fun c => E.outcome? c promise with
    | some outcome => pure (some outcome)
    | none =>
      if ← Inside.inspect E.jobPending then
        let _ ← Inside.perform s E.runJob
        finishFrom s promise rounds
      else pure none

/-- Compiles and runs a module; gives its namespace object. -/
def runModule (b : Brain E) (id source : String) : Inside E K E.Value := do
  let s := b.surroundings
  let lookup (_ : Option String) : Option String := some source
  let compiling := "Error while compiling module JS: "
  let evaluating := "Exception caught while evaluating module JS: "
  if let some d := Diagnostic.ofNul? id <|> Diagnostic.ofNul? source then
    throw (.script (.compilation compiling d))
  match ← Inside.perform s (E.compile id source) with
  | .error thrown => Inside.failWith s .compilation compiling lookup thrown
  | .ok m =>
    match ← Inside.perform s (E.start m) with
    | .error thrown => Inside.failWith s .exception "Exception caught while instantiating module JS: " lookup thrown
    | .ok promise =>
      match ← finishFrom s promise endlessJobs with
      | some (.ok _) =>
        match ← Inside.perform s (E.namespaceOf m) with
        | .ok namespaceObject => pure namespaceObject
        | .error thrown => Inside.failWith s .exception "Could not read module namespace: " lookup thrown
      | some (.error thrown) => Inside.failWith s .exception evaluating lookup thrown
      | none =>
        throw (.script (.exception evaluating { message := "Error blocking on a promise resulted in a dead lock" }))

/-- The JSON text of a module's namespace object; nothing if there is no such module. -/
def namespaceInside (b : Brain E) (id : String) : Inside E K (Option String) := do
  match b.modules.lookup id with
  | some m => do pure (some (← Inside.encodeState b.surroundings m.namespaceObject))
  | none => pure none

/-- Stores a module in place of the one that had its id. -/
def store (b : Brain E) (id : String) (m : StoredModule E.Value) : Brain E :=
  { b with modules := (id, m) :: b.modules.filter fun p => p.1 ≠ id }

/-! ## Brains by number -/

def update (number : Nat) (f : Brain E → Brain E) : Attempt E K Unit :=
  Attempt.modify fun w => { w with brains := w.brains.modify number f }

/-- Does something inside the context of a brain, unless one of its scripts is running. The brain has its
context back however that ends. -/
def enter {α : Type} (number : Nat) (m : Brain E → Inside E K α) : Attempt E K α := do
  let found : Option (Brain E) := (← Attempt.get).brains[number]?
  match found.bind fun b => b.context.map (b, ·) with
  | none => Attempt.fault
  | some (b, context) => do
    update number fun b => { b with context := none }
    Attempt.lend context (m b) fun context w =>
      { w with brains := w.brains.modify number fun b => { b with context := some context } }

/-- Updates a brain; gives the new state and the bytes as the script left them. -/
def runUpdate (number : Nat) (state : String) (buffer : ByteArray) :
    Act E K (Except Failure String × ByteArray) := do
  match ← (enter number fun b => b.updateInside state buffer).run with
  | .ok result => pure result
  | .error failure => pure (.error failure, buffer)

/-- Sets a module of a brain. A module that fails leaves the old one in place. -/
def setModule (number : Nat) (id source : String) : Attempt E K Unit := do
  Attempt.insistText .identifier id
  Attempt.insistText .scriptSource source
  let namespaceObject ← enter number fun b => b.runModule id source
  update number fun b => b.store id { namespaceObject, source }

def namespaceJson (number : Nat) (id : String) : Attempt E K (Option String) :=
  enter number fun b => b.namespaceInside id

def drainJobs (number : Nat) : Attempt E K Nat := enter number fun b => b.drain

end Brain

end BrainHost
