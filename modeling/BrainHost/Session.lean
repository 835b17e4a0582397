import BrainHost.Registry
import BrainHost.Scratch

/-! # The runtime's operations

What a host does with the runtime. Every failure is reported once, here. -/

namespace BrainHost.Session

variable {E : Engine} {K : HostKind} {α : Type}

/-- Reports a failure. Bounds have been logged where they were checked. -/
def report : Failure → Act E K Unit
  | .rejected _ => pure ()
  | .alreadyInitialized => Act.record .warn "brain" Failure.alreadyInitialized.message
  | .notInitialized => Act.record .warn "brain" Failure.notInitialized.message
  | .resetFailed listing cause => do
    report cause
    Act.logError (Failure.resetFailed listing cause).message
  | failure => Act.logError failure.message

def logged (m : Attempt E K α) : Attempt E K α := ExceptT.mk do
  match ← m.run with
  | .ok a => pure (.ok a)
  | .error failure => do
    report failure
    pure (.error failure)

/-- What the runtime has while it is initialized. -/
def life : Attempt E K (Life E) := do
  match (← Attempt.get).life with
  | some life => pure life
  | none => throw .notInitialized

def engineConfig : Attempt E K EngineConfig := do pure (← Attempt.get).config.engine

/-! ## Lifecycle -/

def validateConfig : Attempt E K Unit := do
  match (← engineConfig).validate with
  | .ok () => pure ()
  | .error cause => throw (.config cause)

def start (path : String) : Attempt E K Unit := do
  Attempt.insistText .filePath path
  if (← Attempt.get).life.isSome then
    Attempt.record .warn "initialize called, but the runtime was already initialized! Doing nothing."
    throw .alreadyInitialized
  logged validateConfig
  let context ← logged (do Scratch.make (← engineConfig))
  Attempt.modify fun w => { w with life := some { path, scratch := some context } }
  Attempt.record .info "brain runtime initialized"

def stop : Attempt E K Unit := do
  match (← Attempt.get).life with
  | some _ => do
    ExceptT.lift Registry.clear
    Attempt.modify fun w => { w with life := none }
    Attempt.record .info "brain runtime deinitialized"
  | none => do
    Attempt.record .warn "deinitialize called before initialize. Doing nothing."
    throw .notInitialized

/-! ## Brains -/

/-- Makes a brain of a source and puts it in the place of the one that has its id. -/
def resetBrain (id source : String) : Attempt E K Unit := logged do
  let _ ← life
  Registry.reset id source (← engineConfig)

def setModule (id moduleId source : String) : Attempt E K Unit := logged do
  let _ ← life
  Registry.setModule id moduleId source

def findForUpdate (id agent state : String) (buffer : ByteArray) : Attempt E K Nat := do
  Attempt.insistText .identifier id
  Attempt.insistText .identifier agent
  Attempt.insistText .json state
  Attempt.insistLength .buffer buffer.size
  let _ ← life
  Registry.find id

/-- Runs an update; gives the new state and the bytes as the script left them. -/
def runUpdate (id agent state : String) (buffer : ByteArray) : Act E K (Except Failure String × ByteArray) := do
  match ← (findForUpdate id agent state buffer).run with
  | .ok number => Brain.runUpdate number state buffer
  | .error failure => pure (.error failure, buffer)

/-- Updates a brain. Where that succeeds, the new state is delivered once. -/
def updateAgent (id agent state : String) (buffer : ByteArray) (deliver : String → Act E K Unit) :
    Act E K (Except Failure Unit × ByteArray) := do
  let (result, bytes) ← runUpdate id agent state buffer
  match result with
  | .ok json => do
    deliver json
    pure (.ok (), bytes)
  | .error failure => do
    report failure
    pure (.error failure, bytes)

/-- The JSON text of a module's namespace object; nothing if there is no such module. -/
def namespaceJson (id moduleId : String) : Attempt E K (Option String) := logged do
  let _ ← life
  Brain.namespaceJson (← Registry.find id) moduleId

/-! ## Diagnosis -/

def evaluate (source : String) : Attempt E K Unit := logged do Scratch.run source (← life)

/-- Runs a source for a whole number; -1 if the source is out of bounds and 0 if it fails. -/
def evaluateToInteger (source : String) : Act E K Int := do
  match ← (logged (do Scratch.integer source (← engineConfig))).run with
  | .ok n => pure n
  | .error (.rejected _) => pure (-1)
  | .error _ => pure 0

end BrainHost.Session
