import BrainHost.Session
import BrainHost.Text.Lossy

/-! # The C boundary

The operations as a native host calls them. Strings are bytes up to the first NUL. A call that
changes the runtime needs it for itself; a call that only uses it shares it with others. -/

namespace BrainHost.Boundary

open Text

variable {E : Engine} {K : HostKind} {α : Type}

/-- A string argument: its bytes, or nothing for a null pointer. -/
abbrev Bytes := Option ByteArray

def record (severity : Severity) (message : String) : Act E K Unit := Act.record severity "brain.ffi" message

/-- The bytes before the first NUL. -/
def upToNul (bytes : ByteArray) : ByteArray := bytes.extract 0 ((bytes.findIdx? (· = 0)).getD bytes.size)

/-- The text of a string argument. A null pointer and bytes that are no text count as empty. -/
def textOf (bytes : Bytes) : Act E K String := do
  match bytes with
  | none => pure ""
  | some bytes =>
    match String.fromUTF8? (upToNul bytes) with
    | some text => pure text
    | none => do
      record .warn "string argument is not valid UTF-8"
      pure ""

/-! ## Calls out to the host -/

/-- Whether a text holds a NUL, at which a C string would end. -/
def hasNul (text : String) : Bool := (upToNul text.toUTF8).size < text.utf8ByteSize

def zeros (size : Nat) : ByteArray := ⟨Array.replicate size 0⟩

def bufferSize : Nat := Limit.actorString.maxBytes

/-- The buffer for strings of actors, as every reader finds it. -/
def blankBuffer : ByteArray := zeros bufferSize

def setBuffer (buffer : Option ByteArray) : Act E K Unit :=
  Act.modify fun w => { w with boundary := { w.boundary with buffer } }

/-- The text that the host wrote into a buffer: the last byte always ends it. -/
def filledText (buffer : ByteArray) : String :=
  lossy (upToNul (buffer.extract 0 (buffer.size - 1))).toList

/-- Reads a string of an actor. A read inside another one gets a buffer of its own. -/
def readString (actor field : Nat) : Act E K Reply := do
  let kept := (← Act.get).boundary.buffer
  let buffer := match kept with
    | some buffer => if buffer.size = bufferSize then buffer else blankBuffer
    | none => blankBuffer
  setBuffer none
  let text ← match ← Act.invoke (.fillString actor field buffer) with
    | .filled buffer => pure (filledText buffer)
    | _ => pure ""
  setBuffer (kept.map fun _ => blankBuffer)
  pure (.value (.string text))

def keepReporter (reporter : Nat) : Act E K Unit :=
  Act.modify fun w => { w with boundary := { w.boundary with lastReporter := some reporter } }

/-- Calls a host function unless a text holds a NUL. -/
def forward (texts : List String) (target message : String) (callback : Callback) : Act E K Reply := do
  if texts.any hasNul then
    Act.record .warn target message
    pure .none
  else Act.invoke callback

def relayed : Callback → Act E K Reply
  | .debug message =>
    forward [message] "brain.ffi" "message contains an interior NUL; not forwarded" (.debug message)
  | .error message =>
    forward [message] "brain.ffi" "message contains an interior NUL; not forwarded" (.error message)
  | .result json =>
    forward [json] "brain.ffi" "message contains an interior NUL; not forwarded" (.result json)
  | .callService service args reporter => do
    if !(hasNul service || hasNul args) then keepReporter reporter
    forward [service, args] "brain.service" "service call contains an interior NUL"
      (.callService service args reporter)
  | .getField .string actor field => readString actor field
  | .setField actor field (.string s) =>
    forward [s] "brain.actor" "actor string contains an interior NUL; not forwarded"
      (.setField actor field (.string s))
  | callback => Act.invoke callback

/-- Does something whose calls of host functions go by way of C. -/
def relaying (m : Act E K α) : Act E K α := m.through fun link callback w => relayed callback link w

/-! ## Holding the runtime -/

def hold (holding : Holding) (w : World E K) : World E K := { w with boundary := { w.boundary with holding } }

def release (w : World E K) : World E K :=
  match w.boundary.holding with
  | .shared n => hold (.shared (n - 1)) w
  | .exclusive => hold (.shared 0) w

def guarded (fallback : α) (m : Act E K α) : Act E K α :=
  m.catchFault do
    record .error "panic caught at the C boundary"
    pure fallback

def refuse (fallback : α) : Act E K α := do
  record .error "runtime is busy; re-entrant call refused"
  pure fallback

def sharing (fallback : α) (m : Act E K α) : Act E K α := guarded fallback do
  match (← Act.get).boundary.holding with
  | .shared n => do
    Act.modify (hold (.shared (n + 1)))
    (relaying m).ensuring release
  | .exclusive => refuse fallback

def owning (fallback : α) (m : Act E K α) : Act E K α := guarded fallback do
  match (← Act.get).boundary.holding with
  | .shared 0 => do
    Act.modify (hold .exclusive)
    (relaying m).ensuring release
  | _ => refuse fallback

def succeeds (m : Attempt E K α) : Act E K Bool := do
  match ← m.run with
  | .ok _ => pure true
  | .error _ => pure false

/-! ## Operations -/

def exitCode (m : Attempt E K α) : Act E K Nat := do pure (if ← succeeds m then 0 else 1)

def start (path : Bytes) : Act E K Nat := do
  let path ← textOf path
  owning 1 (exitCode (Session.start path))

def stop : Act E K Nat := owning 1 (exitCode Session.stop)

def reset (id source : Bytes) : Act E K Bool := do
  let id ← textOf id
  let source ← textOf source
  owning false (succeeds (Session.resetBrain id source))

def setModule (id moduleId source : Bytes) : Act E K Bool := do
  let id ← textOf id
  let moduleId ← textOf moduleId
  let source ← textOf source
  sharing false (succeeds (Session.setModule id moduleId source))

/-- Delivers a result, where the host wants it. -/
def deliver (wanted : Bool) (json : String) : Act E K Unit := do
  if wanted then
    let _ ← Act.invoke (.result json)

def overwrite (memory bytes : ByteArray) : ByteArray := bytes ++ memory.extract bytes.size memory.size

/-- Updates a brain with a part of the host's memory; gives the memory as the script left it. -/
def updateBytes (id agent state : Bytes) (memory : Option ByteArray) (length : Int) (wanted : Bool) :
    Act E K (Bool × Option ByteArray) := do
  let id ← textOf id
  let agent ← textOf agent
  let state ← textOf state
  if length < 0 || (Limit.buffer.maxBytes : Int) < length then
    record .warn "buffer length out of range. Doing nothing."
    pure (false, memory)
  else
    let buffer := (memory.map fun m => m.extract 0 length.toNat).getD .empty
    sharing (false, memory) do
      let (result, bytes) ← Session.updateAgent id agent state buffer (deliver wanted)
      pure (result.isOk, memory.map fun m => overwrite m bytes)

/-- Updates a brain without bytes. -/
def update (id agent state : Bytes) (wanted : Bool) : Act E K Bool := do
  pure (← updateBytes id agent state none 0 wanted).1

def evaluate (source : Bytes) : Act E K Unit := do
  let source ← textOf source
  sharing () do
    let _ ← succeeds (Session.evaluate source)

def evaluateToInteger (source : Bytes) : Act E K Int := do
  let source ← textOf source
  sharing 0 (Session.evaluateToInteger source)

def reportResult (result : Bytes) : Act E K Unit := do
  let result ← textOf result
  match (← Act.get).boundary.lastReporter with
  | some reporter => guarded () (relaying do
      let _ ← Act.report reporter result)
  | none => sharing () (Act.logError (ServiceFailure.noCurrentUser result).message)

/-- Sets or removes a host function. -/
def setHook (hook : Hook) (on : Bool) : Act E K Unit :=
  sharing () (Act.modify fun w => { w with hooks := w.hooks.assign hook on })

end BrainHost.Boundary
