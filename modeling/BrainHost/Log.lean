import BrainHost.World

/-! # Logging

Messages go to the runtime's own log and to the host's sinks, where they are set. -/

namespace BrainHost

variable {E : Engine} {K : HostKind} {α : Type}

/-- An operation that can fail. -/
abbrev Attempt (E : Engine) (K : HostKind) := ExceptT Failure (Act E K)

namespace Act

def isSet (hook : Hook) : Act E K Bool := do pure ((← get).hooks.isSet hook)

/-- Calls a host function that gives nothing back, if its hook is set. -/
def notify (hook : Hook) (callback : Callback) : Act E K Unit := do
  if ← isSet hook then
    let _ ← invoke callback

def logDebug (message : String) : Act E K Unit := notify .debugLog (.debug message)

def logError (message : String) : Act E K Unit := do
  record .error "brain" message
  notify .errorLog (.error message)

/-- Logs that a bound was violated; the host's sinks do not hear of it. -/
def warnOf (check : Except Rejection Unit) : Act E K (Except Rejection Unit) := do
  match check with
  | .ok () => pure (.ok ())
  | .error cause => do
    record .warn "brain" cause.message
    pure (.error cause)

/-- Checks a text that must not be empty. -/
def checkText (limit : Limit) (text : String) : Act E K (Except Rejection Unit) := warnOf (limit.check text)

def checkLength (limit : Limit) (length : Nat) : Act E K (Except Rejection Unit) :=
  warnOf (limit.checkLength length)

end Act

namespace Attempt

def attempt (m : Attempt E K α) : Attempt E K (Except Failure α) := ExceptT.mk do pure (.ok (← m.run))

def finish : Except Failure α → Attempt E K α
  | .ok a => pure a
  | .error failure => throw failure

def modify (f : World E K → World E K) : Attempt E K Unit := ExceptT.lift (Act.modify f)

def get : Attempt E K (World E K) := ExceptT.lift Act.get

def record (severity : Severity) (message : String) : Attempt E K Unit :=
  ExceptT.lift (Act.record severity "brain" message)

def fault : Attempt E K α := ExceptT.lift Act.fault

/-- Fails because a bound was violated. -/
def orReject (check : Act E K (Except Rejection Unit)) : Attempt E K Unit := do
  match ← (check : Attempt E K (Except Rejection Unit)) with
  | .ok () => pure ()
  | .error cause => throw (.rejected cause)

/-- Fails unless a text is within its bound. -/
def insistText (limit : Limit) (text : String) : Attempt E K Unit := orReject (Act.checkText limit text)

/-- Fails unless a length is within its bound. -/
def insistLength (limit : Limit) (length : Nat) : Attempt E K Unit := orReject (Act.checkLength limit length)

end Attempt

end BrainHost
