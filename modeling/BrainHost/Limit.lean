/-! # Size limits

Everything that crosses the host boundary has a bound in bytes of UTF-8. -/

namespace BrainHost

/-- What a bound applies to. -/
inductive Limit
  | filePath | identifier | scriptSource | json | buffer | serviceName | logMessage | actorString
  deriving DecidableEq, Repr

/-- Why a required text or a length was refused. -/
inductive Rejection
  | empty (limit : Limit)
  | tooLong (limit : Limit) (actual : Nat)
  deriving DecidableEq, Repr

namespace Limit

def maxBytes : Limit → Nat
  | filePath => 1024
  | identifier => 128
  | scriptSource => 1024 * 1024
  | json => 10 * 1024 * 1024
  | buffer => 10 * 1024 * 1024
  | serviceName => 128
  | logMessage => 1024 * 1024
  | actorString => 1024 * 1024

/-- What the bound applies to, as messages name it. -/
def describe : Limit → String
  | filePath => "file path"
  | identifier => "identifier"
  | scriptSource => "script source"
  | json => "JSON payload"
  | buffer => "byte buffer"
  | serviceName => "service name"
  | logMessage => "log message"
  | actorString => "actor string"

def checkLength (limit : Limit) (length : Nat) : Except Rejection Unit :=
  if length > limit.maxBytes then .error (.tooLong limit length) else .ok ()

/-- Checks a text that must not be empty. -/
def check (limit : Limit) (text : String) : Except Rejection Unit :=
  if text.utf8ByteSize = 0 then .error (.empty limit) else limit.checkLength text.utf8ByteSize

end Limit

def Rejection.message : Rejection → String
  | empty limit => s!"A required {limit.describe} was empty"
  | tooLong limit actual =>
    s!"A given {limit.describe} exceeded the maximum expected length of {limit.maxBytes} bytes (got {actual})"

end BrainHost
