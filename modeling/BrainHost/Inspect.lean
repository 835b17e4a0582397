import BrainHost.Exception
import BrainHost.Marshal

/-! # Looking at single sources

Runs a source or reads a text in a context of its own, without any function of the host. -/

namespace BrainHost.Inspect

def Quiet : HostKind := ⟨Unit, Empty⟩

variable {E : Engine} {α : Type}

/-- What scripts can reach here: nothing. -/
def nowhere : Surroundings E := {}

def alone (E : Engine) (m : Inside E Quiet α) : Except Failure α :=
  match E.create {} [] with
  | .error reason => .error (.engine reason)
  | .ok context =>
    match m.run context (fun _ w => .done .none w) { host := () } with
    | .done (result, _) _ => result
    | .fault _ => .error (.engine "fault")
    | .stuck => .error (.engine "stuck")

/-- Reads a state and writes it again. -/
def roundTrip (text : String) : Inside E Quiet String := do
  Inside.encodeState nowhere (← Inside.decodeState text)

/-- Writes the value of a strict source; nothing if the source throws. -/
def encode (source : String) : Inside E Quiet (Option String) := do
  if (Diagnostic.ofNul? source).isSome then return none
  match ← Inside.perform nowhere (E.evaluate true source) with
  | .ok v => do pure (some (← Inside.encodeState nowhere v))
  | .error _ => pure none

/-- What is known of an exception: whether the source is no script at all, and the diagnostic. -/
structure Finding where
  isSyntaxError : Bool
  diagnostic : Diagnostic

/-- The exception that a strict source throws, shown with the source that `shown` gives. -/
def diagnose (source : String) (shown : Option String) : Inside E Quiet (Option Finding) := do
  if let some diagnostic := Diagnostic.ofNul? source then
    return some { isSyntaxError := false, diagnostic }
  match ← Inside.perform nowhere (E.evaluate true source) with
  | .ok _ => pure none
  | .error thrown => do
    let isSyntaxError ← Inside.isSyntaxError nowhere thrown
    let diagnostic ← Inside.diagnose nowhere thrown fun _ => shown
    pure (some { isSyntaxError, diagnostic })

end BrainHost.Inspect
