import BrainHost.Running

/-! # Exceptions

Makes diagnostics of what scripts throw. -/

namespace BrainHost

namespace Inside

variable {E : Engine} {K : HostKind} {α : Type}

def stringProperty (s : Surroundings E) (v : E.Value) (name : String) : Inside E K (Option String) := do
  match ← perform s (E.property v name) with
  | .ok w => pure (E.text? w)
  | .error _ => pure none

def textProperty (s : Surroundings E) (v : E.Value) (name : String) : Inside E K (Option String) := do
  match ← perform s (E.property v name) with
  | .ok w => if E.isAbsent w then pure none else perform s (E.toText w)
  | .error _ => pure none

def numberProperty (s : Surroundings E) (v : E.Value) (name : String) : Inside E K (Option Nat) := do
  match ← perform s (E.property v name) with
  | .ok w => pure ((E.integer? w).bind Int.toNat?)
  | .error _ => pure none

/-- Whether a source was thrown out as no script, rather than thrown from. -/
def isSyntaxError (s : Surroundings E) (thrown : E.Value) : Inside E K Bool := do
  if ← inspect fun c => E.isError c thrown then
    pure ((← stringProperty s thrown "name") == some "SyntaxError")
  else pure false

end Inside

/-- Puts the first place of the stack where a diagnostic has none of its own. -/
def Diagnostic.located (d : Diagnostic) : Option Location → Diagnostic
  | none => d
  | some place =>
    match d.line with
    | none => { d with file := some place.file, line := some place.line, column := place.column }
    | some line =>
      { d with
        file := d.file <|> some place.file
        column := if line = place.line then d.column <|> place.column else d.column }

/-- The diagnostic of a text that holds a NUL, and is therefore no text for an engine. It names
the offset of the first one in bytes. -/
def Diagnostic.ofNul? (text : String) : Option Diagnostic :=
  if text.toList.contains '\x00' then
    let offset := (String.ofList (text.toList.takeWhile (· ≠ '\x00'))).utf8ByteSize
    some { message := "String contained internal null bytes: nul byte found in provided data at position: "
             ++ toString offset }
  else none

namespace Inside

variable {E : Engine} {K : HostKind} {α : Type}

def describe (s : Surroundings E) (error : E.Value) : Inside E K Diagnostic := do
  let stack ← textProperty s error "stack"
  let file ← stringProperty s error "fileName"
  let line ← numberProperty s error "lineNumber"
  let column ← numberProperty s error "columnNumber"
  let d : Diagnostic := { file, line, column, message := "", stack }
  let d := d.located (stack.bind Location.ofStack?)
  pure { d with message := ← perform s (E.headline error) }

/-- The diagnostic of what was thrown. `lookup` gives the source of a file. -/
def diagnose (s : Surroundings E) (thrown : E.Value) (lookup : Option String → Option String) :
    Inside E K Diagnostic := do
  if ← inspect fun c => E.isError c thrown then
    pure ((← describe s thrown).withSource lookup)
  else pure { message := ← perform s (E.headline thrown) }

def failWith (s : Surroundings E) (failure : String → Diagnostic → ScriptFailure) (activity : String)
    (lookup : Option String → Option String) (thrown : E.Value) : Inside E K α := do
  throw (.script (failure activity (← diagnose s thrown lookup)))

def evaluate (s : Surroundings E) (compiling running source : String) : Inside E K E.Value := do
  if let some d := Diagnostic.ofNul? source then throw (.script (.exception running d))
  match ← perform s (E.evaluate false source) with
  | .ok v => pure v
  | .error thrown =>
    let lookup (_ : Option String) : Option String := some source
    if ← isSyntaxError s thrown then failWith s .compilation compiling lookup thrown
    else failWith s .exception running lookup thrown

end Inside

end BrainHost
