import BrainHost.Brain

/-! # Scratch scripts

Runs sources for diagnosis, with functions for logging and nothing else. -/

namespace BrainHost.Scratch

variable {E : Engine} {K : HostKind}

def make (config : EngineConfig) : Attempt E K E.Context := do
  match E.create config logFunctions with
  | .ok context => pure context
  | .error reason => throw (.engine reason)

def evaluate (s : Surroundings E) (source : String) : Inside E K E.Value :=
  Inside.evaluate s "Could not compile! " "Exception caught while running: " source

def setContext (context : Option E.Context) (w : World E K) : World E K :=
  { w with life := w.life.map fun life => { life with scratch := context } }

/-- Runs a source for what it does, in the context that all such runs share. -/
def run (source : String) (life : Life E) : Attempt E K Unit := do
  Attempt.insistText .scriptSource source
  match life.scratch with
  | none => Attempt.fault
  | some context => do
    Attempt.modify (setContext none)
    let _ ← Attempt.lend context (evaluate {} source) fun context => setContext (some context)

/-- Runs a source and converts its value to a whole number of 32 bits. -/
def integerOf (s : Surroundings E) (source : String) : Inside E K Int := do
  let v ← evaluate s source
  match ← Inside.perform s (E.toInt32 v) with
  | .ok n => pure n
  | .error _ => throw (.engine unexpectedException)

/-- Runs a source in a context of its own, for a whole number of 32 bits. -/
def integer (source : String) (config : EngineConfig) : Attempt E K Int := do
  Attempt.insistText .scriptSource source
  let context ← make config
  let (result, _) ← Attempt.inside context (integerOf {} source)
  Attempt.finish result

end BrainHost.Scratch
