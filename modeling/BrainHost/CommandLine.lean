import BrainHost.Config.Load
import BrainHost.Session

/-! # The command line

Updates a brain once: reads its source and a state from files and prints the new state. -/

namespace BrainHost.CommandLine

/-- A line that the program prints. -/
inductive Line
  | output (text : String)
  | error (text : String)
  deriving DecidableEq, Repr

/-- What a run prints, and whether it succeeds. -/
structure Result where
  lines : List Line
  succeeded : Bool
  deriving DecidableEq, Repr

namespace Result

def code (r : Result) : Nat := if r.succeeded then 0 else 1

def output (r : Result) : String :=
  r.lines.foldl (fun out line => match line with
    | .output text => out ++ text ++ "\n"
    | .error _ => out) ""

def errors (r : Result) : String :=
  r.lines.foldl (fun out line => match line with
    | .output _ => out
    | .error text => out ++ text ++ "\n") ""

end Result

def usage : String := "usage: brain_runtime <brain.js> [state.json]"

/-- What the program finds around it. -/
structure Setting where
  args : List String
  files : Files
  home : Option String
  environment : Environment
  directory : String

def Printing : HostKind := ⟨Unit, Line⟩

variable {E : Engine}

def print (line : Line) (w : World E Printing) : Outcome (World E Printing) Reply :=
  .done .none { w with journal := w.journal.push (.noted line) }

def link : Link E Printing := fun callback w =>
  match callback with
  | .debug message => print (.output ("[brain] " ++ message)) w
  | .error message => print (.error ("[brain] " ++ message)) w
  | .result json => print (.output json) w
  | _ => .done .none w

/-- Starts the runtime, updates a brain and stops the runtime. -/
def updateOnce (directory source state : String) : Attempt E Printing Unit := do
  Session.start directory
  Session.resetBrain "main" source
  let deliver (json : String) : Act E Printing Unit := do
    let _ ← Act.invoke (.result json)
  let (result, _) ← ExceptT.lift (Session.updateAgent "main" "cli" state .empty deliver)
  Attempt.finish result
  Session.stop

def linesOf (w : World E Printing) : List Line :=
  w.journal.toList.filterMap fun entry => match entry with
    | .noted line => some line
    | .logged _ => none

def failureLine (message : String) : Line := .error ("brain_runtime failed: " ++ message)

def failed (message : String) : Result := ⟨[failureLine message], false⟩

def runWith (E : Engine) (s : Setting) (source state : String) : Result :=
  let config := (Config.load s.files s.home s.environment).1
  let w : World E Printing := { config, hooks := ⟨[.debugLog, .errorLog]⟩, host := () }
  match (updateOnce s.directory source state).run link w with
  | .done (.ok ()) w => ⟨linesOf w, true⟩
  | .done (.error failure) w => ⟨linesOf w ++ [failureLine failure.message], false⟩
  | .fault w => ⟨linesOf w, false⟩
  | .stuck => ⟨[], false⟩

def run (E : Engine) (s : Setting) : Result :=
  match s.args with
  | [] => ⟨[.error usage], false⟩
  | brainPath :: rest =>
    match s.files brainPath with
    | .error e => failed e.message
    | .ok source =>
      match rest with
      | [] => runWith E s source "\x7b\x7d"
      | statePath :: _ =>
        match s.files statePath with
        | .error e => failed e.message
        | .ok state => runWith E s source state

end BrainHost.CommandLine
