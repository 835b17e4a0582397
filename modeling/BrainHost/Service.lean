import BrainHost.Document.Json
import BrainHost.Log

/-! # Service calls

A script calls a service of the host and waits. The host gets a reporter for this one call and
reports the result before it returns. Only one call is in flight at a time. -/

namespace BrainHost

namespace Act

variable {E : Engine} {K : HostKind}

def newBridge : Act E K Nat := do
  let bridge := (← get).results.size
  modify fun w => { w with results := w.results.push none }
  pure bridge

def lastResult (bridge : Nat) : Act E K (Option String) := do
  pure (((← get).results[bridge]?).getD none)

/-- Sets the last result of a bridge. -/
def setResult (bridge : Nat) (result : Option String) : Act E K Unit :=
  modify fun w => { w with results := w.results.modify bridge fun _ => result }

def modifyReporter (reporter : Nat) (f : Reporter → Reporter) : Act E K Unit :=
  modify fun w => { w with reporters := w.reporters.modify reporter f }

def newReporter (bridge : Nat) : Act E K Nat := do
  let reporter := (← get).reporters.size
  modify fun w => { w with reporters := w.reporters.push { bridge } }
  pure reporter

/-- Whether a reporter's call is still running. -/
def isOpen (reporter : Nat) : Act E K Bool := do
  pure ((((← get).reporters[reporter]?).map Reporter.isOpen).getD false)

def logService {α : Type} (failure : ServiceFailure) : Act E K (Except ServiceFailure α) := do
  logError failure.message
  pure (.error failure)

def report (reporter : Nat) (result : String) : Act E K (Except ServiceFailure Unit) := do
  match ← checkText .json result with
  | .error cause => logService (.resultRejected cause)
  | .ok () => do
    modifyReporter reporter fun r => { r with awaiting := false }
    match (← get).reporters[reporter]? with
    | some { isOpen := true, bridge, .. } => do
      if Document.isJson result then
        setResult bridge (some result)
        pure (.ok ())
      else
        setResult bridge none
        logService (.invalidResult result)
    | _ => logService (.noCurrentUser result)

/-- Calls a service; gives the result that the bridge then has. Where the host does not report,
that is what an earlier call left. -/
def callService (bridge : Nat) (service args : String) : Act E K (Except ServiceFailure (Option String)) := do
  match ← checkText .serviceName service with
  | .error cause => pure (.error (.invalidRequest cause))
  | .ok () =>
    match ← checkText .json args with
    | .error cause => pure (.error (.invalidRequest cause))
    | .ok () => do
      if !(← isSet .callService) then pure (.error .noHandler)
      else if (← get).inFlight then pure (.error (.nested service))
      else
        let reporter ← newReporter bridge
        modify fun w => { w with inFlight := true }
        let call : Act E K Reply := invoke (.callService service args reporter)
        let _ ← call.ensuring fun w =>
          { w with inFlight := false, reporters := w.reporters.modify reporter fun r => { r with isOpen := false } }
        let awaiting := (((← get).reporters[reporter]?).map Reporter.awaiting).getD false
        if awaiting then logError (ServiceFailure.notReported service).message
        pure (.ok (← lastResult bridge))

/-- Calls a service for a script. Every failure is logged and gives nothing. -/
def serveScript (bridge : Nat) (service args : String) : Act E K (Option String) := do
  match ← callService bridge service args with
  | .ok (some result) => pure (some result)
  | .ok none => do
    logError s!"Failed to capture result of service '{service}'. See prior errors for details. Input args json: {args}"
    pure none
  | .error (.invalidRequest _) => pure none
  | .error failure => do
    logError failure.message
    pure none

end Act

end BrainHost
