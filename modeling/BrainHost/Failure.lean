import BrainHost.Diagnostic
import BrainHost.Limit

/-! # Failures

Every operation fails with one of these causes, and each cause has one text. -/

namespace BrainHost

/-- Why a script did not compile or did not run. -/
inductive ScriptFailure
  | compilation (activity : String) (diagnostic : Diagnostic)
  | exception (activity : String) (diagnostic : Diagnostic)
  | missingEntryPoint (name source : String)
  | pendingJobLimit (limit : Nat)
  | invalidBrain (operation : String)
  deriving DecidableEq, Repr

/-- Why a state did not pass between the host and a script. -/
inductive MarshalFailure
  | invalidState (preview : String)
  | unserializable (reason : String)
  | resultTooLarge (actual max : Nat)
  | bufferTooLarge (actual max : Nat)
  deriving DecidableEq, Repr

/-- How the protocol of service calls was violated. -/
inductive ServiceFailure
  | noHandler
  | invalidRequest (cause : Rejection)
  | nested (service : String)
  | unserializableArgs (service reason : String)
  | notReported (service : String)
  | noCurrentUser (result : String)
  | resultRejected (cause : Rejection)
  | invalidResult (result : String)
  deriving DecidableEq, Repr

/-- Why a configuration could not be read, written or used. -/
inductive ConfigFailure
  | file (reason : String)
  | parse (reason : String)
  | invalid (reason : String)
  deriving DecidableEq, Repr

/-- Why an operation of the runtime failed. -/
inductive Failure
  | rejected (cause : Rejection)
  | script (cause : ScriptFailure)
  | marshal (cause : MarshalFailure)
  | service (cause : ServiceFailure)
  | unknownBrain (id : String)
  | resetFailed (listing : String) (cause : Failure)
  | alreadyInitialized
  | notInitialized
  | config (cause : ConfigFailure)
  | engine (reason : String)
  deriving DecidableEq, Repr

namespace ScriptFailure

def message : ScriptFailure → String
  | compilation activity d => activity ++ d.render
  | exception activity d => activity ++ d.render
  | missingEntryPoint name source => s!"Could not find {name} function in brain JS! Brain JS:\n{source}"
  | pendingJobLimit limit => s!"Pending job limit of {limit} reached while draining continuations"
  | invalidBrain operation => s!"{operation} called on invalid brain"

end ScriptFailure

namespace MarshalFailure

def message : MarshalFailure → String
  | invalidState preview => "Failed to JSON-parse state:\n" ++ preview
  | unserializable reason =>
    s!"Could not serialize state returned by script: {reason}. Not reporting to caller."
  | resultTooLarge actual max =>
    s!"JSON result too large ({actual} bytes, max {max}). Not reporting to caller."
  | bufferTooLarge actual max => s!"Buffer was too big ({actual} bytes, max {max}). Doing nothing."

end MarshalFailure

namespace ServiceFailure

def message : ServiceFailure → String
  | noHandler => "Scripts wanted to use callService, but no call-service function was set by the host."
  | invalidRequest cause => "Service call rejected: " ++ cause.message
  | nested service =>
    s!"Called host service '{service}' while another service call was in flight. Nested service calls are not supported."
  | unserializableArgs service reason =>
    s!"Could not serialize arguments when trying to call service '{service}': {reason}. Returning nothing."
  | notReported service => s!"WARNING: Called host service '{service}', but it never reported back results."
  | noCurrentUser result =>
    "ReportServiceResult was called, but no current service user was set? Result json: " ++ result
  | resultRejected cause => "Service result was rejected: " ++ cause.message
  | invalidResult result => "Could not parse service result json: " ++ result

end ServiceFailure

namespace ConfigFailure

def message : ConfigFailure → String
  | file reason => "Config file error: " ++ reason
  | parse reason => "Config parse error: " ++ reason
  | invalid reason => "Config validation error: " ++ reason

end ConfigFailure

namespace Failure

def message : Failure → String
  | rejected cause => cause.message
  | script cause => cause.message
  | marshal cause => cause.message
  | service cause => cause.message
  | unknownBrain id => "Unknown brain UID: " ++ id
  | resetFailed listing _ => "Failed to reset brain with javascript:\n" ++ listing
  | alreadyInitialized => "Runtime was already initialized"
  | notInitialized => "Runtime is not initialized"
  | config cause => cause.message
  | engine reason => "Engine error: " ++ reason

def root : Failure → Failure
  | resetFailed _ cause => cause.root
  | failure => failure

end Failure

end BrainHost
