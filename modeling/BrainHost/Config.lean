import BrainHost.Failure

/-! # Configuration

Limits of the script engine and the logging of the runtime. -/

namespace BrainHost

/-- How much is logged. -/
inductive LogLevel
  | trace | debug | info | warn | error
  deriving DecidableEq, Repr

namespace LogLevel

/-- All levels, from the most to the least talkative. -/
def all : List LogLevel := [trace, debug, info, warn, error]

def filterName : LogLevel → String
  | trace => "trace"
  | debug => "debug"
  | info => "info"
  | warn => "warn"
  | error => "error"

def fileName : LogLevel → String
  | trace => "Trace"
  | debug => "Debug"
  | info => "Info"
  | warn => "Warn"
  | error => "Error"

def ofFileName? (name : String) : Option LogLevel := all.find? (·.fileName = name)

/-- Reads a level name in any ASCII case; "warning" means `warn`. -/
def ofText? (text : String) : Option LogLevel :=
  let lower := text.map Char.toLower
  if lower = "warning" then some warn else all.find? (·.filterName = lower)

end LogLevel

/-- Limits of each script engine; `none` is no limit. -/
structure EngineConfig where
  memoryLimit : Option Nat := none
  maxStackSize : Option Nat := none
  maxPendingJobs : Option Nat := none
  deriving DecidableEq, Repr

/-- What is logged and whether it goes to the console. -/
structure LoggingConfig where
  level : LogLevel := .info
  logToConsole : Bool := true
  deriving DecidableEq, Repr

structure Config where
  engine : EngineConfig := {}
  logging : LoggingConfig := {}
  deriving DecidableEq, Repr

/-- A limit of zero is of no use. -/
def EngineConfig.validate (c : EngineConfig) : Except ConfigFailure Unit :=
  if c.memoryLimit = some 0 then .error (.invalid "engine.memory_limit must be greater than zero")
  else if c.maxStackSize = some 0 then .error (.invalid "engine.max_stack_size must be greater than zero")
  else if c.maxPendingJobs = some 0 then
    .error (.invalid "engine.max_pending_jobs must be greater than zero")
  else .ok ()

/-- A configuration is usable if its engine limits are. -/
def Config.validate (c : Config) : Except ConfigFailure Unit := c.engine.validate

end BrainHost
