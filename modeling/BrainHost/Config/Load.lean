import BrainHost.Config.Read

/-! # Loading and saving a configuration

The first configuration file that can be read gives the configuration, the environment overrides
single fields, and a configuration that is of no use gives way to the default. A configuration that is
saved replaces what its file held. -/

namespace BrainHost

/-- Why a file gave no text. -/
inductive FileError
  | notFound | isDirectory | notUtf8
  | other (reason : String)
  deriving DecidableEq, Repr

def FileError.message : FileError → String
  | notFound => "No such file or directory (os error 2)"
  | isDirectory => "Is a directory (os error 21)"
  | notUtf8 => "stream did not contain valid UTF-8"
  | other reason => reason

/-- The text of a file by its path. -/
abbrev Files := String → Except FileError String

def fileText (bytes : ByteArray) : Except FileError String :=
  match String.fromUTF8? bytes with
  | some text => .ok text
  | none => .error .notUtf8

/-- Files that can be written. A text that was written under a path is read back from it. -/
structure FileStore where
  State : Type
  files : State → Files
  write : String → String → State → Except FileError State
  files_write : ∀ {path text : String} {s s' : State}, write path text s = .ok s' → files s' path = .ok text

/-- The environment: the value of a variable, if it is set and is valid text. -/
abbrev Environment := String → Option String

namespace Config

def ofFile (files : Files) (format : ConfigFormat) (path : String) : Except ConfigFailure Config :=
  match files path with
  | .error e => .error (.file e.message)
  | .ok text => ofText format text

/-- Reads a limit: digits with an optional plus sign, below 2 ^ 64. -/
def readLimit? (text : String) : Option Nat :=
  let digits := match text.toList with
    | '+' :: rest => rest
    | cs => cs
  if digits.isEmpty || !digits.all Char.isDigit then none
  else
    let n := decimalNumber digits
    if n < Nat.pow 2 64 then some n else none

/-- The value of a variable, if it can be read. -/
def override {α : Type} (env : Environment) (name : String) (read : String → Option α) : Option α :=
  (env name).bind read

def applyEnvironment (env : Environment) (c : Config) : Config :=
  { engine :=
      { memoryLimit := (override env "BRAIN_RUNTIME_MEMORY_LIMIT" readLimit?) <|> c.engine.memoryLimit
        maxStackSize := (override env "BRAIN_RUNTIME_MAX_STACK_SIZE" readLimit?) <|> c.engine.maxStackSize
        maxPendingJobs :=
          (override env "BRAIN_RUNTIME_MAX_PENDING_JOBS" readLimit?) <|> c.engine.maxPendingJobs }
    logging :=
      { c.logging with
        level := (override env "BRAIN_RUNTIME_LOG_LEVEL" LogLevel.ofText?).getD c.logging.level } }

/-- The path of a file in a directory. An empty directory is the current one, and a directory that
ends in a slash needs no other. -/
def inDirectory (directory file : String) : String :=
  if directory.isEmpty || directory.toList.getLast? = some '/' then directory ++ file
  else directory ++ "/" ++ file

/-- The configuration in the user's directory. -/
def homePath (home : String) : String := inDirectory home ".config/brain_runtime/config.toml"

/-- Where the configuration is looked for; `home` is the user's directory, if it is known. -/
def candidates (home : Option String) : List (ConfigFormat × String) :=
  [(.toml, "brain_runtime.toml"), (.json, "brain_runtime.json")]
    ++ (home.map fun h => (ConfigFormat.toml, homePath h)).toList

/-- The first configuration that can be read. -/
def find? (files : Files) (home : Option String) : Option Config :=
  (candidates home).findSome? fun (format, path) => (ofFile files format path).toOption

/-- The configuration to use, and why a configuration that was found is not used. -/
def load (files : Files) (home : Option String) (env : Environment) : Config × Option ConfigFailure :=
  let c := applyEnvironment env ((find? files home).getD {})
  match c.validate with
  | .ok () => (c, none)
  | .error e => ({}, some e)

/-- The warning about a configuration that is not used. -/
def fallbackWarning (e : ConfigFailure) : String := e.message ++ ", falling back to defaults"

/-! ## Saving -/

def limitLine (name : String) : Option Nat → String
  | none => ""
  | some n => name ++ " = " ++ toString n ++ "\n"

/-- A configuration as a TOML text. A limit that is absent has no line. -/
def toToml (c : Config) : String :=
  "[engine]\n" ++ limitLine "memory_limit" c.engine.memoryLimit
    ++ limitLine "max_stack_size" c.engine.maxStackSize
    ++ limitLine "max_pending_jobs" c.engine.maxPendingJobs
    ++ "\n[logging]\nlevel = \"" ++ c.logging.level.fileName ++ "\"\nlog_to_console = "
    ++ (if c.logging.logToConsole then "true" else "false") ++ "\n"

/-- Writes a configuration to a file. -/
def save (store : FileStore) (path : String) (c : Config) (s : store.State) : Except ConfigFailure store.State :=
  match store.write path c.toToml s with
  | .error e => .error (.file e.message)
  | .ok s => .ok s

end Config

end BrainHost
