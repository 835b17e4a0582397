import BrainHost.Config
import BrainHost.Document.Json
import BrainHost.Document.Toml

/-! # Reading a configuration

A record is given as a table of its fields or as an array of them in order. Unknown fields are
ignored, a field given twice is refused, and a section that is missing has its default. -/

namespace BrainHost

inductive ConfigFormat
  | toml | json
  deriving DecidableEq, Repr

namespace Config

/-- What the fields of a record are read from. -/
inductive Fields
  | named (members : List (String × Document))
  | ordered (items : List Document)

/-- The fields that a document gives for a record of `count` fields. -/
def fields? (format : ConfigFormat) (count : Nat) : Document → Option Fields
  | .table members => (members.mapM fun (m : Option String × Document) => m.1.map (·, m.2)).map Fields.named
  | .array items =>
    if format = .json && items.length > count then none else some (.ordered items)
  | _ => none

/-- The document of one field; a field given twice is refused. -/
def field? (fields : Fields) (index : Nat) (name : String) : Option (Option Document) :=
  match fields with
  | .named members =>
    match members.filter (·.1 = name) with
    | [] => some none
    | [(_, d)] => some (some d)
    | _ => none
  | .ordered items => some items[index]?

/-- A field, or the default where it is missing. -/
def fieldOr {α : Type} (fields : Fields) (index : Nat) (name : String) (missing : Option α)
    (read : Document → Option α) : Option α :=
  match field? fields index name with
  | none => none
  | some none => missing
  | some (some d) => read d

/-- A limit, or none. -/
def limit? : Document → Option (Option Nat)
  | .null => some none
  | .number (some n) => if 0 ≤ n && n < Int.pow 2 64 then some (some n.toNat) else none
  | _ => none

def flag? : Document → Option Bool
  | .bool b => some b
  | _ => none

/-- Whether a document stands for a choice without content. -/
def isNothing (format : ConfigFormat) : Document → Bool
  | .null => format = .json
  | .table [] => format = .toml
  | .array [] => format = .toml
  | _ => false

/-- A level, by its name or as a table with that name alone. -/
def level? (format : ConfigFormat) : Document → Option LogLevel
  | .text (some name) => LogLevel.ofFileName? name
  | .table [(some name, d)] => if isNothing format d then LogLevel.ofFileName? name else none
  | _ => none

def engine? (format : ConfigFormat) (d : Document) : Option EngineConfig := do
  let fields ← fields? format 3 d
  let memoryLimit ← fieldOr fields 0 "memory_limit" (some none) limit?
  let maxStackSize ← fieldOr fields 1 "max_stack_size" (some none) limit?
  let maxPendingJobs ← fieldOr fields 2 "max_pending_jobs" (some none) limit?
  return { memoryLimit, maxStackSize, maxPendingJobs }

/-- The logging section, which needs both its fields. -/
def logging? (format : ConfigFormat) (d : Document) : Option LoggingConfig := do
  let fields ← fields? format 2 d
  let level ← fieldOr fields 0 "level" none (level? format)
  let logToConsole ← fieldOr fields 1 "log_to_console" none flag?
  return { level, logToConsole }

def ofDocument? (format : ConfigFormat) (d : Document) : Option Config := do
  let fields ← fields? format 2 d
  let engine ← fieldOr fields 0 "engine" (some {}) (engine? format)
  let logging ← fieldOr fields 1 "logging" (some {}) (logging? format)
  return { engine, logging }

def ofText (format : ConfigFormat) (text : String) : Except ConfigFailure Config :=
  let document := match format with
    | .toml => Document.ofToml? text
    | .json => Document.ofJson? text
  match document with
  | none => .error (.parse "malformed document")
  | some d =>
    match ofDocument? format d with
    | none => .error (.parse "the document does not describe a configuration")
    | some c => .ok c

end Config

end BrainHost
