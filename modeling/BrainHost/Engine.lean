import BrainHost.Config
import BrainHost.Host

/-! # Script engines

An engine runs scripts inside contexts that share nothing. While a script runs it may call the
functions that its context was given; such a call is a request, and the run goes on with the
answer. -/

namespace BrainHost

/-- Whether a field is read or written. -/
inductive Direction
  | get | set
  deriving DecidableEq, Repr

/-- The functions that scripts are given. -/
inductive Capability
  | log | logError | getModule | callService
  | field (direction : Direction) (kind : FieldKind)
  deriving DecidableEq, Repr

/-- An argument of an actor function, as far as it matters there. A text with an unpaired
surrogate is no string. -/
inductive Argument
  | number (x : Float)
  | text (s : Option String)
  | nothing
  | object
  | other (truthy : Bool)

/-- What a running script asks for. -/
inductive Request
  /-- Tells that a module was asked for, which is always refused. -/
  | imported
  | debug (message : String)
  | error (message : String)
  | module (id : String)
  | service (name args : String)
  /-- Tells that a service was called under a name that is no text. -/
  | unnamedService
  /-- Tells why the arguments of a service could not be written. -/
  | unwritableArgs (service reason : String)
  /-- Tells that the result of a service could not be read. -/
  | unreadableResult (result : String)
  | field (direction : Direction) (kind : FieldKind) (args : List Argument)

/-- What a request comes back with; `unreadable` refuses a text that is no string. -/
inductive Answer (V : Type)
  | none
  | module (namespaceObject : V)
  | service (result : String)
  | field (value : FieldValue)
  | unreadable

/-- A run: it ends, asks and goes on, or is out of steps. Where it asks, it shows its context, which is
left like that if no answer comes. -/
inductive Run (C V : Type) (α : Type)
  | done (a : α)
  | ask (request : Request) (meanwhile : C) (resume : Answer V → Run C V α)
  | stuck

namespace Run

variable {C V α β : Type}

/-- Goes on with the result of a run. -/
def bind : Run C V α → (α → Run C V β) → Run C V β
  | done a, f => f a
  | ask request meanwhile resume, f => ask request meanwhile fun answer => (resume answer).bind f
  | stuck, _ => stuck

instance : Monad (Run C V) where
  pure := done
  bind := bind

end Run

/-- Puts bytes in their places, one after the other. -/
def overwrite (bytes : ByteArray) (writes : List (Nat × UInt8)) : ByteArray :=
  writes.foldl (fun bytes write => bytes.set! write.1 write.2) bytes

theorem overwrite_append (bytes : ByteArray) (first second : List (Nat × UInt8)) :
    overwrite bytes (first ++ second) = overwrite (overwrite bytes first) second := List.foldl_append

/-- What makes a script engine. A context is a state that every run replaces. -/
structure Engine where
  /-- A context with everything its scripts made. -/
  Context : Type
  /-- A script value. -/
  Value : Type
  /-- A compiled module. -/
  Module : Type
  /-- Makes a context in which the named functions are global. -/
  create : EngineConfig → List (String × Capability) → Except String Context
  /-- Runs a source as a classic script, in strict mode if asked for; its value is that of the last
  expression. -/
  evaluate : (strict : Bool) → String → Context → Run Context Value (Context × Except Value Value)
  /-- Reads a global property. -/
  global : String → Context → Run Context Value (Context × Except Value Value)
  /-- Whether a value can be called. -/
  isFunction : Context → Value → Bool
  /-- Calls a function. -/
  call : Value → List Value → Context → Run Context Value (Context × Except Value Unit)
  /-- Reads a value from JSON text. -/
  parseJson : String → Context → Context × Except Value Value
  /-- Writes a value as JSON text, if it has one. -/
  stringify : Value → Context → Run Context Value (Context × Except Value (Option String))
  /-- Makes a buffer that shows the bytes. -/
  attach : ByteArray → Context → Context × Value
  /-- Cuts a buffer off and gives its bytes. -/
  detach : Value → Context → Context × ByteArray
  /-- Whether a job waits. -/
  jobPending : Context → Bool
  /-- Runs the first job that waits. A job may throw as any function does. -/
  runJob : Context → Run Context Value (Context × Except Value Unit)
  /-- Compiles a module. -/
  compile : String → String → Context → Run Context Value (Context × Except Value Module)
  /-- Starts a module; its value tells when it is finished. -/
  start : Module → Context → Run Context Value (Context × Except Value Value)
  /-- The outcome of a value that tells when something is finished, once it is. -/
  outcome? : Context → Value → Option (Except Value Value)
  /-- The namespace object of a module. -/
  namespaceOf : Module → Context → Run Context Value (Context × Except Value Value)
  /-- Whether a value is an error object. -/
  isError : Context → Value → Bool
  /-- Reads a property. -/
  property : Value → String → Context → Run Context Value (Context × Except Value Value)
  /-- The text of a string value. -/
  text? : Value → Option String
  /-- The number of a numeric value, if it is whole. -/
  integer? : Value → Option Int
  /-- Whether a value is absent. -/
  isAbsent : Value → Bool
  /-- Tells in one line what was thrown. -/
  headline : Value → Context → Run Context Value (Context × String)
  /-- Converts a value to a string; `none` if that throws or gives no valid text. -/
  toText : Value → Context → Run Context Value (Context × Option String)
  /-- Converts a value to a 32-bit integer. -/
  toInt32 : Value → Context → Run Context Value (Context × Except Value Int)

end BrainHost
