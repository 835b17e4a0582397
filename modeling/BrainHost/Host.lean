/-! # The host's side

What a host can plug into the runtime, and what the runtime then tells and asks it. -/

namespace BrainHost

inductive FieldKind
  | boolean | float | vector3 | quaternion | string
  deriving DecidableEq, Repr

namespace FieldKind

def all : List FieldKind := [boolean, float, vector3, quaternion, string]

/-- The kind, as messages name it. -/
def name : FieldKind → String
  | boolean => "boolean"
  | float => "float"
  | vector3 => "vector3"
  | quaternion => "quaternion"
  | string => "string"

end FieldKind

inductive FieldValue
  | boolean (b : Bool)
  | float (x : Float32)
  | vector3 (x y z : Float32)
  | quaternion (x y z w : Float32)
  | string (s : String)

/-- The functions that a host may plug in. -/
inductive Hook
  | debugLog | errorLog | callService
  | getter (kind : FieldKind)
  | setter (kind : FieldKind)
  deriving DecidableEq, Repr

def Hook.all : List Hook :=
  [debugLog, errorLog, callService] ++ FieldKind.all.map getter ++ FieldKind.all.map setter

structure Hooks where
  active : List Hook := []
  deriving DecidableEq, Repr

namespace Hooks

def isSet (hooks : Hooks) (hook : Hook) : Bool := hooks.active.contains hook

/-- Sets or removes a hook. -/
def assign (hooks : Hooks) (hook : Hook) (on : Bool) : Hooks :=
  let others := hooks.active.filter (· ≠ hook)
  ⟨if on then hook :: others else others⟩

end Hooks

/-- How grave a log row is; rows of less weight are not kept. -/
inductive Severity
  | info | warn | error
  deriving DecidableEq, Repr

/-- A row of the runtime's own log. -/
structure Row where
  severity : Severity
  target : String
  message : String
  deriving DecidableEq, Repr

/-- A call of a host function. Actors, fields and reporters are known by number. -/
inductive Callback
  | debug (message : String)
  | error (message : String)
  | callService (service args : String) (reporter : Nat)
  | getField (kind : FieldKind) (actor field : Nat)
  /-- Asks for a string as bytes that the host writes into a buffer. -/
  | fillString (actor field : Nat) (buffer : ByteArray)
  | setField (actor field : Nat) (value : FieldValue)
  | result (json : String)

/-- What a host function gives back. -/
inductive Reply
  | none
  | value (v : FieldValue)
  /-- The buffer that was handed over, as the host left it. -/
  | filled (buffer : ByteArray)

end BrainHost
