import BrainHost.Log

/-! # Fields of actors

Passes reads and writes of actor fields on to the host. A bad argument or a hook that is not set is
logged and nothing is done. -/

namespace BrainHost

/-- What a function is called, as messages name it. -/
def Direction.name : Direction → String
  | get => "getter"
  | set => "setter"

def Direction.hook : Direction → FieldKind → Hook
  | get, kind => .getter kind
  | set, kind => .setter kind

/-- The number of an actor or field: the whole part of a number that fits 16 bits. -/
def Argument.id? : Argument → Option Nat
  | number x => if x ≥ 0 && x ≤ 65535 then some x.toUInt16.toNat else none
  | _ => none

/-- A number, rounded to single precision. -/
def Argument.single? : Argument → Option Float32
  | number x => some x.toFloat32
  | _ => none

def Argument.truthy : Argument → Bool
  | number x => !(x == 0 || x.isNaN)
  | text s => s != some ""
  | nothing => false
  | object => true
  | other b => b

/-- The place of an argument, as messages name it. -/
def ordinal (i : Nat) : String := ["1st", "2nd", "3rd", "4th", "5th", "6th"].getD i ""

def missingObject : FieldKind → String
  | .quaternion => "getActorQuaternion: Third argument must be an object"
  | _ => "getActorVector3: Third argument must be an object"

namespace Act

variable {E : Engine} {K : HostKind} {α : Type}

def complain (message : String) : Act E K (Option α) := do
  logError message
  pure none

/-- The number of an actor or field. -/
def idArgument (what : String) (argument : Argument) : Act E K (Option Nat) := do
  match argument.id? with
  | some n => pure (some n)
  | none => complain s!"Invalid {what} id argument given for actor accessor. Need a number."

def idArguments : List Argument → Act E K (Option (Nat × Nat))
  | actor :: field :: _ => do
    match ← idArgument "actor" actor with
    | none => pure none
    | some actor => do
      match ← idArgument "field" field with
      | none => pure none
      | some field => pure (some (actor, field))
  | _ => complain "Not enough args for actor accessor. Need at least 2."

def numberArgument (args : List Argument) (i : Nat) : Act E K (Option Float32) := do
  match (args[i]?).bind Argument.single? with
  | some x => pure (some x)
  | none => complain s!"{ordinal i} argument needs to be a number!"

/-- The value that a setter is called with. -/
inductive Written
  | value (v : FieldValue)
  | refused
  /-- A string that is no valid text. -/
  | unreadable

/-- Reads the value that is to be written; every number is looked at. -/
def writtenValue (kind : FieldKind) (args : List Argument) : Act E K Written := do
  match kind with
  | .boolean => pure (.value (.boolean (((args[2]?).map Argument.truthy).getD false)))
  | .float => do
    match ← numberArgument args 2 with
    | some x => pure (.value (.float x))
    | none => pure .refused
  | .vector3 => do
    let x ← numberArgument args 2
    let y ← numberArgument args 3
    let z ← numberArgument args 4
    match x, y, z with
    | some x, some y, some z => pure (.value (.vector3 x y z))
    | _, _, _ => pure .refused
  | .quaternion => do
    let x ← numberArgument args 2
    let y ← numberArgument args 3
    let z ← numberArgument args 4
    let w ← numberArgument args 5
    match x, y, z, w with
    | some x, some y, some z, some w => pure (.value (.quaternion x y z w))
    | _, _, _, _ => pure .refused
  | .string =>
    let third : Option Argument := args[2]?
    match third with
    | none => pure (.value (.string ""))
    | some .nothing => pure (.value (.string ""))
    | some (.text (some s)) => pure (.value (.string s))
    | some (.text none) => pure .unreadable
    | some _ => do
      logError "3rd argument needs to be a string or undefined!"
      pure .refused

def isReadable (kind : FieldKind) (args : List Argument) : Act E K Bool := do
  if kind = .vector3 || kind = .quaternion then
    let third : Option Argument := args[2]?
    match third with
    | some .object => pure true
    | _ => do
      logError (missingObject kind)
      pure false
  else pure true

/-- Reads a field. A string that is too long counts as empty. -/
def readField (kind : FieldKind) (actor field : Nat) : Act E K (Option FieldValue) := do
  match ← invoke (.getField kind actor field) with
  | .value (.string s) => do
    match ← checkLength .actorString s.utf8ByteSize with
    | .ok () => pure (some (.string s))
    | .error _ => pure (some (.string ""))
  | .value v => pure (some v)
  | _ => pure none

/-- Reads or writes a field for a script. -/
def accessField (direction : Direction) (kind : FieldKind) (args : List Argument) :
    Act E K (Answer E.Value) := do
  if !(← isSet (direction.hook kind)) then
    logError s!"No actor {kind.name} {direction.name} set"
    pure .none
  else
    match ← idArguments args with
    | none => pure .none
    | some (actor, field) =>
      match direction with
      | .get => do
        if ← isReadable kind args then
          match ← readField kind actor field with
          | some v => pure (.field v)
          | none => pure .none
        else pure .none
      | .set => do
        match ← writtenValue kind args with
        | .value v => do
          let _ ← invoke (.setField actor field v)
          pure .none
        | .refused => pure .none
        | .unreadable => pure .unreadable

end Act

end BrainHost
