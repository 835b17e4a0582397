import BrainHost.Script.Builtin.Json
import BrainHost.Script.Builtin.Object

/-! # Functions of the host

What the functions of the host do with their arguments before they ask, and with the answer. -/

namespace BrainHost.Script

open Act

def textOf (v : Value) : Act (Option String) := do
  match ← (toStr v).capture with
  | .ok s => pure s.toString?
  | .thrown _ => pure none
  | .left _ => pure none

def headline (v : Value) : Act String := do
  let isError ← match v with
    | .object ref => do
      match (← getObject ref).kind with
      | .error => pure true
      | _ => pure false
    | _ => pure false
  if !isError then pure ((← textOf v).getD "<unprintable exception>")
  else
    let name ← match ← (getValue v (.text "name")).capture with
      | .ok (.string s) => pure s.toString?
      | _ => pure none
    let message ← match ← (getValue v (.text "message")).capture with
      | .ok m => if m.isNullish then pure none else textOf m
      | _ => pure none
    match name.getD "" with
    | "" => pure (message.getD "")
    | name => pure (name ++ ": " ++ message.getD "")

def Argument.of : Value → Argument
  | .undefined => .nothing
  | .null => .nothing
  | .bool b => .other b
  | .number x => .number x
  | .string s => .text s.toString?
  | .symbol _ => .other true
  | .bigint n => .other (n != 0)
  | .object _ => .object

/-- Throws because a string is no valid text: a surrogate in it has no partner. -/
def refuseText {α : Type} (s : Str) : Act α :=
  let valid := (s.points.toList.takeWhile fun n => !Str.isSurrogate n).toArray
  let length := valid.foldl (fun n point => n + (utf8Size point)) 0
  typeError s!"Conversion from string failed: invalid utf-8 sequence of 1 bytes from index {length}"
where
  /-- The bytes that a character takes. -/
  utf8Size (n : Nat) : Nat := if n < 0x80 then 1 else if n < 0x800 then 2 else if n < 0x10000 then 3 else 4

/-- Writes parts of a value into the object that the script handed over. -/
def fillParts (target : Value) (parts : List (String × Float32)) : Act Value := do
  parts.forM fun (name, x) => setValue target (.text name) (.number x.toFloat) true
  pure .undefined

/-- Reads or writes a field of an actor. -/
def callField (direction : Direction) (kind : FieldKind) (args : Array Value) : Act Value := do
  let target := argOf args 2
  match ← host (.field direction kind (args.toList.map Argument.of)) with
  | .field (.boolean b) => pure (.bool b)
  | .field (.float x) => pure (.number x.toFloat)
  | .field (.vector3 x y z) => fillParts target [("x", x), ("y", y), ("z", z)]
  | .field (.quaternion x y z w) => fillParts target [("x", x), ("y", y), ("z", z), ("w", w)]
  | .field (.string s) => pure (.string (.ofString s))
  | .unreadable =>
    match target with
    | .string s => refuseText s
    | _ => pure .undefined
  | _ => pure .undefined

def callService (name args : Value) : Act Value := do
  match ← textOf name with
  | none => do
    let _ ← host .unnamedService
    pure .undefined
  | some service =>
    match ← (writeJson args .undefined .undefined).capture with
    | .thrown e | .left e => do
      let reason ← headline e
      let _ ← host (.unwritableArgs service reason)
      pure .undefined
    | .ok json =>
      match ← host (.service service ((json.map Str.toText).getD "null")) with
      | .service result => do
        match ← (readJson (.ofString result)).capture with
        | .ok v => pure v
        | _ => do
          let _ ← host (.unreadableResult result)
          pure .undefined
      | _ => pure .undefined

def callCapability (c : Capability) (args : Array Value) : Act Value := do
  let tell (request : String → Request) : Act Value := do
    if args.isEmpty then pure .undefined
    else
      match ← textOf (argOf args 0) with
      | some text => do
        let _ ← host (request text)
        pure .undefined
      | none => pure .undefined
  match c with
  | .log => tell .debug
  | .logError => tell .error
  | .getModule => do
    if args.isEmpty then pure .undefined
    else
      match ← textOf (argOf args 0) with
      | some id => do
        match ← host (.module id) with
        | .module v => pure v
        | _ => pure .undefined
      | none => pure .undefined
  | .callService => callService (argOf args 0) (argOf args 1)
  | .field direction kind => callField direction kind args

end BrainHost.Script
