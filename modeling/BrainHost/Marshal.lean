import BrainHost.Running

/-! # Passing state

The state of an update comes in as JSON text and goes out as JSON text. -/

namespace BrainHost

/-- The longest text that a message quotes in full, in bytes. -/
def previewBytes : Nat := 4096

/-- Whether a text can be cut behind its first `offset` bytes. -/
def isBoundary (text : String) (offset : Nat) : Bool := String.Pos.Raw.isValid text ⟨offset⟩

/-- Steps back from an offset to a boundary. Nothing lies before the first byte. -/
def backToBoundary? (text : String) : Nat → Option Nat
  | 0 => if isBoundary text 0 then some 0 else none
  | offset + 1 => if isBoundary text (offset + 1) then some (offset + 1) else backToBoundary? text offset

/-- The first `n` bytes of a text, unless the cut goes through a character. -/
def firstBytes? (text : String) (n : Nat) : Option String :=
  if h : isBoundary text n then some (text.extract text.startPos ⟨⟨n⟩, String.Pos.Raw.isValid_eq_true_iff.mp h⟩)
  else none

/-- What a message quotes of a text: all of it, or its start and its length. -/
def preview? (text : String) : Option String :=
  if text.utf8ByteSize ≤ previewBytes then some text
  else do
    let offset ← backToBoundary? text previewBytes
    let start ← firstBytes? text offset
    some (start ++ s!"... ({text.utf8ByteSize} bytes total)")

namespace Inside

variable {E : Engine} {K : HostKind}

def decodeState (text : String) : Inside E K E.Value := do
  match ← change (E.parseJson text) with
  | .ok v => pure v
  | .error _ =>
    match preview? text with
    | some shown => throw (.marshal (.invalidState shown))
    | none => fault

def encodeState (s : Surroundings E) (v : E.Value) : Inside E K String := do
  match ← perform s (E.stringify v) with
  | .ok (some text) =>
    let max := Limit.json.maxBytes
    if max < text.utf8ByteSize then throw (.marshal (.resultTooLarge text.utf8ByteSize max))
    else pure text
  | .ok none => throw (.marshal (.unserializable "value has no JSON representation"))
  | .error thrown => do
    let reason ← perform s (E.headline thrown)
    throw (.marshal (.unserializable reason))

end Inside

end BrainHost
