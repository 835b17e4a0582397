/-! # Text of any bytes

Reads bytes as UTF-8. Bytes that are no UTF-8 become replacement characters: one for each longest
start of a character, and one for each other byte. -/

namespace BrainHost.Text

def isContinuation (b : UInt8) : Bool := 0x80 ≤ b && b < 0xC0

/-- The lengths of characters by their first byte, and the bounds of the second byte. -/
def leadOf (b : UInt8) : Option (Nat × UInt8 × UInt8) :=
  if 0xC2 ≤ b && b < 0xE0 then some (2, 0x80, 0xBF)
  else if b = 0xE0 then some (3, 0xA0, 0xBF)
  else if b = 0xED then some (3, 0x80, 0x9F)
  else if 0xE1 ≤ b && b < 0xF0 then some (3, 0x80, 0xBF)
  else if b = 0xF0 then some (4, 0x90, 0xBF)
  else if 0xF1 ≤ b && b < 0xF4 then some (4, 0x80, 0xBF)
  else if b = 0xF4 then some (4, 0x80, 0x8F)
  else none

/-- The bytes after the first that belong to its character, up to the first that does not. -/
def tailOf (length : Nat) (low high : UInt8) (rest : List UInt8) : List UInt8 :=
  match rest with
  | b :: more =>
    if low ≤ b && b ≤ high then b :: ((more.take (length - 2)).takeWhile isContinuation) else []
  | [] => []

/-- The number that a character's bytes write; the first byte holds fewer bits the more follow. -/
def pointOf (first : UInt8) (tail : List UInt8) : Nat :=
  let lead := first.toNat % Nat.pow 2 (6 - tail.length)
  tail.foldl (fun n b => n * 64 + b.toNat % 64) lead

/-- Reads bytes, at most so many characters of them. -/
def readLossy : Nat → List UInt8 → String → String
  | 0, _, out => out
  | _, [], out => out
  | n + 1, b :: rest, out =>
    if b < 0x80 then readLossy n rest (out.push (Char.ofNat b.toNat))
    else
      match leadOf b with
      | none => readLossy n rest (out.push '\uFFFD')
      | some (length, low, high) =>
        let tail := tailOf length low high rest
        let c := if tail.length + 1 = length then Char.ofNat (pointOf b tail) else '\uFFFD'
        readLossy n (rest.drop tail.length) (out.push c)

def lossy (bytes : List UInt8) : String := readLossy bytes.length bytes ""

end BrainHost.Text
