/-! # Documents

The tree that a configuration file holds, whatever its format. -/

namespace BrainHost

/-- A value of a JSON or TOML text. A text with an unpaired surrogate is no string, and a number
that is not written as a whole number has no integer. -/
inductive Document
  | null
  | bool (b : Bool)
  | number (integer : Option Int)
  | text (string : Option String)
  | date
  | array (items : List Document)
  | table (members : List (Option String × Document))
  deriving Repr, Inhabited

def hexDigit? (c : Char) : Option Nat :=
  if '0' ≤ c && c ≤ '9' then some (c.toNat - '0'.toNat)
  else if 'a' ≤ c && c ≤ 'f' then some (c.toNat - 'a'.toNat + 10)
  else if 'A' ≤ c && c ≤ 'F' then some (c.toNat - 'A'.toNat + 10)
  else none

def hexNumber? (cs : List Char) : Option Nat :=
  cs.foldlM (fun n c => (hexDigit? c).map (n * 16 + ·)) 0

def decimalNumber (cs : List Char) : Nat :=
  cs.foldl (fun n c => n * 10 + (c.toNat - '0'.toNat)) 0

end BrainHost
