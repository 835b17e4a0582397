/-! # Upper and lower case

The case of letters of the Latin, Greek, Cyrillic and Armenian alphabets, by code point. -/

namespace BrainHost.Text

/-- Letters whose upper case is found at a fixed distance. -/
structure CaseRange where
  first : Nat
  last : Nat
  /-- How far below its lower case the upper case of a letter is. -/
  distance : Int
  /-- Whether upper and lower case alternate, so that only every other point is of lower case. -/
  alternates : Bool := false

def lowerRanges : List CaseRange :=
  [⟨0x61, 0x7A, 32, false⟩, ⟨0xE0, 0xF6, 32, false⟩, ⟨0xF8, 0xFE, 32, false⟩, ⟨0xFF, 0xFF, -121, false⟩,
    ⟨0x101, 0x12F, 1, true⟩, ⟨0x133, 0x137, 1, true⟩, ⟨0x13A, 0x148, 1, true⟩, ⟨0x14B, 0x177, 1, true⟩,
    ⟨0x17A, 0x17E, 1, true⟩, ⟨0x3AC, 0x3AC, 38, false⟩, ⟨0x3AD, 0x3AF, 37, false⟩, ⟨0x3B1, 0x3C1, 32, false⟩,
    ⟨0x3C3, 0x3CB, 32, false⟩, ⟨0x3CC, 0x3CC, 64, false⟩, ⟨0x3CD, 0x3CE, 63, false⟩, ⟨0x430, 0x44F, 32, false⟩,
    ⟨0x450, 0x45F, 80, false⟩, ⟨0x461, 0x481, 1, true⟩, ⟨0x48B, 0x4BF, 1, true⟩, ⟨0x4D1, 0x52F, 1, true⟩,
    ⟨0x561, 0x586, 48, false⟩, ⟨0x1E01, 0x1E95, 1, true⟩, ⟨0x1EA1, 0x1EFF, 1, true⟩]

def CaseRange.holds (r : CaseRange) (n : Nat) : Bool :=
  r.first ≤ n && n ≤ r.last && (!r.alternates || (n - r.first) % 2 = 0)

def upperPoints (n : Nat) : List Nat :=
  if n = 0xDF then [0x53, 0x53]
  else if n = 0xB5 then [0x39C]
  else if n = 0x17F then [0x53]
  else if n = 0x131 then [0x49]
  else if n = 0x3C2 then [0x3A3]
  else
    match lowerRanges.find? (·.holds n) with
    | some r => [((n : Int) - r.distance).toNat]
    | none => [n]

def lowerPoints (n : Nat) : List Nat :=
  if n = 0x130 then [0x69, 0x307]
  else if n = 0x1E9E then [0xDF]
  else
    match lowerRanges.find? fun r => r.holds ((n : Int) + r.distance).toNat with
    | some r => [((n : Int) + r.distance).toNat]
    | none => [n]

end BrainHost.Text
