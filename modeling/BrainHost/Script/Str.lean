/-! # Script strings

A script string is a sequence of UTF-16 code units, in which a surrogate may stand alone. -/

namespace BrainHost.Script

/-- A script string. -/
structure Str where
  units : Array UInt16
  deriving DecidableEq, Hashable, Inhabited

def isLead (u : UInt16) : Bool := 0xD800 ≤ u && u < 0xDC00

def isTrail (u : UInt16) : Bool := 0xDC00 ≤ u && u < 0xE000

def joinSurrogates (lead trail : UInt16) : Nat :=
  0x10000 + (lead.toNat - 0xD800) * 0x400 + (trail.toNat - 0xDC00)

namespace Str

def empty : Str := ⟨#[]⟩

def size (s : Str) : Nat := s.units.size

/-- Whether the string has no units. -/
def isEmpty (s : Str) : Bool := s.units.isEmpty

def pushPoint (s : Str) (n : Nat) : Str :=
  if n < 0x10000 then ⟨s.units.push n.toUInt16⟩
  else
    let m := n - 0x10000
    ⟨(s.units.push (0xD800 + m / 0x400).toUInt16).push (0xDC00 + m % 0x400).toUInt16⟩

def push (s : Str) (c : Char) : Str := s.pushPoint c.toNat

def pushUnit (s : Str) (u : UInt16) : Str := ⟨s.units.push u⟩

def ofString (s : String) : Str := s.foldl push empty

def ofList (cs : List Char) : Str := cs.foldl push empty

/-- One string after the other. -/
def append (a b : Str) : Str := if a.units.isEmpty then b else ⟨a.units ++ b.units⟩

instance : Append Str := ⟨append⟩

instance : Coe String Str := ⟨ofString⟩

/-- The code points from position `i` on, at most `count` of them, put in front in reverse; a
surrogate that stands alone is a code point too. -/
def pointsFrom (s : Str) : Nat → Nat → Array Nat → Array Nat
  | 0, _, acc => acc
  | count + 1, i, acc =>
    match s.units[i]? with
    | none => acc
    | some u =>
      match s.units[i + 1]? with
      | some v =>
        if isLead u && isTrail v then s.pointsFrom count (i + 2) (acc.push (joinSurrogates u v))
        else s.pointsFrom count (i + 1) (acc.push u.toNat)
      | none => acc.push u.toNat

/-- The code points; a surrogate that stands alone is one too. -/
def points (s : Str) : Array Nat := s.pointsFrom s.size 0 #[]

def isSurrogate (n : Nat) : Bool := 0xD800 ≤ n && n < 0xE000

/-- The host string from position `i` on, unless a surrogate stands alone. -/
def toStringFrom? (s : Str) : Nat → Nat → String → Option String
  | 0, _, acc => some acc
  | count + 1, i, acc =>
    match s.units[i]? with
    | none => some acc
    | some u =>
      if u < 0xD800 || 0xE000 ≤ u then s.toStringFrom? count (i + 1) (acc.push (Char.ofNat u.toNat))
      else if isTrail u then none
      else
        match s.units[i + 1]? with
        | some v =>
          if isTrail v then s.toStringFrom? count (i + 2) (acc.push (Char.ofNat (joinSurrogates u v)))
          else none
        | none => none

/-- The host string, unless a surrogate stands alone. -/
def toString? (s : Str) : Option String := s.toStringFrom? s.size 0 ""

/-- The characters, with a replacement for each surrogate that stands alone. -/
def toChars (s : Str) : List Char :=
  (s.points.foldr (fun n cs => (if isSurrogate n then '\uFFFD' else Char.ofNat n) :: cs) [])

/-- The host string, with a replacement for each surrogate that stands alone. -/
def toText (s : Str) : String := (s.toString?).getD (String.ofList s.toChars)

/-- The units from `start` up to `stop`. -/
def extract (s : Str) (start stop : Nat) : Str := ⟨s.units.extract start stop⟩

def ofUnit (u : UInt16) : Str := ⟨#[u]⟩

/-- Whether the units of `part` stand in the string at position `i`. -/
def hasAt (s part : Str) (i : Nat) : Bool :=
  i + part.size ≤ s.size && (List.range part.size).all fun k => s.units[i + k]? == part.units[k]?

/-- The first position from `i` on, of `count` positions, where `part` stands. -/
def searchUp (s part : Str) : Nat → Nat → Option Nat
  | 0, _ => none
  | count + 1, i => if s.hasAt part i then some i else s.searchUp part count (i + 1)

/-- The first position from `start` on where `part` stands. -/
def indexOf? (s part : Str) (start : Nat) : Option Nat := s.searchUp part (s.size + 1 - start) start

/-- The last position up to `start` where `part` stands. -/
def lastIndexOf? (s part : Str) : Nat → Option Nat
  | 0 => if s.hasAt part 0 then some 0 else none
  | start + 1 => if s.hasAt part (start + 1) then some (start + 1) else s.lastIndexOf? part start

/-- Whether the first string comes before the second, unit by unit from position `i` on. -/
def lessFrom (a b : Str) : Nat → Nat → Bool
  | 0, _ => false
  | count + 1, i =>
    match a.units[i]?, b.units[i]? with
    | none, some _ => true
    | some u, some v => if u == v then lessFrom a b count (i + 1) else u < v
    | _, none => false

/-- Whether the first string comes before the second. -/
def less (a b : Str) : Bool := lessFrom a b (b.size + 1) 0

/-- The string `count` times over. -/
def replicate (s : Str) (count : Nat) : Str :=
  match s.units.toList with
  | [u] => ⟨Array.replicate count u⟩
  | _ => ⟨count.fold (fun _ _ acc => acc ++ s.units) (Array.mkEmpty (count * s.size))⟩

def isSpace (u : UInt16) : Bool :=
  let n := u.toNat
  (0x09 ≤ n && n ≤ 0x0D) || n = 0x20 || n = 0xA0 || n = 0x1680 || (0x2000 ≤ n && n ≤ 0x200A)
    || n = 0x2028 || n = 0x2029 || n = 0x202F || n = 0x205F || n = 0x3000 || n = 0xFEFF

/-- The string without its leading blanks. -/
def trimStart (s : Str) : Str :=
  let n := (s.units.findIdx? fun u => !isSpace u).getD s.size
  s.extract n s.size

/-- The string without its trailing blanks. -/
def trimEnd (s : Str) : Str :=
  ⟨s.units.popWhile isSpace⟩

/-- The string without its leading and trailing blanks. -/
def trim (s : Str) : Str := s.trimEnd.trimStart

/-- The strings one after the other, with `separator` between them. -/
def join (separator : Str) : List Str → Str
  | [] => empty
  | s :: rest => rest.foldl (fun acc t => acc ++ separator ++ t) s

def isText (s : Str) (text : String) : Bool := s == ofString text

end Str

end BrainHost.Script
