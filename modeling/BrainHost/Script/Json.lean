import BrainHost.Script.Numeric

/-! # JSON of scripts

The tree of a JSON text, reading it in the engine's dialect and writing it.

The dialect admits more than the standard: numbers such as `-01` and `1.`, any character after a
backslash, and escapes in hexadecimal braces. -/

namespace BrainHost.Script

open Number

/-- The tree of a JSON text. -/
inductive Json
  | null
  | bool (b : Bool)
  | number (x : Float)
  | string (s : Str)
  | array (items : List Json)
  | object (members : List (Str × Json))
  deriving Inhabited

/-- Why a text is not JSON. -/
inductive JsonFault
  | endOfInput
  | unexpectedToken (token : Str)
  | unexpectedCharacter
  | trailingData
  | expecting (c : Char)
  | expectingName
  | unfinishedString
  | controlCharacter
  | badEscape
  | tooDeep
  deriving DecidableEq

namespace JsonFault

def message : JsonFault → Str
  | endOfInput => "Unexpected end of JSON input"
  | unexpectedToken token => Str.ofString "unexpected token: '" ++ token ++ Str.ofString "'"
  | unexpectedCharacter => "unexpected character"
  | trailingData => "unexpected data at the end"
  | expecting c => s!"expecting '{c}'"
  | expectingName => "expecting property name"
  | unfinishedString => "unexpected end of string"
  | controlCharacter => "invalid character in a JSON string"
  | badEscape => "malformed escape sequence in string literal"
  | tooDeep => "stack overflow"

end JsonFault

namespace Json

def hexValue? (u : UInt16) : Option Nat :=
  match digitValue? u with
  | some d => if d < 16 then some d else none
  | none => none

def readBraced (n : Nat) : List UInt16 → Option (Nat × List UInt16)
  | [] => none
  | u :: rest =>
    match hexValue? u with
    | none => none
    | some d =>
      let n := n * 16 + d
      if n > 0x10FFFF then none
      else match rest with
        | close :: after => if isUnit close '}' then some (n, after) else readBraced n rest
        | [] => none

/-- Reads the hexadecimal digits of an escape, `count` of them or any number in braces. -/
def readHexEscape (count : Nat) (us : List UInt16) : Option (Nat × List UInt16) :=
  match us with
  | u :: rest =>
    if isUnit u '{' then readBraced 0 rest
    else if us.length < count then none
    else ((us.take count).foldlM (fun n u => (hexValue? u).map (n * 16 + ·)) 0).map (·, us.drop count)
  | [] => none

/-- What an escape adds to a string. -/
inductive Escape
  | point (n : Nat)
  | nothing

def readEscape : List UInt16 → Option (Escape × List UInt16)
  | [] => none
  | u :: rest =>
    match Char.ofNat u.toNat with
    | 'b' => some (.point 8, rest)
    | 'f' => some (.point 12, rest)
    | 'n' => some (.point 10, rest)
    | 'r' => some (.point 13, rest)
    | 't' => some (.point 9, rest)
    | 'v' => some (.point 11, rest)
    | 'x' => (readHexEscape 2 rest).map fun (n, rest) => (.point n, rest)
    | 'u' => (readHexEscape 4 rest).map fun (n, rest) => (.point n, rest)
    | '\n' => some (.nothing, rest)
    | '\r' =>
      match rest with
      | next :: after => some (.nothing, if isUnit next '\n' then after else rest)
      | [] => some (.nothing, [])
    | c =>
      if c.isDigit then none
      else if u = 0x2028 || u = 0x2029 then some (.nothing, rest)
      else some (.point u.toNat, rest)

/-- Reads a string after its opening quote, with the units `acc` read so far; `fuel` bounds the
number of characters. -/
def readString : Nat → Str → List UInt16 → Except JsonFault (Str × List UInt16)
  | 0, _, _ => .error .unfinishedString
  | _ + 1, _, [] => .error .unfinishedString
  | fuel + 1, acc, u :: rest =>
    if u < 0x20 then .error .controlCharacter
    else if isUnit u '"' then .ok (acc, rest)
    else if isUnit u '\\' then
      match rest with
      | [] => .error .unfinishedString
      | _ =>
        match readEscape rest with
        | none => .error .badEscape
        | some (.point n, rest) => readString fuel (acc.pushPoint n) rest
        | some (.nothing, rest) => readString fuel acc rest
    else readString fuel (acc.pushUnit u) rest

def isBlank (u : UInt16) : Bool := u = 0x20 || u = 0x09 || u = 0x0A || u = 0x0D

def isWordUnit (u : UInt16) : Bool :=
  isDigitOf 36 u || isUnit u '_' || isUnit u '$'

/-- Reads a number with an optional minus sign, whose first digit is there. -/
def readNumber? (us : List UInt16) : Option (Float × List UInt16) :=
  match us with
  | u :: rest =>
    if isUnit u '-' then
      match rest with
      | d :: _ => if isDigitOf 10 d then readDecimal? true rest else none
      | [] => none
    else if isUnit u '0' then
      match rest with
      | d :: _ => if isDigitOf 10 d then none else readDecimal? false us
      | [] => readDecimal? false us
    else if isDigitOf 10 u then readDecimal? false us
    else none
  | [] => none

/-- The fault of a token that starts no value. -/
def unexpected : List UInt16 → JsonFault
  | [] => .endOfInput
  | u :: rest =>
    if u ≥ 0x80 then .unexpectedCharacter
    else if isWordUnit u && !isDigitOf 10 u then .unexpectedToken ⟨(u :: rest.takeWhile isWordUnit).toArray⟩
    else .unexpectedToken ⟨#[u]⟩

/-- A container that is still open, with its parts in reverse. -/
inductive Open
  | array (items : List Json)
  | object (members : List (Str × Json)) (key : Str)

/-- What the reader does next. -/
inductive Task
  | value (closable : Bool)
  | key (members : List (Str × Json)) (closable : Bool)
  | place (j : Json)

def maxDepth : Nat := 4000

def ofWord? (word : List UInt16) : Option Json :=
  if word = (Str.ofString "null").units.toList then some .null
  else if word = (Str.ofString "true").units.toList then some (.bool true)
  else if word = (Str.ofString "false").units.toList then some (.bool false)
  else none

/-- Reads on with the open containers `stack`; a fault comes with the text from its token on. -/
def read : Nat → Nat → List Open → Task → List UInt16 → Except (JsonFault × List UInt16) Json
  | 0, _, _, _, us => .error (.endOfInput, us)
  | steps + 1, depth, stack, task, us =>
    let us := us.dropWhile isBlank
    match task with
    | .value closable =>
      match us with
      | [] => .error (.endOfInput, us)
      | u :: rest =>
        if isUnit u ']' && closable then
          match stack with
          | .array items :: stack => read steps (depth - 1) stack (.place (.array items.reverse)) rest
          | _ => .error (unexpected us, us)
        else if isUnit u '[' then
          if depth ≥ maxDepth then .error (.tooDeep, us)
          else read steps (depth + 1) (.array [] :: stack) (.value true) rest
        else if isUnit u '{' then
          if depth ≥ maxDepth then .error (.tooDeep, us)
          else read steps depth stack (.key [] true) rest
        else if isUnit u '"' then
          match readString us.length .empty rest with
          | .error e => .error (e, us)
          | .ok (s, rest) => read steps depth stack (.place (.string s)) rest
        else if isWordUnit u && !isDigitOf 10 u then
          match ofWord? (us.takeWhile isWordUnit) with
          | some j => read steps depth stack (.place j) (us.dropWhile isWordUnit)
          | none => .error (unexpected us, us)
        else
          match readNumber? us with
          | some (x, rest) => read steps depth stack (.place (.number x)) rest
          | none => .error (unexpected us, us)
    | .key members closable =>
      match us with
      | [] => .error (.expectingName, us)
      | u :: rest =>
        if isUnit u '}' && closable then read steps depth stack (.place (.object members.reverse)) rest
        else if isUnit u '"' then
          match readString us.length .empty rest with
          | .error e => .error (e, us)
          | .ok (key, rest) =>
            let rest := rest.dropWhile isBlank
            match rest with
            | [] => .error (.expecting ':', rest)
            | colon :: after =>
              if isUnit colon ':' then
                read steps (depth + 1) (.object members key :: stack) (.value false) after
              else .error (if colon ≥ 0x80 then .unexpectedCharacter else .expecting ':', rest)
        else .error (if u ≥ 0x80 then .unexpectedCharacter else .expectingName, us)
    | .place j =>
      match stack with
      | [] =>
        match us with
        | [] => .ok j
        | u :: _ => .error (if u ≥ 0x80 then .unexpectedCharacter else .trailingData, us)
      | .array items :: stack =>
        match us with
        | [] => .error (.expecting ']', us)
        | u :: rest =>
          if isUnit u ',' then read steps depth (.array (j :: items) :: stack) (.value false) rest
          else if isUnit u ']' then read steps (depth - 1) stack (.place (.array (j :: items).reverse)) rest
          else .error (if u ≥ 0x80 then .unexpectedCharacter else .expecting ']', us)
      | .object members key :: stack =>
        match us with
        | [] => .error (.expecting '}', us)
        | u :: rest =>
          if isUnit u ',' then read steps (depth - 1) stack (.key ((key, j) :: members) false) rest
          else if isUnit u '}' then
            read steps (depth - 1) stack (.place (.object ((key, j) :: members).reverse)) rest
          else .error (if u ≥ 0x80 then .unexpectedCharacter else .expecting '}', us)

/-- The tree of a JSON text, or a fault and the text from the faulty token on. -/
def ofUnits? (us : List UInt16) : Except (JsonFault × List UInt16) Json :=
  read (2 * us.length + 2) 0 [] (.value false) us

def hexUnit (n : Nat) : UInt16 := unitOf (Nat.digitChar n)

def pushEscape (out : Array UInt16) (u : UInt16) : Array UInt16 :=
  let n := u.toNat
  (((((out.push (unitOf '\\')).push (unitOf 'u')).push (hexUnit (n / 0x1000))).push
    (hexUnit (n / 0x100 % 0x10))).push (hexUnit (n / 0x10 % 0x10))).push (hexUnit (n % 0x10))

def shortEscape? (u : UInt16) : Option Char :=
  match u.toNat with
  | 0x08 => some 'b'
  | 0x09 => some 't'
  | 0x0A => some 'n'
  | 0x0C => some 'f'
  | 0x0D => some 'r'
  | 0x22 => some '"'
  | 0x5C => some '\\'
  | _ => none

/-- Adds the units of a string from position `i` on, with escapes. -/
def pushQuoted (s : Array UInt16) : Nat → Nat → Array UInt16 → Array UInt16
  | 0, _, out => out
  | count + 1, i, out =>
    match s[i]? with
    | none => out
    | some u =>
      if u ≥ 0xD800 && u < 0xE000 then
        match s[i + 1]? with
        | some v =>
          if isLead u && isTrail v then pushQuoted s count (i + 2) ((out.push u).push v)
          else pushQuoted s count (i + 1) (pushEscape out u)
        | none => pushEscape out u
      else
        match shortEscape? u with
        | some c => pushQuoted s count (i + 1) ((out.push (unitOf '\\')).push (unitOf c))
        | none =>
          if u < 0x20 then pushQuoted s count (i + 1) (pushEscape out u)
          else pushQuoted s count (i + 1) (out.push u)

def pushString (out : Array UInt16) (s : Str) : Array UInt16 :=
  (pushQuoted s.units s.size 0 (out.push (unitOf '"'))).push (unitOf '"')

def pushText (out : Array UInt16) (text : String) : Array UInt16 :=
  text.foldl (fun out c => out.push (unitOf c)) out

/-- Adds a line break and the indentation, if there is one. -/
def pushBreak (gap indent : Array UInt16) (out : Array UInt16) : Array UInt16 :=
  if gap.isEmpty then out else out.push (unitOf '\n') ++ indent

mutual

/-- Adds a tree as JSON text; `gap` is the indentation of one level. -/
def push (gap indent : Array UInt16) (out : Array UInt16) : Json → Array UInt16
  | null => pushText out "null"
  | bool b => pushText out (if b then "true" else "false")
  | number x => pushText out (if x.isFinite then Number.text x else "null")
  | string s => pushString out s
  | array [] => pushText out "[]"
  | array (j :: items) =>
    let inner := indent ++ gap
    let out := push gap inner (pushBreak gap inner (out.push (unitOf '['))) j
    (pushBreak gap indent (pushItems gap inner out items)).push (unitOf ']')
  | object [] => pushText out "\x7b\x7d"
  | object ((key, j) :: members) =>
    let inner := indent ++ gap
    let out := pushKey gap (pushBreak gap inner (out.push (unitOf '{'))) key
    let out := push gap inner out j
    (pushBreak gap indent (pushMembers gap inner out members)).push (unitOf '}')

/-- Adds the items of an array after the first. -/
def pushItems (gap inner : Array UInt16) (out : Array UInt16) : List Json → Array UInt16
  | [] => out
  | j :: items =>
    pushItems gap inner (push gap inner (pushBreak gap inner (out.push (unitOf ','))) j) items

/-- Adds the members of an object after the first. -/
def pushMembers (gap inner : Array UInt16) (out : Array UInt16) : List (Str × Json) → Array UInt16
  | [] => out
  | (key, j) :: members =>
    let out := pushKey gap (pushBreak gap inner (out.push (unitOf ','))) key
    pushMembers gap inner (push gap inner out j) members

def pushKey (gap : Array UInt16) (out : Array UInt16) (key : Str) : Array UInt16 :=
  let out := (pushString out key).push (unitOf ':')
  if gap.isEmpty then out else out.push (unitOf ' ')

end

/-- A tree as JSON text; `gap` is the indentation of one level. -/
def render (gap : Str) (j : Json) : Str := ⟨push gap.units #[] #[] j⟩

end Json

end BrainHost.Script
