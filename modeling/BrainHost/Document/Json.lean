import BrainHost.Document.Basic

/-! # Strict JSON

Reads a JSON text as RFC 8259 defines it, with an explicit stack, so that any nesting is read. -/

namespace BrainHost.Document

def isJsonBlank (c : Char) : Bool := c = ' ' || c = '\n' || c = '\t' || c = '\r'

/-- The part of a string that has been read: its characters in reverse, unless a surrogate stood
alone, and a leading surrogate that still waits for its partner. -/
structure Reading where
  chars : Option (List Char) := some []
  lead : Option Nat := none

namespace Reading

/-- A leading surrogate without a partner spoils the string. -/
def settle (r : Reading) : Reading := if r.lead.isSome then ⟨none, none⟩ else r

def push (r : Reading) (c : Char) : Reading :=
  let r := r.settle
  { r with chars := r.chars.map (c :: ·) }

def pushUnit (r : Reading) (n : Nat) : Reading :=
  if 0xD800 ≤ n && n < 0xDC00 then { r.settle with lead := some n }
  else if 0xDC00 ≤ n && n < 0xE000 then
    match r.lead with
    | none => ⟨none, none⟩
    | some lead => Reading.push ⟨r.chars, none⟩ (Char.ofNat (0x10000 + (lead - 0xD800) * 0x400 + (n - 0xDC00)))
  else r.push (Char.ofNat n)

def finish (r : Reading) : Option String := r.settle.chars.map fun cs => String.ofList cs.reverse

end Reading

/-- Reads a string after its opening quote. -/
def readJsonString (r : Reading) : List Char → Option (Option String × List Char)
  | [] => none
  | '"' :: rest => some (r.finish, rest)
  | '\\' :: '"' :: rest => readJsonString (r.push '"') rest
  | '\\' :: '\\' :: rest => readJsonString (r.push '\\') rest
  | '\\' :: '/' :: rest => readJsonString (r.push '/') rest
  | '\\' :: 'b' :: rest => readJsonString (r.push '\x08') rest
  | '\\' :: 'f' :: rest => readJsonString (r.push '\x0c') rest
  | '\\' :: 'n' :: rest => readJsonString (r.push '\n') rest
  | '\\' :: 'r' :: rest => readJsonString (r.push '\r') rest
  | '\\' :: 't' :: rest => readJsonString (r.push '\t') rest
  | '\\' :: 'u' :: a :: b :: c :: d :: rest =>
    match hexNumber? [a, b, c, d] with
    | none => none
    | some n => readJsonString (r.pushUnit n) rest
  | '\\' :: _ => none
  | c :: rest => if c.toNat < 0x20 then none else readJsonString (r.push c) rest

def readDigits (cs : List Char) : Option (List Char × List Char) :=
  let ds := cs.takeWhile Char.isDigit
  if ds.isEmpty then none else some (ds, cs.dropWhile Char.isDigit)

/-- Reads the digits of a whole number, without leading zeros. -/
def readWhole : List Char → Option (List Char × List Char)
  | '0' :: rest => if (rest.head?.map Char.isDigit).getD false then none else some (['0'], rest)
  | cs => readDigits cs

/-- Reads the fraction of a number, if there is one; tells whether there was. -/
def readFraction : List Char → Option (Bool × List Char)
  | '.' :: rest => (readDigits rest).map fun (_, rest) => (true, rest)
  | cs => some (false, cs)

/-- Reads the exponent of a number, if there is one; tells whether there was. -/
def readExponent : List Char → Option (Bool × List Char)
  | c :: rest =>
    if c = 'e' || c = 'E' then
      let rest := match rest with
        | '+' :: rest => rest
        | '-' :: rest => rest
        | _ => rest
      (readDigits rest).map fun (_, rest) => (true, rest)
    else some (false, c :: rest)
  | [] => some (false, [])

/-- A whole number of more digits fits no field of any document. -/
def maxIntegerDigits : Nat := 40

def readJsonNumber (cs : List Char) : Option (Document × List Char) := do
  let (negative, cs) := match cs with
    | '-' :: rest => (true, rest)
    | _ => (false, cs)
  let (digits, cs) ← readWhole cs
  let (hasFraction, cs) ← readFraction cs
  let (hasExponent, cs) ← readExponent cs
  if hasFraction || hasExponent || digits.length > maxIntegerDigits then some (.number none, cs)
  else
    let n := decimalNumber digits
    some (.number (if negative then (if n = 0 then none else some (-n)) else some n), cs)

/-- A container that is still open, with its parts in reverse. -/
inductive Open
  | array (items : List Document)
  | table (members : List (Option String × Document)) (key : Option String)

/-- What the reader does next. -/
inductive Task
  | value (closable : Bool)
  | key (members : List (Option String × Document)) (closable : Bool)
  | place (d : Document)

/-- Reads on with the open containers `stack`; every step but a few takes a character. -/
def readJson : Nat → List Open → Task → List Char → Option Document
  | 0, _, _, _ => none
  | steps + 1, stack, task, cs =>
    let cs := cs.dropWhile isJsonBlank
    match task with
    | .value closable =>
      match cs with
      | ']' :: rest =>
        match closable, stack with
        | true, .array items :: stack => readJson steps stack (.place (.array items.reverse)) rest
        | _, _ => none
      | '[' :: rest => readJson steps (.array [] :: stack) (.value true) rest
      | '{' :: rest => readJson steps stack (.key [] true) rest
      | '"' :: rest =>
        match readJsonString {} rest with
        | none => none
        | some (s, rest) => readJson steps stack (.place (.text s)) rest
      | 't' :: 'r' :: 'u' :: 'e' :: rest => readJson steps stack (.place (.bool true)) rest
      | 'f' :: 'a' :: 'l' :: 's' :: 'e' :: rest => readJson steps stack (.place (.bool false)) rest
      | 'n' :: 'u' :: 'l' :: 'l' :: rest => readJson steps stack (.place .null) rest
      | _ =>
        match readJsonNumber cs with
        | none => none
        | some (d, rest) => readJson steps stack (.place d) rest
    | .key members closable =>
      match cs with
      | '}' :: rest => if closable then readJson steps stack (.place (.table members.reverse)) rest else none
      | '"' :: rest =>
        match readJsonString {} rest with
        | none => none
        | some (key, rest) =>
          match rest.dropWhile isJsonBlank with
          | ':' :: rest => readJson steps (.table members key :: stack) (.value false) rest
          | _ => none
      | _ => none
    | .place d =>
      match stack with
      | [] => if cs.isEmpty then some d else none
      | .array items :: stack =>
        match cs with
        | ',' :: rest => readJson steps (.array (d :: items) :: stack) (.value false) rest
        | ']' :: rest => readJson steps stack (.place (.array (d :: items).reverse)) rest
        | _ => none
      | .table members key :: stack =>
        match cs with
        | ',' :: rest => readJson steps stack (.key ((key, d) :: members) false) rest
        | '}' :: rest => readJson steps stack (.place (.table ((key, d) :: members).reverse)) rest
        | _ => none

def ofJson? (text : String) : Option Document :=
  let cs := text.toList
  readJson (2 * cs.length + 2) [] (.value false) cs

def isJson (text : String) : Bool := (ofJson? text).isSome

end BrainHost.Document
