import BrainHost.Document.Basic

/-! # TOML

Reads a TOML text. A table may be opened once by its header, extended by dotted keys only where
dotted keys made it, and a value is never redefined. -/

namespace BrainHost.Document.Toml

/-- A step of reading: what was read and what is left. -/
abbrev Step (α : Type) := Option (α × List Char)

/-! ## The tables under construction -/

/-- A part of the document. An implicit table has no header of its own; a dotted one was made by
dotted keys. -/
inductive Node
  | leaf (d : Document)
  | table (implicit dotted : Bool) (members : List (String × Node))
  | tables (items : List Node)

mutual

def Node.toDocument : Node → Document
  | .leaf d => d
  | .table _ _ members => .table (Node.membersToDocument members)
  | .tables items => .array (Node.itemsToDocument items)

def Node.membersToDocument : List (String × Node) → List (Option String × Document)
  | [] => []
  | (key, node) :: rest => (some key, node.toDocument) :: Node.membersToDocument rest

def Node.itemsToDocument : List Node → List Document
  | [] => []
  | node :: rest => node.toDocument :: Node.itemsToDocument rest

end

abbrev Members := List (String × Node)

/-- Puts a part under a key, in place of what was there. -/
def Members.put (members : Members) (key : String) (node : Node) : Members :=
  if (members.lookup key).isSome then members.map fun (k, n) => if k = key then (k, node) else (k, n)
  else members ++ [(key, node)]

def Members.alterDotted (change : Members → Option Members) : List String → Members → Option Members
  | [], members => change members
  | key :: path, members =>
    match members.lookup key with
    | none => (alterDotted change path []).map fun sub => members.put key (.table true true sub)
    | some (.table implicit dotted sub) =>
      if !implicit || (path.isEmpty && !dotted) then none
      else (alterDotted change path sub).map fun sub => members.put key (.table implicit dotted sub)
    | some _ => none

/-- Changes the table that a path of headers names; an array of tables stands for its last table. -/
def Members.alterHeader (change : Members → Option Members) : List String → Members → Option Members
  | [], members => change members
  | key :: path, members =>
    match members.lookup key with
    | none => (alterHeader change path []).map fun sub => members.put key (.table true false sub)
    | some (.table implicit dotted sub) =>
      (alterHeader change path sub).map fun sub => members.put key (.table implicit dotted sub)
    | some (.tables items) =>
      match items.getLast? with
      | some (.table implicit dotted sub) =>
        (alterHeader change path sub).map fun sub =>
          members.put key (.tables (items.dropLast ++ [.table implicit dotted sub]))
      | _ => none
    | some (.leaf _) => none

def Members.define (key : List String) (d : Document) (members : Members) : Option Members :=
  match key.getLast? with
  | none => none
  | some last =>
    alterDotted (fun ms => if (ms.lookup last).isSome then none else some (ms.put last (.leaf d)))
      key.dropLast members

def Members.openTable (key : List String) (members : Members) : Option Members :=
  match key.getLast? with
  | none => none
  | some last =>
    alterHeader (fun ms =>
      match ms.lookup last with
      | none => some (ms.put last (.table false false []))
      | some (.table true false sub) => some (ms.put last (.table false false sub))
      | some _ => none) key.dropLast members

/-- Adds a table to the array of tables of a header. -/
def Members.openItem (key : List String) (members : Members) : Option Members :=
  match key.getLast? with
  | none => none
  | some last =>
    alterHeader (fun ms =>
      match ms.lookup last with
      | none => some (ms.put last (.tables [.table false false []]))
      | some (.tables items) => some (ms.put last (.tables (items ++ [.table false false []])))
      | some _ => none) key.dropLast members

/-! ## Tokens -/

def isSpace (c : Char) : Bool := c = ' ' || c = '\t'

def skipSpace (cs : List Char) : List Char := cs.dropWhile isSpace

/-- The control characters that no text holds. -/
def isControl (c : Char) : Bool := (c.toNat < 0x20 && c ≠ '\t') || c.toNat = 0x7F

def skipComment : List Char → Option (List Char)
  | '#' :: rest =>
    let after := rest.dropWhile fun c => c ≠ '\n'
    let body := rest.takeWhile fun c => c ≠ '\n'
    let body := if !after.isEmpty && body.getLast? = some '\r' then body.dropLast else body
    if body.any isControl then none else some after
  | cs => some cs

def skipNewline : List Char → Option (List Char)
  | '\n' :: rest => some rest
  | '\r' :: '\n' :: rest => some rest
  | _ => none

/-- Drops blanks, comments and ends of lines. -/
def skipLines : Nat → List Char → Option (List Char)
  | 0, cs => some cs
  | steps + 1, cs => do
    let cs ← skipComment (skipSpace cs)
    match skipNewline cs with
    | some rest => skipLines steps rest
    | none => some cs

/-- Drops what may stand between the end of an entry and the next line. -/
def skipRest (cs : List Char) : Option (List Char) := do
  let cs ← skipComment (skipSpace cs)
  if cs.isEmpty then some [] else skipNewline cs

def charOf? (n : Nat) : Option Char :=
  if n < 0xD800 || (0xDFFF < n && n ≤ 0x10FFFF) then some (Char.ofNat n) else none

def readEscape : List Char → Step Char
  | 'b' :: rest => some ('\x08', rest)
  | 't' :: rest => some ('\t', rest)
  | 'n' :: rest => some ('\n', rest)
  | 'f' :: rest => some ('\x0c', rest)
  | 'r' :: rest => some ('\r', rest)
  | '"' :: rest => some ('"', rest)
  | '\\' :: rest => some ('\\', rest)
  | 'u' :: rest =>
    if rest.length < 4 then none
    else ((hexNumber? (rest.take 4)).bind charOf?).map (·, rest.drop 4)
  | 'U' :: rest =>
    if rest.length < 8 then none
    else ((hexNumber? (rest.take 8)).bind charOf?).map (·, rest.drop 8)
  | _ => none

/-- Reads a string with escapes after its opening quote; `steps` bounds its length. -/
def readBasic : Nat → List Char → List Char → Step String
  | 0, _, _ => none
  | _ + 1, _, [] => none
  | _ + 1, acc, '"' :: rest => some (String.ofList acc.reverse, rest)
  | steps + 1, acc, '\\' :: rest =>
    match readEscape rest with
    | none => none
    | some (c, rest) => readBasic steps (c :: acc) rest
  | steps + 1, acc, c :: rest => if isControl c then none else readBasic steps (c :: acc) rest

/-- Reads a string without escapes after its opening quote. -/
def readLiteral (cs : List Char) : Step String :=
  let body := cs.takeWhile (· ≠ '\'')
  match cs.dropWhile (· ≠ '\'') with
  | [] => none
  | _ :: rest => if body.any isControl then none else some (String.ofList body, rest)

/-- The closing quotes of a multi-line string, of which up to two may belong to the string. -/
def closeMultiline (quote : Char) (cs : List Char) : Option (Nat × List Char) :=
  let n := (cs.takeWhile (· = quote)).length
  if n < 3 then none else if n > 5 then none else some (n - 3, cs.drop n)

/-- Reads a multi-line string after its opening quotes. -/
def readMultiline (quote : Char) (escapes : Bool) : Nat → List Char → List Char → Step String
  | 0, _, _ => none
  | _ + 1, _, [] => none
  | steps + 1, acc, c :: rest =>
    if c = quote then
      match closeMultiline quote (c :: rest) with
      | some (extra, rest) => some (String.ofList (List.replicate extra quote ++ acc).reverse, rest)
      | none => readMultiline quote escapes steps (c :: acc) rest
    else if c = '\\' && escapes then
      match readEscape rest with
      | some (e, rest) => readMultiline quote escapes steps (e :: acc) rest
      | none =>
        match skipNewline (skipSpace rest) with
        | none => none
        | some rest =>
          readMultiline quote escapes steps acc
            (rest.dropWhile fun d => isSpace d || d = '\n' || d = '\r')
    else if c = '\r' then
      match rest with
      | '\n' :: rest => readMultiline quote escapes steps ('\n' :: acc) rest
      | _ => none
    else if c = '\n' then readMultiline quote escapes steps ('\n' :: acc) rest
    else if isControl c then none
    else readMultiline quote escapes steps (c :: acc) rest

/-- Drops a line end that follows the opening quotes of a multi-line string. -/
def dropFirstNewline (cs : List Char) : List Char := (skipNewline cs).getD cs

def readString (cs : List Char) : Step String :=
  match cs with
  | '"' :: '"' :: '"' :: rest => readMultiline '"' true (cs.length + 1) [] (dropFirstNewline rest)
  | '\'' :: '\'' :: '\'' :: rest => readMultiline '\'' false (cs.length + 1) [] (dropFirstNewline rest)
  | '"' :: rest => readBasic (cs.length + 1) [] rest
  | '\'' :: rest => readLiteral rest
  | _ => none

/-- The characters of a key without quotes. -/
def isBare (c : Char) : Bool := c.isAlphanum || c = '_' || c = '-'

def readKeyPart : List Char → Step String
  | '"' :: rest => readBasic (rest.length + 1) [] rest
  | '\'' :: rest => readLiteral rest
  | cs =>
    let part := cs.takeWhile isBare
    if part.isEmpty then none else some (String.ofList part, cs.dropWhile isBare)

def readKey : Nat → List Char → Option (List String × List Char)
  | 0, _ => none
  | steps + 1, cs => do
    let (part, cs) ← readKeyPart (skipSpace cs)
    match skipSpace cs with
    | '.' :: rest =>
      let (parts, rest) ← readKey steps rest
      some (part :: parts, rest)
    | cs => some ([part], cs)

/-! ## Numbers and dates -/

def isDigits (isDigit : Char → Bool) : List Char → Bool
  | [] => false
  | [c] => isDigit c
  | c :: '_' :: rest => isDigit c && isDigits isDigit rest
  | c :: rest => isDigit c && isDigits isDigit rest

/-- The digits without the underscores between them. -/
def plain (cs : List Char) : List Char := cs.filter (· ≠ '_')

/-- The number that digits write in base 2, 8 or 16. -/
def inBase (base : Nat) (cs : List Char) : Nat :=
  (plain cs).foldl (fun n c => n * base + (hexDigit? c).getD 0) 0

def splitSign : List Char → Bool × List Char
  | '-' :: rest => (true, rest)
  | '+' :: rest => (false, rest)
  | cs => (false, cs)

/-- Whether digits start with a zero that has no place. -/
def hasLeadingZero : List Char → Bool
  | '0' :: _ :: _ => true
  | _ => false

def integer? (cs : List Char) : Option Int :=
  match cs with
  | '0' :: 'x' :: ds => if isDigits (fun c => (hexDigit? c).isSome) ds then some (inBase 16 ds) else none
  | '0' :: 'o' :: ds => if isDigits (fun c => '0' ≤ c && c ≤ '7') ds then some (inBase 8 ds) else none
  | '0' :: 'b' :: ds => if isDigits (fun c => c = '0' || c = '1') ds then some (inBase 2 ds) else none
  | _ =>
    let (negative, ds) := splitSign cs
    if isDigits Char.isDigit ds && !hasLeadingZero ds then
      let n := decimalNumber (plain ds)
      some (if negative then -n else n)
    else none

/-- Whether a token is an exponent after its letter. -/
def isExponent (cs : List Char) : Bool := isDigits Char.isDigit (splitSign cs).2

/-- Whether a token writes a number with a fraction or an exponent. -/
def isFloat (cs : List Char) : Bool :=
  let (_, ds) := splitSign cs
  if ds = ['i', 'n', 'f'] || ds = ['n', 'a', 'n'] then true
  else
    let isMark (c : Char) : Bool := c = 'e' || c = 'E'
    let body := ds.takeWhile fun c => !isMark c
    let tail := ds.dropWhile fun c => !isMark c
    let whole := body.takeWhile (· ≠ '.')
    let fraction := body.dropWhile (· ≠ '.')
    isDigits Char.isDigit whole && !hasLeadingZero whole
      && (match fraction with
        | [] => !tail.isEmpty
        | _ :: ds => isDigits Char.isDigit ds)
      && (match tail with
        | [] => true
        | _ :: e => isExponent e)

def daysIn (year month : Nat) : Nat :=
  if month = 2 then (if year % 4 = 0 && (year % 100 ≠ 0 || year % 400 = 0) then 29 else 28)
  else if month = 4 || month = 6 || month = 9 || month = 11 then 30 else 31

def twoDigits? : List Char → Step Nat
  | a :: b :: rest =>
    if a.isDigit && b.isDigit then some (decimalNumber [a, b], rest) else none
  | _ => none

def date? (cs : List Char) : Option (List Char) := do
  let (century, cs) ← twoDigits? cs
  let (year, cs) ← twoDigits? cs
  match cs with
  | '-' :: cs =>
    let (month, cs) ← twoDigits? cs
    match cs with
    | '-' :: cs =>
      let (day, cs) ← twoDigits? cs
      if 1 ≤ month && month ≤ 12 && 1 ≤ day && day ≤ daysIn (century * 100 + year) month then some cs else none
    | _ => none
  | _ => none

def time? (cs : List Char) : Option (List Char) := do
  let (hour, cs) ← twoDigits? cs
  match cs with
  | ':' :: cs =>
    let (minute, cs) ← twoDigits? cs
    match cs with
    | ':' :: cs =>
      let (second, cs) ← twoDigits? cs
      if hour > 23 || minute > 59 || second > 60 then none
      else match cs with
        | '.' :: cs =>
          let fraction := cs.takeWhile Char.isDigit
          if fraction.isEmpty then none else some (cs.drop fraction.length)
        | _ => some cs
    | _ => none
  | _ => none

/-- Whether a token is an offset from universal time, or nothing. -/
def isOffset (cs : List Char) : Bool :=
  match cs with
  | [] => true
  | ['Z'] => true
  | ['z'] => true
  | c :: cs =>
    (c = '+' || c = '-') && match twoDigits? cs with
      | some (hour, ':' :: cs) =>
        match twoDigits? cs with
        | some (minute, []) => hour ≤ 24 && minute ≤ 59
        | _ => false
      | _ => false

/-- Whether a token is a date, a time or both. -/
def isDate (cs : List Char) : Bool :=
  match date? cs with
  | some [] => true
  | some (c :: rest) =>
    (c = 'T' || c = 't' || c = ' ') && match time? rest with
      | some rest => isOffset rest
      | none => false
  | none => time? cs = some []

/-- The characters that end a value without quotes. -/
def endsToken (c : Char) : Bool :=
  isSpace c || c = '\n' || c = '\r' || c = ',' || c = ']' || c = '}' || c = '#'

/-- Reads a value without quotes or brackets. -/
def readToken (cs : List Char) : Step Document :=
  let token := cs.takeWhile fun c => !endsToken c
  let rest := cs.dropWhile fun c => !endsToken c
  if token = ['t', 'r', 'u', 'e'] then some (.bool true, rest)
  else if token = ['f', 'a', 'l', 's', 'e'] then some (.bool false, rest)
  else match integer? token with
    | some n => if -(Int.pow 2 127) ≤ n && n < Int.pow 2 128 then some (.number (some n), rest) else none
    | none =>
      if isFloat token then some (.number none, rest)
      else match rest with
        | ' ' :: more =>
          let time := more.takeWhile fun c => !endsToken c
          if (date? token) = some [] && (time.head?.map Char.isDigit).getD false then
            if isDate (token ++ ' ' :: time) then some (.date, more.drop time.length) else none
          else if isDate token then some (.date, rest) else none
        | _ => if isDate token then some (.date, rest) else none

/-! ## Values and entries -/

def maxNesting : Nat := 80

/-- Reads the items of an array after its bracket or a comma. -/
def readItems (value : List Char → Step Document) :
    Nat → List Document → List Char → Option (Document × List Char)
  | 0, _, _ => none
  | steps + 1, items, cs => do
    let cs ← skipLines (cs.length + 1) cs
    match cs with
    | ']' :: rest => some (.array items.reverse, rest)
    | _ =>
      let (d, cs) ← value cs
      let cs ← skipLines (cs.length + 1) cs
      match cs with
      | ',' :: rest => readItems value steps (d :: items) rest
      | ']' :: rest => some (.array (d :: items).reverse, rest)
      | _ => none

def readEntry (value : List Char → Step Document) (cs : List Char) :
    Option ((List String × Document) × List Char) := do
  let (key, cs) ← readKey (cs.length + 1) cs
  match skipSpace cs with
  | '=' :: rest =>
    let (d, rest) ← value (skipSpace rest)
    some ((key, d), rest)
  | _ => none

/-- Reads the entries of an inline table after its brace or a comma. -/
def readInline (value : List Char → Step Document) :
    Nat → Members → List Char → Option (Document × List Char)
  | 0, _, _ => none
  | steps + 1, members, cs => do
    let ((key, d), cs) ← readEntry value cs
    let members ← members.define key d
    match skipSpace cs with
    | ',' :: rest => readInline value steps members rest
    | '}' :: rest => some (.table (Node.membersToDocument members), rest)
    | _ => none

def readValue : Nat → List Char → Step Document
  | 0, _ => none
  | nesting + 1, cs =>
    match cs with
    | '[' :: rest => readItems (readValue nesting) (cs.length + 1) [] rest
    | '{' :: rest =>
      match skipSpace rest with
      | '}' :: rest => some (.table [], rest)
      | rest => readInline (readValue nesting) (cs.length + 1) [] rest
    | '"' :: _ => (readString cs).map fun (s, rest) => (.text (some s), rest)
    | '\'' :: _ => (readString cs).map fun (s, rest) => (.text (some s), rest)
    | _ => readToken cs

/-- The table that entries go to, and how it is reached. -/
structure Place where
  root : Members := []
  current : List String := []

def Place.define (p : Place) (key : List String) (d : Document) : Option Place :=
  (Members.alterHeader (Members.define key d) p.current p.root).map fun root => { p with root }

def readLines : Nat → Place → List Char → Option Members
  | 0, _, _ => none
  | steps + 1, place, cs => do
    let cs ← skipLines (cs.length + 1) cs
    match cs with
    | [] => some place.root
    | '[' :: '[' :: rest =>
      let (key, rest) ← readKey (rest.length + 1) rest
      match skipSpace rest with
      | ']' :: ']' :: rest =>
        let root ← place.root.openItem key
        let rest ← skipRest rest
        readLines steps ⟨root, key⟩ rest
      | _ => none
    | '[' :: rest =>
      let (key, rest) ← readKey (rest.length + 1) rest
      match skipSpace rest with
      | ']' :: rest =>
        let root ← place.root.openTable key
        let rest ← skipRest rest
        readLines steps ⟨root, key⟩ rest
      | _ => none
    | _ =>
      let ((key, d), rest) ← readEntry (readValue maxNesting) cs
      let place ← place.define key d
      let rest ← skipRest rest
      readLines steps place rest

end Toml

def ofToml? (text : String) : Option Document :=
  let cs := match text.toList with
    | '\uFEFF' :: rest => rest
    | cs => cs
  (Toml.readLines (cs.length + 1) {} cs).map fun members => .table (Toml.Node.membersToDocument members)

end BrainHost.Document
