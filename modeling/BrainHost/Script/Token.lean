import BrainHost.Script.Numeric
import BrainHost.Text.Identifier

/-! # Tokens of scripts

Cuts a source into tokens. Whether a slash starts a regular expression, and where a template goes
on, only the parser knows; it asks for these tokens itself. -/

namespace BrainHost.Script

open Text

/-- A place in a source, with the text from there on. The column counts characters from 0. -/
structure Cursor where
  text : List Char
  line : Nat := 1
  column : Nat := 0
  /-- How many characters came before. -/
  offset : Nat := 0
  deriving Inhabited

/-- What a token is. -/
inductive Lexeme
  | stop
  | mark (m : String)
  | word (name : String) (escaped : Bool)
  | hidden (name : String)
  | number (x : Float)
  | bigint (n : Int)
  | string (s : Str)
  /-- The opening of a template literal. -/
  | backtick
  deriving Inhabited

structure Token where
  lexeme : Lexeme
  start : Cursor
  /-- Where the text after it starts. -/
  after : Cursor
  /-- Whether a line ended before it. -/
  newline : Bool
  deriving Inhabited

structure SyntaxFault where
  message : String
  line : Nat
  column : Nat
  /-- Whether the fault tells where it is. -/
  located : Bool := true
  deriving Inhabited

namespace Cursor

def fault {α : Type} (c : Cursor) (message : String) : Except SyntaxFault α := .error { message, line := c.line, column := c.column }

def isLineEnd (c : Char) : Bool := c = '\n' || c = '\r' || c = '\u2028' || c = '\u2029'

def isBlank (c : Char) : Bool := !isLineEnd c && c.toNat < 0x10000 && Str.isSpace c.toNat.toUInt16

/-- The cursor after `count` characters of the same line. -/
def forward (c : Cursor) (count : Nat) : Cursor :=
  { c with text := c.text.drop count, column := c.column + count, offset := c.offset + count }

/-- How many characters a comment that runs to the end of its line takes. A separator U+2028 or
U+2029 at its end belongs to it. -/
def lineCommentLength (cs : List Char) : Nat :=
  let n := (cs.takeWhile fun c => !isLineEnd c).length
  match cs.drop n with
  | '\u2028' :: _ => n + 1
  | '\u2029' :: _ => n + 1
  | _ => n

/-- What is skipped. -/
inductive Gap
  | blanks | lineComment | blockComment
  deriving DecidableEq

/-- Skips blanks and comments. Gives the place after them and whether a line ended; a comment
without an end gives nothing. HTML comments are skipped in classic scripts. A separator U+2028 or
U+2029 ends a comment of one line as a part of it, and among the line ends within a longer comment
only a line feed is counted. -/
def skip (html : Bool) : Gap → List Char → Nat → Nat → Nat → Bool → Option (Cursor × Bool)
  | gap, [], line, column, offset, newline =>
    if gap = .blockComment then none else some (⟨[], line, column, offset⟩, newline)
  | gap, '\r' :: '\n' :: rest, line, _, offset, _ =>
    skip html (if gap = .blockComment then gap else .blanks) rest (line + 1) 0 (offset + 2) true
  | .blockComment, '*' :: '/' :: rest, line, column, offset, newline =>
    skip html .blanks rest line (column + 2) (offset + 2) newline
  | .blanks, '/' :: '/' :: rest, line, column, offset, newline =>
    skip html .lineComment rest line (column + 2) (offset + 2) newline
  | .blanks, '/' :: '*' :: rest, line, column, offset, newline =>
    skip html .blockComment rest line (column + 2) (offset + 2) newline
  | gap, c :: rest, line, column, offset, newline =>
    if gap = .lineComment && (c = '\u2028' || c = '\u2029') then
      skip html .blanks rest line (column + 1) (offset + 1) newline
    else if gap = .blockComment && isLineEnd c && c ≠ '\n' then
      skip html gap rest line (column + 1) (offset + 1) true
    else if isLineEnd c then
      skip html (if gap = .blockComment then gap else .blanks) rest (line + 1) 0 (offset + 1) true
    else if gap ≠ .blanks || isBlank c then skip html gap rest line (column + 1) (offset + 1) newline
    else if html && (isOpening (c :: rest) || (newline && isClosing (c :: rest))) then
      skip html .lineComment rest line (column + 1) (offset + 1) newline
    else some (⟨c :: rest, line, column, offset⟩, newline)
where
  /-- Whether an HTML comment starts. -/
  isOpening (cs : List Char) : Bool := ['<', '!', '-', '-'].isPrefixOf cs
  /-- Whether an HTML comment ends. -/
  isClosing (cs : List Char) : Bool := ['-', '-', '>'].isPrefixOf cs

end Cursor

/-! ## Escapes -/

/-- What an escape stands for, and how many characters it has after the backslash. -/
inductive Escaped
  | point (n : Nat) (count : Nat)
  | nothing (count : Nat)
  | malformed
  | octal

def hexOf? (c : Char) : Option Nat :=
  if c.toNat < 0x80 then (digitValue? c.toNat.toUInt16).filter (· < 16) else none

/-- Reads hexadecimal digits up to a closing brace; `count` characters came before. -/
def bracedPoint? (n count : Nat) : List Char → Option (Nat × Nat)
  | [] => none
  | c :: rest =>
    match hexOf? c with
    | none => none
    | some d =>
      let n := n * 16 + d
      if n > 0x10FFFF then none
      else match rest with
        | '}' :: _ => some (n, count + 2)
        | rest => bracedPoint? n (count + 1) rest

/-- Reads `count` hexadecimal digits. -/
def fixedPoint? (count : Nat) (cs : List Char) : Option Nat :=
  let ds := cs.take count
  if ds.length < count then none else ds.foldlM (fun n c => (hexOf? c).map (n * 16 + ·)) 0

/-- Reads the digits of an escape after its `u`, in braces or four of them; counts the `u` too. -/
def unicodePoint? : List Char → Option (Nat × Nat)
  | '{' :: digits => bracedPoint? 0 2 digits
  | cs => (fixedPoint? 4 cs).map (·, 5)

def octalOf? (c : Char) : Option Nat :=
  if '0' ≤ c && c ≤ '7' then some (c.toNat - '0'.toNat) else none

/-- Reads an octal escape, of which the first digit is given. -/
def octalPoint (first : Nat) (cs : List Char) : Nat × Nat :=
  match (cs.head?.bind octalOf?) with
  | none => (first, 1)
  | some d =>
    let n := first * 8 + d
    if n ≥ 32 then (n, 2)
    else
      match (cs.drop 1).head?.bind octalOf? with
      | some d => (n * 8 + d, 3)
      | none => (n, 2)

/-- Reads an escape after its backslash; `octals` tells whether octal digits may stand there. -/
def readEscaped (octals : Bool) : List Char → Escaped
  | [] => .malformed
  | c :: rest =>
    match c with
    | 'b' => .point 8 1
    | 'f' => .point 12 1
    | 'n' => .point 10 1
    | 'r' => .point 13 1
    | 't' => .point 9 1
    | 'v' => .point 11 1
    | 'x' =>
      match fixedPoint? 2 rest with
      | some n => .point n 3
      | none => .malformed
    | 'u' =>
      match unicodePoint? rest with
      | some (n, count) => .point n count
      | none => .malformed
    | '\r' => .nothing (if rest.head? = some '\n' then 2 else 1)
    | '\n' => .nothing 1
    | '\u2028' => .nothing 1
    | '\u2029' => .nothing 1
    | c =>
      if c.isDigit then
        if octals then
          match octalOf? c with
          | some d =>
            let (n, count) := octalPoint d rest
            .point n count
          | none => .point c.toNat 1
        else if c = '0' && !(rest.head?.map Char.isDigit).getD false then .point 0 1
        else if c ≥ '8' then .malformed
        else .octal
      else .point c.toNat 1

/-- The cursor after `count` characters, among which lines may end. -/
def Cursor.over : Nat → Cursor → Cursor
  | 0, c => c
  | count + 1, c =>
    match c.text with
    | [] => c
    | '\r' :: '\n' :: rest => Cursor.over count ⟨'\n' :: rest, c.line, c.column, c.offset + 1⟩
    | x :: rest =>
      Cursor.over count
        (if Cursor.isLineEnd x then ⟨rest, c.line + 1, 0, c.offset + 1⟩
          else ⟨rest, c.line, c.column + 1, c.offset + 1⟩)

/-- Reads a string up to the closing quote; `fuel` bounds the number of characters. -/
def readQuoted (quote : Char) (strict : Bool) : Nat → Str → Cursor → Except String (Str × Cursor)
  | 0, _, _ => .error "unexpected end of string"
  | fuel + 1, acc, cursor =>
    match cursor.text with
    | [] => .error "unexpected end of string"
    | c :: rest =>
      if c = quote then .ok (acc, cursor.forward 1)
      else if c = '\n' || c = '\r' then .error "unexpected end of string"
      else if c = '\\' then
        if rest.isEmpty then .error "unexpected end of string"
        else
          match readEscaped (!strict) rest with
          | .point n count => readQuoted quote strict fuel (acc.pushPoint n) (cursor.forward (count + 1))
          | .nothing count => readQuoted quote strict fuel acc (Cursor.over (count + 1) cursor)
          | .malformed => .error "malformed escape sequence in string literal"
          | .octal => .error "octal escape sequences are not allowed in strict mode"
      else readQuoted quote strict fuel (acc.push c) (cursor.forward 1)

/-- A part of a template literal: its text, absent if an escape is malformed, the text as it is
written, and whether the literal ends here. -/
structure TemplateText where
  cooked : Option Str
  raw : Str
  isLast : Bool
  after : Cursor

def readTemplate : Nat → Option Str → Str → Cursor → Option TemplateText
  | 0, _, _, _ => none
  | fuel + 1, cooked, raw, cursor =>
    match cursor.text with
    | [] => none
    | '\x60' :: _ => some ⟨cooked, raw, true, cursor.forward 1⟩
    | '$' :: '{' :: _ => some ⟨cooked, raw, false, cursor.forward 2⟩
    | '\\' :: rest =>
      if rest.isEmpty then none
      else
        let (cooked, count) : Option Str × Nat := match readEscaped false rest with
          | .point n count => (cooked.map (Str.pushPoint · n), count)
          | .nothing count => (cooked, count)
          | .malformed => (none, 1)
          | .octal => (none, 1)
        let raw := (rest.take count).foldl Str.push (raw.push '\\')
        readTemplate fuel cooked raw (Cursor.over (count + 1) cursor)
    | '\r' :: rest =>
      let count := if rest.head? = some '\n' then 2 else 1
      readTemplate fuel (cooked.map (Str.push · '\n')) (raw.push '\n') (Cursor.over count cursor)
    | c :: _ => readTemplate fuel (cooked.map (Str.push · c)) (raw.push c) (Cursor.over 1 cursor)

/-! ## Numbers -/

/-- Reads digits of a radix between which single underscores may stand. Gives the digits, the
number of characters and the rest. -/
def readSeparated (radix : Nat) (acc : List UInt16) (count : Nat) :
    List Char → Option (List UInt16 × Nat × List Char)
  | [] => some (acc.reverse, count, [])
  | c :: rest =>
    if c = '_' then
      match rest with
      | d :: after =>
        if !acc.isEmpty && d.toNat < 0x80 && isDigitOf radix d.toNat.toUInt16 then
          readSeparated radix (d.toNat.toUInt16 :: acc) (count + 2) after
        else none
      | [] => none
    else if c.toNat < 0x80 && isDigitOf radix c.toNat.toUInt16 then
      readSeparated radix (c.toNat.toUInt16 :: acc) (count + 1) rest
    else some (acc.reverse, count, c :: rest)

def readDecimalNumeral (cs : List Char) : Option (Lexeme × Nat) := do
  let (whole, n, rest) ← readSeparated 10 [] 0 cs
  if rest.head? = some 'n' && !whole.isEmpty then some (.bigint (numberOf 10 whole), n + 1)
  else
    let (fraction, m, rest) ← match rest with
      | '.' :: more => (readSeparated 10 [] 1 more)
      | rest => some ([], 0, rest)
    let (exponent, k) ← match rest with
      | e :: more =>
        if e = 'e' || e = 'E' then
          let (negative, signs, digits) := match more with
            | '-' :: digits => (true, 2, digits)
            | '+' :: digits => (false, 2, digits)
            | digits => (false, 1, digits)
          match readSeparated 10 [] signs digits with
          | some ([], _, _) => some ((0 : Int), 0)
          | some (ds, k, _) => some ((if negative then -(numberOf 10 ds : Int) else numberOf 10 ds), k)
          | none => none
        else some (0, 0)
      | [] => some (0, 0)
    some (.number (Number.ofDecimal false (numberOf 10 (whole ++ fraction)) (exponent - fraction.length)), n + m + k)

def readNumeral (strict : Bool) (cs : List Char) : Except String (Lexeme × Nat) :=
  let invalid : Except String (Lexeme × Nat) := .error "invalid number literal"
  let radix? := match cs with
    | '0' :: c :: _ => if c.toNat < 0x80 then radixOf? c.toNat.toUInt16 else none
    | _ => none
  match radix? with
  | some radix =>
    match readSeparated radix [] 2 (cs.drop 2) with
    | some ([], _, _) => invalid
    | some (ds, n, 'n' :: _) => .ok (.bigint (numberOf radix ds), n + 1)
    | some (ds, n, _) => .ok (.number (Number.ofInt (numberOf radix ds)), n)
    | none => invalid
  | none =>
    let digits := cs.takeWhile Char.isDigit
    let legacy := cs.head? = some '0' && 1 < digits.length
    if legacy && strict then .error "octal literals are deprecated in strict mode"
    else if legacy && digits.all fun c => (octalOf? c).isSome then
      .ok (.number (Number.ofInt (numberOf 8 (digits.map fun c => c.toNat.toUInt16))), digits.length)
    else
      match readDecimalNumeral cs with
      | some result => .ok result
      | none => invalid

/-! ## Tokens -/

/-- Reads a name in which characters may be escaped, and counts its characters. -/
def readIdentifier : Nat → List Char → Bool → Nat → List Char → Option (List Char × Bool × Nat)
  | 0, _, _, _, _ => none
  | fuel + 1, acc, escaped, count, cs =>
    match cs with
    | '\\' :: 'u' :: rest =>
      match unicodePoint? rest with
      | some (n, used) =>
        let c := Char.ofNat n
        if if acc.isEmpty then isIdStart c || c = '$' || c = '_' else isIdContinue c || c = '$' then
          readIdentifier fuel (c :: acc) true (count + used + 1) (cs.drop (used + 1))
        else none
      | none => none
    | '\\' :: _ => none
    | c :: rest =>
      if if acc.isEmpty then isIdStart c || c = '$' || c = '_'
        else isIdContinue c || c = '$' || c = '\u200C' || c = '\u200D' then
        readIdentifier fuel (c :: acc) escaped (count + 1) rest
      else some (acc.reverse, escaped, count)
    | [] => some (acc.reverse, escaped, count)

/-- The marks that are made of several characters, longest first. -/
def longMarks : List String :=
  [">>>=", "...", "===", "!==", "**=", "<<=", ">>=", ">>>", "&&=", "||=", "??=",
    "=>", "==", "!=", "<=", ">=", "&&", "||", "??", "?.", "++", "--", "+=", "-=", "*=", "/=", "%=", "&=", "|=",
    "^=", "<<", ">>", "**"]

/-- Whether a text starts with a mark. A question mark and a point are no chain before a digit. -/
def startsWithMark (cs : List Char) (m : String) : Bool :=
  m.toList.isPrefixOf cs && !(m == "?." && ((cs.drop 2).head?.map Char.isDigit).getD false)

/-- Longer names, strings and templates are not read. -/
def maxLength : Nat := Nat.pow 2 40

/-- Reads the token after a cursor. -/
def scan (strict isModule : Bool) (origin : Cursor) : Except SyntaxFault Token :=
  match Cursor.skip (!isModule) .blanks origin.text origin.line origin.column origin.offset
      (origin.offset = 0) with
  | none => origin.fault "unexpected end of comment"
  | some (start, newline) =>
    let take (lexeme : Lexeme) (count : Nat) : Except SyntaxFault Token :=
      .ok ⟨lexeme, start, start.forward count, newline⟩
    match start.text with
    | [] => take .stop 0
    | c :: rest =>
      if c = '"' || c = '\'' then
        match readQuoted c strict maxLength .empty (start.forward 1) with
        | .ok (s, after) => .ok ⟨.string s, start, after, newline⟩
        | .error e => start.fault e
      else if c = '\x60' then take .backtick 1
      else if c.isDigit || (c = '.' && (rest.head?.map Char.isDigit).getD false) then
        match readNumeral strict start.text with
        | .ok (lexeme, count) =>
          if ((start.text.drop count).head?.map fun c => isIdContinue c || c = '$' || c = '\\').getD false then
            start.fault "invalid number literal"
          else take lexeme count
        | .error e => start.fault e
      else if c = '#' then
        match readIdentifier maxLength [] false 1 rest with
        | some ([], _, _) => start.fault "invalid first character of private name"
        | some (name, _, count) => take (.hidden (String.ofList name)) count
        | none => start.fault "invalid first character of private name"
      else if isIdStart c || c = '$' || c = '_' || c = '\\' then
        match readIdentifier maxLength [] false 0 start.text with
        | some ([], _, _) => start.fault "unexpected character"
        | some (name, escaped, count) => take (.word (String.ofList name) escaped) count
        | none => if c = '\\' then take (.mark "\\") 1 else start.fault "unexpected character"
      else if c.toNat ≥ 0x80 then start.fault "unexpected character"
      else
        match longMarks.find? (startsWithMark start.text) with
        | some m => take (.mark m) m.length
        | none => take (.mark (String.ofList [c])) 1

/-- Reads a regular expression after its opening slash: the body and the place after the closing
slash. -/
def readRegExp : Nat → Bool → Str → Cursor → Except String (Str × Cursor)
  | 0, _, _, _ => .error "unexpected end of regexp"
  | fuel + 1, inClass, acc, cursor =>
    match cursor.text with
    | [] => .error "unexpected end of regexp"
    | c :: rest =>
      if Cursor.isLineEnd c then .error "unexpected line terminator in regexp"
      else if c = '/' && !inClass then .ok (acc, cursor.forward 1)
      else if c = '\\' then
        match rest with
        | [] => .error "unexpected end of regexp"
        | d :: _ =>
          if Cursor.isLineEnd d then .error "unexpected line terminator in regexp"
          else readRegExp fuel inClass ((acc.push c).push d) (cursor.forward 2)
      else
        let inClass := if c = '[' then true else if c = ']' then false else inClass
        readRegExp fuel inClass (acc.push c) (cursor.forward 1)

end BrainHost.Script
