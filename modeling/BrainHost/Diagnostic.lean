import BrainHost.Text.Alphanumeric
import BrainHost.Text.Line

/-! # Diagnostics of script exceptions

A diagnostic names the place of an exception, quotes the line of code with a caret underline and
lists the script's stack. -/

namespace BrainHost

open Text

/-- A place in a script, as a stack frame gives it. -/
structure Location where
  file : String
  line : Nat
  column : Option Nat
  deriving DecidableEq, Repr

/-- What is known of a script exception. Columns count characters from 1. -/
structure Diagnostic where
  file : Option String := none
  line : Option Nat := none
  column : Option Nat := none
  message : String
  sourceLine : Option String := none
  stack : Option String := none
  deriving DecidableEq, Repr

namespace Diagnostic

def isWord (c : Char) : Bool := isAlphanumeric c || c = '_' || c = '$'

/-- The columns to underline in a line of code: from the first up to the second, counted from 0. -/
def underlineIn (code : List Char) : Option Nat → Option (Nat × Nat)
  | some 0 => none
  | some (start + 1) =>
    match code.drop start with
    | [] => none
    | rest => some (start, start + max (rest.takeWhile isWord).length 1)
  | none =>
    let trimmed := trimEnd code
    let indent := (trimmed.takeWhile isBlank).length
    if indent = trimmed.length then none else some (indent, trimmed.length)

def underline (d : Diagnostic) : Option (Nat × Nat) :=
  d.sourceLine.bind fun code => underlineIn code.toList d.column

def snippet (d : Diagnostic) : String :=
  match d.sourceLine with
  | none => ""
  | some code =>
    "The code:\n" ++ code ++ "\n" ++
      match d.underline with
      | none => ""
      | some (first, last) =>
        "".pushn ' ' first ++ "".pushn '^' (last - first) ++ "\n"

/-- The stack, unless it is blank. -/
def trace (d : Diagnostic) : String :=
  match d.stack with
  | none => ""
  | some stack =>
    let text := trimEnd stack.toList
    if text.isEmpty then "" else "Stack trace: \n" ++ String.ofList text ++ "\n"

def render (d : Diagnostic) : String :=
  match d.line with
  | none => d.message
  | some line =>
    d.file.getD "<anonymous>" ++ ":" ++ toString line ++ ": " ++ d.message ++ "\n" ++ d.snippet ++ d.trace

/-- Quotes the line of the diagnostic from the source that `lookup` gives for its file. -/
def withSource (d : Diagnostic) (lookup : Option String → Option String) : Diagnostic :=
  match d.line with
  | none => d
  | some line => { d with sourceLine := (lookup d.file).bind fun src => (lines src)[line - 1]? }

end Diagnostic

/-- A decimal number below 2 ^ 32, with an optional plus sign. -/
def readLineNumber (cs : List Char) : Option Nat :=
  let digits := match cs with
    | '+' :: rest => rest
    | _ => cs
  if digits.isEmpty || !digits.all Char.isDigit then none
  else
    let n := digits.foldl (fun acc c => acc * 10 + (c.toNat - '0'.toNat)) 0
    if n < Nat.pow 2 32 then some n else none

/-- What comes before and after the last `c` of a text. -/
def splitLast (c : Char) (cs : List Char) : Option (List Char × List Char) :=
  let tail := cs.reverse.takeWhile (· ≠ c)
  match cs.reverse.dropWhile (· ≠ c) with
  | [] => none
  | _ :: front => some (front.reverse, tail.reverse)

/-- Reads `file:line` or `file:line:column`. -/
def Location.ofText? (cs : List Char) : Option Location := do
  let (front, last) ← splitLast ':' cs
  let whole := splitLast ':' front
  let number ← readLineNumber last
  match whole.bind fun (file, middle) => (readLineNumber middle).map (file, ·) with
  | some (file, line) => some ⟨String.ofList file, line, some number⟩
  | none => some ⟨String.ofList front, number, none⟩

/-- The part of a frame that may hold a place: what the last parentheses enclose, or all of it. -/
def frameLocation (rest : List Char) : List Char :=
  match splitLast '(' rest, splitLast ')' rest with
  | some (before, inner), some (upto, _) =>
    if before.length < upto.length then inner.take (upto.length - before.length - 1) else rest
  | _, _ => rest

def Location.ofFrame? (frame : List Char) : Option Location :=
  match trim frame with
  | 'a' :: 't' :: ' ' :: rest => Location.ofText? (frameLocation rest)
  | _ => none

/-- The first place that a stack names; frames of built-in functions name none. -/
def Location.ofStack? (stack : String) : Option Location :=
  (linesOf stack.toList).findSome? Location.ofFrame?

/-- A source with the number of each line in front of it. -/
def listing (source : String) : String :=
  (lines source).zipIdx.foldl (fun out (line, i) => out ++ toString (i + 1) ++ ":\t" ++ line ++ "\n") ""

end BrainHost
