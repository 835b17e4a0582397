import BrainHost.Script.Builtin.Text

/-! # `Math` and the functions of the global object -/

namespace BrainHost.Script

open Act

/-- The least of two doubles; a zero below zero is less than zero. -/
def leastOf (x y : Float) : Float :=
  if x.isNaN || y.isNaN then nan
  else if x == 0 && y == 0 then (if Number.signBit x then x else y)
  else if x < y then x else y

def greatestOf (x y : Float) : Float :=
  if x.isNaN || y.isNaN then nan
  else if x == 0 && y == 0 then (if Number.signBit x then y else x)
  else if x < y then y else x

/-- A double rounded to the nearest integer; a half goes up. -/
def roundHalfUp (x : Float) : Float :=
  if !x.isFinite || x == 0 || x.abs ≥ 4503599627370496 then x
  else if x < 0 && x ≥ -0.5 then -0.0
  else
    let f := x.floor
    if x - f < 0.5 then f else f + 1

def truncated (x : Float) : Float := if x < 0 then x.ceil else x.floor

/-- `exp x - 1`, exact also near zero. -/
def expMinusOne (x : Float) : Float :=
  if x == 0 || x.isNaN then x
  else
    let u := x.exp
    if u == 1 then x
    else if u - 1 == -1 then -1
    else if u.isInf then u
    else (u - 1) * x / u.log

/-- `log (1 + x)`, exact also near zero. -/
def logOnePlus (x : Float) : Float :=
  let u := 1 + x
  if u == 1 then x else if u.isInf || u.isNaN || u ≤ 0 then u.log else u.log * x / (u - 1)

/-- The number of leading zeros of a 32-bit integer. -/
def leadingZeros (n : Nat) : Nat := if n = 0 then 32 else 31 - n.log2

/-- The functions of `Math` of one number. -/
def mathOf? : MathFunction → Option (Float → Float)
  | .abs => some Float.abs
  | .acos => some Float.acos
  | .acosh => some Float.acosh
  | .asin => some Float.asin
  | .asinh => some Float.asinh
  | .atan => some Float.atan
  | .atanh => some Float.atanh
  | .cbrt => some Float.cbrt
  | .ceil => some Float.ceil
  | .clz32 => some fun x => natFloat (leadingZeros (toUInt32 x))
  | .cos => some Float.cos
  | .cosh => some Float.cosh
  | .exp => some Float.exp
  | .expm1 => some expMinusOne
  | .floor => some Float.floor
  | .fround => some fun x => x.toFloat32.toFloat
  | .log => some Float.log
  | .log10 => some Float.log10
  | .log1p => some logOnePlus
  | .log2 => some Float.log2
  | .round => some roundHalfUp
  | .sign => some fun x => if x.isNaN || x == 0 then x else if x < 0 then -1 else 1
  | .sin => some Float.sin
  | .sinh => some Float.sinh
  | .sqrt => some Float.sqrt
  | .tan => some Float.tan
  | .tanh => some Float.tanh
  | .trunc => some truncated
  | _ => none

/-- The functions of `Math`. -/
def callMath (f : MathFunction) (args : Array Value) : Act Value := do
  match mathOf? f with
  | some op => do pure (.number (op (← toNumber (argOf args 0))))
  | none =>
    match f with
    | .atan2 => do
      let y ← toNumber (argOf args 0)
      pure (.number (Float.atan2 y (← toNumber (argOf args 1))))
    | .pow => do
      let x ← toNumber (argOf args 0)
      pure (.number (power x (← toNumber (argOf args 1))))
    | .imul => do
      let m ← toInt (argOf args 0)
      pure (.number (intFloat (wrapSigned 32 (m * (← toInt (argOf args 1))))))
    | .hypot => do
      let xs ← args.mapM toNumber
      pure (.number (if xs.any Float.isInf then Number.infinity false
        else if xs.size = 1 then (xs.getD 0 0).abs
        else (xs.foldl (fun acc x => acc + x * x) 0).sqrt))
    | .max => do
      let xs ← args.mapM toNumber
      pure (.number (xs.foldl greatestOf (Number.infinity true)))
    | .min => do
      let xs ← args.mapM toNumber
      pure (.number (xs.foldl leastOf (Number.infinity false)))
    -- Runs are repeatable, so there is no chance in them.
    | _ => pure (.number 0.5)

/-! ## Addresses -/

/-- The characters that `encodeURI` keeps besides those of `encodeURIComponent`. -/
def addressMarks : List Char := [';', '/', '?', ':', '@', '&', '=', '+', '$', ',', '#']

/-- The characters that are never escaped in addresses. -/
def isUnreserved (n : Nat) : Bool :=
  n < 0x80 && ((Char.ofNat n).isAlphanum || ['-', '_', '.', '!', '~', '*', Char.ofNat 0x27, '(', ')'].contains (Char.ofNat n))

/-- Throws because an escape is malformed. -/
def uriError {α : Type} (message : String) : Act α := fail .uriError (Str.ofString message)

/-- The bytes of a point in UTF-8. -/
def utf8Of (n : Nat) : List Nat :=
  if n < 0x80 then [n]
  else if n < 0x800 then [0xC0 + n / 0x40, 0x80 + n % 0x40]
  else if n < 0x10000 then [0xE0 + n / 0x1000, 0x80 + n / 0x40 % 0x40, 0x80 + n % 0x40]
  else [0xF0 + n / 0x40000, 0x80 + n / 0x1000 % 0x40, 0x80 + n / 0x40 % 0x40, 0x80 + n % 0x40]

def hexPair (n : Nat) : String :=
  String.ofList [(Nat.digitChar (n / 16)).toUpper, (Nat.digitChar (n % 16)).toUpper]

def encodeAddress (s : Str) (keepMarks : Bool) : Act Value := do
  let out ← s.points.toList.foldlM (fun (out : Str) n => do
    if isUnreserved n || (keepMarks && n < 0x80 && addressMarks.contains (Char.ofNat n)) then pure (out.pushPoint n)
    else if Str.isSurrogate n then
      uriError (if n < 0xDC00 then "expecting surrogate pair" else "invalid character")
    else pure ((utf8Of n).foldl (fun out b => out ++ Str.ofString ("%" ++ hexPair b)) out)) .empty
  pure (.string out)

def readByte? : List UInt16 → Option (Nat × List UInt16)
  | p :: a :: b :: rest =>
    if isUnit p '%' then
      match (digitValue? a).filter (· < 16), (digitValue? b).filter (· < 16) with
      | some x, some y => some (x * 16 + y, rest)
      | _, _ => none
    else none
  | _ => none

/-- Reads the escaped bytes that follow the first of a point. -/
def readTail : Nat → Nat → List UInt16 → Option (Nat × List UInt16)
  | 0, n, us => some (n, us)
  | count + 1, n, us =>
    match readByte? us with
    | some (b, rest) => if b / 0x40 = 2 then readTail count (n * 0x40 + b % 0x40) rest else none
    | none => none

def decodeAddress (keepMarks : Bool) : Nat → List UInt16 → Str → Act Str
  | 0, _, out => pure out
  | _, [], out => pure out
  | fuel + 1, u :: rest, out => do
    if !isUnit u '%' then decodeAddress keepMarks fuel rest (out.pushUnit u)
    else
      match readByte? (u :: rest) with
      | none => uriError "expecting hex digit"
      | some (b, after) =>
        if b < 0x80 then
          if keepMarks && addressMarks.contains (Char.ofNat b) then
            decodeAddress keepMarks fuel after (out ++ Str.ofString "%" ++ ⟨(rest.take 2).toArray⟩)
          else decodeAddress keepMarks fuel after (out.pushPoint b)
        else
          let (count, lead, least) :=
            if 0xC0 ≤ b && b < 0xE0 then (1, b % 0x20, 0x80)
            else if 0xE0 ≤ b && b < 0xF0 then (2, b % 0x10, 0x800)
            else if 0xF0 ≤ b && b < 0xF8 then (3, b % 0x08, 0x10000)
            else (0, 0, 1)
          match readTail count lead after with
          | some (n, after) =>
            if n < least || 0x10FFFF < n || Str.isSurrogate n then uriError "malformed UTF-8"
            else decodeAddress keepMarks fuel after (out.pushPoint n)
          | none => uriError "expecting hex digit"

/-- The characters that `escape` keeps. -/
def isEscapeFree (u : UInt16) : Bool :=
  u < 0x80 && ((Char.ofNat u.toNat).isAlphanum || ['@', '*', '_', '+', '-', '.', '/'].contains (Char.ofNat u.toNat))

def escapeUnits (s : Str) : Str :=
  s.units.foldl (fun out u =>
    if isEscapeFree u then out.pushUnit u
    else if u < 0x100 then out ++ Str.ofString ("%" ++ hexPair u.toNat)
    else out ++ Str.ofString ("%u" ++ hexPair (u.toNat / 256) ++ hexPair (u.toNat % 256))) .empty

def unescapeUnits : Nat → List UInt16 → Str → Str
  | 0, _, out => out
  | _, [], out => out
  | fuel + 1, u :: rest, out =>
    let plain := unescapeUnits fuel rest (out.pushUnit u)
    if !isUnit u '%' then plain
    else
      let digits (us : List UInt16) (count : Nat) : Option Nat :=
        let ds := us.take count
        if ds.length = count && ds.all (isDigitOf 16) then some (numberOf 16 ds) else none
      match rest with
      | c :: more =>
        if isUnit c 'u' then
          match digits more 4 with
          | some n => unescapeUnits fuel (more.drop 4) (out.pushUnit n.toUInt16)
          | none => plain
        else
          match digits rest 2 with
          | some n => unescapeUnits fuel (rest.drop 2) (out.pushUnit n.toUInt16)
          | none => plain
      | [] => plain

/-- The functions of the global object, apart from `eval`. -/
def callGlobal (f : GlobalFunction) (args : Array Value) : Act Value := do
  let first := argOf args 0
  match f with
  | .eval => pure first
  | .parseInt => do
    let s ← toStr first
    let radix ← toInt (argOf args 1)
    pure (.number (if radix < 0 then nan else s.leadingInteger radix.toNat))
  | .parseFloat => do pure (.number (← toStr first).leadingFloat)
  | .isNaN => do pure (.bool (← toNumber first).isNaN)
  | .isFinite => do pure (.bool (← toNumber first).isFinite)
  | .encodeURI => do encodeAddress (← toStr first) true
  | .encodeURIComponent => do encodeAddress (← toStr first) false
  | .decodeURI => do
    let s ← toStr first
    pure (.string (← decodeAddress true (s.size + 1) s.units.toList .empty))
  | .decodeURIComponent => do
    let s ← toStr first
    pure (.string (← decodeAddress false (s.size + 1) s.units.toList .empty))
  | .escape => do pure (.string (escapeUnits (← toStr first)))
  | .unescape => do
    let s ← toStr first
    pure (.string (unescapeUnits (s.size + 1) s.units.toList .empty))

end BrainHost.Script
