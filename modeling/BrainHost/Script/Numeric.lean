import BrainHost.Number.Decimal
import BrainHost.Script.Str

/-! # Numbers in scripts

Reading numbers from text, and the conversions of a double to fixed-width integers. -/

namespace BrainHost.Script

open Number

/-- The value of a digit or letter as a digit. -/
def digitValue? (u : UInt16) : Option Nat :=
  let n := u.toNat
  if 0x30 ≤ n && n ≤ 0x39 then some (n - 0x30)
  else if 0x61 ≤ n && n ≤ 0x7A then some (n - 0x61 + 10)
  else if 0x41 ≤ n && n ≤ 0x5A then some (n - 0x41 + 10)
  else none

def isDigitOf (radix : Nat) (u : UInt16) : Bool :=
  match digitValue? u with
  | some d => d < radix
  | none => false

def numberOf (radix : Nat) (us : List UInt16) : Nat :=
  us.foldl (fun n u => n * radix + (digitValue? u).getD 0) 0

def unitOf (c : Char) : UInt16 := c.toNat.toUInt16

def isUnit (u : UInt16) (c : Char) : Bool := u == unitOf c

/-- Reads the digits of a decimal number and what follows them. -/
def spanDigits (us : List UInt16) : List UInt16 × List UInt16 := us.span (isDigitOf 10)

/-- Reads an exponent, if digits follow its mark. -/
def readExponentPart (us : List UInt16) : Int × List UInt16 :=
  match us with
  | e :: rest =>
    if isUnit e 'e' || isUnit e 'E' then
      let (negative, digits) := match rest with
        | s :: more => if isUnit s '-' then (true, more) else if isUnit s '+' then (false, more) else (false, rest)
        | [] => (false, [])
      match spanDigits digits with
      | ([], _) => (0, us)
      | (ds, rest) =>
        let n : Int := numberOf 10 ds
        (if negative then -n else n, rest)
    else (0, us)
  | [] => (0, [])

/-- Reads an unsigned decimal number that starts with a digit, or with a point and a digit. -/
def readDecimal? (negative : Bool) (us : List UInt16) : Option (Float × List UInt16) :=
  let (whole, rest) := spanDigits us
  let (fraction, rest) := match rest with
    | p :: more => if isUnit p '.' then
        let (ds, after) := spanDigits more
        if whole.isEmpty && ds.isEmpty then ([], rest) else (ds, after)
      else ([], rest)
    | [] => ([], rest)
  if whole.isEmpty && fraction.isEmpty then none
  else
    let (e, rest) := readExponentPart rest
    some (ofDecimal negative (numberOf 10 (whole ++ fraction)) (e - fraction.length), rest)

/-- The value that is no number. -/
def nan : Float := Float.ofBits 0x7FF8000000000000

/-- The radix that a prefix such as `0x` announces. -/
def radixOf? (u : UInt16) : Option Nat :=
  if isUnit u 'x' || isUnit u 'X' then some 16
  else if isUnit u 'o' || isUnit u 'O' then some 8
  else if isUnit u 'b' || isUnit u 'B' then some 2
  else none

/-- The number that a text without surrounding blanks writes. -/
def numberOfUnits (us : List UInt16) : Float :=
  match us with
  | [] => 0
  | z :: r :: digits =>
    match if isUnit z '0' then radixOf? r else none with
    | some radix =>
      if !digits.isEmpty && digits.all (isDigitOf radix) then ofInt (numberOf radix digits) else nan
    | none => signed us
  | _ => signed us
where
  /-- A decimal number or an infinity with an optional sign. -/
  signed (us : List UInt16) : Float :=
    let (negative, body) := match us with
      | s :: rest => if isUnit s '-' then (true, rest) else if isUnit s '+' then (false, rest) else (false, us)
      | [] => (false, [])
    if body = (Str.ofString "Infinity").units.toList then infinity negative
    else match readDecimal? negative body with
      | some (x, []) => x
      | _ => nan

def Str.toNumber (s : Str) : Float := numberOfUnits s.trim.units.toList

/-- The number that the start of a string writes, as far as it is one. -/
def Str.leadingFloat (s : Str) : Float :=
  let us := s.trimStart.units.toList
  let (negative, body) := match us with
    | c :: rest => if isUnit c '-' then (true, rest) else if isUnit c '+' then (false, rest) else (false, us)
    | [] => (false, [])
  if (Str.ofString "Infinity").units.toList.isPrefixOf body then infinity negative
  else match readDecimal? negative body with
    | some (x, _) => x
    | none => nan

/-- The whole number that the start of a string writes in the given radix; 0 is a radix to be
found out. -/
def Str.leadingInteger (s : Str) (radix : Nat) : Float :=
  let us := s.trimStart.units.toList
  let (negative, body) := match us with
    | c :: rest => if isUnit c '-' then (true, rest) else if isUnit c '+' then (false, rest) else (false, us)
    | [] => (false, [])
  let hexadecimal := match body with
    | z :: x :: _ => (radix = 0 || radix = 16) && isUnit z '0' && (isUnit x 'x' || isUnit x 'X')
    | _ => false
  let (radix, body) :=
    if hexadecimal then (16, body.drop 2) else (if radix = 0 then 10 else radix, body)
  let digits := body.takeWhile (isDigitOf radix)
  if radix < 2 || 36 < radix || digits.isEmpty then nan
  else ofRatio negative (numberOf radix digits) 1

/-- The whole number that a big integer's text writes, if it writes one. -/
def Str.toBigInt? (s : Str) : Option Int :=
  match s.trim.units.toList with
  | [] => some 0
  | us@(z :: r :: digits) =>
    match if isUnit z '0' then radixOf? r else none with
    | some radix =>
      if !digits.isEmpty && digits.all (isDigitOf radix) then some (numberOf radix digits) else none
    | none => signed us
  | us => signed us
where
  /-- A decimal number with an optional sign. -/
  signed (us : List UInt16) : Option Int :=
    let (negative, body) := match us with
      | s :: rest => if isUnit s '-' then (true, rest) else if isUnit s '+' then (false, rest) else (false, us)
      | [] => (false, [])
    if body.isEmpty || !body.all (isDigitOf 10) then none
    else
      let n : Int := numberOf 10 body
      some (if negative then -n else n)

/-- A double rounded toward zero; infinities and what is no number give 0. -/
def toInteger (x : Float) : Int := (truncate? x).getD 0

/-- The unsigned integer of `bits` bits with the same remainder. -/
def wrapUnsigned (bits : Nat) (n : Int) : Nat := (n % (Nat.pow 2 bits : Nat)).toNat

/-- The signed integer of `bits` bits with the same remainder. -/
def wrapSigned (bits : Nat) (n : Int) : Int :=
  let m := wrapUnsigned bits n
  if m < Nat.pow 2 (bits - 1) then m else (m : Int) - Int.pow 2 bits

/-- A double as a signed 32-bit integer. -/
def toInt32 (x : Float) : Int := wrapSigned 32 (toInteger x)

/-- A double as an unsigned 32-bit integer. -/
def toUInt32 (x : Float) : Nat := wrapUnsigned 32 (toInteger x)

def natFloat (n : Nat) : Float := if n < Nat.pow 2 53 then n.toUInt64.toFloat else Number.ofInt n

def intFloat (n : Int) : Float := if 0 ≤ n then natFloat n.toNat else -(natFloat n.natAbs)

/-- The natural number that a double is, if it is one below `2 ^ 53`. -/
def natural? (x : Float) : Option Nat :=
  if 0 ≤ x && x < 9007199254740992 then
    let n := x.toUInt64.toNat
    if natFloat n == x then some n else none
  else none

/-- A magnitude in another radix than ten, with as many digits of a fraction as are needed. -/
def radixText (radix : Nat) (x : Float) : String :=
  match toBinary? x with
  | none => Number.text x
  | some b =>
    let (num, den) := b.ratio
    let digit (d : Nat) : Char := Nat.digitChar d
    let whole := String.ofList (Nat.toDigits radix (num / den))
    let rec fraction : Nat → Nat → Nat → List Char
      | 0, _, _ => []
      | places + 1, rest, slack =>
        if rest = 0 then []
        else
          let scaled := rest * radix
          let d := scaled / den
          let rest := scaled % den
          let slack := slack * radix
          if 2 * rest < slack then [digit d]
          else if 2 * (den - rest) < slack then [digit (d + 1)]
          else digit d :: fraction places rest slack
    -- Half the distance to the next double tells when enough digits are written.
    let slack := if b.exponent < 0 then 1 else 0
    let tail := fraction 1100 (num % den) slack
    let body := if tail.isEmpty then whole else whole ++ "." ++ String.ofList tail
    if b.negative && b.mantissa ≠ 0 then "-" ++ body else body

end BrainHost.Script
