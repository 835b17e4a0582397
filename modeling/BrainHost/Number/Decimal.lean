import BrainHost.Number.Binary

/-! # Doubles in decimal

The digits of a double at a given precision, the fewest digits that read back as the double, and
the layouts in which scripts write numbers. -/

namespace BrainHost.Number

/-- A magnitude in decimal: the digits of `digits` with the point after the first `point` of them. -/
structure Decimal where
  digits : List Nat
  point : Int
  deriving DecidableEq, Repr

/-- The decimal digits of a number, at least one. -/
def digitsOf (n : Nat) : List Nat := (Nat.toDigits 10 n).map fun c => c.toNat - '0'.toNat

/-- Which way an exact half goes. -/
inductive Tie
  | toEven | away
  deriving DecidableEq, Repr

def roundQuotient (tie : Tie) (num den : Nat) : Nat :=
  let q := num / den
  let r := num % den
  if 2 * r < den then q
  else if 2 * r > den then q + 1
  else match tie with
    | .toEven => if q % 2 = 0 then q else q + 1
    | .away => q + 1

def Binary.ratio (b : Binary) : Nat × Nat :=
  if b.exponent ≥ 0 then (b.mantissa * Nat.pow 2 b.exponent.toNat, 1) else (b.mantissa, Nat.pow 2 (-b.exponent).toNat)

/-- The number `e` with `10 ^ (e - 1) ≤ num / den < 10 ^ e`. -/
def decimalExponent (num den : Nat) : Int :=
  let guess : Int := (num.log2 : Int) - den.log2
  -- The quotient of the logarithms is within one of the answer.
  let e : Int := guess * 30103 / 100000
  let reaches (k : Int) : Bool := if k ≥ 0 then den * Nat.pow 10 k.toNat ≤ num else den ≤ num * Nat.pow 10 (-k).toNat
  if reaches (e + 1) then e + 2 else if reaches e then e + 1 else if reaches (e - 1) then e else e - 1

/-- `num / den * 10 ^ places` as a whole number. -/
def scaledRound (tie : Tie) (num den : Nat) (places : Int) : Nat :=
  if places ≥ 0 then roundQuotient tie (num * Nat.pow 10 places.toNat) den
  else roundQuotient tie num (den * Nat.pow 10 (-places).toNat)

/-- A positive magnitude rounded to `count` significant digits. -/
def Binary.significant (tie : Tie) (b : Binary) (count : Nat) : Decimal :=
  let (num, den) := b.ratio
  let e := decimalExponent num den
  let n := scaledRound tie num den (count - e)
  if n ≥ Nat.pow 10 count then ⟨digitsOf (n / 10), e + 1⟩ else ⟨digitsOf n, e⟩

/-- Whether `digits * 10 ^ exponent` reads back as the magnitude. -/
def Binary.readsBack (b : Binary) (digits : Nat) (exponent : Int) : Bool :=
  match toBinary? (ofDecimal false digits exponent) with
  | none => false
  | some r => r.mantissa = b.mantissa && r.exponent = b.exponent

def ofDigits (ds : List Nat) : Nat := ds.foldl (fun n d => n * 10 + d) 0

/-- The shortest rounding of a positive magnitude, of at least `count` digits, that reads back. -/
def Binary.shortestFrom (b : Binary) : Nat → Nat → Decimal
  | 0, count => b.significant .toEven count
  | more + 1, count =>
    let d := b.significant .toEven count
    if b.readsBack (ofDigits d.digits) (d.point - d.digits.length) then d
    else b.shortestFrom more (count + 1)

/-- The shortest rounding of a positive magnitude that reads back; 17 digits always do. -/
def Binary.shortest (b : Binary) : Decimal := b.shortestFrom 16 1

def digitText (ds : List Nat) : String := String.ofList (ds.map fun d => Char.ofNat (d + '0'.toNat))

def zeros (n : Nat) : String := "".pushn '0' n

/-- Digits with an exponent: the first, a point before the others, and the power of ten. -/
def exponential (d : Decimal) : String :=
  let e := d.point - 1
  let mantissa := match d.digits with
    | [] => "0"
    | [x] => digitText [x]
    | x :: rest => digitText [x] ++ "." ++ digitText rest
  mantissa ++ (if e < 0 then "e-" else "e+") ++ toString e.natAbs

/-- Digits around a point, with zeros where digits are missing. -/
def positional (d : Decimal) : String :=
  let n := d.digits.length
  if d.point ≤ 0 then "0." ++ zeros (-d.point).toNat ++ digitText d.digits
  else
    let p := d.point.toNat
    if n ≤ p then digitText d.digits ++ zeros (p - n)
    else digitText (d.digits.take p) ++ "." ++ digitText (d.digits.drop p)

/-- A magnitude written positionally from `10 ^ -7` up to `10 ^ 21`, and with an exponent otherwise. -/
def Decimal.text (d : Decimal) : String :=
  if -6 < d.point && d.point ≤ 21 then positional d else exponential d

def text (x : Float) : String :=
  match toBinary? x with
  | none => if x.isNaN then "NaN" else if signBit x then "-Infinity" else "Infinity"
  | some b =>
    if b.mantissa = 0 then "0" else (if b.negative then "-" else "") ++ b.shortest.text

/-- A finite number with exactly `places` digits after the point. -/
def fixed (b : Binary) (places : Nat) : String :=
  let (num, den) := b.ratio
  let n := scaledRound .away num den places
  let ds := toString n
  let ds := zeros (places + 1 - ds.length) ++ ds
  let whole := ds.toList.take (ds.length - places)
  let fraction := ds.toList.drop (ds.length - places)
  let body := String.ofList whole ++ (if places = 0 then "" else "." ++ String.ofList fraction)
  if b.negative && b.mantissa ≠ 0 then "-" ++ body else body

/-- A finite number with `count` significant digits and an exponent. -/
def scientific (b : Binary) (count : Nat) : String :=
  let d : Decimal := if b.mantissa = 0 then ⟨List.replicate count 0, 1⟩ else b.significant .away count
  (if b.negative && b.mantissa ≠ 0 then "-" else "") ++ exponential d

/-- A finite number with `count` significant digits, positional where that shows all of them. -/
def precision (b : Binary) (count : Nat) : String :=
  let d : Decimal := if b.mantissa = 0 then ⟨List.replicate count 0, 1⟩ else b.significant .away count
  let sign := if b.negative && b.mantissa ≠ 0 then "-" else ""
  if d.point < -5 || d.point > count then sign ++ exponential d else sign ++ positional d

end BrainHost.Number
