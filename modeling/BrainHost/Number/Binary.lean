/-! # Doubles as exact numbers

A finite double is a whole number times a power of two. Rounding a quotient to the nearest double
works on whole numbers only, with ties to the even neighbour. -/

namespace BrainHost.Number

/-- A finite double: `mantissa * 2 ^ exponent`, or its negation. -/
structure Binary where
  negative : Bool
  mantissa : Nat
  exponent : Int
  deriving DecidableEq, Repr

def signBit (x : Float) : Bool := x.toBits >>> 63 = 1

/-- The exact value of a double, unless it is infinite or no number. -/
def toBinary? (x : Float) : Option Binary :=
  let bits := x.toBits.toNat
  let negative := bits / Nat.pow 2 63 = 1
  let exponent : Nat := bits / Nat.pow 2 52 % Nat.pow 2 11
  let fraction : Nat := bits % Nat.pow 2 52
  if exponent = 2047 then none
  else if exponent = 0 then some ⟨negative, fraction, -1074⟩
  else some ⟨negative, fraction + Nat.pow 2 52, (exponent : Int) - 1075⟩

/-- The value of a double as a whole number, rounded toward zero. -/
def truncate? (x : Float) : Option Int :=
  (toBinary? x).map fun b =>
    let magnitude : Nat :=
      if b.exponent ≥ 0 then b.mantissa * Nat.pow 2 b.exponent.toNat else b.mantissa / Nat.pow 2 (-b.exponent).toNat
    if b.negative then -magnitude else magnitude

/-- The double with the given sign that is not a number's. -/
def infinity (negative : Bool) : Float :=
  Float.ofBits (if negative then 0xFFF0000000000000 else 0x7FF0000000000000)

def zero (negative : Bool) : Float := Float.ofBits (if negative then 0x8000000000000000 else 0)

/-- The quotient rounded to a whole number, ties to even. -/
def roundDiv (num den : Nat) : Nat :=
  let q := num / den
  let r := num % den
  if 2 * r < den then q else if 2 * r > den then q + 1 else if q % 2 = 0 then q else q + 1

/-- The double nearest to `num / den`, ties to even. -/
def ofRatio (negative : Bool) (num den : Nat) : Float :=
  if num = 0 || den = 0 then zero negative
  else
    -- The quotient lies between `2 ^ (top - 1)` and `2 ^ (top + 1)`.
    let top : Int := num.log2 - den.log2
    let atLeast : Bool := if top ≥ 0 then den * Nat.pow 2 top.toNat ≤ num else den ≤ num * Nat.pow 2 (-top).toNat
    let lead : Int := if atLeast then top else top - 1
    let unit : Int := max (lead - 52) (-1074)
    let m := if unit ≥ 0 then roundDiv num (den * Nat.pow 2 unit.toNat) else roundDiv (num * Nat.pow 2 (-unit).toNat) den
    -- A carry out of the mantissa moves on to the next exponent by itself.
    let bits : Nat := if m < Nat.pow 2 52 then m else (unit + 1074).toNat * Nat.pow 2 52 + m
    if bits ≥ 0x7FF0000000000000 then infinity negative
    else Float.ofBits (UInt64.ofNat (if negative then bits + Nat.pow 2 63 else bits))

/-- The double nearest to `digits * 10 ^ exponent`. -/
def ofDecimal (negative : Bool) (digits : Nat) (exponent : Int) : Float :=
  if digits = 0 then zero negative
  else
    -- Far outside the range of doubles the power of ten need not be built.
    let size : Int := digits.log2 / 3 + exponent
    if size > 400 then infinity negative
    else if (digits.log2 / 4 : Int) + exponent < -400 && size < -400 then zero negative
    else if exponent ≥ 0 then ofRatio negative (digits * Nat.pow 10 exponent.toNat) 1
    else ofRatio negative digits (Nat.pow 10 (-exponent).toNat)

def ofInt (n : Int) : Float := ofRatio (n < 0) n.natAbs 1

end BrainHost.Number
