import BrainHost.Script.Change

/-! # Operators

The operators of expressions on values. -/

namespace BrainHost.Script

open Act

/-- The remainder of two doubles, with the sign of the first. -/
def remainder (x y : Float) : Float :=
  if x.isNaN || y.isNaN || x.isInf || y == 0 then nan
  else if y.isInf || x == 0 then x
  else
    match natural? x, natural? y with
    | some m, some n => natFloat (m % n)
    | _, _ =>
      match Number.toBinary? x, Number.toBinary? y with
      | some a, some b =>
        let unit := min a.exponent b.exponent
        let m := a.mantissa * Nat.pow 2 (a.exponent - unit).toNat % (b.mantissa * Nat.pow 2 (b.exponent - unit).toNat)
        if unit ≥ 0 then Number.ofRatio a.negative (m * Nat.pow 2 unit.toNat) 1
        else Number.ofRatio a.negative m (Nat.pow 2 (-unit).toNat)
      | _, _ => nan

/-- A power. A one with an infinite exponent has none. -/
def power (x y : Float) : Float :=
  if y.isNaN then nan
  else if y == 0 then 1
  else if y.isInf && x.abs == 1 then nan
  else Float.pow x y

/-- The left shift of a big integer; a negative count shifts right. -/
def shiftBig (m n : Int) : Int := if n ≥ 0 then m * Int.pow 2 n.toNat else m >>> (-n).toNat

/-- A bit operation on integers in two's complement of enough bits. -/
def bitwiseBig (f : Nat → Nat → Nat) (m n : Int) : Int :=
  let bits := max m.natAbs.log2 n.natAbs.log2 + 2
  wrapSigned bits (f (wrapUnsigned bits m) (wrapUnsigned bits n))

def bigArithmetic (op : BinaryOp) (m n : Int) : Act Value :=
  match op with
  | .add => pure (.bigint (m + n))
  | .sub => pure (.bigint (m - n))
  | .mul => pure (.bigint (m * n))
  | .div => if n = 0 then rangeError "division by zero" else pure (.bigint (m.tdiv n))
  | .mod => if n = 0 then rangeError "division by zero" else pure (.bigint (m.tmod n))
  | .exp => if n < 0 then rangeError "negative exponent" else pure (.bigint (Int.pow m n.toNat))
  | .shiftLeft => pure (.bigint (shiftBig m n))
  | .shiftRight => pure (.bigint (shiftBig m (-n)))
  | .and => pure (.bigint (bitwiseBig Nat.land m n))
  | .or => pure (.bigint (bitwiseBig Nat.lor m n))
  | .xor => pure (.bigint (bitwiseBig Nat.xor m n))
  | _ => typeError "bigint operands are forbidden for >>>"

def arithmetic (op : BinaryOp) (x y : Float) : Float :=
  let ints (f : Nat → Nat → Nat) : Float := intFloat (wrapSigned 32 (f (toUInt32 x) (toUInt32 y)))
  match op with
  | .add => x + y
  | .sub => x - y
  | .mul => x * y
  | .div => x / y
  | .mod => remainder x y
  | .exp => power x y
  | .shiftLeft => intFloat (wrapSigned 32 (toInt32 x * Int.pow 2 (toUInt32 y % 32)))
  | .shiftRight => intFloat (toInt32 x >>> (toUInt32 y % 32))
  | .shiftRightUnsigned => natFloat (toUInt32 x >>> (toUInt32 y % 32))
  | .and => ints Nat.land
  | .or => ints Nat.lor
  | .xor => ints Nat.xor
  | _ => nan

/-- An operator on two values that are to be numbers of one kind. -/
def numericOp (op : BinaryOp) (v w : Value) : Act Value := do
  match v, w with
  | .number x, .number y => pure (.number (arithmetic op x y))
  | v, w =>
    let v ← toNumeric v
    let w ← toNumeric w
    match v, w with
    | .number x, .number y => pure (.number (arithmetic op x y))
    | .bigint m, .bigint n => bigArithmetic op m n
    | _, _ => typeError "cannot convert to BigInt"

/-- The sum of two values, or their strings one after the other. -/
def addValues (v w : Value) : Act Value := do
  match v, w with
  | .number x, .number y => pure (.number (x + y))
  | .string s, .string t => pure (.string (s ++ t))
  | v, w =>
    let v ← toPrimitive v .default
    let w ← toPrimitive w .default
    match v, w with
    | .string s, w => do pure (.string (s ++ (← primitiveStr w)))
    | v, .string t => do pure (.string ((← primitiveStr v) ++ t))
    | v, w => numericOp .add v w

/-- How a double compares with a whole number; a value that is no number does not. -/
def compareWithInt (x : Float) (n : Int) : Option Ordering :=
  if x.isNaN then none
  else
    match Number.toBinary? x with
    | none => some (if x < 0 then .lt else .gt)
    | some b =>
      let m : Int := if b.negative then -(b.mantissa : Int) else b.mantissa
      if b.exponent ≥ 0 then some (compare (m * Int.pow 2 b.exponent.toNat) n)
      else some (compare m (n * Int.pow 2 (-b.exponent).toNat))

def flipOrdering : Ordering → Ordering
  | .lt => .gt
  | .eq => .eq
  | .gt => .lt

/-- How two primitive values compare, if they do. -/
def comparePrimitives (v w : Value) : Act (Option Ordering) := do
  match v, w with
  | .string s, .string t => pure (some (if s == t then .eq else if s.less t then .lt else .gt))
  | .bigint m, .bigint n => pure (some (compare m n))
  | .bigint m, .string t => pure (t.toBigInt?.map fun n => compare m n)
  | .string s, .bigint n => pure (s.toBigInt?.map fun m => compare m n)
  | .bigint m, w => do
    let y ← primitiveNumber w
    pure ((compareWithInt y m).map flipOrdering)
  | v, .bigint n => do
    let x ← primitiveNumber v
    pure (compareWithInt x n)
  | v, w => do
    let x ← primitiveNumber v
    let y ← primitiveNumber w
    pure (if x < y then some .lt else if x > y then some .gt else if x == y then some .eq else none)

def relational (op : BinaryOp) (v w : Value) : Act Bool := do
  match v, w with
  | .number x, .number y =>
    pure (match op with
      | .less => x < y
      | .greater => x > y
      | .lessEqual => x ≤ y
      | _ => x ≥ y)
  | v, w =>
    let v ← toPrimitive v .number
    let w ← toPrimitive w .number
    let order ← comparePrimitives v w
    pure (match op, order with
      | .less, some o => o == .lt
      | .greater, some o => o == .gt
      | .lessEqual, some o => o != .gt
      | .greaterEqual, some o => o != .lt
      | _, _ => false)

/-- Equality of `==` between primitive values. -/
def loosePrimitive (v w : Value) : Act Bool := do
  match v, w with
  | .undefined, w => pure w.isNullish
  | .null, w => pure w.isNullish
  | .number x, .number y => pure (x == y)
  | .string s, .string t => pure (s == t)
  | .bool a, .bool b => pure (a == b)
  | .symbol a, .symbol b => pure (a == b)
  | .bigint m, .bigint n => pure (m == n)
  | .symbol _, _ => pure false
  | _, .symbol _ => pure false
  | _, .undefined => pure false
  | _, .null => pure false
  | .bigint m, .string t => pure (t.toBigInt? == some m)
  | .string s, .bigint n => pure (s.toBigInt? == some n)
  | .bigint m, w => do pure (compareWithInt (← primitiveNumber w) m == some .eq)
  | v, .bigint n => do pure (compareWithInt (← primitiveNumber v) n == some .eq)
  | v, w => do
    let x ← primitiveNumber v
    let y ← primitiveNumber w
    pure (x == y)

/-- Equality of `==`. -/
def looseEq (v w : Value) : Act Bool := do
  match v, w with
  | .object a, .object b => pure (a == b)
  | .object a, w => if w.isNullish then pure false else loosePrimitive (← toPrimitive (.object a) .default) w
  | v, .object b => if v.isNullish then pure false else loosePrimitive v (← toPrimitive (.object b) .default)
  | v, w => loosePrimitive v w

/-- Whether the prototype of a constructor is among the prototypes of a value. -/
def ordinaryInstance : Nat → Value → Value → Act Bool
  | 0, _, _ => stackOverflow
  | n + 1, v, f => do
    match f with
    | .object ref =>
      if !(← read fun r => r.isCallable f) then pure false
      else
        match (← getObject ref).kind with
        | .bound target _ _ => ordinaryInstance n v (.object target)
        | _ =>
          match v with
          | .object o =>
            match ← getNamed ref "prototype" with
            | .object p => search reach o p
            | _ => typeError "operand 'prototype' property is not an object"
          | _ => pure false
    | _ => pure false
where
  /-- Looks for a prototype among those of an object. -/
  search : Nat → Nat → Nat → Act Bool
    | 0, _, _ => stackOverflow
    | n + 1, o, p => do
      match ← getPrototype reach o with
      | none => pure false
      | some q => if q = p then pure true else search n q p

/-- The operator `instanceof`. -/
def instanceOf (v f : Value) : Act Bool := do
  if !f.isObject then typeError "invalid 'instanceof' right operand"
  else
    let method ← getMethod f WellKnown.hasInstance.key
    if method.isUndefined then
      if ← read fun r => r.isCallable f then ordinaryInstance reach v f
      else typeError "invalid 'instanceof' right operand"
    else do pure (← call method f #[v]).truthy

def binary (op : BinaryOp) (v w : Value) : Act Value := do
  match op with
  | .add => addValues v w
  | .less => do pure (.bool (← relational op v w))
  | .greater => do pure (.bool (← relational op v w))
  | .lessEqual => do pure (.bool (← relational op v w))
  | .greaterEqual => do pure (.bool (← relational op v w))
  | .equal => do pure (.bool (← looseEq v w))
  | .notEqual => do pure (.bool !(← looseEq v w))
  | .strictEqual => pure (.bool (v.strictEq w))
  | .strictNotEqual => pure (.bool !(v.strictEq w))
  | .instanceof => do pure (.bool (← instanceOf v w))
  | .isIn =>
    match w with
    | .object ref => do pure (.bool (← has ref (← toKey v)))
    | _ => typeError "invalid 'in' operand"
  | op => numericOp op v w

def unary (op : UnaryOp) (v : Value) : Act Value := do
  match op with
  | .not => pure (.bool !v.truthy)
  | .void => pure .undefined
  | .typeof => do pure (.text (← read fun r => r.typeName v))
  | .plus => do
    match ← toNumeric v with
    | .bigint _ => typeError "bigint argument with unary +"
    | v => pure v
  | .minus =>
    match ← toNumeric v with
    | .bigint n => pure (.bigint (-n))
    | .number x => pure (.number (-x))
    | _ => pure .undefined
  | .complement =>
    match ← toNumeric v with
    | .bigint n => pure (.bigint (-n - 1))
    | .number x => pure (.number (intFloat (-(toInt32 x) - 1)))
    | _ => pure .undefined

end BrainHost.Script
