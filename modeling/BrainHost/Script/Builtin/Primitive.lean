import BrainHost.Script.Builtin.Object

/-! # Wrapped primitives

`Boolean`, `Number`, `Symbol` and `BigInt`. -/

namespace BrainHost.Script

open Act

/-- An object that wraps a value, for a constructor that was called with `new`. -/
def wrap (v : Value) (newTarget : Value) (fallback : Intrinsic) : Act Value := do
  if newTarget.isUndefined then pure v
  else
    let proto ← match newTarget with
      | .object ref => do
        match ← getNamed ref "prototype" with
        | .object p => pure p
        | _ => pure fallback.ref
      | _ => pure fallback.ref
    pure (.object (← newWrapper v proto))

/-- The value that an object wraps, or the value itself. -/
def unwrapped (v : Value) : Act Value := do
  match v with
  | .object ref =>
    match (← getObject ref).kind with
    | .primitive w => pure w
    | _ => pure v
  | v => pure v

def thisNumber (v : Value) : Act Float := do
  match ← unwrapped v with
  | .number x => pure x
  | _ => typeError "not a number"

def thisBool (v : Value) : Act Bool := do
  match ← unwrapped v with
  | .bool b => pure b
  | _ => typeError "not a boolean"

def thisSymbol (v : Value) : Act Nat := do
  match ← unwrapped v with
  | .symbol id => pure id
  | _ => typeError "not a symbol"

def thisBigInt (v : Value) : Act Int := do
  match ← unwrapped v with
  | .bigint n => pure n
  | _ => typeError "not a BigInt"

def radixOf (v : Value) : Act Nat := do
  if v.isUndefined then pure 10
  else
    match ← toWhole v with
    | .finite n => if 2 ≤ n && n ≤ 36 then pure n.toNat else rangeError "radix must be between 2 and 36"
    | .infinite _ => rangeError "radix must be between 2 and 36"

def digitCount (v : Value) (low high : Nat) : Act Nat := do
  match ← toWhole v with
  | .finite n => if low ≤ n && n ≤ high then pure n.toNat else rangeError "invalid number of digits"
  | .infinite _ => rangeError "invalid number of digits"

/-- A number as text, where it is finite. -/
def finiteText (x : Float) (f : Number.Binary → String) : Value :=
  match Number.toBinary? x with
  | some b => .text (f b)
  | none => .text (Number.text x)

def Realm.description (r : Realm) (id : Nat) : Option Str := (r.symbols[id]?).getD none

def newSymbol (description : Option Str) : Act Nat :=
  update fun r => (r.symbols.size, { r with symbols := r.symbols.push description })

/-- A text in a radix, with a sign. -/
def bigText (radix : Nat) (n : Int) : String :=
  (if n < 0 then "-" else "") ++ String.ofList (Nat.toDigits radix n.natAbs)

def callPrimitive (f : PrimitiveFunction) (this : Value) (args : Array Value) (newTarget : Value) : Act Value := do
  let first := argOf args 0
  match f with
  | .boolean => wrap (.bool first.truthy) newTarget .booleanPrototype
  | .booleanToString => do pure (.text (if ← thisBool this then "true" else "false"))
  | .booleanValueOf => do pure (.bool (← thisBool this))
  | .number => do
    let x ← if args.isEmpty then pure 0 else
      match ← toNumeric first with
      | .bigint n => pure (Number.ofInt n)
      | .number x => pure x
      | _ => pure nan
    wrap (.number x) newTarget .numberPrototype
  | .numberIsFinite =>
    match first with
    | .number x => pure (.bool x.isFinite)
    | _ => pure (.bool false)
  | .numberIsInteger =>
    match first with
    | .number x => pure (.bool (x.isFinite && x.floor == x))
    | _ => pure (.bool false)
  | .numberIsNaN =>
    match first with
    | .number x => pure (.bool x.isNaN)
    | _ => pure (.bool false)
  | .numberIsSafeInteger =>
    match first with
    | .number x => pure (.bool (x.isFinite && x.floor == x && x.abs ≤ 9007199254740991))
    | _ => pure (.bool false)
  | .numberToExponential => do
    let x ← thisNumber this
    if first.isUndefined then
      pure (finiteText x fun b =>
        if b.mantissa = 0 then "0e+0" else (if b.negative then "-" else "") ++ Number.exponential b.shortest)
    else
      let whole ← toWhole first
      if !x.isFinite then pure (.text (Number.text x))
      else
        match whole with
        | .finite n =>
          if 0 ≤ n && n ≤ 100 then pure (finiteText x fun b => Number.scientific b (n.toNat + 1))
          else rangeError "invalid number of digits"
        | .infinite _ => rangeError "invalid number of digits"
  | .numberToFixed => do
    let x ← thisNumber this
    let count ← digitCount first 0 100
    if x.abs ≥ 1e21 then pure (.string (numberStr x)) else pure (finiteText x fun b => Number.fixed b count)
  | .numberToPrecision => do
    let x ← thisNumber this
    if first.isUndefined then pure (.string (numberStr x))
    else
      let whole ← toWhole first
      if !x.isFinite then pure (.text (Number.text x))
      else
        match whole with
        | .finite n =>
          if 1 ≤ n && n ≤ 100 then pure (finiteText x fun b => Number.precision b n.toNat)
          else rangeError "invalid number of digits"
        | .infinite _ => rangeError "invalid number of digits"
  | .numberToString => do
    let x ← thisNumber this
    let radix ← radixOf first
    pure (if radix = 10 then .string (numberStr x) else .text (radixText radix x))
  | .numberValueOf => do pure (.number (← thisNumber this))
  | .symbol => do
    if !newTarget.isUndefined then typeError "not a constructor"
    else
      let description ← if first.isUndefined then pure none else do pure (some (← toStr first))
      pure (.symbol (← newSymbol description))
  | .symbolFor => do
    let k ← toStr first
    match ← read fun r => r.symbolKeys.find? fun p => p.1 == k with
    | some (_, id) => pure (.symbol id)
    | none => do
      let id ← newSymbol (some k)
      modify fun r => { r with symbolKeys := r.symbolKeys.push (k, id) }
      pure (.symbol id)
  | .symbolKeyFor => do
    match first with
    | .symbol id => do
      match ← read fun r => r.symbolKeys.find? fun p => p.2 = id with
      | some (k, _) => pure (.string k)
      | none => pure .undefined
    | _ => typeError "not a symbol"
  | .symbolToString => do
    let id ← thisSymbol this
    let description ← read fun r => r.description id
    pure (.string (Str.ofString "Symbol(" ++ description.getD .empty ++ Str.ofString ")"))
  | .symbolValueOf => do pure (.symbol (← thisSymbol this))
  | .symbolToPrimitive => do pure (.symbol (← thisSymbol this))
  | .symbolDescription => do
    let id ← thisSymbol this
    match ← read fun r => r.description id with
    | some s => pure (.string s)
    | none => pure .undefined
  | .bigint => do
    if !newTarget.isUndefined then typeError "not a constructor"
    else
      match ← toPrimitive first .number with
      | .number x =>
        if !x.isFinite then rangeError "cannot convert NaN or Infinity to BigInt"
        else if x.floor == x then pure (.bigint (toInteger x))
        else rangeError "cannot convert to BigInt: not an integer"
      | v => do pure (.bigint (← toBigInt v))
  | .bigintAsIntN => do
    let bits ← toIndex first "invalid array index"
    pure (.bigint (wrapSigned bits (← toBigInt (argOf args 1))))
  | .bigintAsUintN => do
    let bits ← toIndex first "invalid array index"
    pure (.bigint (wrapUnsigned bits (← toBigInt (argOf args 1))))
  | .bigintToString => do
    let n ← thisBigInt this
    pure (.text (bigText (← radixOf first) n))
  | .bigintValueOf => do pure (.bigint (← thisBigInt this))

end BrainHost.Script
