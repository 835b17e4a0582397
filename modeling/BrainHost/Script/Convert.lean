import BrainHost.Script.Lookup

/-! # Conversions

Turning values into primitive values, numbers, strings, keys and objects. -/

namespace BrainHost.Script

open Act

def numberStr (x : Float) : Str :=
  match natural? x with
  | some n => Str.ofString (toString n)
  | none => Str.ofString (Number.text x)

/-- What kind of primitive value is wanted. -/
inductive Hint
  | default | number | string
  deriving DecidableEq

def Hint.name : Hint → String
  | default => "default"
  | number => "number"
  | string => "string"

/-- The result of the first method that gives a primitive value. -/
def firstPrimitive (v : Value) : List String → Act Value
  | [] => typeError "toPrimitive"
  | name :: rest => do
    let method ← getOf v (.text name)
    if ← read fun r => r.isCallable method then
      let w ← call method v #[]
      if w.isObject then firstPrimitive v rest else pure w
    else firstPrimitive v rest

def toPrimitive (v : Value) (hint : Hint) : Act Value := do
  if !v.isObject then pure v
  else
    let special ← getOf v WellKnown.toPrimitive.key
    if special.isNullish then
      firstPrimitive v (if hint = .string then ["toString", "valueOf"] else ["valueOf", "toString"])
    else if ← read fun r => r.isCallable special then
      let w ← call special v #[.text hint.name]
      if w.isObject then typeError "toPrimitive" else pure w
    else typeError "not a function"

def primitiveStr : Value → Act Str
  | .undefined => pure "undefined"
  | .null => pure "null"
  | .bool b => pure (Str.ofString (if b then "true" else "false"))
  | .number x => pure (numberStr x)
  | .string s => pure s
  | .symbol _ => typeError "cannot convert symbol to string"
  | .bigint n => pure (Str.ofString (toString n))
  | .object _ => typeError "toPrimitive"

def toStr (v : Value) : Act Str := do
  match v with
  | .string s => pure s
  | .object _ => primitiveStr (← toPrimitive v .string)
  | v => primitiveStr v

def primitiveNumber : Value → Act Float
  | .undefined => pure nan
  | .null => pure 0
  | .bool b => pure (if b then 1 else 0)
  | .number x => pure x
  | .string s => pure s.toNumber
  | .symbol _ => typeError "cannot convert symbol to number"
  | .bigint _ => typeError "cannot convert bigint to number"
  | .object _ => typeError "toPrimitive"

def toNumber (v : Value) : Act Float := do
  match v with
  | .number x => pure x
  | .object _ => primitiveNumber (← toPrimitive v .number)
  | v => primitiveNumber v

/-- The number or big integer of a value. -/
def toNumeric (v : Value) : Act Value := do
  match v with
  | .number x => pure (.number x)
  | v =>
    match ← toPrimitive v .number with
    | .bigint n => pure (.bigint n)
    | v => do pure (.number (← primitiveNumber v))

def toKey (v : Value) : Act Key := do
  match v with
  | .number x =>
    match natural? x with
    | some n => pure (.ofNat n)
    | none => pure (.ofStr (numberStr x))
  | .string s => pure (.ofStr s)
  | .symbol id => pure (.symbol id)
  | v =>
    match ← toPrimitive v .string with
    | .symbol id => pure (.symbol id)
    | v => do pure (.ofStr (← primitiveStr v))

/-- A whole number rounded toward zero; an infinity is kept apart. -/
inductive Whole
  | finite (n : Int)
  | infinite (negative : Bool)

def wholeOf (x : Float) : Whole :=
  if x.isNaN then .finite 0
  else if x.isInf then .infinite (x < 0)
  else .finite (toInteger x)

def toWhole (v : Value) : Act Whole := do pure (wholeOf (← toNumber v))

def Whole.clamp (w : Whole) (low high : Int) : Int :=
  match w with
  | .finite n => max low (min high n)
  | .infinite negative => if negative then low else high

/-- The place that a relative index means in a list; an index below zero counts from the end. -/
def relativeIndex (v : Value) (size : Nat) (missing : Nat) : Act Nat := do
  if v.isUndefined then pure missing
  else
    match ← toWhole v with
    | .finite n => pure (if n < 0 then (size + n).toNat else min n.toNat size)
    | .infinite negative => pure (if negative then 0 else size)

/-- A length: a whole number from 0 to `2 ^ 53 - 1`. -/
def toLength (v : Value) : Act Nat := do
  pure ((← toWhole v).clamp 0 (Int.pow 2 53 - 1)).toNat

def lengthOf (ref : Nat) : Act Nat := do
  let o ← getObject ref
  match o.kind with
  | .array _ length _ => pure length
  | _ => toLength (← getProperty ref lengthKey)

/-- A natural number that serves as an index, or a range error. -/
def toIndex (v : Value) (message : String) : Act Nat := do
  if v.isUndefined then pure 0
  else
    match ← toWhole v with
    | .finite n => if 0 ≤ n && n < Int.pow 2 53 then pure n.toNat else rangeError message
    | .infinite _ => rangeError message

/-- A value as a signed 32-bit integer. -/
def toInt (v : Value) : Act Int := do pure (toInt32 (← toNumber v))

def newWrapper (v : Value) (proto : Nat) : Act Nat := newObject { kind := .primitive v, proto := some proto }

def toObject (v : Value) : Act Nat := do
  match v with
  | .object ref => pure ref
  | v =>
    match protoOfPrimitive v with
    | some proto => newWrapper v proto
    | none => typeError "cannot convert to object"

def toBigInt (v : Value) : Act Int := do
  match ← toPrimitive v .number with
  | .bigint n => pure n
  | .bool b => pure (if b then 1 else 0)
  | .string s =>
    match s.toBigInt? with
    | some n => pure n
    | none => fail .syntaxError (Str.ofString "invalid bigint literal")
  | _ => typeError "cannot convert to BigInt"

/-- What `typeof` says of a value. -/
def Realm.typeName (r : Realm) : Value → String
  | .undefined => "undefined"
  | .null => "object"
  | .bool _ => "boolean"
  | .number _ => "number"
  | .string _ => "string"
  | .symbol _ => "symbol"
  | .bigint _ => "bigint"
  | .object ref => if r.isCallable (.object ref) then "function" else "object"

/-- Whether an object is an array, or a proxy of one. -/
def isArrayObject : Nat → Value → Act Bool
  | 0, _ => pure false
  | n + 1, v => do
    match v with
    | .object ref =>
      match (← getObject ref).kind with
      | .array _ _ _ => pure true
      | .proxy target handler _ _ => do
        let (t, _) ← proxyParts target handler
        isArrayObject n (.object t)
      | _ => pure false
    | _ => pure false

def isArray (v : Value) : Act Bool := isArrayObject reach v

/-- Whether an object can be made with `new`. -/
def Realm.isConstructor (r : Realm) (v : Value) : Bool :=
  match v with
  | .object ref =>
    match (r.object ref).kind with
    | .closure c =>
      match c.code with
      | .mk info _ _ =>
        match info.kind with
        | .normal => info.coroutine = .none
        | .constructor => true
        | .derivedConstructor => true
        | _ => false
    | .native f => constructs f
    | .bound target _ _ => (match (r.object target).kind with
      | .closure c =>
        match c.code with
        | .mk info _ _ => info.kind = .normal || info.kind = .constructor || info.kind = .derivedConstructor
      | .native f => constructs f
      | .proxy _ _ _ constructs => constructs
      | .bound _ _ _ => true
      | _ => false)
    | .proxy _ _ _ constructs => constructs
    | _ => false
  | _ => false
where
  /-- Whether a built-in function makes objects. -/
  constructs : Native → Bool
    | .object .construct => true
    | .function (.construct _ _) => true
    | .error (.construct _) => true
    | .primitive .boolean => true
    | .primitive .number => true
    | .primitive .symbol => true
    | .primitive .bigint => true
    | .string .construct => true
    | .array .construct => true
    | .proxy => true
    | .collection .construct _ _ => true
    | .promise .construct => true
    | .buffer .construct => true
    | .buffer .viewConstruct => true
    | .buffer .typedAbstract => true
    | .buffer (.typedConstruct _) => true
    | .date .construct => true
    | .regexp .construct => true
    | _ => false

end BrainHost.Script
