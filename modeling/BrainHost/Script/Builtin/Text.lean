import BrainHost.Script.Builtin.Primitive
import BrainHost.Text.Casing

/-! # `String` -/

namespace BrainHost.Script

open Act

def thisStr (v : Value) : Act Str := do
  if v.isNullish then typeError "null or undefined are forbidden" else toStr v

/-- A position in a string, held between its ends. -/
def positionIn (s : Str) (v : Value) (missing : Nat) : Act Nat := do
  if v.isUndefined then pure missing else do pure ((← toWhole v).clamp 0 s.size).toNat

/-- A string with the points of a function for each of its points. -/
def mapPoints (f : Nat → List Nat) (s : Str) : Str :=
  s.points.foldl (fun out n => (f n).foldl Str.pushPoint out) .empty

def padded (s : Str) (args : Array Value) (atEnd : Bool) : Act Value := do
  let length ← toLength (argOf args 0)
  if length ≤ s.size then pure (.string s)
  else
    let filler ← if (argOf args 1).isUndefined then pure (Str.ofString " ") else toStr (argOf args 1)
    if filler.isEmpty then pure (.string s)
    else if length > 1073741823 then rangeError "invalid string length"
    else
      let count := length - s.size
      let pad := (filler.replicate (count / filler.size + 1)).extract 0 count
      pure (.string (if atEnd then s ++ pad else pad ++ s))

/-- A string that is no regular expression. -/
def plainStr (v : Value) : Act Str := do
  match v with
  | .object ref =>
    match (← getObject ref).kind with
    | .regexp _ _ => typeError "regexp not supported"
    | _ => toStr v
  | v => toStr v

/-- What a replacement text means for a match at a position, given as units. -/
def substitute (s found : Str) (position : Nat) : List UInt16 → Str → Str
  | [], out => out
  | [u], out => out.pushUnit u
  | u :: c :: rest, out =>
    if !isUnit u '$' then substitute s found position (c :: rest) (out.pushUnit u)
    else if isUnit c '$' then substitute s found position rest (out.pushUnit u)
    else if isUnit c '&' then substitute s found position rest (out ++ found)
    else if c = 0x60 then substitute s found position rest (out ++ s.extract 0 position)
    else if c = 0x27 then substitute s found position rest (out ++ s.extract (position + found.size) s.size)
    else substitute s found position (c :: rest) (out.pushUnit u)

/-- The positions at which a string stands, one after the other. -/
def positionsOf (s part : Str) : Nat → Nat → List Nat
  | 0, _ => []
  | fuel + 1, start =>
    match s.indexOf? part start with
    | none => []
    | some i => i :: positionsOf s part fuel (i + max 1 part.size)

/-- Replaces the first match or all of them. -/
def replaceText (s : Str) (args : Array Value) (all : Bool) : Act Value := do
  let part ← toStr (argOf args 0)
  let replacement := argOf args 1
  let isFunction ← read fun r => r.isCallable replacement
  let text ← if isFunction then pure .empty else toStr replacement
  let positions := positionsOf s part (if all then s.size + 1 else 1) 0
  let (out, last) ← positions.foldlM (fun (out, last) i => do
    let new ←
      if isFunction then toStr (← call replacement .undefined #[.string part, .nat i, .string s])
      else pure (substitute s part i text.units.toList .empty)
    pure (out ++ s.extract last i ++ new, i + part.size)) (Str.empty, 0)
  pure (.string (out ++ s.extract last s.size))

/-- Fails for a regular expression that stops at its first match. -/
def insistGlobal (pattern : Value) : Act Unit := do
  match pattern with
  | .object ref =>
    match (← getObject ref).kind with
    | .regexp _ _ => do
      let flags ← getNamed ref "flags"
      if flags.isNullish then typeError "cannot convert to object"
      else if (← toStr flags).units.contains (unitOf 'g') then pure ()
      else typeError "regexp must have the 'g' flag"
    | _ => pure ()
  | _ => pure ()

/-- Calls a method that the pattern brings along, or does something else. Some methods want every
match of a regular expression. -/
def byPattern (this pattern : Value) (w : WellKnown) (every : Bool) (rest : Array Value) (otherwise : Act Value) :
    Act Value := do
  if this.isNullish then typeError "cannot convert to object"
  else if pattern.isNullish then otherwise
  else
    let method ← getMethod pattern w.key
    if every then insistGlobal pattern
    if method.isUndefined then otherwise else call method pattern (#[this] ++ rest)

def splitText (s : Str) (separator limit : Value) : Act Value := do
  let count ← if limit.isUndefined then pure (Nat.pow 2 32 - 1) else do pure (toUInt32 (← toNumber limit))
  let part ← toStr separator
  if count = 0 then newArray #[]
  else if separator.isUndefined then newArray #[.string s]
  else if part.isEmpty then
    newArray ((s.units.map fun u => Value.string (.ofUnit u)).extract 0 count)
  else
    let (pieces, last) := (positionsOf s part (s.size + 1) 0).foldl (fun (acc, last) i =>
      (acc.push (Value.string (s.extract last i)), i + part.size)) ((#[] : Array Value), 0)
    newArray ((pieces.push (.string (s.extract last s.size))).extract 0 count)

/-- The functions of `String`. -/
def callString (f : StringFunction) (this : Value) (args : Array Value) (newTarget : Value) : Act Value := do
  let first := argOf args 0
  let second := argOf args 1
  match f with
  | .construct => do
    let s ←
      if args.isEmpty then pure Str.empty
      else
        match first, newTarget with
        | .symbol id, .undefined => do
          let description ← read fun r => r.description id
          pure (Str.ofString "Symbol(" ++ description.getD .empty ++ Str.ofString ")")
        | v, _ => toStr v
    wrap (.string s) newTarget .stringPrototype
  | .fromCharCode => do
    let s ← args.toList.foldlM (fun (s : Str) v => do
      pure (s.pushUnit (wrapUnsigned 16 (toInteger (← toNumber v))).toUInt16)) .empty
    pure (.string s)
  | .fromCodePoint => do
    let s ← args.toList.foldlM (fun (s : Str) v => do
      let x ← toNumber v
      match natural? x with
      | some n => if n ≤ 0x10FFFF then pure (s.pushPoint n) else rangeError "invalid code point"
      | none => rangeError "invalid code point") .empty
    pure (.string s)
  | .raw => do
    let cooked ← toObject first
    let raw ← toObject (← getNamed cooked "raw")
    let count ← lengthOf raw
    let s ← (List.range count).foldlM (fun (s : Str) i => do
      let s := s ++ (← toStr (← getProperty raw (.ofNat i)))
      if i + 1 < count && i + 1 < args.size then do pure (s ++ (← toStr (argOf args (i + 1)))) else pure s) .empty
    pure (.string s)
  | .toString => do
    match ← unwrapped this with
    | .string s => pure (.string s)
    | _ => typeError "not a string"
  | .replace => byPattern this first .replace false #[second] do replaceText (← toStr this) args false
  | .replaceAll => byPattern this first .replace true #[second] do replaceText (← toStr this) args true
  | .split => byPattern this first .split false #[second] do splitText (← toStr this) first second
  | .matchFirst => byPattern this first .matching false #[] do
    let s ← toStr this
    callMethod (← newPattern first) WellKnown.matching.key #[.string s]
  | .matchAll => byPattern this first .matchAll true #[] do
    let s ← toStr this
    callMethod (← newPattern first) WellKnown.matchAll.key #[.string s]
  | .search => byPattern this first .search false #[] do
    let s ← toStr this
    callMethod (← newPattern first) WellKnown.search.key #[.string s]
  | .concat => do
    let s ← thisStr this
    let s ← args.toList.foldlM (fun (s : Str) v => do pure (s ++ (← toStr v))) s
    pure (.string s)
  | f => do
    let s ← thisStr this
    match f with
    | .atIndex => do
      match ← toWhole first with
      | .finite n =>
        let i := if n < 0 then (s.size : Int) + n else n
        match if 0 ≤ i then s.units[i.toNat]? else none with
        | some u => pure (.string (.ofUnit u))
        | none => pure .undefined
      | .infinite _ => pure .undefined
    | .charAt => do
      match ← unitAt s first with
      | some u => pure (.string (.ofUnit u))
      | none => pure (.string .empty)
    | .charCodeAt => do
      match ← unitAt s first with
      | some u => pure (.nat u.toNat)
      | none => pure (.number nan)
    | .codePointAt => do
      match ← toWhole first with
      | .finite n =>
        if 0 ≤ n then
          match (s.extract n.toNat (n.toNat + 2)).points[0]? with
          | some p => pure (.nat p)
          | none => pure .undefined
        else pure .undefined
      | .infinite _ => pure .undefined
    | .endsWith => do
      let part ← plainStr first
      let stop ← positionIn s second s.size
      pure (.bool (part.size ≤ stop && s.hasAt part (stop - part.size)))
    | .startsWith => do
      let part ← plainStr first
      pure (.bool (s.hasAt part (← positionIn s second 0)))
    | .includes => do
      let part ← plainStr first
      pure (.bool (s.indexOf? part (← positionIn s second 0)).isSome)
    | .indexOf => do
      let part ← toStr first
      match s.indexOf? part (← positionIn s second 0) with
      | some i => pure (.nat i)
      | none => pure (.number (-1))
    | .lastIndexOf => do
      let part ← toStr first
      let x ← toNumber second
      let start := if x.isNaN then s.size else ((wholeOf x).clamp 0 s.size).toNat
      match s.lastIndexOf? part start with
      | some i => pure (.nat i)
      | none => pure (.number (-1))
    | .localeCompare => do
      let t ← toStr first
      pure (.number (if s == t then 0 else if s.less t then -1 else 1))
    | .normalize => do
      let form ← if first.isUndefined then pure (Str.ofString "NFC") else toStr first
      if ["NFC", "NFD", "NFKC", "NFKD"].any (form.isText ·) then pure (.string s)
      else rangeError "bad normalization form"
    | .padEnd => padded s args true
    | .padStart => padded s args false
    | .replicate => do
      match ← toWhole first with
      | .finite n =>
        if n < 0 || n > 2147483647 then rangeError "invalid repeat count"
        else if n.toNat * s.size > 1073741823 then rangeError "invalid string length"
        else pure (.string (s.replicate n.toNat))
      | .infinite _ => rangeError "invalid repeat count"
    | .slice => do
      let start ← relativeIndex first s.size 0
      let stop ← relativeIndex second s.size s.size
      pure (.string (s.extract start stop))
    | .substr => do
      let start ← relativeIndex first s.size 0
      let count ← if second.isUndefined then pure (s.size - start)
        else do pure ((← toWhole second).clamp 0 ((s.size - start : Nat) : Int)).toNat
      pure (.string (s.extract start (start + count)))
    | .substring => do
      let a ← positionIn s first 0
      let b ← positionIn s second s.size
      pure (.string (s.extract (min a b) (max a b)))
    | .toLowerCase => pure (.string (mapPoints Text.lowerPoints s))
    | .toUpperCase => pure (.string (mapPoints Text.upperPoints s))
    | .trim => pure (.string s.trim)
    | .trimEnd => pure (.string s.trimEnd)
    | .trimStart => pure (.string s.trimStart)
    | .iterator => do
      pure (.object (← newObject
        { kind := .iterator (.string s 0), proto := some Intrinsic.stringIteratorPrototype.ref }))
    | _ => pure .undefined
where
  unitAt (s : Str) (v : Value) : Act (Option UInt16) := do
    match ← toWhole v with
    | .finite n => pure (if 0 ≤ n then s.units[n.toNat]? else none)
    | .infinite _ => pure none
  /-- A regular expression for a value that is none. -/
  newPattern (v : Value) : Act Value :=
    BrainHost.Script.Act.construct (.object Intrinsic.regexpConstructor.ref) (if v.isUndefined then #[] else #[v])
      (.object Intrinsic.regexpConstructor.ref)

end BrainHost.Script
