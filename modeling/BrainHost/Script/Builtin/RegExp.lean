import BrainHost.Script.Pattern
import BrainHost.Script.Evaluate
import BrainHost.Script.Builtin.Text
import BrainHost.Script.Builtin.Array

/-! # `RegExp` -/

namespace BrainHost.Script

open Act

/-- The parts of the regular expression that a method is called on. -/
def thisRegExp (v : Value) : Act (Nat × Str × Str) := do
  match v with
  | .object ref =>
    match (← getObject ref).kind with
    | .regexp source flags => pure (ref, source, flags)
    | _ => typeError "RegExp object expected"
  | _ => typeError "RegExp object expected"

/-- Makes a regular expression, if its source and flags are sound. -/
def makeRegExp (source flags : Str) (proto : Nat) : Act Value := do
  if !validFlags flags then fail .syntaxError (Str.ofString "invalid regular expression flags")
  else
    match Expression.read? source (hasFlag flags 'u') with
    | .error message => fail .syntaxError (Str.ofString message)
    | .ok _ => do
      let o : Obj := { kind := .regexp source flags, proto := some proto }
      pure (.object (← newObject (o.put (.text "lastIndex") ⟨.data (.nat 0) true, false, false⟩)))

def spanValue (s : Str) : Option (Nat × Nat) → Value
  | some (a, b) => .string (s.extract a b)
  | none => .undefined

def matchResult (e : Expression) (s : Str) (groups : Array (Option (Nat × Nat))) : Act Value := do
  let named ←
    if e.names.isEmpty then pure Value.undefined
    else do
      let o : Obj := {}
      let parts := e.names.map fun (name, i) => (Key.ofStr name, .plain (spanValue s ((groups[i]?).getD none)))
      pure (.object (← newObject (o.putAll parts) (o.putAll_lent parts)))
  let start := (((groups[0]?).getD none).map (·.1)).getD 0
  match ← newArray (groups.map (spanValue s)) with
  | .object ref => do
    putNamed ref "index" (.nat start)
    putNamed ref "input" (.string s)
    putNamed ref "groups" named
    pure (.object ref)
  | v => pure v

/-- Matches a regular expression against a string, from where the last match ended if it is global. -/
def execBuiltin (v : Value) (s : Str) : Act Value := do
  let (ref, source, flags) ← thisRegExp v
  let last ← toLength (← getNamed ref "lastIndex")
  let goesOn := hasFlag flags 'g' || hasFlag flags 'y'
  let start := if goesOn then last else 0
  let remember (n : Nat) : Act Unit :=
    if goesOn then setProperty ref (.text "lastIndex") (.nat n) else pure ()
  match Expression.read? source (hasFlag flags 'u') with
  | .error message => fail .syntaxError (Str.ofString message)
  | .ok e => do
    let m : Matching :=
      { text := s.units, ignoreCase := hasFlag flags 'i', multiline := hasFlag flags 'm'
        dotAll := hasFlag flags 's', unicode := hasFlag flags 'u', names := e.names }
    let found :=
      if s.size < start then none
      else if hasFlag flags 'y' then m.matchAt e start
      else m.search e (s.size + 1 - start) start
    match found with
    | none => do
      remember 0
      pure .null
    | some groups => do
      remember ((((groups[0]?).getD none).map (·.2)).getD 0)
      matchResult e s groups

/-- Matches by the `exec` that an object has. -/
def execOf (v : Value) (s : Str) : Act Value := do
  let method ← getValue v (.text "exec")
  if ← read fun r => r.isCallable method then
    let result ← call method v #[.string s]
    match result with
    | .object _ => pure result
    | .null => pure result
    | _ => typeError "object or null expected"
  else execBuiltin v s

/-- The position after a match that is empty. -/
def stepOver (s : Str) (i : Nat) (unicode : Bool) : Nat :=
  if unicode && ((s.units[i]?).map isLead).getD false && ((s.units[i + 1]?).map isTrail).getD false then i + 2
  else i + 1

def flagsOf (v : Value) : Act Str := do toStr (← getValue v (.text "flags"))

def allResults (v : Value) (s : Str) (flags : Str) : Act (Array Value) := do
  let ref ← insistObject v
  setProperty ref (.text "lastIndex") (.nat 0)
  loop #[] fun acc => do
    match ← execOf v s with
    | .object result => do
      let text ← toStr (← getProperty result (.index 0))
      if text.isEmpty then
        let last ← toLength (← getNamed ref "lastIndex")
        setProperty ref (.text "lastIndex") (.nat (stepOver s last (hasFlag flags 'u')))
      pure (.error (acc.push (.object result)))
    | _ => pure (.ok acc)

/-- The text that replaces a match: dollar signs name parts of it. -/
def expandReplacement (s found : Str) (position : Nat) (groups : Array Value) (named : Value) :
    Nat → List UInt16 → Str → Act Str
  | 0, _, out => pure out
  | _, [], out => pure out
  | fuel + 1, u :: rest, out => do
    let go (rest : List UInt16) (out : Str) : Act Str := expandReplacement s found position groups named fuel rest out
    let group (n : Nat) : Act Str := do
      let v := groups[n - 1]?.getD .undefined
      if v.isUndefined then pure .empty else toStr v
    if !isUnit u '$' then go rest (out.pushUnit u)
    else
      match rest with
      | [] => pure (out.pushUnit u)
      | c :: more =>
        if isUnit c '$' then go more (out.pushUnit u)
        else if isUnit c '&' then go more (out ++ found)
        else if c = 0x60 then go more (out ++ s.extract 0 position)
        else if c = 0x27 then go more (out ++ s.extract (position + found.size) s.size)
        else if isUnit c '<' && !named.isUndefined then
          let name := more.takeWhile fun u => !isUnit u '>'
          if name.length = more.length then go rest (out.pushUnit u)
          else
            let v ← getValue named (.ofStr ⟨name.toArray⟩)
            let text ← if v.isUndefined then pure .empty else toStr v
            go (more.drop (name.length + 1)) (out ++ text)
        else
          match digitValue? c with
          | some d =>
            let two := match more with
              | e :: _ => if isDigitOf 10 c && isDigitOf 10 e then some (d * 10 + numberOf 10 [e]) else none
              | [] => none
            match two with
            | some n =>
              if 1 ≤ n && n ≤ groups.size then do go (more.drop 1) (out ++ (← group n))
              else if 1 ≤ d && d ≤ groups.size && d < 10 then do go more (out ++ (← group d))
              else go rest (out.pushUnit u)
            | none =>
              if 1 ≤ d && d ≤ groups.size && d < 10 then do go more (out ++ (← group d))
              else go rest (out.pushUnit u)
          | none => go rest (out.pushUnit u)

def replaceMatches (this : Value) (args : Array Value) : Act Value := do
  let s ← toStr (argOf args 0)
  let replacement := argOf args 1
  let isFunction ← read fun r => r.isCallable replacement
  let template ← if isFunction then pure .empty else toStr replacement
  let flags ← flagsOf this
  let results ←
    if hasFlag flags 'g' then allResults this s flags
    else
      match ← execOf this s with
      | .object ref => pure #[Value.object ref]
      | _ => pure #[]
  let (out, last) ← results.toList.foldlM (fun (out, last) result => do
    match result with
    | .object ref => do
      let count ← lengthOf ref
      let found ← toStr (← getProperty ref (.index 0))
      let position := ((← toWhole (← getNamed ref "index")).clamp 0 s.size).toNat
      let groups ← (List.range (count - 1)).mapM fun i => getProperty ref (.ofNat (i + 1))
      let named ← getNamed ref "groups"
      let new ←
        if isFunction then
          let base := #[Value.string found] ++ groups.toArray ++ #[.nat position, .string s]
          toStr (← call replacement .undefined (if named.isUndefined then base else base.push named))
        else
          expandReplacement s found position groups.toArray named (template.size + 1) template.units.toList .empty
      if last ≤ position then pure (out ++ s.extract last position ++ new, position + found.size)
      else pure (out, last)
    | _ => pure (out, last)) (Str.empty, 0)
  pure (.string (out ++ s.extract last s.size))

/-- The parts of a string between the matches of a regular expression. -/
def splitByPattern (this : Value) (args : Array Value) : Act Value := do
  let s ← toStr (argOf args 0)
  let (_, source, flags) ← thisRegExp this
  let limit ← if (argOf args 1).isUndefined then pure (Nat.pow 2 32 - 1) else do pure (toUInt32 (← toNumber (argOf args 1)))
  match Expression.read? source (hasFlag flags 'u') with
  | .error message => fail .syntaxError (Str.ofString message)
  | .ok e => do
    let m : Matching :=
      { text := s.units, ignoreCase := hasFlag flags 'i', multiline := hasFlag flags 'm'
        dotAll := hasFlag flags 's', unicode := hasFlag flags 'u', names := e.names }
    if limit = 0 then newArray #[]
    else if s.isEmpty then
      if (m.matchAt e 0).isSome then newArray #[] else newArray #[.string s]
    else
      let (pieces, last, _) := (List.range s.size).foldl (fun (acc, last, next) i =>
        if i < next then (acc, last, next)
        else
          match m.matchAt e i with
          | none => (acc, last, next)
          | some groups =>
            let stop := (((groups[0]?).getD none).map (·.2)).getD i
            if stop = last then (acc, last, next)
            else
              let acc := acc.push (Value.string (s.extract last i)) ++ (groups.extract 1 groups.size).map (spanValue s)
              (acc, stop, max stop (i + 1))) ((#[] : Array Value), 0, 0)
      newArray ((pieces.push (.string (s.extract last s.size))).extract 0 limit)

/-- The source of a regular expression as it is shown: a slash is escaped. -/
def shownSource (source : Str) : Str :=
  if source.isEmpty then "(?:)"
  else
    let (out, _, _) := source.units.foldl (fun (out, escaped, inClass) u =>
      if escaped then (out.pushUnit u, false, inClass)
      else if isUnit u '\\' then (out.pushUnit u, true, inClass)
      else if isUnit u '[' then (out.pushUnit u, false, true)
      else if isUnit u ']' then (out.pushUnit u, false, false)
      else if isUnit u '/' && !inClass then ((out.push '\\').pushUnit u, false, inClass)
      else if u = 0x0A then (out ++ Str.ofString "\\n", false, inClass)
      else (out.pushUnit u, false, inClass)) (Str.empty, false, false)
    out

/-- The functions of `RegExp`. -/
def callRegExp (f : RegExpFunction) (this : Value) (args : Array Value) (newTarget : Value) : Act Value := do
  let first := argOf args 0
  match f with
  | .construct => do
    let own ← match first with
      | .object ref =>
        match (← getObject ref).kind with
        | .regexp source flags => pure (some (source, flags))
        | _ => pure none
      | _ => pure none
    if newTarget.isUndefined && own.isSome && (argOf args 1).isUndefined then pure first
    else
      let source ← match own with
        | some (source, _) => pure source
        | none => if first.isUndefined then pure .empty else toStr first
      let flags ← match own, argOf args 1 with
        | some (_, flags), .undefined => pure flags
        | none, .undefined => pure .empty
        | _, v => toStr v
      makeRegExp source flags (← protoOfNew newTarget Intrinsic.regexpPrototype.ref)
  | .exec => do
    let _ ← thisRegExp this
    execBuiltin this (← toStr first)
  | .test => do
    let s ← toStr first
    pure (.bool (← execOf this s).isObject)
  | .toString => do
    let source ← toStr (← getValue this (.text "source"))
    let flags ← flagsOf this
    pure (.string (Str.ofString "/" ++ source ++ Str.ofString "/" ++ flags))
  | .source => do
    let (_, source, _) ← thisRegExp this
    pure (.string (shownSource source))
  | .flags => do
    let ref ← insistObject this
    let letters ← regexpFlags.filterM fun (_, name) => do pure (← getNamed ref name).truthy
    pure (.string (Str.ofList (letters.map (·.1))))
  | .flag letter => do
    let (_, _, flags) ← thisRegExp this
    pure (.bool (hasFlag flags letter))
  | .replace => replaceMatches this args
  | .matchFirst => do
    let s ← toStr first
    let flags ← flagsOf this
    if hasFlag flags 'g' then
      let results ← allResults this s flags
      if results.isEmpty then pure .null
      else
        let texts ← results.toList.mapM fun result => do
          match result with
          | .object ref => getProperty ref (.index 0)
          | v => pure v
        newArray texts.toArray
    else execOf this s
  | .matchAll => do
    let s ← toStr first
    let (_, source, flags) ← thisRegExp this
    let copy ← newRegExp source flags
    if hasFlag flags 'g' then do newListIterator (← newArray (← allResults copy s flags)) 1
    else
      match ← execOf copy s with
      | .object ref => do newListIterator (← newArray #[.object ref]) 1
      | _ => do newListIterator (← newArray #[]) 1
  | .search => do
    let s ← toStr first
    let (ref, _, _) ← thisRegExp this
    let last ← getNamed ref "lastIndex"
    setProperty ref (.text "lastIndex") (.nat 0)
    let result ← execOf this s
    setProperty ref (.text "lastIndex") last
    match result with
    | .object result => getNamed result "index"
    | _ => pure (.number (-1))
  | .split => splitByPattern this args

end BrainHost.Script
