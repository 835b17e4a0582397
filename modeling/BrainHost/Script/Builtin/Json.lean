import BrainHost.Script.Evaluate.Program
import BrainHost.Script.Builtin.Array

/-! # `JSON`

Values from JSON text and JSON text from values. -/

namespace BrainHost.Script

open Act

/-! ## Reading -/

mutual

def Realm.ofJson (r : Realm) : Json → Value × Realm
  | .null => (.null, r)
  | .bool b => (.bool b, r)
  | .number x => (.number x, r)
  | .string s => (.string s, r)
  | .array items =>
    let (vs, r) := r.ofJsonItems #[] items
    let (ref, r) := r.allocate { kind := .array vs vs.size true, proto := some Intrinsic.arrayPrototype.ref }
    (.object ref, r)
  | .object members =>
    let (o, r) := r.ofJsonMembers { proto := some Intrinsic.objectPrototype.ref } members
    let (ref, r) := r.allocate o
    (.object ref, r)

def Realm.ofJsonItems (r : Realm) (acc : Array Value) : List Json → Array Value × Realm
  | [] => (acc, r)
  | j :: rest =>
    let (v, r) := r.ofJson j
    r.ofJsonItems (acc.push v) rest

def Realm.ofJsonMembers (r : Realm) (o : Obj) : List (Str × Json) → Obj × Realm
  | [] => (o, r)
  | (key, j) :: rest =>
    let (v, r) := r.ofJson j
    r.ofJsonMembers (o.put (.ofStr key) (.plain v)) rest

end

mutual

theorem Realm.ofJson_still (r : Realm) : ∀ j, r.Still (r.ofJson j).2
  | .null => .refl r
  | .bool _ => .refl r
  | .number _ => .refl r
  | .string _ => .refl r
  | .array items => (r.ofJsonItems_still #[] items).trans (.allocate _ rfl)
  | .object members =>
    have made := r.ofJsonMembers_still (o := { proto := some Intrinsic.objectPrototype.ref }) rfl members
    made.1.trans (.allocate _ made.2)

theorem Realm.ofJsonItems_still (r : Realm) (acc : Array Value) : ∀ items, r.Still (r.ofJsonItems acc items).2
  | [] => .refl r
  | j :: rest => (r.ofJson_still j).trans (Realm.ofJsonItems_still _ _ rest)

theorem Realm.ofJsonMembers_still (r : Realm) {o : Obj} (own : o.lent = none) :
    ∀ members, r.Still (r.ofJsonMembers o members).2 ∧ (r.ofJsonMembers o members).1.lent = none
  | [] => ⟨.refl r, own⟩
  | (key, j) :: rest =>
    have others := Realm.ofJsonMembers_still (r.ofJson j).2 (o := o.put (.ofStr key) (.plain (r.ofJson j).1)) own rest
    ⟨(r.ofJson_still j).trans others.1, others.2⟩

end

/-- The place after some units of a text: its line from 1, its column in characters from 0. -/
def placeAfter : List UInt16 → Nat → Nat → Nat × Nat
  | [], line, column => (line, column)
  | u :: rest, line, column =>
    if u = 0x0A then placeAfter rest (line + 1) 0
    else placeAfter rest line (if isTrail u then column else column + 1)

/-- The fault of a text that is no JSON, as scripts see it. -/
def jsonFault (us rest : List UInt16) (fault : JsonFault) : SyntaxFault :=
  let (line, column) := placeAfter (us.take (us.length - rest.length)) 1 0
  { message := fault.message.toText, line, column }

def readJson (s : Str) : Act Value := do
  let us := s.units.toList
  match Json.ofUnits? us with
  | .ok j => update (fun r => r.ofJson j) fun r => r.ofJson_still j
  | .error (.tooDeep, _) => stackOverflow
  | .error (fault, rest) => throwSyntax inputFile (jsonFault us rest fault)

/-- Lets a function replace the parts of a value that was read, from the inside out. -/
def reviveFrom (f : Value) : Nat → Nat → Key → Act Value
  | 0, _, _ => stackOverflow
  | n + 1, holder, k => do
    let v ← getProperty holder k
    match v with
    | .object ref => do
      let keys ←
        if ← isArray v then do pure ((Array.range (← lengthOf ref)).map Key.ofNat)
        else enumerableKeys ref
      keys.toList.forM fun key => do
        match ← reviveFrom f n ref key with
        | .undefined => do
          let _ ← deleteProperty ref key
        | w => do
          let _ ← defineOwn ref key (.ofProperty (.plain w))
    | _ => pure ()
    call f (.object holder) #[k.toValue, v]

/-- The function `JSON.parse`. -/
def parseJson (args : Array Value) : Act Value := do
  let v ← readJson (← toStr (argOf args 0))
  let reviver := argOf args 1
  if ← read fun r => r.isCallable reviver then
    let holder ← newPlain
    putProperty holder (.name .empty) (.plain v)
    reviveFrom reviver Json.maxDepth holder (.name .empty)
  else pure v

/-! ## Writing -/

/-- How values are written: what replaces them and which keys are kept. -/
structure JsonRules where
  replacer : Value := .undefined
  keys : Option (List Key) := none

def replacedValue (rules : JsonRules) (holder : Value) (k : Key) (v : Value) : Act Value := do
  let special ← match v with
    | .object _ => getOf v (.text "toJSON")
    | .bigint _ => getOf v (.text "toJSON")
    | _ => pure .undefined
  let v ← if ← read fun r => r.isCallable special then call special v #[k.toValue] else pure v
  if rules.replacer.isUndefined then pure v else call rules.replacer holder #[k.toValue, v]

def unwrapForJson (v : Value) : Act Value := do
  match v with
  | .object ref =>
    match (← getObject ref).kind with
    | .primitive (.number _) => do pure (.number (← toNumber v))
    | .primitive (.string _) => do pure (.string (← toStr v))
    | .primitive (.bool b) => pure (.bool b)
    | .primitive (.bigint n) => pure (.bigint n)
    | _ => pure v
  | v => pure v

section

variable (part : List Nat → Value → Key → Value → Act (Option Json)) (around : List Nat)

/-- Adds the tree of one item of an array, if there is one left. -/
def itemRound (ref count : Nat) (s : Nat × Array Json) : Act (Except (Nat × Array Json) (Array Json)) := do
  if count ≤ s.1 then pure (.ok s.2)
  else
    let item ← getProperty ref (.ofNat s.1)
    let j ← part (ref :: around) (.object ref) (.ofNat s.1) item
    pure (.error (s.1 + 1, s.2.push (j.getD .null)))

/-- Adds the tree of one member of an object, if a key is left. -/
def memberRound (ref : Nat) (s : List Key × Array (Str × Json)) :
    Act (Except (List Key × Array (Str × Json)) (Array (Str × Json))) := do
  match s.1 with
  | [] => pure (.ok s.2)
  | key :: rest => do
    let item ← getProperty ref key
    match ← part (ref :: around) (.object ref) key item with
    | some j => pure (.error (rest, s.2.push ((key.toStr?).getD .empty, j)))
    | none => pure (.error (rest, s.2))

/-- The tree of an object; some keys may be the only ones that are kept. -/
def partsOf (kept : Option (List Key)) (ref : Nat) : Act (Option Json) := do
  if ← read fun r => r.isCallable (.object ref) then pure none
  else if around.contains ref then typeError "circular reference"
  else if ← isArray (.object ref) then do
    let count ← lengthOf ref
    let items ← loop (0, #[]) (itemRound part around ref count)
    pure (some (.array items.toList))
  else do
    let keys ← match kept with
      | some keys => pure keys
      | none => do pure (← enumerableKeys ref).toList
    let members ← loop (keys, #[]) (memberRound part around ref)
    pure (some (.object members.toList))

/-- The tree of a value that nothing replaces. A value that has none is left out. -/
def treeOf (kept : Option (List Key)) : Value → Act (Option Json)
  | .undefined => pure none
  | .symbol _ => pure none
  | .null => pure (some .null)
  | .bool b => pure (some (.bool b))
  | .number x => pure (some (.number x))
  | .string s => pure (some (.string s))
  | .bigint _ => typeError "Do not know how to serialize a BigInt"
  | .object ref => partsOf part around kept ref

end

/-- The tree of a value. The list holds the objects around it. -/
def snapshot (rules : JsonRules) : Nat → List Nat → Value → Key → Value → Act (Option Json)
  | 0, _, _, _, _ => stackOverflow
  | n + 1, around, holder, k, v => do
    treeOf (snapshot rules n) around rules.keys (← unwrapForJson (← replacedValue rules holder k v))

def indentation (v : Value) : Act Str := do
  match ← unwrapForJson v with
  | .number x => pure ((Str.ofString " ").replicate ((wholeOf x).clamp 0 10).toNat)
  | .string s => pure (s.extract 0 10)
  | _ => pure .empty

def keptKeys (ref : Nat) : Act (List Key) := do
  let items ← listItems ref (← lengthOf ref)
  items.toList.foldlM (fun (acc : List Key) item => do
    let item ← unwrapForJson item
    match item with
    | .string s => pure (if acc.contains (.ofStr s) then acc else acc ++ [.ofStr s])
    | .number x => do
      let k := Key.ofStr (numberStr x)
      pure (if acc.contains k then acc else acc ++ [k])
    | _ => pure acc) []

/-- The JSON text of a value, if it has one. -/
def writeJson (v replacer space : Value) : Act (Option Str) := do
  let rules ← match replacer with
    | .object ref => do
      if ← read fun r => r.isCallable replacer then pure { replacer : JsonRules }
      else if ← isArray replacer then do
        let keys ← keptKeys ref
        pure { keys := some keys : JsonRules }
      else pure {}
    | _ => pure {}
  let gap ← indentation space
  let holder ← newPlain
  putProperty holder (.name .empty) (.plain v)
  let j ← snapshot rules Json.maxDepth [] (.object holder) (.name .empty) v
  pure (j.map (Json.render gap))

/-- The function `JSON.stringify`. -/
def stringifyJson (args : Array Value) : Act Value := do
  match ← writeJson (argOf args 0) (argOf args 1) (argOf args 2) with
  | some s => pure (.string s)
  | none => pure .undefined

end BrainHost.Script
