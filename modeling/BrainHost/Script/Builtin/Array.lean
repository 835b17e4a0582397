import BrainHost.Script.Builtin.Primitive

/-! # `Array`

The functions of arrays, which work on every object that is like an array. -/

namespace BrainHost.Script

open Act

/-- An array with its length. -/
structure ListView where
  ref : Nat
  length : Nat

def thisList (v : Value) : Act ListView := do
  let ref ← toObject v
  pure ⟨ref, ← lengthOf ref⟩

def insistFunction (v : Value) : Act Value := do
  if ← read fun r => r.isCallable v then pure v else typeError "not a function"

/-- Sets the length of an object that is like an array. -/
def setLength (ref : Nat) (n : Nat) : Act Unit := setProperty ref lengthKey (.nat n)

/-- Goes through positions in order; stops at the first that gives a result. -/
def visit {α : Type} (count : Nat) (body : Nat → Act (Option α)) : Act (Option α) :=
  loop (0 : Nat) fun i => do
    if count ≤ i then pure (.ok none)
    else
      match ← body i with
      | some a => pure (.ok (some a))
      | none => pure (.error (i + 1))

def visitAll (count : Nat) (body : Nat → Act Unit) : Act Unit := do
  let _ ← visit count fun i => do
    body i
    pure (none : Option Unit)

/-- Goes through positions from the last to the first. -/
def visitDown {α : Type} (count : Nat) (body : Nat → Act (Option α)) : Act (Option α) :=
  visit count fun i => body (count - 1 - i)

/-- An item, where there is one. -/
def itemAt? (ref : Nat) (i : Nat) : Act (Option Value) := do
  if ← has ref (.ofNat i) then do pure (some (← getProperty ref (.ofNat i))) else pure none

/-- Moves an item, or its absence, to another place. -/
def moveItem (ref : Nat) (source target : Nat) : Act Unit := do
  match ← itemAt? ref source with
  | some v => setProperty ref (.ofNat target) v
  | none => insist (deleteProperty ref (.ofNat target))

/-- Makes an array in the manner of another, of the same kind. -/
def newLike (origin : Value) (length : Nat) : Act Nat := do
  let plain : Act Nat := do
    let o : Obj := { kind := .array #[] length true, proto := some Intrinsic.arrayPrototype.ref }
    newObject o
  if !(← isArray origin) then plain
  else
    let constructor ← getOf origin (.text "constructor")
    let constructor ← match constructor with
      | .object ref => do
        let species ← getProperty ref WellKnown.species.key
        pure (if species.isNullish then .undefined else species)
      | v => pure v
    if constructor.isUndefined || constructor.ref? = some Intrinsic.arrayConstructor.ref then plain
    else
      match ← construct constructor #[.nat length] constructor with
      | .object ref => pure ref
      | _ => typeError "not an object"

/-! ## Sorting -/

/-- Merges two sorted lists; an item of the first comes first where neither is less. -/
def mergeBy (less : Value → Value → Act Bool) : Nat → List Value → List Value → Array Value → Act (Array Value)
  | 0, _, _, acc => pure acc
  | _, [], ys, acc => pure (acc ++ ys.toArray)
  | _, xs, [], acc => pure (acc ++ xs.toArray)
  | fuel + 1, x :: xs, y :: ys, acc => do
    if ← less y x then mergeBy less fuel (x :: xs) ys (acc.push y)
    else mergeBy less fuel xs (y :: ys) (acc.push x)

/-- Sorts a list and keeps the order of items of which neither is less. -/
def sortBy (less : Value → Value → Act Bool) : Nat → List Value → Act (List Value)
  | 0, xs => pure xs
  | depth + 1, xs => do
    if xs.length ≤ 1 then pure xs
    else
      let half := xs.length / 2
      let left ← sortBy less depth (xs.take half)
      let right ← sortBy less depth (xs.drop half)
      do pure (← mergeBy less (xs.length + 1) left right #[]).toList

/-- Whether a comparison function puts the first value before the second. -/
def isLess (comparison : Value) (v w : Value) : Act Bool := do
  if comparison.isUndefined then do
    let s ← toStr v
    let t ← toStr w
    pure (s.less t)
  else do pure ((← toNumber (← call comparison .undefined #[v, w])) < 0)

/-- Sorts values; those that are undefined come last. -/
def sortValues (comparison : Value) (vs : Array Value) : Act (Array Value) := do
  let (gaps, known) := vs.partition Value.isUndefined
  let sorted ← sortBy (isLess comparison) 64 known.toList
  pure (sorted.toArray ++ gaps)

/-! ## Parts -/

/-- Adds the items of arrays to another, up to a depth. -/
def flatten (out : Nat) : Nat → Int → ListView → Nat → Act Nat
  | 0, _, _, _ => stackOverflow
  | fuel + 1, depth, source, start => do
    let position ← loop ((0, start) : Nat × Nat) fun (i, position) => do
      if source.length ≤ i then pure (.ok position)
      else
        match ← itemAt? source.ref i with
        | none => pure (.error (i + 1, position))
        | some v => do
          let position ← add fuel depth v position
          pure (.error (i + 1, position))
    pure position
where
  /-- Adds one item. -/
  add (fuel : Nat) (depth : Int) (v : Value) (position : Nat) : Act Nat := do
    match v with
    | .object ref => do
      if depth > 0 && (← isArray v) then flatten out fuel (depth - 1) ⟨ref, ← lengthOf ref⟩ position
      else do
        createProperty out (.ofNat position) v
        pure (position + 1)
    | v => do
      createProperty out (.ofNat position) v
      pure (position + 1)

/-- Whether a value's items are added one by one by `concat`. -/
def isSpreadable (v : Value) : Act Bool := do
  match v with
  | .object ref => do
    match ← getProperty ref WellKnown.isConcatSpreadable.key with
    | .undefined => isArray v
    | flag => pure flag.truthy
  | _ => pure false

/-- The items of values one after the other. -/
def concatenate (this : Value) (args : Array Value) : Act Value := do
  let first ← toObject this
  let out ← newLike (.object first) 0
  let count ← (#[Value.object first] ++ args).toList.foldlM (fun (n : Nat) v => do
    match v with
    | .object ref => do
      if ← isSpreadable v then
        let length ← lengthOf ref
        visitAll length fun i => do
          match ← itemAt? ref i with
          | some item => createProperty out (.ofNat (n + i)) item
          | none => pure ()
        pure (n + length)
      else do
        createProperty out (.ofNat n) v
        pure (n + 1)
    | v => do
      createProperty out (.ofNat n) v
      pure (n + 1)) 0
  setLength out count
  pure (.object out)

/-- Replaces items by others; gives the items that were there. -/
def spliceItems (list : ListView) (args : Array Value) : Act Value := do
  let start ← relativeIndex (argOf args 0) list.length 0
  let count ←
    if args.isEmpty then pure 0
    else if args.size = 1 then pure (list.length - start)
    else do pure ((← toWhole (argOf args 1)).clamp 0 ((list.length - start : Nat) : Int)).toNat
  let new := args.extract 2 args.size
  let removed ← newLike (.object list.ref) count
  visitAll count fun i => do
    match ← itemAt? list.ref (start + i) with
    | some v => createProperty removed (.ofNat i) v
    | none => pure ()
  setLength removed count
  let rest := list.length - start - count
  if new.size < count then
    visitAll rest fun i => moveItem list.ref (start + count + i) (start + new.size + i)
    visitAll (count - new.size) fun i => insist (deleteProperty list.ref (.ofNat (list.length - 1 - i)))
  else if count < new.size then
    let _ ← visitDown rest fun i => do
      moveItem list.ref (start + count + i) (start + new.size + i)
      pure (none : Option Unit)
  visitAll new.size fun i => setProperty list.ref (.ofNat (start + i)) (argOf new i)
  setLength list.ref (list.length - count + new.size)
  pure (.object removed)

def joinItems (list : ListView) (separator : Str) (textOf : Value → Act Str) : Act Value := do
  let s ← loop (((0 : Nat), Str.empty)) fun (i, s) => do
    if list.length ≤ i then pure (.ok s)
    else
      let v ← getProperty list.ref (.ofNat i)
      let t ← if v.isNullish then pure .empty else textOf v
      pure (.error (i + 1, (if i = 0 then s else s ++ separator) ++ t))
  pure (.string s)

def reduceItems (list : ListView) (args : Array Value) (fromEnd : Bool) : Act Value := do
  let f ← insistFunction (argOf args 0)
  let place (i : Nat) : Nat := if fromEnd then list.length - 1 - i else i
  let (start, first) ←
    if 1 < args.size then pure (0, argOf args 1)
    else
      match ← visit list.length fun i => do
        match ← itemAt? list.ref (place i) with
        | some v => pure (some (i + 1, v))
        | none => pure none with
      | some found => pure found
      | none => typeError "empty array"
  loop ((start, first) : Nat × Value) fun (i, acc) => do
    if list.length ≤ i then pure (.ok acc)
    else
      match ← itemAt? list.ref (place i) with
      | some v => do
        let acc ← call f .undefined #[acc, v, .nat (place i), .object list.ref]
        pure (.error (i + 1, acc))
      | none => pure (.error (i + 1, acc))

/-- What a search for an item gives. -/
inductive Sought
  | item | index

def findItem (list : ListView) (args : Array Value) (fromEnd : Bool) (what : Sought) : Act Value := do
  let f ← insistFunction (argOf args 0)
  let visitor := if fromEnd then visitDown else visit
  match ← visitor list.length fun i => do
    let v ← getProperty list.ref (.ofNat i)
    if (← call f (argOf args 1) #[v, .nat i, .object list.ref]).truthy then pure (some (v, i)) else pure none with
  | some (v, i) =>
    match what with
    | .item => pure v
    | .index => pure (.nat i)
  | none =>
    match what with
    | .item => pure .undefined
    | .index => pure (.number (-1))

/-- Makes a list from what another holds or hands out. -/
def listFrom (this : Value) (args : Array Value) : Act Value := do
  let source := argOf args 0
  let mapper := argOf args 1
  if !mapper.isUndefined then
    let _ ← insistFunction mapper
  let mapped (v : Value) (i : Nat) : Act Value :=
    if mapper.isUndefined then pure v else call mapper (argOf args 2) #[v, .nat i]
  let isConstructor ← read fun r => r.isConstructor this
  let make (args : Array Value) : Act Nat := do
    if isConstructor then
      match ← construct this args this with
      | .object ref => pure ref
      | _ => typeError "not an object"
    else
      match ← newArray #[] with
      | .object ref => pure ref
      | _ => typeError "not an object"
  let method ← getMethod source WellKnown.iterator.key
  if !method.isUndefined then
    let out ← make #[]
    let it ← Iteration.ofMethod source method false
    let count ← loop (0 : Nat) fun i => do
      match ← it.step with
      | none => pure (.ok i)
      | some v => do
        it.guarding do
          let v ← mapped v i
          createProperty out (.ofNat i) v
        pure (.error (i + 1))
    setLength out count
    pure (.object out)
  else
    let ref ← toObject source
    let count ← lengthOf ref
    let out ← make #[.nat count]
    visitAll count fun i => do
      let v ← mapped (← getProperty ref (.ofNat i)) i
      createProperty out (.ofNat i) v
    setLength out count
    pure (.object out)

def newListIterator (v : Value) (kind : Nat) : Act Value := do
  pure (.object (← newObject
    { kind := .iterator (.array v 0 kind), proto := some Intrinsic.arrayIteratorPrototype.ref }))

def callListMethod (f : ArrayFunction) (this : Value) (args : Array Value) : Act Value := do
  let list ← thisList this
  let first := argOf args 0
  let second := argOf args 1
  let self := Value.object list.ref
  let ask (f v : Value) (i : Nat) : Act Value := call f second #[v, .nat i, self]
  match f with
  | .atIndex => do
    match ← toWhole first with
    | .finite n =>
      let i := if n < 0 then (list.length : Int) + n else n
      if 0 ≤ i && i < list.length then getProperty list.ref (.ofNat i.toNat) else pure .undefined
    | .infinite _ => pure .undefined
  | .copyWithin => do
    let target ← relativeIndex first list.length 0
    let start ← relativeIndex second list.length 0
    let stop ← relativeIndex (argOf args 2) list.length list.length
    let count := min (stop - start) (list.length - target)
    let move (i : Nat) : Act (Option Unit) := do
      moveItem list.ref (start + i) (target + i)
      pure none
    let _ ← if start < target && target < start + count then visitDown count move else visit count move
    pure self
  | .entries => newListIterator self 2
  | .keys => newListIterator self 0
  | .values => newListIterator self 1
  | .every => do
    let f ← insistFunction first
    let refused ← visit list.length fun i => do
      match ← itemAt? list.ref i with
      | some v => do pure (if (← ask f v i).truthy then none else some ())
      | none => pure none
    pure (.bool refused.isNone)
  | .some => do
    let f ← insistFunction first
    let found ← visit list.length fun i => do
      match ← itemAt? list.ref i with
      | some v => do pure (if (← ask f v i).truthy then some () else none)
      | none => pure none
    pure (.bool found.isSome)
  | .fill => do
    let start ← relativeIndex second list.length 0
    let stop ← relativeIndex (argOf args 2) list.length list.length
    visitAll (stop - start) fun i => setProperty list.ref (.ofNat (start + i)) first
    pure self
  | .filter => do
    let f ← insistFunction first
    let out ← newLike self 0
    let _ ← loop ((0, 0) : Nat × Nat) fun (i, n) => do
      if list.length ≤ i then pure (.ok ())
      else
        match ← itemAt? list.ref i with
        | some v => do
          if (← ask f v i).truthy then
            createProperty out (.ofNat n) v
            pure (.error (i + 1, n + 1))
          else pure (.error (i + 1, n))
        | none => pure (.error (i + 1, n))
    pure (.object out)
  | .find => findItem list args false .item
  | .findIndex => findItem list args false .index
  | .findLast => findItem list args true .item
  | .findLastIndex => findItem list args true .index
  | .flat => do
    let depth ← if first.isUndefined then pure 1 else do pure ((← toWhole first).clamp (-1) (Int.pow 2 31))
    let out ← newLike self 0
    let _ ← flatten out 1000 depth list 0
    pure (.object out)
  | .flatMap => do
    let f ← insistFunction first
    let out ← newLike self 0
    let _ ← loop ((0, 0) : Nat × Nat) fun (i, n) => do
      if list.length ≤ i then pure (.ok ())
      else
        match ← itemAt? list.ref i with
        | some v => do
          let v ← ask f v i
          let n ← flatten.add out 1000 1 v n
          pure (.error (i + 1, n))
        | none => pure (.error (i + 1, n))
    pure (.object out)
  | .forEach => do
    let f ← insistFunction first
    visitAll list.length fun i => do
      match ← itemAt? list.ref i with
      | some v => do
        let _ ← ask f v i
      | none => pure ()
    pure .undefined
  | .includes => do
    let start ← relativeIndex second list.length 0
    let found ← visit (list.length - start) fun i => do
      let v ← getProperty list.ref (.ofNat (start + i))
      pure (if v.sameOrZero first then some () else none)
    pure (.bool found.isSome)
  | .indexOf => do
    let start ← relativeIndex second list.length 0
    let found ← visit (list.length - start) fun i => do
      match ← itemAt? list.ref (start + i) with
      | some v => pure (if v.strictEq first then some (start + i) else none)
      | none => pure none
    pure ((found.map Value.nat).getD (.number (-1)))
  | .lastIndexOf => do
    let stop ←
      if 1 < args.size then
        match ← toWhole second with
        | .finite n => pure (if n < 0 then ((list.length : Int) + n + 1).toNat else min (n.toNat + 1) list.length)
        | .infinite negative => pure (if negative then 0 else list.length)
      else pure list.length
    let found ← visitDown stop fun i => do
      match ← itemAt? list.ref i with
      | some v => pure (if v.strictEq first then some i else none)
      | none => pure none
    pure ((found.map Value.nat).getD (.number (-1)))
  | .join => do
    let separator ← if first.isUndefined then pure (Str.ofString ",") else toStr first
    joinItems list separator toStr
  | .toLocaleString => joinItems list (Str.ofString ",") fun v => do toStr (← callMethod v (.text "toLocaleString") #[])
  | .toString => do
    let method ← getNamed list.ref "join"
    if ← read fun r => r.isCallable method then call method self #[] else objectText self
  | .map => do
    let f ← insistFunction first
    let out ← newLike self list.length
    visitAll list.length fun i => do
      match ← itemAt? list.ref i with
      | some v => do createProperty out (.ofNat i) (← ask f v i)
      | none => pure ()
    pure (.object out)
  | .pop => do
    if list.length = 0 then
      setLength list.ref 0
      pure .undefined
    else
      let k := Key.ofNat (list.length - 1)
      let v ← getProperty list.ref k
      insist (deleteProperty list.ref k)
      setLength list.ref (list.length - 1)
      pure v
  | .push => do
    let n ← args.toList.foldlM (fun (n : Nat) v => do
      setProperty list.ref (.ofNat n) v
      pure (n + 1)) list.length
    setLength list.ref n
    pure (.nat n)
  | .reduce => reduceItems list args false
  | .reduceRight => reduceItems list args true
  | .reverse => do
    visitAll (list.length / 2) fun i => do
      let j := list.length - 1 - i
      let low ← itemAt? list.ref i
      let high ← itemAt? list.ref j
      place list.ref i high
      place list.ref j low
    pure self
  | .shift => do
    if list.length = 0 then
      setLength list.ref 0
      pure .undefined
    else
      let v ← getProperty list.ref (.index 0)
      visitAll (list.length - 1) fun i => moveItem list.ref (i + 1) i
      insist (deleteProperty list.ref (.ofNat (list.length - 1)))
      setLength list.ref (list.length - 1)
      pure v
  | .slice => do
    let start ← relativeIndex first list.length 0
    let stop ← relativeIndex second list.length list.length
    let count := stop - start
    let out ← newLike self count
    visitAll count fun i => do
      match ← itemAt? list.ref (start + i) with
      | some v => createProperty out (.ofNat i) v
      | none => pure ()
    setLength out count
    pure (.object out)
  | .sort => do
    if !first.isUndefined then
      let _ ← insistFunction first
    let items ← loop (((0 : Nat), (#[] : Array Value))) fun (i, acc) => do
      if list.length ≤ i then pure (.ok acc)
      else
        match ← itemAt? list.ref i with
        | some v => pure (.error (i + 1, acc.push v))
        | none => pure (.error (i + 1, acc))
    let sorted ← sortValues first items
    visitAll sorted.size fun i => setProperty list.ref (.ofNat i) (argOf sorted i)
    visitAll (list.length - sorted.size) fun i => insist (deleteProperty list.ref (.ofNat (sorted.size + i)))
    pure self
  | .splice => spliceItems list args
  | .unshift => do
    if 0 < args.size then
      let _ ← visitDown list.length fun i => do
        moveItem list.ref i (i + args.size)
        pure (none : Option Unit)
      visitAll args.size fun i => setProperty list.ref (.ofNat i) (argOf args i)
    setLength list.ref (list.length + args.size)
    pure (.nat (list.length + args.size))
  | _ => pure .undefined
where
  /-- Puts an item, or its absence, at a place. -/
  place (ref i : Nat) (v : Option Value) : Act Unit :=
    match v with
    | some v => setProperty ref (.ofNat i) v
    | none => insist (deleteProperty ref (.ofNat i))

/-- The functions of `Array`. -/
def callArray (f : ArrayFunction) (this : Value) (args : Array Value) (newTarget : Value) : Act Value := do
  match f with
  | .construct => do
    let proto ← match newTarget with
      | .object ref => do
        match ← getNamed ref "prototype" with
        | .object p => pure p
        | _ => pure Intrinsic.arrayPrototype.ref
      | _ => pure Intrinsic.arrayPrototype.ref
    let make (dense : Array Value) (length : Nat) : Act Value := do
      pure (.object (← newObject { kind := .array dense length true, proto := some proto }))
    match args.size, argOf args 0 with
    | 1, .number x =>
      let n := toUInt32 x
      if natFloat n == x then make #[] n else rangeError "invalid array length"
    | _, _ => make args args.size
  | .isArray => do pure (.bool (← isArray (argOf args 0)))
  | .fromItems => listFrom this args
  | .ofItems => do
    if ← read fun r => r.isConstructor this then
      match ← construct this #[.nat args.size] this with
      | .object ref => do
        visitAll args.size fun i => createProperty ref (.ofNat i) (argOf args i)
        setLength ref args.size
        pure (.object ref)
      | _ => typeError "not an object"
    else newArray args
  | .speciesOf => pure this
  | .concat => concatenate this args
  | f => callListMethod f this args

end BrainHost.Script
