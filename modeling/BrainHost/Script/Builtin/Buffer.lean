import BrainHost.Script.Evaluate
import BrainHost.Script.Builtin.Promise

/-! # Buffers

`ArrayBuffer`, `DataView` and typed arrays. -/

namespace BrainHost.Script

open Act

/-- Throws because a buffer is detached. -/
def failDetached {α : Type} : Act α := typeError "ArrayBuffer is detached"

/-- The bytes of a buffer that is not detached. -/
def insistBytes (buffer : Nat) : Act ByteArray := do
  match ← read fun r => r.bytes? buffer with
  | some bytes => pure bytes
  | none => failDetached

def newBuffer (proto : Nat) (count : Nat) : Act Nat := do
  if count > 2147483647 then rangeError "invalid array buffer length"
  else newObject { kind := .buffer (zeroBytes count), proto := some proto }

def thisBuffer (v : Value) : Act Nat := do
  match v with
  | .object ref =>
    match (← getObject ref).kind with
    | .buffer _ => pure ref
    | _ => typeError "ArrayBuffer object expected"
  | _ => typeError "ArrayBuffer object expected"

/-- The bytes of a buffer that are between two relative places, as a new buffer. -/
def sliceBuffer (this : Value) (args : Array Value) : Act Value := do
  let ref ← thisBuffer this
  let bytes ← insistBytes ref
  let start ← relativeIndex (argOf args 0) bytes.size 0
  let stop ← relativeIndex (argOf args 1) bytes.size bytes.size
  let count := stop - start
  let constructor ← speciesOf ref (.object Intrinsic.bufferConstructor.ref)
  let made ←
    if constructor.ref? = some Intrinsic.bufferConstructor.ref then newBuffer Intrinsic.bufferPrototype.ref count
    else
      let made ← thisBuffer (← construct constructor #[.nat count] constructor)
      if made = ref then typeError "cannot use identical ArrayBuffer"
      else if (← insistBytes made).size < count then typeError "new ArrayBuffer is too small"
      else pure made
  let bytes ← insistBytes ref
  writeBuffer made 0 (sliceBytes bytes start (min count (bytes.size - start)))
  pure (.object made)

/-! ## Data views -/

def thisView (v : Value) : Act View := do
  match v with
  | .object ref =>
    match (← getObject ref).kind with
    | .dataView view => pure view
    | _ => typeError "DataView object expected"
  | _ => typeError "DataView object expected"

def newDataView (args : Array Value) (newTarget : Value) : Act Value := do
  if newTarget.isUndefined then typeError "must be called with new"
  else
    let buffer ← thisBuffer (argOf args 0)
    let offset ← toIndex (argOf args 1) "invalid array index"
    let bytes ← insistBytes buffer
    if bytes.size < offset then rangeError "invalid byteOffset"
    else
      let length ←
        if (argOf args 2).isUndefined then pure (bytes.size - offset)
        else toIndex (argOf args 2) "invalid array index"
      if bytes.size < offset + length then rangeError "invalid byteLength"
      else
        let proto ← protoOfNew newTarget Intrinsic.dataViewPrototype.ref
        let _ ← insistBytes buffer
        pure (.object (← newObject { kind := .dataView ⟨buffer, offset, length⟩, proto := some proto }))

def readView (t : ElementType) (this : Value) (args : Array Value) : Act Value := do
  let view ← thisView this
  let place ← toIndex (argOf args 0) "invalid array index"
  let isLittle := (argOf args 1).truthy
  let bytes ← insistBytes view.buffer
  if view.length < place + t.size then rangeError "out of bound"
  else
    let bs := sliceBytes bytes (view.offset + place) t.size
    pure (t.decode (if isLittle then bs else bs.reverse))

def writeView (t : ElementType) (this : Value) (args : Array Value) : Act Value := do
  let view ← thisView this
  let place ← toIndex (argOf args 0) "invalid array index"
  let v ← toElement t (argOf args 1)
  let isLittle := (argOf args 2).truthy
  let _ ← insistBytes view.buffer
  if view.length < place + t.size then rangeError "out of bound"
  else
    let bs := t.encode v
    writeBuffer view.buffer (view.offset + place) (if isLittle then bs else bs.reverse)
    pure .undefined

/-! ## Typed arrays -/

structure TypedView where
  ref : Nat
  type : ElementType
  view : View

def thisTyped (v : Value) : Act TypedView := do
  match v with
  | .object ref =>
    match (← getObject ref).kind with
    | .typed t view => pure ⟨ref, t, view⟩
    | _ => typeError "not a TypedArray"
  | _ => typeError "not a TypedArray"

/-- The typed array that a method is called on, unless its buffer is detached. -/
def insistTyped (v : Value) : Act TypedView := do
  let a ← thisTyped v
  let _ ← insistBytes a.view.buffer
  pure a

def newTyped (t : ElementType) (proto length : Nat) : Act Nat := do
  let buffer ← newBuffer Intrinsic.bufferPrototype.ref (length * t.size)
  newObject { kind := .typed t ⟨buffer, 0, length⟩, proto := some proto }

def fillTyped (ref : Nat) (vs : Array Value) : Act Unit :=
  visitAll vs.size fun i => setProperty ref (.ofNat i) (argOf vs i)

def TypedView.items (a : TypedView) : Act (Array Value) := read fun r =>
  ((List.range (r.viewLength a.view)).map fun i => (r.element? a.type a.view i).getD .undefined).toArray

/-- The items of an object that is like an array or hands out items. -/
def sourceItems (v : Value) : Act (Array Value) := do
  let method ← getMethod v WellKnown.iterator.key
  if method.isUndefined then
    let ref ← toObject v
    listItems ref (← lengthOf ref)
  else
    let it ← Iteration.ofMethod v method false
    loop #[] fun acc => do
      match ← it.step with
      | none => pure (.ok acc)
      | some item => pure (.error (acc.push item))

/-- Makes a typed array of a buffer, other items, or a length. -/
def constructTyped (t : ElementType) (args : Array Value) (newTarget : Value) : Act Value := do
  if newTarget.isUndefined then typeError "must be called with new"
  else
    let first := argOf args 0
    let proto := protoOfNew newTarget (Intrinsic.typedPrototypeOf t).ref
    match first with
    | .object ref =>
      match (← getObject ref).kind with
      | .buffer _ => do
        let offset ← toIndex (argOf args 1) "invalid array index"
        let size := match ← read fun r => r.bytes? ref with
          | some bytes => bytes.size
          | none => 0
        if offset % t.size ≠ 0 || size < offset then rangeError "invalid offset"
        else
          let length ←
            if (argOf args 2).isUndefined then
              let _ ← insistBytes ref
              if size % t.size ≠ 0 then rangeError "invalid length" else pure ((size - offset) / t.size)
            else
              let length ← toIndex (argOf args 2) "invalid array index"
              let _ ← insistBytes ref
              if size < offset + length * t.size then rangeError "invalid length" else pure length
          pure (.object (← newObject { kind := .typed t ⟨ref, offset, length⟩, proto := some (← proto) }))
      | .typed _ view => do
        let _ ← insistBytes view.buffer
        let source ← thisTyped first
        let items ← source.items
        let made ← newTyped t (← proto) items.size
        fillTyped made items
        pure (.object made)
      | _ => do
        let items ← sourceItems first
        let made ← newTyped t (← proto) items.size
        fillTyped made items
        pure (.object made)
    | v => do
      let length ← toIndex v "invalid array index"
      pure (.object (← newTyped t (← proto) length))

def createTyped (constructor : Value) (args : Array Value) (least : Nat) : Act TypedView := do
  let a ← insistTyped (← construct constructor args constructor)
  if a.view.length < least then typeError "TypedArray length is too small" else pure a

def typedLike (a : TypedView) (args : Array Value) (least : Nat) : Act TypedView := do
  let constructor ← speciesOf a.ref (.object (Intrinsic.typedConstructorOf a.type).ref)
  let made ← createTyped constructor args least
  if made.type.isBig == a.type.isBig then pure made else typeError "invalid TypedArray"

def setTyped (a : TypedView) (args : Array Value) : Act Value := do
  let offset ← match ← toWhole (argOf args 1) with
    | .finite n => if n < 0 then rangeError "invalid array index" else pure n.toNat
    | .infinite _ => rangeError "invalid array index"
  let _ ← insistBytes a.view.buffer
  let items ← match ← (thisTyped (argOf args 0)).capture with
    | .ok source => do
      let _ ← insistBytes source.view.buffer
      source.items
    | _ => do
      let ref ← toObject (argOf args 0)
      listItems ref (← lengthOf ref)
  if a.view.length < offset + items.size then rangeError "invalid array length"
  else
    visitAll items.size fun i => setProperty a.ref (.ofNat (offset + i)) (argOf items i)
    pure .undefined

def subarray (a : TypedView) (args : Array Value) : Act Value := do
  let length ← read fun r => r.viewLength a.view
  let start ← relativeIndex (argOf args 0) length 0
  let stop ← relativeIndex (argOf args 1) length length
  let constructor ← speciesOf a.ref (.object (Intrinsic.typedConstructorOf a.type).ref)
  let made ← construct constructor
    #[.object a.view.buffer, .nat (a.view.offset + start * a.type.size), .nat (stop - start)] constructor
  let _ ← thisTyped made
  pure made

/-- Whether a number comes before another in a typed array: by value, and a zero below zero first. -/
def numberLess (v w : Value) : Bool :=
  match v, w with
  | .number x, .number y =>
    if x.isNaN then false
    else if y.isNaN then true
    else if x == 0 && y == 0 then Number.signBit x && !Number.signBit y
    else x < y
  | .bigint m, .bigint n => m < n
  | _, _ => false

def sharedMethod? : BufferFunction → Option ArrayFunction
  | .typedAt => some .atIndex
  | .typedCopyWithin => some .copyWithin
  | .typedEntries => some .entries
  | .typedEvery => some .every
  | .typedFind => some .find
  | .typedFindIndex => some .findIndex
  | .typedFindLast => some .findLast
  | .typedFindLastIndex => some .findLastIndex
  | .typedForEach => some .forEach
  | .typedIncludes => some .includes
  | .typedIndexOf => some .indexOf
  | .typedJoin => some .join
  | .typedKeys => some .keys
  | .typedLastIndexOf => some .lastIndexOf
  | .typedReduce => some .reduce
  | .typedReduceRight => some .reduceRight
  | .typedReverse => some .reverse
  | .typedSome => some .some
  | .typedValues => some .values
  | _ => none

def callTyped (f : BufferFunction) (a : TypedView) (args : Array Value) : Act Value := do
  let first := argOf args 0
  let self := Value.object a.ref
  let length := a.view.length
  match f with
  | .typedFill => do
    let v ← toElement a.type first
    let start ← relativeIndex (argOf args 1) length 0
    let stop ← relativeIndex (argOf args 2) length length
    let _ ← insistBytes a.view.buffer
    visitAll (stop - start) fun i => setProperty a.ref (.ofNat (start + i)) v
    pure self
  | .typedFilter => do
    let f ← insistFunction first
    let kept ← loop (((0 : Nat), (#[] : Array Value))) fun (i, acc) => do
      if length ≤ i then pure (.ok acc)
      else
        let v ← getProperty a.ref (.ofNat i)
        let keep := (← call f (argOf args 1) #[v, .nat i, self]).truthy
        pure (.error (i + 1, if keep then acc.push v else acc))
    let made ← typedLike a #[.nat kept.size] kept.size
    fillTyped made.ref kept
    pure (.object made.ref)
  | .typedMap => do
    let f ← insistFunction first
    let made ← typedLike a #[.nat length] length
    visitAll length fun i => do
      let v ← getProperty a.ref (.ofNat i)
      setProperty made.ref (.ofNat i) (← call f (argOf args 1) #[v, .nat i, self])
    pure (.object made.ref)
  | .typedSlice => do
    let start ← relativeIndex first length 0
    let stop ← relativeIndex (argOf args 1) length length
    let count := stop - start
    let made ← typedLike a #[.nat count] count
    if 0 < count then
      let _ ← insistBytes a.view.buffer
    let items ← a.items
    fillTyped made.ref (items.extract start stop)
    pure (.object made.ref)
  | .typedSort => do
    if !first.isUndefined then
      let _ ← insistFunction first
    let items ← a.items
    let less (v w : Value) : Act Bool :=
      if first.isUndefined then pure (numberLess v w) else isLess first v w
    let sorted ← sortBy less 64 items.toList
    fillTyped a.ref sorted.toArray
    pure self
  | _ => pure .undefined

def callBuffer (f : BufferFunction) (this : Value) (args : Array Value) (newTarget : Value) : Act Value := do
  let first := argOf args 0
  match f with
  | .construct => do
    if newTarget.isUndefined then typeError "must be called with new"
    else
      let count ← toIndex first "invalid array index"
      pure (.object (← newBuffer (← protoOfNew newTarget Intrinsic.bufferPrototype.ref) count))
  | .isView =>
    match first with
    | .object ref =>
      match (← getObject ref).kind with
      | .typed _ _ => pure (.bool true)
      | .dataView _ => pure (.bool true)
      | _ => pure (.bool false)
    | _ => pure (.bool false)
  | .byteLength => do
    let ref ← thisBuffer this
    pure (.nat (((← read fun r => r.bytes? ref).map ByteArray.size).getD 0))
  | .slice => sliceBuffer this args
  | .viewConstruct => newDataView args newTarget
  | .viewBuffer => do pure (.object (← thisView this).buffer)
  | .viewByteLength => do
    let view ← thisView this
    let _ ← insistBytes view.buffer
    pure (.nat view.length)
  | .viewByteOffset => do
    let view ← thisView this
    let _ ← insistBytes view.buffer
    pure (.nat view.offset)
  | .viewGet t => readView t this args
  | .viewSet t => writeView t this args
  | .typedAbstract => typeError "cannot be called"
  | .typedConstruct t => constructTyped t args newTarget
  | .typedFrom => do
    if !(← read fun r => r.isConstructor this) then typeError "not a constructor"
    else
      let mapper := argOf args 1
      if !mapper.isUndefined then
        let _ ← insistFunction mapper
      let items ← sourceItems first
      let made ← createTyped this #[.nat items.size] items.size
      visitAll items.size fun i => do
        let v := argOf items i
        let v ← if mapper.isUndefined then pure v else call mapper (argOf args 2) #[v, .nat i]
        setProperty made.ref (.ofNat i) v
      pure (.object made.ref)
  | .typedOf => do
    if !(← read fun r => r.isConstructor this) then typeError "not a constructor"
    else
      let made ← createTyped this #[.nat args.size] args.size
      fillTyped made.ref args
      pure (.object made.ref)
  | .typedBuffer => do pure (.object (← thisTyped this).view.buffer)
  | .typedByteLength => do
    let a ← thisTyped this
    pure (.nat ((← read fun r => r.viewLength a.view) * a.type.size))
  | .typedByteOffset => do
    let a ← thisTyped this
    pure (.nat (if (← read fun r => r.bytes? a.view.buffer).isSome then a.view.offset else 0))
  | .typedLength => do
    let a ← thisTyped this
    pure (.nat (← read fun r => r.viewLength a.view))
  | .typedTag =>
    match this with
    | .object ref =>
      match (← getObject ref).kind with
      | .typed t _ => pure (.text t.className)
      | _ => pure .undefined
    | _ => pure .undefined
  | .typedSet => do setTyped (← thisTyped this) args
  | .typedSubarray => do subarray (← thisTyped this) args
  | f => do
    let a ← insistTyped this
    match sharedMethod? f with
    | some method => callListMethod method this args
    | none => callTyped f a args

end BrainHost.Script
