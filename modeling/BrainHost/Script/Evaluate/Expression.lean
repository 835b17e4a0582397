import BrainHost.Script.Evaluate.Program

/-! # Evaluating expressions -/

namespace BrainHost.Script

open Act

/-- Makes an array of items, of which some may be missing. -/
def newSparseArray (items : Array (Option Value)) : Act Value := do
  match items.mapM id with
  | some items => newArray items
  | none =>
    let o : Obj := { kind := .array #[] 0 true, proto := some Intrinsic.arrayPrototype.ref }
    let present := items.zipIdx.toList.filterMap fun (v, i) => v.map fun v => (Key.ofNat i, Property.plain v)
    pure (.object (← newObject ((o.storeAll present).resize items.size).1 (by simp [o])))

/-- An array that cannot be changed. -/
def frozenArray (vs : List Value) : Obj :=
  let o : Obj := { kind := .array #[] 0 true, proto := some Intrinsic.arrayPrototype.ref, extensible := false }
  let items := vs.zipIdx.map fun (v, i) => (Key.ofNat i, ⟨.data v false, true, false⟩)
  (o.storeAll items).store lengthKey (.constant .undefined)

theorem frozenArray_lent (vs : List Value) : (frozenArray vs).lent = none := by simp [frozenArray]

/-- The object that stands for the texts of a template literal. -/
def templateObject (site : Nat) (cooked : List (Option Str)) (raw : List Str) : Act Value := do
  match ← read fun r => r.templates.find? fun t => t.1 = site with
  | some (_, ref) => pure (.object ref)
  | none =>
    let rawRef ← newObject (frozenArray (raw.map Value.string)) (frozenArray_lent _)
    let o := frozenArray (cooked.map fun s => (s.map Value.string).getD .undefined)
    let ref ← newObject (o.put (.text "raw") (.constant (.object rawRef))) (frozenArray_lent _)
    modify fun r => { r with templates := r.templates.push (site, ref) }
    pure (.object ref)

def newRegExp (source flags : Str) : Act Value := do
  let o : Obj := { kind := .regexp source flags, proto := some Intrinsic.regexpPrototype.ref }
  pure (.object (← newObject (o.put (.text "lastIndex") ⟨.data (.nat 0) true, false, false⟩)))

/-- Sets the value of `this` in a constructor whose parent made it. -/
def bindThis (env : Env) (v : Value) : Act Unit := do
  match ← read fun r => r.declaration? r.scopes.size env.scope thisName with
  | some (scope, i, b) =>
    if b.value.isSome then fail .referenceError (Str.ofString "'this' can be initialized only once")
    else setBinding scope i v
  | none => pure ()

/-- Whether a value is the function `eval`. -/
def isEval (v : Value) : Act Bool := do
  match v with
  | .object ref => do
    match (← getObject ref).kind with
    | .native (.global .eval) => pure true
    | _ => pure false
  | _ => pure false

namespace Evaluator

variable (ev : Evaluator)

def arguments (env : Env) (items : List Item) : Act (Array Value) :=
  items.foldlM (fun acc item => do
    match item with
    | .value e => do pure (acc.push (← ev.expr env e))
    | .spread e place => do
      let v ← ev.expr env e
      setPlace place
      pure (acc ++ (← itemsOf v))
    | .hole => pure acc) #[]

def arrayItems (env : Env) (items : List Item) : Act (Array (Option Value)) :=
  items.foldlM (fun acc item => do
    match item with
    | .value e => do pure (acc.push (some (← ev.expr env e)))
    | .spread e place => do
      let v ← ev.expr env e
      setPlace place
      pure (acc ++ (← itemsOf v).map some)
    | .hole => pure (acc.push none)) #[]

def addMember (env : Env) (ref : Nat) : Member → Act Unit
  | .value name e => do
    let k ← ev.keyOf env name
    let v ← ev.expr env e
    match name, v with
    | .computed _ _, .object f => if isAnonymous e then setFunctionName f "" k else pure ()
    | _, _ => pure ()
    createProperty ref k v
  | .method name f => do
    let k ← ev.keyOf env name
    let fn ← makeFunction env.scope f (some ref)
    rename name fn "" k
    createProperty ref k (.object fn)
  | .getter name f => do
    let k ← ev.keyOf env name
    let fn ← makeFunction env.scope f (some ref)
    rename name fn "get " k
    insist (defineOwn ref k { get := some (.object fn), enumerable := some true, configurable := some true })
  | .setter name f => do
    let k ← ev.keyOf env name
    let fn ← makeFunction env.scope f (some ref)
    rename name fn "set " k
    insist (defineOwn ref k { set := some (.object fn), enumerable := some true, configurable := some true })
  | .parent e => do
    match ← ev.expr env e with
    | .object p => setProto ref (some p)
    | .null => setProto ref none
    | _ => pure ()
  | .spread e place => do
    let v ← ev.expr env e
    setPlace place
    match v with
    | .object _ => copyProperties ref v []
    | _ => pure ()
where
  /-- Names the function of a computed key. -/
  rename (name : MemberName) (fn : Nat) (accessor : String) (k : Key) : Act Unit :=
    match name with
    | .computed _ _ => setFunctionName fn accessor k
    | _ => pure ()

/-! ## Chains -/

/-- The value on which a member is read, unless the chain ends there. -/
def linkValue (env : Env) (object : Expr) (optional : Bool) : Act (Option Value) := do
  match ← ev.chain env object with
  | none => pure none
  | some v => pure (if optional && v.isNullish then none else some v)

/-- Reads an element, whose key is converted first. -/
def readElement (env : Env) (v : Value) (key : Expr) (place : Place) : Act Value := do
  let key ← ev.expr env key
  setPlace place
  getValue v (← toKey key)

/-- What a call calls, and on what. -/
def calleeOf (env : Env) (e : Expr) : Act (Option (Value × Value)) := do
  match e with
  | .member object k optional place => do
    match ← ev.linkValue env object optional with
    | none => pure none
    | some v => do
      setPlace place
      pure (some (← getValue v k, v))
  | .element object key optional place => do
    match ← ev.linkValue env object optional with
    | none => pure none
    | some v => do pure (some (← ev.readElement env v key place, v))
  | .privateMember object name optional place => do
    match ← ev.linkValue env object optional with
    | none => pure none
    | some v => do
      setPlace place
      pure (some (← readSecret v (← hiddenOwner env name) name, v))
  | .superMember key place => do
    let this ← readCall env thisName
    let parent ← superParent env
    let key ← ev.expr env key
    setPlace place
    pure (some (← readSuper this parent (← toKey key), this))
  | .name n place => do
    setPlace place
    pure (some (← readNameOf env n))
  | .chain e => do
    match ← ev.callee env e with
    | some pair => pure (some pair)
    | none => pure (some (.undefined, .undefined))
  | e => do
    match ← ev.chain env e with
    | some v => pure (some (v, .undefined))
    | none => pure none

/-- Calls a function, or evaluates a text where it stands. -/
def callOrEval (env : Env) (callee : Expr) (f this : Value) (args : Array Value) : Act Value := do
  match callee with
  | .name n _ =>
    if n == Str.ofString "eval" && (← isEval f) then ev.evalText (some env) (args[0]?.getD .undefined)
    else call f this args
  | _ => call f this args

def chainOf (env : Env) (e : Expr) : Act (Option Value) := do
  match e with
  | .member object k optional place => do
    match ← ev.linkValue env object optional with
    | none => pure none
    | some v => do
      setPlace place
      pure (some (← getValue v k))
  | .element object key optional place => do
    match ← ev.linkValue env object optional with
    | none => pure none
    | some v => do pure (some (← ev.readElement env v key place))
  | .privateMember object name optional place => do
    match ← ev.linkValue env object optional with
    | none => pure none
    | some v => do
      setPlace place
      pure (some (← readSecret v (← hiddenOwner env name) name))
  | .call callee args optional place => do
    match ← ev.callee env callee with
    | none => pure none
    | some (f, this) => do
      if optional && f.isNullish then pure none
      else
        let args ← ev.arguments env args
        setPlace place
        pure (some (← ev.callOrEval env callee f this args))
  | e => do pure (some (← ev.expr env e))

/-! ## Operators -/

def deleteOf (env : Env) (e : Expr) (place : Place) : Act Value := do
  let remove (v : Value) (k : Key) : Act Value := do
    let ref ← toObject v
    match ← deleteProperty ref k with
    | .ok () => pure (.bool true)
    | .error why => if env.strict then refuse why else pure (.bool false)
  match e with
  | .member object k optional _ => do
    match ← ev.linkValue env object optional with
    | none => pure (.bool true)
    | some v => do
      setPlace place
      remove v k
  | .element object key optional _ => do
    match ← ev.linkValue env object optional with
    | none => pure (.bool true)
    | some v => do
      let key ← ev.expr env key
      setPlace place
      remove v (← toKey key)
  | .superMember _ _ => fail .referenceError (Str.ofString "unsupported reference to 'super'")
  | .name n _ => do pure (.bool (← deleteName env n))
  | e => do
    let _ ← ev.expr env e
    pure (.bool true)

/-- Counts a target up or down. -/
def updateOf (env : Env) (increment before : Bool) (target : Target) (place : Place) : Act Value := do
  let reference ← ev.reference env target
  let (old, reference) ← readReference reference
  setPlace place
  let old ← toNumeric old
  let new := match old with
    | .number x => Value.number (if increment then x + 1 else x - 1)
    | .bigint n => .bigint (if increment then n + 1 else n - 1)
    | v => v
  ev.write env new reference
  pure (if before then new else old)

/-- Whether an operator that evaluates its second operand on demand does so. -/
def goesOn (op : LogicalOp) (v : Value) : Bool :=
  match op with
  | .and => v.truthy
  | .or => !v.truthy
  | .coalesce => v.isNullish

def assignOf (env : Env) (op : AssignOp) (target : Target) (value : Expr) (place : Place) : Act Value := do
  let reference ← ev.reference env target
  match op with
  | .plain => do
    let v ← ev.expr env value
    setPlace place
    ev.write env v reference
    pure v
  | .combine op => do
    let (old, reference) ← readReference reference
    let v ← ev.expr env value
    setPlace place
    let v ← binary op old v
    ev.write env v reference
    pure v
  | .logical op => do
    let (old, reference) ← readReference reference
    if goesOn op old then
      let v ← ev.expr env value
      setPlace place
      ev.write env v reference
      pure v
    else pure old

/-! ## Functions -/

def superCallOf (env : Env) (args : List Item) (place : Place) : Act Value := do
  let self ← readCall env selfName
  let newTarget ← readCall env newTargetName
  let parent ← match self with
    | .object ref => getPrototype reach ref
    | _ => pure none
  let args ← ev.arguments env args
  setPlace place
  let v ← construct (.ofRef? parent) args newTarget
  bindThis env v
  match self, v with
  | .object ref, .object made =>
    match (← getObject ref).kind with
    | .closure c => initializeFields made c.fields
    | _ => pure ()
  | _, _ => pure ()
  pure v

def resumed (isAsync : Bool) : Resumption × Value → Act Value
  | (.next, v) => pure v
  | (.throws, e) => throwValue e
  | (.returns, v) => do leave (← if isAsync then awaitValue v else pure v)

def yieldOf (env : Env) (v : Value) : Act Value := do
  let isAsync := env.info.coroutine = .asyncGenerator
  let v ← if isAsync then awaitValue v else pure v
  resumed isAsync (← yieldOut v)

def delegate (env : Env) (v : Value) : Act Value := do
  let isAsync := env.info.coroutine = .asyncGenerator
  let it ← if isAsync then Iteration.ofAsync v else Iteration.of v
  let settle (v : Value) : Act Value := if isAsync then awaitValue v else pure v
  -- What an answer of the inner iteration means: the result, or a value to hand out.
  let answer (result : Value) : Act (Except (Resumption × Value) Value) := do
    match result with
    | .object ref =>
      let done := (← getNamed ref "done").truthy
      let item ← getNamed ref "value"
      if done then pure (.ok item) else do pure (.error (← yieldOut item))
    | _ => typeError "iterator must return an object"
  loop ((.next, .undefined) : Resumption × Value) fun (how, v) => do
    match how with
    | .next => do answer (← settle (← call it.next it.object #[v]))
    | .throws => do
      let method ← getMethod it.object (.text "throw")
      if method.isUndefined then
        it.close isAsync
        typeError "iterator does not have a throw method"
      else answer (← settle (← call method it.object #[v]))
    | .returns => do
      let method ← getMethod it.object (.text "return")
      if method.isUndefined then leave v
      else
        match ← answer (← settle (← call method it.object #[v])) with
        | .ok item => leave item
        | .error next => pure (.error next)

/-! ## All expressions -/

/-- Evaluates a template literal, whose texts and values the first text joins. -/
def templateOf (env : Env) (first : Str) (parts : List TemplatePart) (place : Place) : Act Value := do
  let method ← getValue (.string first) (.text "concat")
  let args ← parts.foldlM (fun (acc : Array Value) part => do
    match part with
    | .mk e text =>
      let acc := acc.push (← ev.expr env e)
      pure (if text.isEmpty then acc else acc.push (.string text))) #[]
  setPlace place
  call method (.string first) args

def exprOf (env : Env) (e : Expr) : Act Value := do
  match e with
  | .missing => pure .undefined
  | .null => pure .null
  | .bool b => pure (.bool b)
  | .number x => pure (.number x)
  | .string s => pure (.string s)
  | .bigint n => pure (.bigint n)
  | .regexp source flags => newRegExp source flags
  | .template first parts place => ev.templateOf env first parts place
  | .tagged tag site cooked raw args place => do
    let (f, this) := (← ev.callee env tag).getD (.undefined, .undefined)
    let object ← templateObject site cooked raw
    let args ← args.foldlM (fun (acc : Array Value) e => do pure (acc.push (← ev.expr env e))) #[object]
    setPlace place
    call f this args
  | .name n place => do
    setPlace place
    readName env n
  | .this place => do
    setPlace place
    readCall env thisName
  | .newTarget => readCall env newTargetName
  | .array items => do newSparseArray (← ev.arrayItems env items)
  | .object members => do
    let ref ← newPlain
    members.forM fun m => ev.addMember env ref m
    pure (.object ref)
  | .function f => do pure (.object (← makeFunction env.scope f none))
  | .classOf c => ev.makeClass env c
  | .unary op e place => do
    let v ← ev.expr env e
    setPlace place
    unary op v
  | .typeofName n place => do
    setPlace place
    match ← locate env n with
    | .nowhere => pure (.text "undefined")
    | _ => do unary .typeof (← readName env n)
  | .delete e place => do
    match e with
    | .chain e => ev.deleteOf env e place
    | e => ev.deleteOf env e place
  | .update increment before target place => ev.updateOf env increment before target place
  | .binary op left right place => do
    let v ← ev.expr env left
    let w ← ev.expr env right
    setPlace place
    binary op v w
  | .logical op left right => do
    let v ← ev.expr env left
    if goesOn op v then ev.expr env right else pure v
  | .conditional test whenTrue whenFalse => do
    if (← ev.expr env test).truthy then ev.expr env whenTrue else ev.expr env whenFalse
  | .assign op target value place => ev.assignOf env op target value place
  | .construct callee args place => do
    let f ← ev.expr env callee
    let args ← ev.arguments env args
    setPlace place
    construct f args f
  | .superCall args place => ev.superCallOf env args place
  | .superMember key place => do
    match ← ev.calleeOf env (.superMember key place) with
    | some (v, _) => pure v
    | none => pure .undefined
  | .privateIn name e place => do
    let v ← ev.expr env e
    setPlace place
    match v with
    | .object ref => do
      let owner ← hiddenOwner env name
      pure (.bool ((← getObject ref).secret? owner name).isSome)
    | _ => typeError "invalid 'in' operand"
  | .chain e => do pure ((← ev.chain env e).getD .undefined)
  | .sequence first second => do
    let _ ← ev.expr env first
    ev.expr env second
  | .yield e isDelegate place => do
    let v ← ev.expr env e
    setPlace place
    if isDelegate then delegate env v else yieldOf env v
  | .await e place => do
    let v ← ev.expr env e
    setPlace place
    awaitValue v
  | .importCall e place => do
    let v ← ev.expr env e
    setPlace place
    let p ← newPromise
    addJob (.load p v env.info.file)
    pure (.object p)
  | .importMeta => do pure (.object (← newHeir none))
  | e => do pure ((← ev.chain env e).getD .undefined)

end Evaluator

end BrainHost.Script
