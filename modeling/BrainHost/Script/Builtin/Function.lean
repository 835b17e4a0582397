import BrainHost.Script.Evaluate
import BrainHost.Script.Builtin.Object

/-! # Functions and errors

`Function`, the classes of errors, `Reflect` and `Proxy`. -/

namespace BrainHost.Script

open Act

def listArguments (v : Value) : Act (Array Value) := do
  match v with
  | .object ref => do listItems ref (← lengthOf ref)
  | _ => typeError "not a object"

/-! ## `Function` -/

/-- The source of a function of which only the parameters and the body are given. -/
def functionSource (isAsync isGenerator : Bool) (args : Array Value) : Act Str := do
  let params ← (args.extract 0 (args.size - 1)).toList.mapM toStr
  let body ← match args.back? with
    | some v => toStr v
    | none => pure .empty
  let head := (if isAsync then "(async " else "(") ++ (if isGenerator then "function* anonymous(" else "function anonymous(")
  pure (Str.ofString head ++ Str.join (Str.ofString ",") params ++ Str.ofString "\n) \x7b\n" ++ body
    ++ Str.ofString "\n\x7d)")

def functionText (ref : Nat) : Act Value := do
  let name ← read fun r => r.functionName ref
  let native := Str.ofString "function " ++ name ++ Str.ofString "() \x7b\n    [native code]\n\x7d"
  match (← getObject ref).kind with
  | .closure c =>
    let info := c.code.info
    pure (.string (if info.source.isEmpty then native else info.source))
  | _ => if ← read fun r => r.isCallable (.object ref) then pure (.string native) else typeError "not a function"

def bindFunction (target : Nat) (args : Array Value) : Act Value := do
  let length ←
    if (← ownProperty target lengthKey).isSome then
      match ← getProperty target lengthKey with
      | .number x =>
        let count := natFloat (args.size - 1)
        pure (if x.isNaN || x ≤ count then 0 else if x.isInf then x else intFloat (toInteger x) - count)
      | _ => pure 0
    else pure 0
  let name := match ← getNamed target "name" with
    | .string s => s
    | _ => .empty
  let o : Obj :=
    { kind := .bound target (argOf args 0) (args.extract 1 args.size), proto := ← getPrototype reach target }
  let o := (o.put lengthKey (.readOnly (.number length))).put (.text "name")
    (.readOnly (.string (Str.ofString "bound " ++ name)))
  pure (.object (← newObject o))

/-- The functions of `Function`. -/
def callFunction (f : FunctionFunction) (this : Value) (args : Array Value) (newTarget : Value) : Act Value := do
  let callable ← read fun r => r.isCallable this
  match f with
  | .construct isAsync isGenerator => do
    let source ← functionSource isAsync isGenerator args
    let p ← readProgram (.script false {}) "<eval>" inputFile source.toChars
    let v ← evaluator.runText p globalScope
    match newTarget, v with
    | .object target, .object ref => do
      match ← getNamed target "prototype" with
      | .object proto => setProto ref (some proto)
      | _ => pure ()
    | _, _ => pure ()
    pure v
  | .prototype => pure .undefined
  | .apply => do
    if !callable then typeError "not a function"
    else
      let list := argOf args 1
      let list ← if list.isNullish then pure #[] else listArguments list
      call this (argOf args 0) list
  | .bind =>
    match this, callable with
    | .object ref, true => bindFunction ref args
    | _, _ => typeError "not a function"
  | .call => if callable then call this (argOf args 0) (args.extract 1 args.size) else typeError "not a function"
  | .toString =>
    match this with
    | .object ref => functionText ref
    | _ => typeError "not a function"
  | .hasInstance => do pure (.bool (← ordinaryInstance reach (argOf args 0) this))

/-! ## Errors -/

def callError (f : ErrorFunction) (this : Value) (args : Array Value) (newTarget : Value) : Act Value := do
  match f with
  | .construct kind => do
    let proto ← protoOfNew newTarget (Intrinsic.errorPrototype kind).ref
    let isAggregate := kind = .aggregateError
    let ref ← newObject { kind := .error, proto := some proto }
    let message := argOf args (if isAggregate then 1 else 0)
    if message.isUndefined then pure ()
    else do putProperty ref (.text "message") (.hidden (.string (← toStr message)))
    match argOf args (if isAggregate then 2 else 1) with
    | .object options => do
      if ← has options (.text "cause") then
        putProperty ref (.text "cause") (.hidden (← getNamed options "cause"))
      else pure ()
    | _ => pure ()
    if isAggregate then
      putProperty ref (.text "errors") (.hidden (← newArray (← itemsOf (argOf args 0))))
    -- The constructor itself is not part of the stack.
    let trace ← read fun r => r.traceProperties (r.calls.drop 1)
    trace.forM fun (k, p) => putProperty ref k p
    pure (.object ref)
  | .toString => do
    match this with
    | .object ref => do
      let part (name : String) (missing : Str) : Act Str := do
        match ← getNamed ref name with
        | .undefined => pure missing
        | v => toStr v
      let name ← part "name" "Error"
      let message ← part "message" .empty
      pure (.string (if name.isEmpty then message else if message.isEmpty then name
        else name ++ Str.ofString ": " ++ message))
    | _ => typeError "not an object"

/-! ## `Reflect` and `Proxy` -/

def accepted : Change → Value
  | .ok () => .bool true
  | .error _ => .bool false

/-- The functions of `Reflect`. -/
def callReflect (f : ReflectFunction) (args : Array Value) : Act Value := do
  let first := argOf args 0
  let second := argOf args 1
  match f with
  | .apply => do
    if ← read fun r => r.isCallable first then call first second (← listArguments (argOf args 2))
    else typeError "not a function"
  | .construct => do
    let newTarget := if 2 < args.size then argOf args 2 else first
    let both ← read fun r => r.isConstructor first && r.isConstructor newTarget
    if both then BrainHost.Script.Act.construct first (← listArguments second) newTarget
    else typeError "not a constructor"
  | .defineProperty => do
    let ref ← insistObject first
    let k ← toKey second
    let d ← toDescriptor (argOf args 2)
    pure (accepted (← defineOwn ref k d))
  | .deleteProperty => do
    let ref ← insistObject first
    pure (accepted (← deleteProperty ref (← toKey second)))
  | .get => do
    let ref ← insistObject first
    let k ← toKey second
    getFrom reach ref k (if 2 < args.size then argOf args 2 else first)
  | .getOwnPropertyDescriptor => do
    let ref ← insistObject first
    match ← ownProperty ref (← toKey second) with
    | some p => descriptorObject p
    | none => pure .undefined
  | .getPrototypeOf => do pure (protoValue (← getPrototype reach (← insistObject first)))
  | .has => do
    let ref ← insistObject first
    pure (.bool (← has ref (← toKey second)))
  | .isExtensible => do pure (.bool (← isExtensible reach (← insistObject first)))
  | .ownKeys => do newArray ((← ownKeys (← insistObject first)).map Key.toValue)
  | .preventExtensions => do pure (.bool (← preventExtensions reach (← insistObject first)))
  | .set => do
    let ref ← insistObject first
    let k ← toKey second
    pure (accepted (← setOn reach ref k (argOf args 2) (if 3 < args.size then argOf args 3 else first)))
  | .setPrototypeOf => do
    let ref ← insistObject first
    match asPrototype? second with
    | none => typeError "not an object"
    | some proto =>
      match ← setPrototype reach ref proto with
      | .ok () => pure (.bool true)
      | .error _ => pure (.bool false)

def newProxy (args : Array Value) : Act Nat := do
  match argOf args 0, argOf args 1 with
  | .object target, .object handler => do
    let (callable, constructs) ← read fun r => (r.isCallable (.object target), r.isConstructor (.object target))
    newObject { kind := .proxy (some target) (some handler) callable constructs }
  | _, _ => typeError "not an object"

def newRevocable (args : Array Value) : Act Value := do
  let proxy ← newProxy args
  let revoke ← newNative (.revoke proxy) .empty 0
  let ref ← newPlain
  putNamed ref "proxy" (.object proxy)
  putNamed ref "revoke" (.object revoke)
  pure (.object ref)

def revokeProxy (ref : Nat) : Act Value := do
  match (← getObject ref).kind with
  | .proxy _ _ callable constructs => setKind ref (.proxy none none callable constructs)
  | _ => pure ()
  pure .undefined

def callProxy (target handler : Option Nat) (this : Value) (args : Array Value) : Act Value := do
  let (t, h) ← proxyParts target handler
  let trap ← getMethod (.object h) (.text "apply")
  if trap.isUndefined then call (.object t) this args
  else do call trap (.object h) #[.object t, this, ← newArray args]

def constructProxy (target handler : Option Nat) (args : Array Value) (newTarget : Value) : Act Value := do
  let (t, h) ← proxyParts target handler
  let trap ← getMethod (.object h) (.text "construct")
  if trap.isUndefined then construct (.object t) args newTarget
  else
    let v ← call trap (.object h) #[.object t, ← newArray args, newTarget]
    if v.isObject then pure v else typeError "not an object"

end BrainHost.Script
