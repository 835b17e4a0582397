import BrainHost.Script.Evaluate.Target

/-! # Classes

Makes the constructor and the prototype of a class from its elements. -/

namespace BrainHost.Script

open Act

/-- What is known of a class before its elements are read. -/
structure ClassFrame where
  constructor : Nat
  proto : Nat
  /-- Where the class's own code runs. -/
  env : Env

/-- What the elements of a class leave for later. -/
structure ClassRest where
  fields : Array Field := #[]
  /-- What is done on the constructor itself, once all elements are read. -/
  statics : Array (Act Unit) := #[]

/-- The constructor of a class that has none of its own. -/
def defaultConstructor (info : ClassInfo) : Function :=
  let rest := Str.ofString "args"
  .mk
    { name := info.name, kind := if info.hasParent then .derivedConstructor else .constructor
      coroutine := .none, strict := true, length := 0, simple := !info.hasParent
      paramNames := if info.hasParent then [rest] else [], vars := [], lexicals := [], usesArguments := false
      usesEval := false, selfName := false, file := info.file, start := info.stop, lastLine := info.stop.line
      source := info.source }
    (if info.hasParent then [.mk (.name rest info.stop) .missing true] else [])
    (if info.hasParent then
      [.expression (.superCall [.spread (.name rest info.stop) info.stop] info.stop) false]
    else [])

def constructorCode (info : ClassInfo) : Option Function → Function
  | some (.mk f params body) => .mk { f with name := info.name, source := info.source } params body
  | none => defaultConstructor info

def hiddenNames (elements : List ClassElement) : List Str :=
  elements.filterMap fun e =>
    match e with
    | .member _ m =>
      match m with
      | .method (.hidden name) _ => some name
      | .getter (.hidden name) _ => some name
      | .setter (.hidden name) _ => some name
      | _ => none
    | .field _ (.hidden name) _ => some name
    | _ => none

/-- Joins a getter with the setter of the same name. -/
def joinSlots : Slot → Slot → Slot
  | .accessor g s, .accessor g' s' => .accessor (if g'.isUndefined then g else g') (if s'.isUndefined then s else s')
  | _, slot => slot

def addHiddenMethod (fields : Array Field) (owner : Nat) (name : Str) (slot : Slot) : Array Field :=
  let isSame (f : Field) : Bool := match f with
    | .method _ n _ => n == name
    | _ => false
  match fields.findIdx? isSame with
  | some i => fields.modify i fun f =>
    match f with
    | .method c n old => .method c n (joinSlots old slot)
    | f => f
  | none => fields.push (.method owner name slot)

/-- The constructor of a class with what it gives to its objects. -/
def Kind.withFields (fields : Array Field) : Kind → Kind
  | .closure c => .closure { c with fields }
  | kind => kind

namespace Evaluator

variable (ev : Evaluator)

/-- Defines a method, getter or setter under its name. -/
def defineMethod (frame : ClassFrame) (isStatic : Bool) (rest : ClassRest) (name : MemberName) (accessor : String)
    (f : Function) (slotOf : Value → Slot) : Act ClassRest := do
  let target := if isStatic then frame.constructor else frame.proto
  let k ← ev.keyOf frame.env name
  let ref ← makeFunction frame.env.scope f (some target)
  let v := Value.object ref
  match name with
  | .hidden n =>
    let slot := slotOf v
    let slot := match slot with
      | .data w _ => .data w false
      | slot => slot
    if isStatic then
      let old := ((← getObject target).secret? frame.proto n).map Property.slot
      modifyObject target fun o => o.putSecret frame.proto n ⟨joinSlots (old.getD slot) slot, true, true⟩
      pure rest
    else pure { rest with fields := addHiddenMethod rest.fields frame.proto n slot }
  | name =>
    match name with
    | .computed _ _ => setFunctionName ref accessor k
    | _ => pure ()
    let d : Descriptor := match slotOf v with
      | .data w _ => { value := some w, writable := some true, enumerable := some false, configurable := some true }
      | .accessor g s =>
        { get := if g.isUndefined then none else some g, set := if s.isUndefined then none else some s
          enumerable := some false, configurable := some true }
    insist (defineOwn target k d)
    pure rest

/-- The function that makes the first value of a field. -/
def initializerOf (frame : ClassFrame) (home : Nat) : Option Function → Act Value
  | some f => do pure (.object (← makeFunction frame.env.scope f (some home)))
  | none => pure .undefined

def classElement (frame : ClassFrame) (rest : ClassRest) : ClassElement → Act ClassRest
  | .member isStatic m =>
    match m with
    | .method name f => ev.defineMethod frame isStatic rest name "" f fun v => .data v true
    | .getter name f => ev.defineMethod frame isStatic rest name "get " f fun v => .accessor v .undefined
    | .setter name f => ev.defineMethod frame isStatic rest name "set " f fun v => .accessor .undefined v
    | _ => pure rest
  | .field isStatic name initializer => do
    let target := if isStatic then frame.constructor else frame.proto
    let k ← ev.keyOf frame.env name
    let init ← initializerOf frame target initializer
    let field : Field := match name with
      | .hidden n => .hidden frame.proto n init
      | _ => .plain k init
    pure (if isStatic then { rest with statics := rest.statics.push (initializeFields frame.constructor #[field]) }
      else { rest with fields := rest.fields.push field })
  | .block f => do
    let ref ← makeFunction frame.env.scope f (some frame.constructor)
    pure { rest with statics := rest.statics.push do
            let _ ← call (.object ref) (.object frame.constructor) #[] }

/-- What a class extends: the prototype of its prototype and that of its constructor. -/
def classParents (env : Env) (info : ClassInfo) (parent : Expr) : Act (Option Nat × Nat) := do
  if !info.hasParent then
    pure (some Intrinsic.objectPrototype.ref, Intrinsic.functionPrototype.ref)
  else
    let v ← ev.expr env parent
    setPlace info.start
    match v with
    | .null => pure (none, Intrinsic.functionPrototype.ref)
    | v =>
      if !(← read fun r => r.isConstructor v) then typeError "parent class must be constructor"
      else
        let ref := (v.ref?).getD 0
        match ← getNamed ref "prototype" with
        | .object p => pure (some p, ref)
        | .null => pure (none, ref)
        | _ => typeError "parent prototype must be an object or null"

def makeClass (env : Env) : Class → Act Value
  | .mk info parent constructor elements => do
    let scope ← newScope
      { parent := some env.scope
        bindings := if info.hasName then #[⟨info.name, none, .never⟩] else #[] }
    let inner : Env := { scope, info := { env.info with strict := true } }
    let (protoParent, constructorParent) ← ev.classParents inner info parent
    let proto ← newHeir protoParent
    (hiddenNames elements).forM fun name => addBinding scope ⟨hiddenName name, some (.nat proto), .never⟩
    let o := closureObject (constructorCode info constructor) scope (some proto)
    let ref ← newObject { o with proto := some constructorParent }
    putProperty ref (.text "prototype") ⟨.data (.object proto) false, false, false⟩
    putProperty proto (.text "constructor") (.hidden (.object ref))
    let frame : ClassFrame := { constructor := ref, proto, env := inner }
    let rest ← elements.foldlM (fun rest e => ev.classElement frame rest e) {}
    modifyObject ref fun o => { o with kind := o.kind.withFields rest.fields }
    if info.hasName then initializeName inner info.name (.object ref)
    rest.statics.toList.forM id
    pure (.object ref)

end Evaluator

end BrainHost.Script
