import BrainHost.Script.Value

/-! # Actions of scripts

An action works on a realm. It can return, throw, leave a generator or ask: for a call, for what a
suspended function is resumed with, or for something of the host. An asking action comes with what
follows the answer, so that whoever answers decides how deep calls may nest and can keep a
suspended function for later. No action takes jobs out of their queue, lends host memory or takes
it back. -/

namespace BrainHost.Script

/-! ## Where actions lead -/

/-- What becomes of lent memory when bytes are written to it. -/
def Loan.written (loan : Loan) (new : List (Nat × UInt8)) : Loan :=
  ⟨loan.bytes.map (overwrite · new), loan.writes ++ new.toArray⟩

theorem Loan.written_nil (loan : Loan) : loan.written [] = loan := by
  obtain ⟨bytes, writes⟩ := loan
  cases bytes <;> simp [written, overwrite]

theorem Loan.written_append (loan : Loan) (first second : List (Nat × UInt8)) :
    (loan.written first).written second = loan.written (first ++ second) := by
  obtain ⟨bytes, writes⟩ := loan
  cases bytes <;> simp [written, overwrite_append]

namespace Realm

variable {r s t : Realm}

/-- The same jobs wait in two realms, and the same memory is lent. -/
structure Still (r s : Realm) : Prop where
  jobs : s.jobs = r.jobs
  loans : ∀ ref, s.loan? ref = r.loan? ref

/-- What actions may do to a realm: new jobs wait after those that waited, and bytes are written to lent memory. -/
structure Reaches (r s : Realm) : Prop where
  jobs : r.jobs <+: s.jobs
  loans : ∀ ref, ∃ new, s.loan? ref = (r.loan? ref).map (Loan.written · new)

namespace Still

theorem refl (r : Realm) : r.Still r := ⟨rfl, fun _ => rfl⟩

theorem trans (h : r.Still s) (h' : s.Still t) : r.Still t :=
  ⟨h'.jobs.trans h.jobs, fun ref => (h'.loans ref).trans (h.loans ref)⟩

theorem of_objects (jobs : s.jobs = r.jobs) (objects : s.objects = r.objects) : r.Still s :=
  ⟨jobs, fun ref => by rw [loan?, objects, loan?]⟩

theorem allocate (r : Realm) {o : Obj} (own : o.lent = none) : r.Still (r.allocate o).2 where
  jobs := rfl
  loans ref := by
    simp only [loan?, Realm.allocate, Array.getElem?_push]
    split
    · next h => rw [h, Array.getElem?_size, Option.bind_some, own, Option.bind_none]
    · rfl

theorem modifyObject (r : Realm) (ref : Nat) {f : Obj → Obj}
    (same : ∀ o, r.objects[ref]? = some o → (f o).lent = o.lent) : r.Still (r.modifyObject ref f) where
  jobs := rfl
  loans other := by
    simp only [loan?, Realm.modifyObject, Array.getElem?_modify]
    split
    · next h =>
      subst h
      cases found : r.objects[ref]? with
      | none => rfl
      | some o => exact same o found
    · rfl

end Still

namespace Reaches

theorem of_still (h : r.Still s) : r.Reaches s where
  jobs := h.jobs ▸ List.prefix_rfl
  loans ref := ⟨[], by rw [h.loans ref, funext Loan.written_nil]; exact Option.map_id'.symm⟩

theorem refl (r : Realm) : r.Reaches r := .of_still (.refl r)

theorem trans (h : r.Reaches s) (h' : s.Reaches t) : r.Reaches t where
  jobs := h.jobs.trans h'.jobs
  loans ref := by
    obtain ⟨first, hfirst⟩ := h.loans ref
    obtain ⟨second, hsecond⟩ := h'.loans ref
    refine ⟨first ++ second, ?_⟩
    rw [hsecond, hfirst, Option.map_map]
    congr 1
    exact funext fun loan => loan.written_append first second

end Reaches

end Realm

/-! ## Actions -/

/-- What an action asks for. -/
inductive Query
  | call (f this : Value) (args : Array Value)
  | construct (f : Value) (args : Array Value) (newTarget : Value)
  /-- Gives the steps so far a rest. -/
  | rest
  /-- Makes a generator of the running function. -/
  | begin
  /-- Suspends the running function until a promise is settled. -/
  | await (promise : Nat)
  /-- Suspends the running generator. -/
  | yield (v : Value)
  | resume (thread : Nat) (how : Resumption) (v : Value)
  | host (request : Request)

/-- What an action is answered. -/
inductive Reply
  | value (v : Value)
  | thrown (v : Value)
  | returned (v : Value)
  /-- A generator yields and is not finished. -/
  | yielded (v : Value)
  /-- A function waits for a promise; what its caller gets meanwhile. -/
  | waiting (v : Value)
  | answered (a : Answer Value)

/-- How an action goes on. -/
inductive Res (α : Type)
  | ok (a : α) (realm : Realm)
  | thrown (v : Value) (realm : Realm)
  | left (v : Value) (realm : Realm)
  | ask (query : Query) (realm : Realm) (resume : Reply → Realm → Res α)
  /-- No steps are left. -/
  | stuck

/-- How an action ended. -/
inductive Exit (α : Type)
  | ok (a : α)
  | thrown (v : Value)
  | left (v : Value)

/-- What came of a resumed function. -/
inductive Progress
  | finished (v : Value)
  | yielded (v : Value)
  | waiting

namespace Res

variable {α β : Type}

def bind : Res α → (α → Realm → Res β) → Res β
  | ok a r, f => f a r
  | thrown v r, _ => thrown v r
  | left v r, _ => left v r
  | ask q r k, f => ask q r fun reply r => (k reply r).bind f
  | stuck, _ => stuck

def capture : Res α → Res (Exit α)
  | ok a r => ok (.ok a) r
  | thrown v r => ok (.thrown v) r
  | left v r => ok (.left v) r
  | ask q r k => ask q r fun reply r => (k reply r).capture
  | stuck => stuck

end Res

/-- What comes up in an action was reached from a realm, and code that goes on with an answer reaches what
comes up there from where it goes on. -/
def Res.From {α : Type} (r : Realm) : Res α → Prop
  | ok _ s => r.Reaches s
  | thrown _ s => r.Reaches s
  | left _ s => r.Reaches s
  | ask _ s resume => r.Reaches s ∧ ∀ reply t, (resume reply t).From t
  | stuck => True

namespace Res.From

variable {α β : Type} {r s : Realm} {x : Res α}

theorem trans (h : r.Reaches s) (hx : x.From s) : x.From r := by
  cases x with
  | ok a t => exact h.trans hx
  | thrown v t => exact h.trans hx
  | left v t => exact h.trans hx
  | ask q t resume => exact ⟨h.trans hx.1, hx.2⟩
  | stuck => trivial

theorem bind {f : α → Realm → Res β} (hx : x.From r) (hf : ∀ a s, (f a s).From s) : (x.bind f).From r := by
  induction x generalizing r with
  | ok a s => exact .trans hx (hf a s)
  | thrown v s => exact hx
  | left v s => exact hx
  | ask q s resume ih => exact ⟨hx.1, fun reply t => ih reply t (hx.2 reply t)⟩
  | stuck => trivial

theorem capture (hx : x.From r) : x.capture.From r := by
  induction x generalizing r with
  | ok a s => exact hx
  | thrown v s => exact hx
  | left v s => exact hx
  | ask q s resume ih => exact ⟨hx.1, fun reply t => ih reply t (hx.2 reply t)⟩
  | stuck => trivial

end Res.From

/-- An action. -/
structure Act (α : Type) where
  run : Realm → Res α
  reaches : ∀ r, (run r).From r

instance {α : Type} : CoeFun (Act α) fun _ => Realm → Res α := ⟨Act.run⟩

namespace Act

variable {α β : Type}

instance : Monad Act where
  pure a := ⟨fun r => .ok a r, .refl⟩
  bind m f := ⟨fun r => (m r).bind fun a => f a, fun r => (m.reaches r).bind fun a => (f a).reaches⟩

instance : Inhabited (Act α) := ⟨⟨fun _ => .stuck, fun _ => trivial⟩⟩

def read (f : Realm → α) : Act α := ⟨fun r => .ok (f r) r, .refl⟩

/-- A change that leaves jobs and lent memory as they are. -/
def update (f : Realm → α × Realm) (still : ∀ r : Realm, r.Still (f r).2 := by exact fun _ => .of_objects rfl rfl) : Act α :=
  ⟨fun r => let (a, r) := f r; .ok a r, fun r => .of_still (still r)⟩

def modify (f : Realm → Realm) (still : ∀ r : Realm, r.Still (f r) := by exact fun _ => .of_objects rfl rfl) : Act Unit :=
  ⟨fun r => .ok () (f r), fun r => .of_still (still r)⟩

def throwValue (v : Value) : Act α := ⟨fun r => .thrown v r, .refl⟩

def leave (v : Value) : Act α := ⟨fun r => .left v r, .refl⟩

def stuck : Act α := ⟨fun _ => .stuck, fun _ => trivial⟩

def capture (m : Act α) : Act (Exit α) := ⟨fun r => (m r).capture, fun r => (m.reaches r).capture⟩

def finish : Exit α → Act α
  | .ok a => pure a
  | .thrown v => throwValue v
  | .left v => leave v

/-- Does `cleanup` however `m` ends. -/
def ensuring (m : Act α) (cleanup : Act Unit) : Act α := do
  let exit ← m.capture
  cleanup
  finish exit

/-- Handles what `m` throws. -/
def catching (m : Act α) (handler : Value → Act α) : Act α := do
  match ← m.capture with
  | .thrown v => handler v
  | exit => finish exit

/-- Asks, and goes on with what the answer is taken for. -/
def asking (q : Query) (take : Reply → Exit α) : Act α where
  run r := .ask q r fun reply r => finish (take reply) r
  reaches r := ⟨.refl r, fun reply => (finish (take reply)).reaches⟩

def ask (q : Query) : Act Value := asking q fun
  | .value v => .ok v
  | .thrown v => .thrown v
  | .returned v => .left v
  | .yielded v => .ok v
  | .waiting v => .ok v
  | .answered _ => .ok .undefined

def call (f this : Value) (args : Array Value) : Act Value := ask (.call f this args)

def construct (f : Value) (args : Array Value) (newTarget : Value) : Act Value :=
  ask (.construct f args newTarget)

def resume (thread : Nat) (how : Resumption) (v : Value) : Act Progress := asking (.resume thread how v) fun
  | .yielded v => .ok (.yielded v)
  | .waiting _ => .ok .waiting
  | .value v => .ok (.finished v)
  | .returned v => .ok (.finished v)
  | .thrown v => .thrown v
  | .answered _ => .ok (.finished .undefined)

/-- Hands a value out of the running generator, and takes what it is resumed with. -/
def yieldOut (v : Value) : Act (Resumption × Value) := asking (.yield v) fun
  | .thrown v => .ok (.throws, v)
  | .returned v => .ok (.returns, v)
  | .value v => .ok (.next, v)
  | .yielded v => .ok (.next, v)
  | .waiting v => .ok (.next, v)
  | .answered _ => .ok (.next, .undefined)

def host (request : Request) : Act (Answer Value) := asking (.host request) fun
  | .answered a => .ok a
  | .thrown v => .thrown v
  | _ => .ok .none

def rest : Act Unit := do
  let _ ← ask .rest

/-- Does an action over and over until it gives a result; a rest before each round keeps the depth
of the steps small. -/
def forever (body : β → Act (Except β α)) : Nat → β → Act α
  | 0, _ => stuck
  | rounds + 1, state => do
    rest
    match ← body state with
    | .ok a => pure a
    | .error state => forever body rounds state

/-- More rounds than any run can do. -/
def endless : Nat := Nat.pow 2 62

/-- Does an action over and over until it gives a result. -/
def loop (state : β) (body : β → Act (Except β α)) : Act α := forever body endless state

def setPlace (place : Place) : Act Unit :=
  modify (fun r =>
    match r.calls with
    | call :: calls => { r with calls := { call with place } :: calls }
    | [] => r) fun r => by split <;> exact .of_objects rfl rfl

end Act

def setResult (v : Value) : Act Unit := Act.modify fun r => { r with result := v }

/-! ## Objects -/

def getObject (ref : Nat) : Act Obj := Act.read fun r => r.object ref

def newObject (o : Obj) (own : o.lent = none := by rfl) : Act Nat :=
  Act.update (fun r => r.allocate o) fun r => .allocate r own

def modifyObject (ref : Nat) (f : Obj → Obj) (same : ∀ o, (f o).lent = o.lent := by exact fun _ => rfl) : Act Unit :=
  Act.modify (fun r => r.modifyObject ref f) fun r => .modifyObject r ref fun o _ => same o

def setKind (ref : Nat) (kind : Kind) : Act Unit := modifyObject ref fun o => { o with kind }

def setProto (ref : Nat) (proto : Option Nat) : Act Unit := modifyObject ref fun o => { o with proto }

/-- Makes an object without properties of its own. -/
def newHeir (proto : Option Nat) : Act Nat := newObject { proto }

def newPlain : Act Nat := newHeir (some Intrinsic.objectPrototype.ref)

def newArray (items : Array Value) : Act Value := do
  let ref ← newObject { kind := .array items items.size true, proto := some Intrinsic.arrayPrototype.ref }
  pure (.object ref)

/-! ## Errors -/

/-- The name of a function, as its stack frames show it. -/
def Realm.functionName (r : Realm) (ref : Nat) : Str :=
  match (r.object ref).properties.get? (.text "name") with
  | some ⟨.data (.string s) _, _, _⟩ => s
  | _ => .empty

def Realm.frame (r : Realm) (call : Call) : Str :=
  let name := match call.function with
    | some ref => r.functionName ref
    | none => .empty
  let name := if name.isEmpty then Str.ofString "<anonymous>" else name
  let place := match call.file with
    | some file => s!"{file}:{call.place.line}:{call.place.column}"
    | none => "native"
  Str.ofString "    at " ++ name ++ Str.ofString (" (" ++ place ++ ")\n")

def Realm.stack (r : Realm) (calls : List Call) : Str :=
  calls.foldl (fun out call => out ++ r.frame call) .empty

/-- Where an error was made, as its properties tell. -/
def Realm.traceProperties (r : Realm) (calls : List Call) : List (Key × Property) :=
  let place := (calls.find? fun c => c.file.isSome).map Call.place
  [(.text "stack", .hidden (.string (r.stack calls)))]
    ++ match place with
      | some p => [(.text "lineNumber", .hidden (.nat p.line)), (.text "columnNumber", .hidden (.nat p.column))]
      | none => []

def Obj.putAll (o : Obj) (properties : List (Key × Property)) : Obj :=
  properties.foldl (fun o (k, p) => o.put k p) o

theorem Obj.putAll_lent (o : Obj) (properties : List (Key × Property)) : (o.putAll properties).lent = o.lent := by
  induction properties generalizing o with
  | nil => rfl
  | cons p properties ih => exact ih _

/-- An error of a class that is made in a realm. -/
def Realm.errorObject (r : Realm) (kind : ErrorClass) (message : Str) : Obj :=
  let o : Obj := { kind := .error, proto := some (Intrinsic.errorPrototype kind).ref }
  let o := o.put (.text "message") (.hidden (.string message))
  o.putAll (r.traceProperties r.calls)

def Realm.newError (r : Realm) (kind : ErrorClass) (message : Str) : Nat × Realm :=
  r.allocate (r.errorObject kind message)

theorem Realm.newError_still (r : Realm) (kind : ErrorClass) (message : Str) : r.Still (r.newError kind message).2 :=
  .allocate r (Obj.putAll_lent _ _)

def fail {α : Type} (kind : ErrorClass) (message : Str) : Act α where
  run r :=
    let (ref, r) := r.newError kind message
    .thrown (.object ref) r
  reaches r := .of_still (r.newError_still kind message)

def typeError {α : Type} (message : String) : Act α := fail .typeError (Str.ofString message)

def rangeError {α : Type} (message : String) : Act α := fail .rangeError (Str.ofString message)

/-- Throws because calls nest too deep. -/
def stackOverflow {α : Type} : Act α := fail .internalError (Str.ofString "stack overflow")

end BrainHost.Script
