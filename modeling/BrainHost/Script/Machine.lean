import BrainHost.Script.Global

/-! # Running actions

Answers what actions ask for: calls functions, resumes suspended ones, and passes on what is asked
of the host. Code that waits for an answer is kept as a list, so that calls nest without bound on
the machine's own stack. -/

namespace BrainHost.Script

/-- How code goes on with an answer. -/
abbrev Continuation (α : Type) := Reply → Act α

/-- Code that goes on with an answer does so by an action. -/
def Res.Sound {α : Type} : Res α → Prop
  | .ask _ _ resume => ∀ reply r, (resume reply r).From r
  | _ => True

theorem Act.sound {α : Type} (m : Act α) (r : Realm) : (m r).Sound := by
  have h := m.reaches r
  cases hm : m r with
  | ask query s resume =>
    rw [hm] at h
    exact h.2
  | _ => trivial

/-- A suspended function and its entry of the stack. -/
structure Thread where
  resume : Continuation Value
  call : Option Call

/-- Code that waits for an answer, and the running functions around it. Where it has resumed a
suspended function, that one is known by its number. -/
structure Frame (α : Type) where
  resume : Continuation α
  calls : List Call
  thread : Option Nat

/-- All code that waits, from the innermost function out to the one that everything began with. -/
inductive Waiting (α : Type)
  | base (frame : Frame α)
  /-- A function that waits, and how many are around it. -/
  | callee (frame : Frame Value) (depth : Nat) (rest : Waiting α)

/-- The running code and the code that waits for it. -/
inductive Running (α : Type)
  | main (res : Res α) (sound : res.Sound)
  | callee (res : Res Value) (sound : res.Sound) (waiting : Waiting α)

namespace Running

variable {α : Type}

def enter (m : Act α) (r : Realm) : Running α := .main (m r) (m.sound r)

/-- Starts code for the code that waits for it. -/
def call (m : Act Value) (r : Realm) (waiting : Waiting α) : Running α := .callee (m r) (m.sound r) waiting

end Running

namespace Waiting

variable {α : Type}

def answer (reply : Reply) (r : Realm) : Waiting α → Running α
  | base f => .enter (f.resume reply) { r with calls := f.calls }
  | callee f _ rest => .call (f.resume reply) { r with calls := f.calls } rest

/-- The number of the suspended function that was resumed last. -/
def thread? : Waiting α → Option Nat
  | base f => f.thread
  | callee f _ _ => f.thread

def depth : Waiting α → Nat
  | base _ => 0
  | callee _ depth _ => depth

end Waiting

/-! ## Entering functions -/

/-- How a function starts: its entry of the stack, if it has one, and its body. -/
structure Entering where
  call : Option Call
  body : Act Value

def Closure.entry (c : Closure) (ref : Nat) : Option Call :=
  some { function := some ref, file := some c.code.info.file, place := c.code.info.start }

def Native.entry (f : Native) (ref : Nat) : Option Call :=
  if f.showsInStack then some { function := some ref, file := none, place := ⟨0, 0⟩ } else none

def Entering.refused (message : String) : Entering := ⟨none, typeError message⟩

def Realm.enterCall (r : Realm) (f this : Value) (args : Array Value) : Entering :=
  match f with
  | .object ref =>
    match (r.object ref).kind with
    | .closure c =>
      let kind := c.code.info.kind
      ⟨c.entry ref,
        if kind = .constructor || kind = .derivedConstructor then
          typeError "class constructors must be invoked with 'new'"
        else runClosure ref c (some this) args .undefined⟩
    | .native n => ⟨n.entry ref, callNative n this args .undefined⟩
    | .bound target own first => ⟨none, Act.call (.object target) own (first ++ args)⟩
    | .proxy target handler true _ => ⟨none, callProxy target handler this args⟩
    | _ => .refused "not a function"
  | _ => .refused "not a function"

def Realm.enterConstruct (r : Realm) (f : Value) (args : Array Value) (newTarget : Value) : Entering :=
  match f with
  | .object ref =>
    if !r.isConstructor f then .refused "not a constructor"
    else
      match (r.object ref).kind with
      | .closure c => ⟨c.entry ref, constructClosure ref c args newTarget⟩
      | .native n => ⟨n.entry ref, callNative n .undefined args newTarget⟩
      | .bound target _ first =>
        let newTarget := if newTarget.ref? = some ref then .object target else newTarget
        ⟨none, Act.construct (.object target) (first ++ args) newTarget⟩
      | .proxy target handler _ _ => ⟨none, constructProxy target handler args newTarget⟩
      | _ => .refused "not a constructor"
  | _ => .refused "not a function"

/-! ## The machine -/

/-- A realm and its suspended functions. -/
structure Context where
  realm : Realm
  threads : Array Thread := #[]

namespace Machine

variable {α : Type}

/-- Starts a function for waiting code, unless calls nest too deep. -/
def start (r : Realm) (e : Entering) (waiting : Waiting α) : Running α :=
  if r.maxDepth ≤ waiting.depth then .call stackOverflow r waiting
  else
    match e.call with
    | some call => .call e.body { r with calls := call :: r.calls } waiting
    | none => .call e.body r waiting

def suspend (threads : Array Thread) (r : Realm) (resume : Continuation Value) (thread : Option Nat) :
    Nat × Array Thread :=
  let t : Thread := ⟨resume, r.calls.head?⟩
  match thread with
  | some id => (id, threads.set! id t)
  | none => (threads.size, threads.push t)

/-- Lets a suspended function go on when a promise is settled. -/
def follow (promise owner thread : Nat) : Act Unit := do
  let resolve ← newNative (.promise (.wake owner thread false)) .empty 1
  let reject ← newNative (.promise (.wake owner thread true)) .empty 1
  followPromise promise ⟨.object resolve, none⟩ ⟨.object reject, none⟩

/-- The promise or generator of the running function. -/
def coroutine (r : Realm) : Nat := ((r.calls.head?).bind Call.coroutine).getD 0

def resumption : Resumption → Value → Reply
  | .next, v => .value v
  | .throws, v => .thrown v
  | .returns, v => .returned v

/-- Suspends the running function; `none` if the question is of another kind. -/
def suspending? (threads : Array Thread) (r : Realm) (resume : Continuation Value) (waiting : Waiting α) :
    Query → Option (Array Thread × Running α)
  | .begin =>
    let (id, threads) := suspend threads r resume none
    let owner := coroutine r
    match setSuspension owner (.suspended id false) r with
    | .ok () r => some (threads, waiting.answer (.value (.object owner)) r)
    | _ => none
  | .yield v =>
    let (_, threads) := suspend threads r resume waiting.thread?
    some (threads, waiting.answer (.yielded v) r)
  | .await promise =>
    let (id, threads) := suspend threads r resume waiting.thread?
    let owner := coroutine r
    match follow promise owner id r with
    | .ok () r => some (threads, waiting.answer (.waiting (.object owner)) r)
    | _ => none
  | _ => none

/-- What comes of one step of the machine. -/
inductive Turn (α : Type)
  | ended (result : Context × Except Value α)
  | running (threads : Array Thread) (state : Running α)
  | asks (request : Request) (threads : Array Thread) (meanwhile : Context) (resume : Answer Value → Running α)
  /-- No steps are left, or there is no such suspended function. -/
  | stuck

/-- What the host finds of a realm whose functions wait for it: no function runs any more if no answer comes. -/
def abandoned (threads : Array Thread) (r : Realm) : Context := ⟨{ r with calls := [] }, threads⟩

/-- How the machine goes on with a question that suspends nothing. -/
def serve (threads : Array Thread) (r : Realm) (wait : Option Nat → Waiting α) : Query → Turn α
  | .call f this args => .running threads (start r (r.enterCall f this args) (wait none))
  | .construct f args newTarget => .running threads (start r (r.enterConstruct f args newTarget) (wait none))
  | .rest => .running threads ((wait none).answer (.value .undefined) r)
  | .resume id how v =>
    match threads[id]? with
    | some t => .running threads (start r ⟨t.call, t.resume (resumption how v)⟩ (wait (some id)))
    | none => .stuck
  | .host request => .asks request threads (abandoned threads r) fun a => (wait none).answer (.answered a) r
  | _ => .stuck

def turn (threads : Array Thread) : Running α → Turn α
  | .main (.ok a r) _ => .ended (⟨r, threads⟩, .ok a)
  | .main (.thrown v r) _ => .ended (⟨r, threads⟩, .error v)
  | .main (.left v r) _ => .ended (⟨r, threads⟩, .error v)
  | .main .stuck _ => .stuck
  | .main (.ask q r resume) sound =>
    let k : Continuation α := fun reply => ⟨resume reply, sound reply⟩
    serve threads r (fun t => .base ⟨k, r.calls, t⟩) q
  | .callee (.ok v r) _ w => .running threads (w.answer (.value v) r)
  | .callee (.thrown v r) _ w => .running threads (w.answer (.thrown v) r)
  | .callee (.left v r) _ w => .running threads (w.answer (.returned v) r)
  | .callee .stuck _ _ => .stuck
  | .callee (.ask q r resume) sound w =>
    let k : Continuation Value := fun reply => ⟨resume reply, sound reply⟩
    match suspending? threads r k w q with
    | some (threads, state) => .running threads state
    | none => serve threads r (fun t => .callee ⟨k, r.calls, t⟩ (w.depth + 1) w) q

def run : Nat → Array Thread → Running α → Run Context Value (Context × Except Value α)
  | 0, _, _ => .stuck
  | n + 1, threads, state =>
    match turn threads state with
    | .ended result => .done result
    | .running threads state => run n threads state
    | .asks request threads meanwhile resume => .ask request meanwhile fun a => run n threads (resume a)
    | .stuck => .stuck

end Machine

def Context.run {α : Type} (c : Context) (m : Act α) : Run Context Value (Context × Except Value α) :=
  Machine.run Act.endless c.threads (.enter m c.realm)

/-- Runs an action that asks nothing of the host, as far as it gets. -/
def Context.runAlone {α : Type} (c : Context) (m : Act α) : Context × Except Value α :=
  match c.run m with
  | .done result => result
  | _ => (c, .error .undefined)

end BrainHost.Script
