import BrainHost.Engine

/-! # The state of a runtime and its operations

An operation works on the state of a runtime. It may call host functions, which may start further
operations before they return. Re-entering a context that is running is a fault. -/

namespace BrainHost

/-- The module of an id: its namespace object and the source it was made from. -/
structure StoredModule (V : Type) where
  namespaceObject : V
  source : String

/-- A brain. Its context is absent while a script of the brain is running. -/
structure Brain (E : Engine) where
  context : Option E.Context
  source : String
  /-- The number of its end of the service bridge. -/
  bridge : Nat
  updateAgent : E.Value
  postMessageFlush : Option E.Value := none
  modules : List (String × StoredModule E.Value) := []
  maxPendingJobs : Option Nat

/-- The call-scoped handle by which a host reports the result of a service call. -/
structure Reporter where
  awaiting : Bool := true
  isOpen : Bool := true
  /-- The bridge that the result goes to. -/
  bridge : Nat
  deriving DecidableEq, Repr

/-- What an initialized runtime has. The scratch context is absent while it is running. -/
structure Life (E : Engine) where
  path : String
  scratch : Option E.Context

/-- Who holds the runtime at the C boundary: some calls that only read it, or one that changes it. -/
inductive Holding
  | shared (count : Nat)
  | exclusive
  deriving DecidableEq, Repr

/-- What the C boundary keeps between calls. -/
structure Boundary where
  holding : Holding := .shared 0
  lastReporter : Option Nat := none
  /-- The buffer for strings of actors, while it is not in the host's hands. -/
  buffer : Option ByteArray := some .empty

/-- What a host brings along: its state and the notes it leaves in the journal. -/
structure HostKind where
  State : Type
  Note : Type

inductive Entry (N : Type)
  | logged (row : Row)
  | noted (note : N)

/-- The state of a runtime and its host. Brains, bridges and reporters are known by number. -/
structure World (E : Engine) (K : HostKind) where
  config : Config := {}
  hooks : Hooks := {}
  inFlight : Bool := false
  reporters : Array Reporter := #[]
  /-- The last service result of each bridge. -/
  results : Array (Option String) := #[]
  brains : Array (Brain E) := #[]
  /-- The number of the brain of each id. -/
  registry : List (String × Nat) := []
  life : Option (Life E) := none
  boundary : Boundary := {}
  journal : Array (Entry K.Note) := #[]
  host : K.State

/-- How an operation ends. -/
inductive Outcome (σ : Type) (α : Type)
  | done (a : α) (world : σ)
  | fault (world : σ)
  | stuck

/-- The outcome after a change that is made however the operation ends. -/
def Outcome.settle {σ τ α : Type} (cleanup : σ → τ) : Outcome σ α → Outcome τ α
  | .done a w => .done a (cleanup w)
  | .fault w => .fault (cleanup w)
  | .stuck => .stuck

/-- How host functions are called. -/
abbrev Link (E : Engine) (K : HostKind) := Callback → World E K → Outcome (World E K) Reply

def Act (E : Engine) (K : HostKind) (α : Type) := Link E K → World E K → Outcome (World E K) α

namespace Act

variable {E : Engine} {K : HostKind} {α β : Type}

instance : Monad (Act E K) where
  pure a := fun _ w => .done a w
  bind m f := fun link w =>
    match m link w with
    | .done a w => f a link w
    | .fault w => .fault w
    | .stuck => .stuck

def get : Act E K (World E K) := fun _ w => .done w w

def modify (f : World E K → World E K) : Act E K Unit := fun _ w => .done () (f w)

def fault : Act E K α := fun _ w => .fault w

def stuck : Act E K α := fun _ _ => .stuck

/-- Does `cleanup` after `m`, also after a fault. -/
def ensuring (m : Act E K α) (cleanup : World E K → World E K) : Act E K α := fun link w =>
  (m link w).settle cleanup

/-- Turns a fault of `m` into what `handler` does. -/
def catchFault (m : Act E K α) (handler : Act E K α) : Act E K α := fun link w =>
  match m link w with
  | .done a w => .done a w
  | .fault w => handler link w
  | .stuck => .stuck

def invoke (callback : Callback) : Act E K Reply := fun link w => link callback w

/-- Lets `m` reach the host by another link. -/
def through (relay : Link E K → Link E K) (m : Act E K α) : Act E K α := fun link w => m (relay link) w

def record (severity : Severity) (target message : String) : Act E K Unit :=
  modify fun w => { w with journal := w.journal.push (.logged ⟨severity, target, message⟩) }

end Act

end BrainHost
