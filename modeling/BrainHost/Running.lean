import BrainHost.Actor
import BrainHost.Service

/-! # Running scripts

Answers what running scripts ask for, and keeps the context of the scripts meanwhile. -/

namespace BrainHost

/-- What the scripts of a context can reach of the host. -/
structure Surroundings (E : Engine) where
  /-- The brain's end of the service bridge. Scripts that belong to no brain have none. -/
  bridge : Option Nat := none
  modules : List (String × StoredModule E.Value) := []

/-- An operation inside a context. The context keeps its changes when the operation fails, and when it
panics as well. -/
def Inside (E : Engine) (K : HostKind) (α : Type) :=
  E.Context → Link E K → World E K → Outcome (E.Context × World E K) (Except Failure α)

namespace Act

variable {E : Engine} {K : HostKind} {α : Type}

/-- Passes a script's message on unless it is too long. -/
def passOn (message : String) (log : String → Act E K Unit) : Act E K (Answer E.Value) := do
  match ← checkLength .logMessage message.utf8ByteSize with
  | .ok () => log message
  | .error _ => pure ()
  pure .none

def serve (s : Surroundings E) : Request → Act E K (Answer E.Value)
  | .imported => do
    record .error "brain" "module imports are not supported; modules may not import other modules"
    pure .none
  | .debug message => passOn message logDebug
  | .error message => passOn message logError
  | .module id => do
    match ← checkLength .identifier id.utf8ByteSize, s.modules.lookup id with
    | .ok (), some m => pure (.module m.namespaceObject)
    | _, _ => pure .none
  | .service name args => do
    match s.bridge with
    | some bridge => do
      match ← serveScript bridge name args with
      | some result => pure (.service result)
      | none => pure .none
    | none => pure .none
  | .unnamedService => do
    logError "callService: service name must be a string"
    pure .none
  | .unwritableArgs service reason => do
    logError (ServiceFailure.unserializableArgs service reason).message
    pure .none
  | .unreadableResult result => do
    logError (ServiceFailure.invalidResult result).message
    pure .none
  | .field direction kind args => accessField direction kind args

end Act

namespace Inside

variable {E : Engine} {K : HostKind} {α β : Type}

instance : Monad (Inside E K) where
  pure a := fun c _ w => .done (.ok a) (c, w)
  bind m f := fun c link w =>
    match m c link w with
    | .done (.ok a) (c, w) => f a c link w
    | .done (.error failure) scene => .done (.error failure) scene
    | .fault scene => .fault scene
    | .stuck => .stuck

instance : MonadExcept Failure (Inside E K) where
  throw failure := fun c _ w => .done (.error failure) (c, w)
  tryCatch m handler := fun c link w =>
    match m c link w with
    | .done (.error failure) (c, w) => handler failure c link w
    | outcome => outcome

instance : MonadLift (Act E K) (Inside E K) where
  monadLift m := fun c link w =>
    match m link w with
    | .done a w => .done (.ok a) (c, w)
    | .fault w => .fault (c, w)
    | .stuck => .stuck

def inspect (f : E.Context → α) : Inside E K α := fun c _ w => .done (.ok (f c)) (c, w)

def change (f : E.Context → E.Context × α) : Inside E K α := fun c _ w =>
  let (c, a) := f c
  .done (.ok a) (c, w)

def stuck : Inside E K α := liftM (Act.stuck : Act E K α)

def fault : Inside E K α := liftM (Act.fault : Act E K α)

/-- Serves what a run asks for. Meanwhile the context is as the run shows it. -/
def carryOut (s : Surroundings E) : Run E.Context E.Value (E.Context × α) → Inside E K α
  | .done (c, a) => change fun _ => (c, a)
  | .ask request meanwhile resume => do
    change fun _ => (meanwhile, ())
    let answer ← (Act.serve s request : Act E K _)
    carryOut s (resume answer)
  | .stuck => stuck

def perform (s : Surroundings E) (run : E.Context → Run E.Context E.Value (E.Context × α)) : Inside E K α :=
  fun c => carryOut s (run c) c

/-- Does something and then changes the context, however it ends. -/
def closing (m : Inside E K α) (close : E.Context → E.Context × β) : Inside E K (Except Failure α × β) :=
  fun c link w =>
    match m c link w with
    | .done result (c, w) =>
      let (c, b) := close c
      .done (.ok (result, b)) (c, w)
    | .fault (c, w) => .fault ((close c).1, w)
    | .stuck => .stuck

/-- Does something inside a context and gives the context back, unless it panics. -/
def run (m : Inside E K α) (c : E.Context) : Act E K (Except Failure α × E.Context) := fun link w =>
  match m c link w with
  | .done result (c, w) => .done (result, c) w
  | .fault (_, w) => .fault w
  | .stuck => .stuck

end Inside

namespace Attempt

variable {E : Engine} {K : HostKind} {α : Type}

/-- Does something inside a context; gives the context back. -/
def inside (context : E.Context) (m : Inside E K α) : Attempt E K (Except Failure α × E.Context) :=
  ExceptT.lift (m.run context)

/-- Does something inside a context and puts the context back, however that ends. -/
def lend (context : E.Context) (m : Inside E K α) (putBack : E.Context → World E K → World E K) :
    Attempt E K α :=
  ExceptT.mk fun link w => (m context link w).settle fun (context, w) => putBack context w

end Attempt

end BrainHost
