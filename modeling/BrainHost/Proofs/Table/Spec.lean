import BrainHost.Proofs.Service.Play
import Mathlib.Data.Set.Card

/-! # The runtime as a table

What a caller needs to know of the runtime: it is not started, or it has a path and a table with the
source, the modules and the last service result of each brain. Operations are steps of this table. -/

namespace BrainHost

variable {E : Engine} {K : HostKind}

/-! ## Tables -/

structure BrainRecord where
  source : String
  /-- The source of each module. -/
  modules : String → Option String
  lastResult : Option String

/-- What a started runtime has. -/
structure Table where
  path : String
  /-- The brain of each id. -/
  brains : String → Option BrainRecord

def BrainRecord.putModule (r : BrainRecord) (id source : String) : BrainRecord :=
  { r with modules := fun other => if other = id then some source else r.modules other }

def Table.put (t : Table) (id : String) (r : BrainRecord) : Table :=
  { t with brains := fun other => if other = id then some r else t.brains other }

/-- The table of a runtime that has just been started. -/
def Table.empty (path : String) : Table := { path, brains := fun _ => none }

def knownIn (T : Option Table) (id : String) : Bool := (T.bind fun t => t.brains id).isSome

def idsOf (T : Option Table) : Set String := {id | knownIn T id}

def World.found (w : World E K) (id : String) : Option (Brain E) :=
  (w.registry.lookup id).bind fun number => w.brains[number]?

def Brain.moduleSource (b : Brain E) (id : String) : Option String :=
  (b.modules.lookup id).map StoredModule.source

def Brain.record (w : World E K) (b : Brain E) : BrainRecord :=
  { source := b.source, modules := b.moduleSource, lastResult := resultIn w.results b.bridge }

def World.table (w : World E K) : Option Table :=
  w.life.map fun life => { path := life.path, brains := fun id => (w.found id).map (Brain.record w) }

/-! ## What host functions do meanwhile -/

/-- How far the operations reach that host functions ask for while an operation runs. -/
structure Reach where
  /-- The brains whose scripts they may run. -/
  runs : String → Prop
  /-- The modules that they may set. -/
  sets : String → String → Prop

namespace Reach

/-- The runtime is borrowed while an operation runs, so nothing that changes the set of brains can be
asked for. -/
def allows (reach : Reach) : Deed → Prop
  | .call .. => False
  | .report .. => True
  | .assign .. => True
  | .operate (.setModule id moduleId _) => reach.runs id ∧ reach.sets id moduleId
  | .operate (.updateAgent id ..) => reach.runs id
  | .operate (.namespaceJson id _) => reach.runs id
  | .operate (.evaluate _) => True
  | .operate (.evaluateToInteger _) => True
  | .operate _ => False

/-- The brain whose scripts an operation runs. -/
def target? : Operation → Option String
  | .setModule id _ _ => some id
  | .updateAgent id _ _ _ => some id
  | .namespaceJson id _ => some id
  | _ => none

/-- The scripts that an operation runs itself are added. -/
def during (reach : Reach) (op : Operation) : Reach :=
  { reach with runs := fun id => target? op = some id ∨ reach.runs id }

/-- A brain has its source still, its modules but for those that are set, and its last service result
unless its scripts are run. -/
structure Spares (reach : Reach) (id : String) (r r' : BrainRecord) : Prop where
  source : r'.source = r.source
  modules : ∀ moduleId, ¬ reach.sets id moduleId → r'.modules moduleId = r.modules moduleId
  lastResult : ¬ reach.runs id → r'.lastResult = r.lastResult

/-- The same brains are there, and no more of them has changed than is within reach. -/
structure Drift (reach : Reach) (t t' : Table) : Prop where
  path : t'.path = t.path
  brains : ∀ id, Option.Rel (reach.Spares id) (t.brains id) (t'.brains id)

def Drifts (reach : Reach) : Option Table → Option Table → Prop := Option.Rel reach.Drift

end Reach

/-! ## Which operations are let in -/

def insist (limit : Limit) (text : String) : Except Failure Unit :=
  (limit.check text).mapError .rejected

def insistStarted (started : Bool) : Except Failure Unit :=
  if started then .ok () else .error .notInitialized

def insistStopped (started : Bool) : Except Failure Unit :=
  if started then .error .alreadyInitialized else .ok ()

def insistKnown (known : Bool) (id : String) : Except Failure Unit :=
  if known then .ok () else .error (.unknownBrain id)

/-- What a runtime checks before it starts. -/
def insistUsable (E : Engine) (config : EngineConfig) : Except Failure Unit := do
  config.validate.mapError .config
  let _ ← (E.create config logFunctions).mapError Failure.engine
  pure ()

namespace Operation

/-- The checks of an operation in their order. They run no script. -/
def check (E : Engine) (config : EngineConfig) (started : Bool) (known : String → Bool) :
    Operation → Except Failure Unit
  | start path => do
    insist .filePath path
    insistStopped started
    insistUsable E config
  | stop => insistStarted started
  | resetBrain id source => do
    insistStarted started
    insist .identifier id
    insist .scriptSource source
  | setModule id moduleId source => do
    insistStarted started
    insist .identifier id
    insistKnown (known id) id
    insist .identifier moduleId
    insist .scriptSource source
  | updateAgent id agent state buffer => do
    insist .identifier id
    insist .identifier agent
    insist .json state
    (Limit.buffer.checkLength buffer.size).mapError .rejected
    insistStarted started
    insistKnown (known id) id
  | namespaceJson id _ => do
    insistStarted started
    insistKnown (known id) id
  | evaluate source => do
    insistStarted started
    insist .scriptSource source
  | evaluateToInteger source => insist .scriptSource source

def checkIn (E : Engine) (config : EngineConfig) (T : Option Table) (op : Operation) : Except Failure Unit :=
  op.check E config T.isSome (knownIn T)

/-- What an operation answers if it is not let in. -/
def refuse : (op : Operation) → Failure → op.Answer
  | start _, failure => Except.error failure
  | stop, failure => Except.error failure
  | resetBrain .., failure => Except.error failure
  | setModule .., failure => Except.error failure
  | updateAgent _ _ _ buffer, failure => (Except.error failure, buffer)
  | namespaceJson .., failure => Except.error failure
  | evaluate _, failure => Except.error failure
  | evaluateToInteger _, .rejected _ => (-1 : Int)
  | evaluateToInteger _, _ => (0 : Int)

/-! ## Steps -/

def errorOf {ε α : Type} : Except ε α → Option ε
  | .ok _ => none
  | .error e => some e

/-- Why an operation failed. A number tells nothing of that. -/
def failure? : (op : Operation) → op.Answer → Option Failure
  | start _, answer => errorOf (α := Unit) answer
  | stop, answer => errorOf (α := Unit) answer
  | resetBrain .., answer => errorOf (α := Unit) answer
  | setModule .., answer => errorOf (α := Unit) answer
  | updateAgent .., answer => errorOf (α := Unit) answer.1
  | namespaceJson .., answer => errorOf (α := Option String) answer
  | evaluate _, answer => errorOf (α := Unit) answer
  | evaluateToInteger _, _ => none

/-- How an operation fails that was let in. -/
def MayFail : Operation → Failure → Prop
  | start _, _ => False
  | stop, _ => False
  | resetBrain _ source, failure =>
    ∃ cause, cause.isInner = true ∧ failure = .resetFailed (listing source) cause
  | _, failure => failure.isInner = true

/-- What an operation does that succeeds. -/
def Effect (reach : Reach) (reported : Bool) (T T' : Option Table) : Operation → Prop
  | start path => T = none ∧ T' = some (.empty path)
  | stop => T' = none
  | resetBrain id source => ∃ t t' result, T = some t ∧ reach.Drift t t' ∧
      T' = some (t'.put id { source, modules := fun _ => none, lastResult := result }) ∧
      (reported = false → result = none)
  | setModule id moduleId source => ∃ t t' r, T = some t ∧
      (reach.during (.setModule id moduleId source)).Drift t t' ∧ t'.brains id = some r ∧
      T' = some (t'.put id (r.putModule moduleId source))
  | op => (reach.during op).Drifts T T'

end Operation

/-- An operation and what its caller saw of it. There is no answer after a panic. -/
structure Event where
  operation : Operation
  answer : Option operation.Answer
  /-- Whether something was reported to a call that the source of a new brain made. -/
  reported : Bool

/-- One operation as a step of the table. Where it does not succeed, no more happens than host functions
and scripts do meanwhile. -/
inductive Table.Step (E : Engine) (config : EngineConfig) (reach : Reach) (T T' : Option Table) :
    Event → Prop
  | refused {op failure reported} (hcheck : op.checkIn E config T = .error failure)
    (hT : reach.Drifts T T') : Step E config reach T T' ⟨op, some (op.refuse failure), reported⟩
  | failed {op answer failure reported} (hcheck : op.checkIn E config T = .ok ())
    (hanswer : op.failure? answer = some failure) (hmay : op.MayFail failure)
    (hT : (reach.during op).Drifts T T') : Step E config reach T T' ⟨op, some answer, reported⟩
  | succeeded {op answer reported} (hcheck : op.checkIn E config T = .ok ())
    (hanswer : op.failure? answer = none) (hT : op.Effect reach reported T T') :
    Step E config reach T T' ⟨op, some answer, reported⟩
  | panicked {op reported} (hT : (reach.during op).Drifts T T') :
    Step E config reach T T' ⟨op, none, reported⟩

inductive Table.Steps (E : Engine) (config : EngineConfig) (reach : Reach) :
    Option Table → List Event → Option Table → Prop
  | nil (T : Option Table) : Steps E config reach T [] T
  | cons {T T' T'' event events} (hstep : Table.Step E config reach T T' event)
    (hrest : Steps E config reach T' events T'') : Steps E config reach T (event :: events) T''

/-! ## Runs -/

/-- Whether something was reported to a call that was made through a bridge. -/
def World.reportedTo (bridge : Nat) (w : World E K) : Bool :=
  w.reporters.toList.any fun r => r.bridge == bridge && !r.awaiting

namespace Operation

def tried (op : Operation) : Act E K (Option op.Answer) :=
  Act.catchFault (do pure (some (← op.act))) (pure none)

def observed (op : Operation) : Act E K Event := do
  -- The next bridge is the one of the brain that is made, if one is.
  let bridge := (← Act.get).results.size
  let answer ← op.tried
  pure ⟨op, answer, World.reportedTo bridge (← Act.get)⟩

/-- Tries operations one after the other, whatever becomes of each. Before each of them the hooks may be
set anew. -/
def observeAll : List (Hooks × Operation) → Act E K (List Event)
  | [] => pure []
  | (hooks, op) :: rest => do
    Act.modify fun w => { w with hooks }
    let event ← op.observed
    let events ← observeAll rest
    pure (event :: events)

end Operation

end BrainHost
