import BrainHost.Brain

/-! # The registry of brains

Finds brains by id. A reset that succeeds replaces the brain of the id as a whole; one that fails
leaves it in place. -/

namespace BrainHost.Registry

variable {E : Engine} {K : HostKind}

def find (id : String) : Attempt E K Nat := do
  match (← Attempt.get).registry.lookup id with
  | some number => pure number
  | none => throw (.unknownBrain id)

def size : Act E K Nat := do pure (← Act.get).registry.length

def contains (id : String) : Act E K Bool := do pure ((← Act.get).registry.lookup id).isSome

def remove (id : String) (w : World E K) : World E K :=
  let brains := match w.registry.lookup id with
    | some number => w.brains.modify number fun b => { b with context := none, modules := [] }
    | none => w.brains
  { w with brains, registry := w.registry.filter fun p => p.1 ≠ id }

def insert (id : String) (b : Brain E) (w : World E K) : World E K :=
  { w with brains := w.brains.push b, registry := (id, w.brains.size) :: w.registry }

/-- Makes a brain of a source and puts it in the place of the one that has its id. -/
def reset (id source : String) (config : EngineConfig) : Attempt E K Unit := do
  Attempt.insistText .identifier id
  Attempt.insistText .scriptSource source
  match ← Attempt.attempt (Brain.make source config) with
  | .error cause => throw (.resetFailed (listing source) cause)
  | .ok b => do
    Attempt.modify fun w => insert id b (remove id w)
    Attempt.record .info "brain reset"

def setModule (id moduleId source : String) : Attempt E K Unit := do
  Attempt.insistText .identifier id
  Brain.setModule (← find id) moduleId source

def clear : Act E K Unit := Act.modify fun w => { w with brains := #[], registry := [] }

end BrainHost.Registry
