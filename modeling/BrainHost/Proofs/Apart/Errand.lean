import BrainHost.Proofs.Apart.Beside
import BrainHost.Proofs.Table.Step

/-! # Operations on brains by id

What an operation that names one brain leaves alone: every other brain with its context and its last
service result, the hooks, and whether a service call is in flight. -/

namespace BrainHost

variable {E : Engine} {K : HostKind} {α : Type}

/-- An operation on the brains of a registry, or on the context for scratch scripts. -/
inductive Errand
  | reset (id source : String)
  | setModule (id moduleId source : String)
  | update (id state : String) (buffer : ByteArray)
  | drain (id : String)
  | namespaceJson (id moduleId : String)
  | evaluate (source : String)

namespace Errand

/-- The brain that an operation names. -/
def id? : Errand → Option String
  | reset id _ => some id
  | setModule id _ _ => some id
  | update id _ _ => some id
  | drain id => some id
  | namespaceJson id _ => some id
  | evaluate _ => none

def names (id : String) (errand : Errand) : Bool := errand.id? == some id

def Answer : Errand → Type
  | update .. => Except Failure String × ByteArray
  | drain _ => Except Failure Nat
  | namespaceJson .. => Except Failure (Option String)
  | _ => Except Failure Unit

def act : (errand : Errand) → Act E K errand.Answer
  | reset id source => (do Registry.reset id source (← Session.engineConfig) : Attempt E K Unit).run
  | setModule id moduleId source => (Registry.setModule id moduleId source).run
  | update id state buffer => do
    match ← (Registry.find id).run with
    | .ok number => Brain.runUpdate number state buffer
    | .error failure => pure (.error failure, buffer)
  | drain id => (do Brain.drainJobs (← Registry.find id) : Attempt E K Nat).run
  | namespaceJson id moduleId =>
    (do Brain.namespaceJson (← Registry.find id) moduleId : Attempt E K (Option String)).run
  | evaluate source => (do Scratch.run source (← Session.life) : Attempt E K Unit).run

theorem update_apply (id state : String) (buffer : ByteArray) (link : Link E K) (w : World E K) :
    (update id state buffer).act link w =
      match w.registry.lookup id with
      | some number => ((Brain.enter number fun b => b.updateInside state buffer).run link w).bind fun r v =>
          .done (match r with
            | .ok result => result
            | .error failure => (.error failure, buffer)) v
      | none => .done (.error (.unknownBrain id), buffer) w := by
  change ((Registry.find id).run >>= _) link w = _
  rw [Act.bind_apply, Registry.find_apply, Outcome.bind_done]
  cases w.registry.lookup id with
  | none => rfl
  | some number =>
    change Brain.runUpdate number state buffer link w = _
    unfold Brain.runUpdate
    rw [Act.bind_apply]
    congr 1
    funext r v
    cases r <;> rfl

end Errand

/-! ## Operations inside a brain -/

/-- An operation inside a brain's context that does the same by any bridge, and changes nothing outside
but the result of its own. -/
structure Brain.Insular (host : Manners) (m : Brain E → Inside E K α) : Prop where
  twins : ∀ (b : Brain E) bridge bridge',
    Inside.Twins host.link (Echo bridge bridge') (m (b.linked bridge)) (m (b.linked bridge'))
  keeps : ∀ b : Brain E, Inside.Keeps (beside E K b.bridge) (m b)

namespace Brain.Insular

variable {host : Manners}

theorem uniform {m : Brain E → Inside E K α}
    (hm : ∀ b : Brain E, Inside.Uniform (fun n => (b.linked n).surroundings) True fun n => m (b.linked n)) :
    Insular host m where
  twins b _ _ := Echo.uniform (hm b)
  keeps b := beside.serving.plain (s := b.surroundings) ((hm b).plain b.bridge)

theorem updateInside (state : String) (buffer : ByteArray) :
    Insular (K := K) host fun b : Brain E => b.updateInside state buffer where
  twins b _ _ := Echo.updateInside b state buffer
  keeps b := (beside.serving.scripting (s := b.surroundings)).updateInside state buffer

theorem runModule (id source : String) : Insular (K := K) host fun b : Brain E => b.runModule id source :=
  uniform fun b => .runModule b id source

theorem namespaceInside (id : String) : Insular (K := K) host fun b : Brain E => b.namespaceInside id :=
  uniform fun b => .namespaceInside b id

theorem drain : Insular (K := K) host fun b : Brain E => b.drain := uniform fun b => .drain b

end Brain.Insular

/-! ## What other brains keep -/

namespace World.Rooted

variable {bridge : Nat} {v w : World E K}

theorem beside (hw : w.Rooted) (h : Beside bridge w v) : v.Rooted := by
  have found (id : String) : v.found id = w.found id := by
    unfold World.found
    rw [h.registry, h.brains]
  exact
    { numbers := fun hlookup => h.brains ▸ hw.numbers (h.registry ▸ hlookup)
      bridges := fun hb => h.size ▸ hw.bridges (found _ ▸ hb)
      apart := fun hb hb' => hw.apart (found _ ▸ hb) (found _ ▸ hb') }

theorem touched (hw : w.Rooted) {id : String} {number : Nat} (hlookup : w.registry.lookup id = some number)
    {f : Brain E → Brain E} (hf : ∀ b, (f b).bridge = b.bridge) :
    World.Rooted { w with brains := w.brains.modify number f } := by
  -- What an id finds has the bridge that it had.
  have found {other : String} {b : Brain E}
      (hb : World.found { w with brains := w.brains.modify number f } other = some b) :
      ∃ b', w.found other = some b' ∧ b.bridge = b'.bridge := by
    rw [hw.found_modify hlookup] at hb
    split at hb
    · next heq =>
      obtain ⟨b', hb', rfl⟩ := Option.map_eq_some_iff.mp hb
      exact ⟨b', heq ▸ hb', hf b'⟩
    · exact ⟨b, hb, rfl⟩
  exact
    { numbers := fun {other i} hother => by
        obtain ⟨b, hb⟩ := hw.numbers hother
        rw [Array.getElem?_modify, hb]
        split <;> exact ⟨_, rfl⟩
      bridges := fun hb => by
        obtain ⟨b', hb', hbridge⟩ := found hb
        exact hbridge ▸ hw.bridges hb'
      apart := fun hb hb' heq => by
        obtain ⟨b₁, hb₁, hbridge⟩ := found hb
        obtain ⟨b₂, hb₂, hbridge'⟩ := found hb'
        exact hw.apart hb₁ hb₂ (hbridge ▸ hbridge' ▸ heq) }

theorem bridged (hw : w.Rooted) : (BrainHost.bridged w).Rooted where
  numbers := hw.numbers
  bridges hb := (hw.bridges hb).trans (by simp [BrainHost.bridged])
  apart := hw.apart

end World.Rooted

/-- A brain is as it was, with the last result that it had, and the runtime is as it was for it. -/
structure Spared (id : String) (w v : World E K) : Prop where
  rooted : v.Rooted
  config : v.config = w.config
  hooks : v.hooks = w.hooks
  inFlight : v.inFlight = w.inFlight
  found : v.found id = w.found id
  result : ∀ b, w.found id = some b → resultIn v.results b.bridge = resultIn w.results b.bridge

namespace Spared

variable {id other : String} {u v w : World E K}

theorem refl (id : String) (hw : w.Rooted) : Spared id w w := ⟨hw, rfl, rfl, rfl, rfl, fun _ _ => rfl⟩

theorem trans (h : Spared id w v) (h' : Spared id v u) : Spared id w u where
  rooted := h'.rooted
  config := h'.config.trans h.config
  hooks := h'.hooks.trans h.hooks
  inFlight := h'.inFlight.trans h.inFlight
  found := h'.found.trans h.found
  result b hb := (h'.result b (h.found ▸ hb)).trans (h.result b hb)

theorem of_journal (id : String) (hw : w.Rooted) (journal : Array (Entry K.Note)) :
    Spared id w { w with journal } :=
  ⟨⟨hw.numbers, hw.bridges, hw.apart⟩, rfl, rfl, rfl, rfl, fun _ _ => rfl⟩

theorem of_beside {bridge : Nat} (hw : w.Rooted) (h : Beside bridge w v)
    (hother : ∀ b, w.found id = some b → b.bridge ≠ bridge) : Spared id w v where
  rooted := hw.beside h
  config := h.config
  hooks := h.hooks
  inFlight := h.inFlight
  found := by
    unfold World.found
    rw [h.registry, h.brains]
  result b hb := h.results _ (hother b hb)

theorem touched (hw : w.Rooted) {number : Nat} (hlookup : w.registry.lookup other = some number)
    (hne : id ≠ other) {f : Brain E → Brain E} (hf : ∀ b, (f b).bridge = b.bridge) :
    Spared id w { w with brains := w.brains.modify number f } where
  rooted := hw.touched hlookup hf
  config := rfl
  hooks := rfl
  inFlight := rfl
  found := by rw [hw.found_modify hlookup, if_neg hne]
  result _ _ := rfl

theorem bridged (id : String) (hw : w.Rooted) : Spared id w (bridged w) where
  rooted := hw.bridged
  config := rfl
  hooks := rfl
  inFlight := rfl
  found := rfl
  result _ _ := resultIn_push ..

theorem replaced (hw : w.Rooted) (hne : id ≠ other) {b : Brain E} (hbridge : b.bridge < w.results.size)
    (hown : ∀ {id b'}, w.found id = some b' → b'.bridge ≠ b.bridge) :
    Spared id w (Registry.insert other b (Registry.remove other w)) where
  rooted := hw.replaced hbridge hown
  config := rfl
  hooks := rfl
  inFlight := rfl
  found := by rw [hw.found_replaced, if_neg hne]
  result _ _ := rfl

end Spared

variable {host : Manners} {id other : String} {v w : World E K}

theorem Brain.Insular.spares {m : Brain E → Inside E K α} (hm : Brain.Insular host m) (hw : w.Rooted)
    {number : Nat} (hlookup : w.registry.lookup other = some number) (hne : id ≠ other) :
    ((Brain.enter number m).run host.link w).Ends fun v => Spared id w v ∧ v.registry = w.registry := by
  rw [Brain.enter_apply]
  cases hfound : w.brains[number]?.bind fun b => b.context.map (b, ·) with
  | none => exact ⟨.refl id hw, rfl⟩
  | some p =>
    obtain ⟨b, hb, hpair⟩ := Option.bind_eq_some_iff.mp hfound
    obtain ⟨c, -, rfl⟩ := Option.map_eq_some_iff.mp hpair
    have found : w.found other = some b := by rw [World.found, hlookup]; exact hb
    have lent : Spared id w (busy number w) := .touched hw hlookup hne fun _ => rfl
    have apart (b' : Brain E) (hb' : (busy number w).found id = some b') : b'.bridge ≠ b.bridge :=
      fun heq => hne (hw.apart (lent.found ▸ hb') found heq)
    refine ((Inside.run_ends c).mp (hm.keeps b c host.link beside.link (busy number w))).settle fun scene hu => ?_
    have ran := lent.trans (.of_beside lent.rooted hu apart)
    exact ⟨ran.trans (.touched ran.rooted (hu.registry ▸ hlookup) hne fun _ => rfl), hu.registry⟩

theorem Brain.Insular.find_spares {m : Brain E → Inside E K α} (hm : Brain.Insular host m) (hw : w.Rooted)
    (hne : id ≠ other) :
    ((do Brain.enter (← Registry.find other) m : Attempt E K α).run host.link w).Ends (Spared id w) := by
  refine (Registry.find_enters w other fun number => Brain.enter number m).ends (.of_journal id hw) ?_
  rintro _ ⟨number, hlookup, rfl⟩
  exact (hm.spares hw hlookup hne).mono fun _ hv => hv.1

/-- What there is when the source of a new brain has run: a bridge that no other brain has. -/
structure Founded (bridge : Nat) (v : World E K) : Prop where
  stands : bridge < v.results.size
  own : ∀ {id b}, v.found id = some b → b.bridge ≠ bridge

theorem World.Rooted.founded (hw : w.Rooted) (h : Beside w.results.size (BrainHost.bridged w) v) :
    Founded w.results.size v where
  stands := by simp [h.size, BrainHost.bridged]
  own {id b} hb := by
    have found : v.found id = w.found id := by
      unfold World.found
      rw [h.registry, h.brains]
      rfl
    exact (hw.bridges (found ▸ hb)).ne

theorem Spared.of_source (hw : w.Rooted) (h : Beside w.results.size (BrainHost.bridged w) v) (id : String) :
    Spared id w v :=
  (Spared.bridged id hw).trans (.of_beside hw.bridged h fun _ hb => (hw.bridges hb).ne)

/-- A new brain, with the context and the entry points that its source left. -/
def Brain.newborn (source : String) (config : EngineConfig) (points : E.Value × Option E.Value)
    (c : E.Context) (bridge : Nat) : Brain E :=
  { context := some c, source, bridge, updateAgent := points.1, postMessageFlush := points.2
    maxPendingJobs := config.maxPendingJobs }

/-- The source of a new brain runs with a new bridge. Then the brain takes its place, or nothing does. -/
theorem Registry.remake_apply (id source : String) (config : EngineConfig) (link : Link E K) (w : World E K) :
    (Registry.remake id source config).run link w =
      match E.create config brainFunctions with
      | .error reason => .done (.error (.resetFailed (listing source) (.engine reason))) w
      | .ok c =>
        ((Brain.entryPoints { bridge := w.results.size } source).run c link (bridged w)).bind fun p v =>
          match p.1 with
          | .ok points => .done (.ok ()) (Act.logged .info "brain" "brain reset" (Registry.insert id
              (Brain.newborn source config points p.2 w.results.size) (Registry.remove id v)))
          | .error cause => .done (.error (.resetFailed (listing source) cause)) v := by
  rw [Operation.remake_apply, Brain.make_apply]
  cases E.create config brainFunctions with
  | error reason => rfl
  | ok c =>
    dsimp only
    rw [Outcome.bind_assoc]
    congr 1
    funext p v
    obtain ⟨r, c'⟩ := p
    cases r <;> rfl

theorem Registry.remake_spares (hw : w.Rooted) (hne : id ≠ other) (source : String) (config : EngineConfig) :
    ((Registry.remake other source config).run host.link w).Ends (Spared id w) := by
  rw [Registry.remake_apply]
  cases E.create config brainFunctions with
  | error reason => exact .refl id hw
  | ok c =>
    have ran := beside.serving.plain (s := { bridge := some w.results.size }) (.entryPoints source) c host.link
      beside.link (BrainHost.bridged w)
    refine ran.bind (fun p v hv => ?_) fun v hv => .of_source hw hv id
    have spared := Spared.of_source hw hv id
    have founded := hw.founded hv
    cases p.1 with
    | error cause => exact spared
    | ok points =>
      have replaced := spared.trans (.replaced (b := Brain.newborn source config points p.2 w.results.size)
        spared.rooted hne founded.stands founded.own)
      exact replaced.trans (.of_journal id replaced.rooted _)

theorem Errand.spares (errand : Errand) (hw : w.Rooted) (hother : errand.names id = false) :
    (errand.act host.link w).Ends (Spared id w) := by
  have hne (other : String) (hnamed : errand.id? = some other) : id ≠ other := by
    rintro rfl
    simp [names, hnamed] at hother
  cases errand with
  | reset other source =>
    refine (Registry.reset_enters w other source).ends (.of_journal id hw) ?_
    rintro _ rfl
    exact Registry.remake_spares hw (hne other rfl) source _
  | setModule other moduleId source =>
    refine (Registry.setModule_enters w other moduleId source).ends (.of_journal id hw) ?_
    rintro _ ⟨number, hlookup, rfl⟩
    rw [Operation.load_apply]
    refine ((Brain.Insular.runModule moduleId source).spares hw hlookup (hne other rfl)).bind (fun r v hv => ?_)
      fun v hv => hv.1
    cases r with
    | ok namespaceObject =>
      exact hv.1.trans (.touched hv.1.rooted (hv.2 ▸ hlookup) (hne other rfl) fun _ => rfl)
    | error failure => exact hv.1
  | update other state buffer =>
    rw [update_apply]
    cases hlookup : w.registry.lookup other with
    | none => exact .refl id hw
    | some number =>
      exact ((Brain.Insular.updateInside state buffer).spares hw hlookup (hne other rfl)).bind (fun _ _ hv => hv.1)
        fun _ hv => hv.1
  | drain other => exact Brain.Insular.drain.find_spares hw (hne other rfl)
  | namespaceJson other moduleId =>
    exact (Brain.Insular.namespaceInside moduleId).find_spares hw (hne other rfl)
  | evaluate source =>
    have keeps : Attempt.Keeps (beside E K w.results.size)
        (do Scratch.run source (← Session.life) : Attempt E K Unit) :=
      Attempt.Keeps.life.bind fun life =>
        beside.scratching.scratchRun beside.loud.servingNone.scripting source life
    exact (keeps host.link beside.link w).mono fun v hv =>
      .of_beside hw hv fun _ hb => (hw.bridges hb).ne

end BrainHost
