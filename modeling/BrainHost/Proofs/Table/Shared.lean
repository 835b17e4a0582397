import BrainHost.Proofs.Table.Checks
import BrainHost.Proofs.Table.Within

/-! # Operations that host functions may ask for

They work on brains that are there. Whatever scripts do meanwhile, such an operation leaves alone what
is out of scope if the bridge of its own brain is in scope. -/

namespace BrainHost

variable {E : Engine} {K : HostKind} {α β : Type} {D : Conduct E K} {link : Link E K} {w : World E K}

theorem Act.ends_bind {m : Act E K α} {f : α → Act E K β} (hl : D.admits link)
    (hm : (m link w).Ends (D.rel w)) (hf : ∀ a, Act.Keeps D (f a)) :
    ((m >>= f) link w).Ends (D.rel w) := by
  rw [Act.bind_apply]
  exact hm.bind (fun a v hv => (hf a link hl v).mono fun _ => D.trans hv) fun _ hv => hv

theorem Attempt.ends_bind {m : Attempt E K α} {f : α → Attempt E K β} (hl : D.admits link)
    (hm : (m.run link w).Ends (D.rel w)) (hf : ∀ a, Attempt.Keeps D (f a)) :
    ((m >>= f).run link w).Ends (D.rel w) := by
  rw [run_bind]
  refine Act.ends_bind hl hm fun r => ?_
  cases r with
  | ok a => exact hf a
  | error failure => exact Act.Keeps.pure _

theorem Conduct.Loud.logged_ends (h : D.Loud) {m : Attempt E K α} (hl : D.admits link)
    (hm : (m.run link w).Ends (D.rel w)) : ((Session.logged m).run link w).Ends (D.rel w) := by
  refine Act.ends_bind hl hm fun r => ?_
  cases r with
  | ok a => exact Act.Keeps.pure _
  | error failure => exact (h.report failure).bind fun _ => Act.Keeps.pure _

namespace within

variable {reach : Reach} {scope : Scope}

theorem journal (w : World E K) (journal : Array (Entry K.Note)) :
    (within E K reach scope).rel w { w with journal } :=
  fun _ => .of_same rfl rfl rfl rfl (.of_same rfl rfl)

theorem always (m : Inside E K α) : Inside.Onward (within E K reach scope).onward m :=
  .of_true (fun _ _ => trivial) m

section

variable (hl : (within E K reach scope).admits link)
include hl

theorem enter {number : Nat} {m : Brain E → Inside E K α}
    (hm : ∀ b, (within E K reach scope).Serving b.bridge → Inside.Keeps (within E K reach scope) (m b))
    (hbridge : ∀ b, w.brains[number]? = some b → scope.bridges b.bridge) :
    ((Brain.enter number m).run link w).Ends ((within E K reach scope).rel w) :=
  lending.enter hl (fun b hb => hm b (serving fun _ h => Option.some.inj h ▸ hbridge b hb))
    fun b => always (m b)

theorem runUpdate {number : Nat} (hbridge : ∀ b, w.brains[number]? = some b → scope.bridges b.bridge)
    (state : String) (buffer : ByteArray) :
    (Brain.runUpdate number state buffer link w).Ends ((within E K reach scope).rel w) := by
  have updates := enter hl (fun b hb => (hb.scripting (s := b.surroundings)).updateInside state buffer) hbridge
  refine Act.ends_bind hl updates fun r => ?_
  cases r <;> exact Act.Keeps.pure _

theorem load {number : Nat} (hbridge : ∀ b, w.brains[number]? = some b → scope.bridges b.bridge)
    {id : String} (hid : scope.modules number id) (source : String) :
    ((Brain.load number id source).run link w).Ends ((within E K reach scope).rel w) :=
  Attempt.ends_bind hl (enter hl (fun b hb => hb.plain (s := b.surroundings) (.runModule b id source)) hbridge)
    fun _ => Attempt.Keeps.modify fun w _ => .modified w number fun b => .store hid b _

end

/-! ## Operations by id -/

theorem bridge_of_lookup {id : String} (hbridge : ∀ b, w.found id = some b → scope.bridges b.bridge)
    {number : Nat} (hlookup : w.registry.lookup id = some number) (b : Brain E)
    (hb : w.brains[number]? = some b) : scope.bridges b.bridge :=
  hbridge b (by rw [World.found, hlookup]; exact hb)

variable (hl : (within E K reach scope).admits link) {id : String}
  (hbridge : ∀ b, w.found id = some b → scope.bridges b.bridge)
include hl hbridge

theorem namespaceJson (moduleId : String) :
    ((Operation.namespaceJson id moduleId).act link w).Ends ((within E K reach scope).rel w) := by
  refine loud.logged_ends hl ((Operation.namespaceJson_enters w id moduleId).ends (journal w) ?_)
  rintro _ ⟨number, hlookup, rfl⟩
  exact enter hl (fun b hb => hb.plain (s := b.surroundings) (.namespaceInside b moduleId))
    (bridge_of_lookup hbridge hlookup)

theorem setModule {moduleId : String}
    (hid : ∀ number, w.registry.lookup id = some number → scope.modules number moduleId)
    (source : String) :
    ((Operation.setModule id moduleId source).act link w).Ends ((within E K reach scope).rel w) := by
  refine loud.logged_ends hl ((Operation.setModule_enters w id moduleId source).ends (journal w) ?_)
  rintro _ ⟨number, hlookup, rfl⟩
  exact load hl (bridge_of_lookup hbridge hlookup) (hid number hlookup) source

theorem updateAgent (agent state : String) (buffer : ByteArray) :
    ((Operation.updateAgent id agent state buffer).act link w).Ends ((within E K reach scope).rel w) := by
  have delivers (json : String) :
      Act.Keeps (within E K reach scope) (Operation.deliver json : Act E K Unit) :=
    (loud.invoke _ (by simp)).bind fun _ => Act.Keeps.pure _
  have ran : (Session.runUpdate id agent state buffer link w).Ends ((within E K reach scope).rel w) := by
    have runs := Operation.runUpdate_apply id agent state buffer w
    cases hcheck : Operation.checkAt w (.updateAgent id agent state buffer) with
    | error failure =>
      rw [hcheck] at runs
      obtain ⟨-, journal', hrun⟩ := runs
      rw [hrun]
      exact journal w journal'
    | ok u =>
      rw [hcheck] at runs
      obtain ⟨number, hlookup, hrun⟩ := runs
      rw [hrun]
      exact runUpdate hl (bridge_of_lookup hbridge hlookup) state buffer
  refine Act.ends_bind hl ran ?_
  rintro ⟨r, bytes⟩
  cases r with
  | ok json => exact (delivers json).bind fun _ => Act.Keeps.pure _
  | error failure => exact (loud.report failure).bind fun _ => Act.Keeps.pure _

end within

/-! ## Hosts -/

namespace within

variable {S : Type} {reach : Reach} {scope : Scope}

theorem entered {callback : Callback} {w : World E (Minded S)} (h : reach.Within scope w) :
    reach.Within scope (entering callback w) := ⟨h.bridges, h.modules, h.opened⟩

theorem left {callback : Callback} {v w : World E (Minded S)} (h : scope.Keeps (entering callback w) v) :
    scope.Keeps w (leaving callback v) where
  size := h.size
  results := h.results
  owners := h.owners
  made := h.made
  heard := h.heard
  opened := h.opened
  config := h.config
  registry := h.registry
  path := h.path
  brains := h.brains

theorem playing : (within E (Minded S) reach scope).Playing reach.allows where
  think _ _ _ := .of_same rfl rfl rfl rfl (.of_same rfl rfl)
  note _ _ _ _ := .of_same rfl rfl rfl rfl (.of_same rfl rfl)
  ask deed hallowed := by
    have asked : Act.Keeps (within E (Minded S) reach scope) (note (.asked deed)) :=
      Act.Keeps.modify fun _ _ => .of_same rfl rfl rfl rfl (.of_same rfl rfl)
    refine asked.bind fun _ => ?_
    cases deed with
    | call bridge service args => exact hallowed.elim
    | report reporter result => exact report reporter result
    | assign hook on => exact Act.Keeps.modify fun _ _ => .of_same rfl rfl rfl rfl (.of_same rfl rfl)
    | operate op =>
      -- The bridges of the brains whose scripts may run are in scope in every state that is reached.
      intro link hl w
      refine Outcome.Ends.imp fun hw => ?_
      cases op with
      | start path => exact hallowed.elim
      | stop => exact hallowed.elim
      | resetBrain id source => exact hallowed.elim
      | setModule id moduleId source =>
        have sets := setModule hl (fun b => hw.bridges hallowed.1) (fun number => hw.modules hallowed.2) source
        exact sets.mono fun _ hv => hv hw
      | updateAgent id agent state buffer =>
        exact (updateAgent hl (fun b => hw.bridges hallowed) agent state buffer).mono fun _ hv => hv hw
      | namespaceJson id moduleId =>
        exact (namespaceJson hl (fun b => hw.bridges hallowed) moduleId).mono fun _ hv => hv hw
      | evaluate source => exact (lending.sessionEvaluate source link hl w).mono fun _ hv => hv hw
      | evaluateToInteger source => exact (lending.evaluateToInteger source link hl w).mono fun _ hv => hv hw

theorem admits {host : Host S} (hhost : ∀ callback, (host callback).Asks reach.allows) (depth : Nat)
    (scope : Scope) : (within E (Minded S) reach scope).admits (host.link depth) :=
  playing.link (fun _ h => h) (fun _ _ _ hv hw => left (hv (entered hw))) hhost depth

end within

end BrainHost
