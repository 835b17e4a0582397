import BrainHost.Proofs.Table.Step

/-! # Refinement

The runtime refines its table: over any operations, with any scripts and hosts, what callers see are
steps of the table. -/

namespace BrainHost

variable {E : Engine} {K : HostKind} {α : Type}

namespace Operation

theorem tried_apply (op : Operation) (link : Link E K) (w : World E K) :
    op.tried link w = match op.act link w with
      | .done answer v => .done (some answer) v
      | .fault v => .done none v
      | .stuck => .stuck := by
  unfold tried Act.catchFault
  rw [Act.bind_apply]
  cases op.act link w <;> rfl

theorem observed_apply (op : Operation) (link : Link E K) (w : World E K) :
    op.observed link w =
      (op.tried link w).bind fun answer v => .done ⟨op, answer, v.reportedTo w.results.size⟩ v := by
  unfold observed
  rw [Act.bind_apply, Act.get_apply, Outcome.bind_done, Act.bind_apply]
  rfl

variable {reach : Reach} {link : Link E K} {w v : World E K}

theorem observed_step (hw : w.Sound) (hl : ∀ scope, (within E K reach scope).admits link) (op : Operation)
    {event : Event} (h : op.observed link w = .done event v) :
    event.operation = op ∧ v.Sound ∧ v.config = w.config ∧
      Table.Step E w.config.engine reach w.table v.table event := by
  have hrefines := op.refines hw hl
  rw [observed_apply, tried_apply] at h
  cases hrun : op.act link w with
  | done answer u =>
    rw [hrun] at h hrefines
    cases h
    exact ⟨rfl, hrefines.sound, hrefines.config, hrefines.step⟩
  | fault u =>
    rw [hrun] at h hrefines
    cases h
    exact ⟨rfl, hrefines.sound, hrefines.config, hrefines.step⟩
  | stuck =>
    rw [hrun] at h
    cases h

theorem observeAll_steps (hl : ∀ scope, (within E K reach scope).admits link)
    (ops : List (Hooks × Operation)) {w : World E K} (hw : w.Sound) {events : List Event}
    (h : observeAll ops link w = .done events v) :
    events.map Event.operation = ops.map Prod.snd ∧ v.Sound ∧ v.config = w.config ∧
      Table.Steps E w.config.engine reach w.table events v.table := by
  induction ops generalizing w events with
  | nil =>
    cases h
    exact ⟨rfl, hw, rfl, .nil _⟩
  | cons first rest ih =>
    obtain ⟨hooks, op⟩ := first
    have hhooked : World.Sound { w with hooks } := hw.aside hooks w.journal
    unfold observeAll at h
    rw [Act.bind_apply, Act.modify_apply, Outcome.bind_done, Act.bind_apply, Outcome.bind_eq_done] at h
    obtain ⟨event, u, hfirst, h⟩ := h
    rw [Act.bind_apply, Outcome.bind_eq_done] at h
    obtain ⟨later, u', hrest, heq⟩ := h
    cases heq
    obtain ⟨hop, hu, hconfig, hstep⟩ := observed_step hhooked hl op hfirst
    obtain ⟨hops, hv, hconfig', hsteps⟩ := ih hu hrest
    refine ⟨by rw [List.map_cons, List.map_cons, hop, hops], hv, hconfig'.trans hconfig, ?_⟩
    rw [hconfig] at hsteps
    exact .cons hstep hsteps

end Operation

/-- **The runtime refines its table.** From any sound runtime, a fresh one among them, operations are
tried one after the other, whatever their arguments, scripts and hooks are and whatever host functions do
within reach. What callers see are steps of the table: an operation is refused by the checks that the
table decides, or it succeeds and has its effect on the table, or it fails or panics and no more has
changed than scripts and host functions do meanwhile, which is never the set of brains, a source, or a
module out of reach. A new brain has no modules, and no service result unless something was reported to
a call that its source made. The runtime is sound again afterwards. In a sound runtime the number of
brains is that of the table's ids, an operation that is refused fails whatever host functions do with the
error that they are told, and a start or a stop that is let in always succeeds. -/
theorem lifecycle_refinement {S : Type} (reach : Reach) (host : Host S) (depth : Nat)
    (w : World E (Minded S)) (hhost : ∀ callback, (host callback).Asks reach.allows) (hw : w.Sound) :
    (∀ ops events v, Operation.observeAll ops (host.link depth) w = .done events v →
      events.map Event.operation = ops.map Prod.snd ∧ v.Sound ∧ v.config = w.config ∧
        Table.Steps E w.config.engine reach w.table events v.table) ∧
    (∀ link, (Registry.size : Act E (Minded S) Nat) link w = .done (idsOf w.table).ncard w) ∧
    (∀ op failure, Operation.checkIn E w.config.engine w.table op = .error failure →
      ∃ journal, ∀ link, op.act link w =
        Session.refusal failure (op.refuse failure) link { w with journal }) ∧
    (∀ path, Operation.checkIn E w.config.engine w.table (.start path) = .ok () →
      ∃ v, v.Sound ∧ v.table = some (.empty path) ∧
        ∀ link, (Operation.start path).act link w = .done (.ok ()) v) ∧
    (Operation.checkIn E w.config.engine w.table .stop = .ok () →
      ∃ v, v.Sound ∧ v.table = none ∧ ∀ link, Operation.stop.act link w = .done (.ok ()) v) := by
  refine ⟨fun ops events v h => Operation.observeAll_steps (within.admits hhost depth) ops hw h,
    fun _ => ?_, fun op failure hcheck => ?_, fun path hcheck => ?_, fun hcheck => ?_⟩
  · rw [← hw.count]
    rfl
  · exact op.refused w ((hw.checkIn op).symm.trans hcheck)
  · obtain ⟨v, hrun, htable, hmoves⟩ :=
      Operation.start_moves reach w.results.size hw ((hw.checkIn (.start path)).symm.trans hcheck)
    exact ⟨v, hmoves.sound, htable, hrun⟩
  · obtain ⟨v, hrun, htable, hmoves⟩ :=
      Operation.stop_moves reach w.results.size hw ((hw.checkIn .stop).symm.trans hcheck)
    exact ⟨v, hmoves.sound, htable, hrun⟩

/-- An engine whose sources call a service when they run. -/
def callingEngine : Engine :=
  { Engine.idle Unit String () id id with
    evaluate := fun _ source c => .ask (.service "svc" "1") c fun _ => .done (c, .ok source) }

/-- A host that reports a result for every call. -/
def answeringHost : Host Unit
  | .callService _ _ reporter => .ask (.report reporter "1") fun _ => .finish .none
  | _ => .finish .none

def closedReach : Reach := { runs := fun _ => False, sets := fun _ _ => False }

theorem answeringHost_allowed (callback : Callback) : (answeringHost callback).Asks closedReach.allows := by
  cases callback with
  | callService service args reporter => exact ⟨trivial, fun _ => trivial⟩
  | _ => trivial

def calling : World callingEngine (Minded Unit) := { hooks := ⟨[.callService]⟩, host := { own := () } }

theorem calling_sound : calling.Sound :=
  World.Sound.fresh (K := Minded Unit) {} ⟨[.callService]⟩ ({ own := () } : Mind Unit)

def lifecycle : List (Hooks × Operation) :=
  [.start ".", .resetBrain "b" "s", .setModule "b" "m" "t", .updateAgent "c" "a" "{}" .empty, .stop].map
    (⟨[.callService]⟩, ·)

/-- A brain is made and gets a module, another one is not known, and nothing is left in the end. A
runtime that was not started is not stopped, and one that is started is. -/
theorem lifecycle_refinement_calling :
    (∀ callback, (answeringHost callback).Asks closedReach.allows) ∧ calling.Sound ∧
    (∃ events v, Operation.observeAll lifecycle (answeringHost.link 1) calling = .done events v ∧
      events.map Event.reported = [false, true, false, false, false] ∧
      Table.Steps callingEngine {} closedReach none events none) ∧
    (∃ journal, ∀ link, Operation.stop.act link calling =
      Session.refusal .notInitialized (Operation.stop.refuse .notInitialized) link { calling with journal }) ∧
    ∃ v v', ∀ link, (Operation.start ".").act link calling = .done (.ok ()) v ∧
      Operation.stop.act link v = .done (.ok ()) v' := by
  obtain ⟨hsteps, -, hrefused, hstart, -⟩ :=
    lifecycle_refinement closedReach answeringHost 1 calling answeringHost_allowed calling_sound
  refine ⟨answeringHost_allowed, calling_sound, ?_, hrefused .stop .notInitialized rfl, ?_⟩
  · obtain ⟨events, v, hrun, hreported, hend⟩ : ∃ events v,
        Operation.observeAll lifecycle (answeringHost.link 1) calling = .done events v ∧
        events.map Event.reported = [false, true, false, false, false] ∧ v.table = none :=
      ⟨_, _, rfl, rfl, rfl⟩
    have h := (hsteps lifecycle events v hrun).2.2.2
    rw [hend] at h
    exact ⟨events, v, hrun, hreported, h⟩
  · obtain ⟨v, hv, htable, hrun⟩ := hstart "." rfl
    have hcheck : Operation.checkIn callingEngine v.config.engine v.table .stop = .ok () := by
      rw [htable]
      rfl
    obtain ⟨v', -, -, hrun'⟩ :=
      (lifecycle_refinement closedReach answeringHost 1 v answeringHost_allowed hv).2.2.2.2 hcheck
    exact ⟨v, v', fun link => ⟨hrun link, hrun' link⟩⟩

/-! ## A result of a new brain -/

/-- A call that a source makes while a reset runs leaves its result to the new brain. -/
theorem reset_leaves_result :
    ∃ v t r, Operation.observeAll (lifecycle.take 2) (answeringHost.link 1) calling =
        .done [⟨.start ".", some (.ok ()), false⟩, ⟨.resetBrain "b" "s", some (.ok ()), true⟩] v ∧
      v.table = some t ∧ t.brains "b" = some r ∧ r.source = "s" ∧ r.lastResult = some "1" :=
  ⟨_, _, _, rfl, rfl, rfl, rfl, rfl⟩

end BrainHost
