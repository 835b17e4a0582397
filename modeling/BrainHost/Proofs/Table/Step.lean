import BrainHost.Proofs.Table.Fails
import BrainHost.Proofs.Table.Shared
import BrainHost.Proofs.Table.Sound

/-! # Operations as steps of the table

Whatever an operation of a sound runtime does, it leaves the runtime sound and has made one step of the
table. -/

namespace BrainHost

variable {E : Engine} {K : HostKind} {α β : Type}

namespace Outcome

variable {σ : Type}

/-- What an operation gives and the state it ends in are related, if it ends. It gives nothing after a
panic. -/
def Yields (P : Option α → σ → Prop) : Outcome σ α → Prop
  | .done a w => P (some a) w
  | .fault w => P none w
  | .stuck => True

theorem Yields.mono {P Q : Option α → σ → Prop} {o : Outcome σ α} (h : o.Yields P)
    (hPQ : ∀ answer w, P answer w → Q answer w) : o.Yields Q := by
  cases o with
  | done a w => exact hPQ _ w h
  | fault w => exact hPQ _ w h
  | stuck => trivial

theorem Ends.yields {P : σ → Prop} {Q : Option α → σ → Prop} {o : Outcome σ α} (h : o.Ends P)
    (hQ : ∀ answer w, P w → Q answer w) : o.Yields Q := by
  cases o with
  | done a w => exact hQ _ w h
  | fault w => exact hQ _ w h
  | stuck => trivial

theorem Yields.bind {P : Option α → σ → Prop} {Q : Option β → σ → Prop} {o : Outcome σ α}
    {f : α → σ → Outcome σ β} (h : o.Yields P) (hf : ∀ a w, P (some a) w → (f a w).Yields Q)
    (hQ : ∀ w, P none w → Q none w) : (o.bind f).Yields Q := by
  cases o with
  | done a w => exact hf a w h
  | fault w => exact hQ w h
  | stuck => trivial

end Outcome

theorem Reach.Covers.mono {reach reach' : Reach} {scope : Scope} {w : World E K}
    (h : reach.Covers scope w) (hle : reach ≤ reach') : reach'.Covers scope w where
  bridges hb hscope := hle.runs (h.bridges hb hscope)
  modules hlookup hscope := hle.sets (h.modules hlookup hscope)

namespace World

variable {w v : World E K}

theorem reportedTo_of_heard {reporter bridge : Nat} (h : HeardIn w.reporters reporter)
    (howner : ownerIn w.reporters reporter = some bridge) : w.reportedTo bridge = true := by
  obtain ⟨x, hx, hheard⟩ := h
  rw [ownerIn, hx, Option.map_some, Option.some.injEq] at howner
  refine List.any_eq_true.mpr ⟨x, (Array.mem_of_getElem? hx).val, ?_⟩
  simp [howner, hheard]

theorem Sound.checkIn (hw : w.Sound) (op : Operation) :
    op.checkIn E w.config.engine w.table = op.checkAt w := by
  rw [Operation.checkIn, World.table_isSome, hw.knownIn_table]
  rfl

end World

namespace Operation

variable {reach : Reach} {w v : World E K}

/-- An operation has made a step of the table. -/
structure Refines (reach : Reach) (w : World E K) (op : Operation) (answer : Option op.Answer)
    (v : World E K) : Prop where
  sound : v.Sound
  config : v.config = w.config
  step : Table.Step E w.config.engine reach w.table v.table ⟨op, answer, v.reportedTo w.results.size⟩

/-- An operation that was let in did what it does if it succeeds, or no more than scripts did meanwhile. -/
structure Moves (reach : Reach) (bridge : Nat) (w : World E K) (op : Operation)
    (answer : Option op.Answer) (v : World E K) : Prop where
  sound : v.Sound
  config : v.config = w.config
  effect : ∀ a ∈ answer, op.failure? a = none → op.Effect reach (v.reportedTo bridge) w.table v.table
  drifts : (∀ a ∈ answer, op.failure? a ≠ none) → (reach.during op).Drifts w.table v.table

theorem refines_of_moves {op : Operation} {link : Link E K} (hw : w.Sound)
    (hcheck : checkAt w op = .ok ()) (h : (op.act link w).Yields (Moves reach w.results.size w op)) :
    (op.act link w).Yields (Refines reach w op) := by
  have hcheckIn := (hw.checkIn op).trans hcheck
  cases hrun : op.act link w with
  | done a v =>
    rw [hrun] at h
    refine ⟨h.sound, h.config, ?_⟩
    cases hanswer : op.failure? a with
    | none => exact .succeeded hcheckIn hanswer (h.effect a rfl hanswer)
    | some failure =>
      refine .failed hcheckIn hanswer (op.may_fail hcheck hrun hanswer) (h.drifts ?_)
      intro a' ha'
      cases ha'
      simp [hanswer]
  | fault v =>
    rw [hrun] at h
    exact ⟨h.sound, h.config, .panicked (h.drifts fun a ha => by cases ha)⟩
  | stuck => trivial

theorem moves_of_keeps {op : Operation} {scope : Scope} (hw : w.Sound)
    (hcovers : (reach.during op).Covers scope w)
    (hbound : ∀ bridge, scope.bridges bridge → bridge < w.results.size) (hkeeps : scope.Keeps w v)
    {bridge : Nat} {answer : Option op.Answer}
    (heffect : (reach.during op).Drifts w.table v.table → ∀ a ∈ answer, op.failure? a = none →
      op.Effect reach (v.reportedTo bridge) w.table v.table) : Moves reach bridge w op answer v :=
  have hdrifts := hkeeps.drifts hcovers
  ⟨hkeeps.sound hw hbound, hkeeps.config, heffect hdrifts, fun _ => hdrifts⟩

/-! ## Refused operations -/

variable {link : Link E K}

theorem refuses (hw : w.Sound) (hl : ∀ scope, (within E K reach scope).admits link) (op : Operation)
    {failure : Failure} (hcheck : checkAt w op = .error failure) :
    (op.act link w).Yields (Refines reach w op) := by
  obtain ⟨journal, hrun⟩ := op.refused w hcheck
  have told : Act.Keeps (within E K reach (reach.scope w)) (Session.announce failure : Act E K Unit) :=
    Act.Keeps.ite (.pure _) (within.loud.logError _)
  have ends : (op.act link w).Yields fun answer v =>
      (∀ a ∈ answer, a = op.refuse failure) ∧ (reach.scope w).Keeps w v := by
    rw [hrun, Session.refusal]
    have keeps {v : World E K} (h : (within E K reach (reach.scope w)).rel { w with journal } v) :
        (reach.scope w).Keeps w v :=
      (within E K reach _).trans (within.journal w journal) h (hw.scope_within reach.le_refl)
    refine Outcome.Yields.bind ((told link (hl _) _).yields fun _ v hv => hv) (fun _ v hv => ?_) fun v hv => ?_
    · exact ⟨fun a ha => (Option.some.inj ha).symm, keeps hv⟩
    · exact ⟨by simp, keeps hv⟩
  refine ends.mono ?_
  rintro answer v ⟨hanswer, hkeeps⟩
  have hcovers := hw.scope_covers reach
  refine ⟨hkeeps.sound hw fun _ => hw.scope_bound, hkeeps.config, ?_⟩
  cases answer with
  | none => exact .panicked (hkeeps.drifts (hcovers.mono (reach.le_during op)))
  | some a =>
    cases hanswer a rfl
    exact .refused ((hw.checkIn op).trans hcheck) (hkeeps.drifts hcovers)

theorem reported_moves {bridge : Nat} {op : Operation} {scope : Scope} (hw : w.Sound)
    (hl : (within E K reach scope).admits link) (hwithin : reach.Within scope w)
    (hcovers : (reach.during op).Covers scope w)
    (hbound : ∀ bridge, scope.bridges bridge → bridge < w.results.size) (hkeeps : scope.Keeps w v)
    (failure : Failure) {answer : op.Answer} (hanswer : op.failure? answer ≠ none) :
    ((Session.report failure link v).bind fun _ u => .done answer u).Yields (Moves reach bridge w op) := by
  have moves {u : World E K} (hu : scope.Keeps v u) (answer : Option op.Answer)
      (hanswer : ∀ a ∈ answer, op.failure? a ≠ none) : Moves reach bridge w op answer u :=
    moves_of_keeps hw hcovers hbound (hkeeps.trans hu) fun _ a ha hnone => absurd hnone (hanswer a ha)
  have told := within.loud.report failure link hl v
  refine (told.yields fun _ u hu => hu (hwithin.kept hkeeps)).bind (fun _ u hu => ?_) fun u hu => ?_
  · exact moves hu _ fun a ha => Option.some.inj ha ▸ hanswer
  · exact moves hu none nofun

/-! ## Shared operations -/

theorem bridge_in_scope (op : Operation) {id : String} (hop : Reach.target? op = some id) (b : Brain E)
    (hb : w.found id = some b) : ((reach.during op).scope w).bridges b.bridge :=
  ⟨id, b, .inl hop, hb, rfl⟩

theorem drifting {bridge : Nat} (hw : w.Sound) {op : Operation}
    (hends : (op.act link w).Ends ((within E K reach ((reach.during op).scope w)).rel w))
    (heffect : ∀ reported T, (reach.during op).Drifts w.table T → op.Effect reach reported w.table T) :
    (op.act link w).Yields (Moves reach bridge w op) :=
  hends.yields fun _ _ hv =>
    moves_of_keeps hw (hw.scope_covers _) (fun _ => hw.scope_bound)
      (hv (hw.scope_within (reach.le_during op))) fun hdrifts _ _ _ => heffect _ _ hdrifts

theorem started_drifts {T T' : Option Table} (hT : T.isSome = true) (h : reach.Drifts T T') :
    ∃ t t', T = some t ∧ T' = some t' ∧ reach.Drift t t' := by
  cases h with
  | none => cases hT
  | some hdrift => exact ⟨_, _, rfl, rfl, hdrift⟩

theorem load_apply (number : Nat) (id source : String) (link : Link E K) (w : World E K) :
    (Brain.load number id source).run link w =
      ((Brain.enter number fun b => b.runModule id source).run link w).bind fun r v =>
        match r with
        | .ok namespaceObject => .done (.ok ()) { v with
            brains := v.brains.modify number fun b => b.store id { namespaceObject, source } }
        | .error failure => .done (.error failure) v := by
  unfold Brain.load
  rw [Attempt.run_bind, Act.bind_apply]
  congr 1
  funext r v
  cases r <;> rfl

theorem setModule_moves {bridge : Nat} (hw : w.Sound)
    (hl : ∀ scope, (within E K reach scope).admits link) {id moduleId source : String}
    (hcheck : checkAt w (setModule id moduleId source) = .ok ()) :
    ((setModule id moduleId source).act link w).Yields
      (Moves reach bridge w (setModule id moduleId source)) := by
  obtain ⟨_, ⟨number, hlookup, rfl⟩, hrun⟩ := hcheck ▸ setModule_enters w id moduleId source
  have act : (setModule id moduleId source).act link w = _ := Session.logged_apply _ link w
  rw [act, hrun, load_apply, Outcome.bind_assoc]
  -- While the module runs no more happens than scripts do, and it is stored in what that leaves.
  have hwithin := hw.scope_within (reach.le_during (setModule id moduleId source))
  have ran : ((Brain.enter number fun b => b.runModule moduleId source).run link w).Ends
      ((within E K reach ((reach.during (setModule id moduleId source)).scope w)).rel w) :=
    within.enter (hl _) (fun b hb => hb.plain (s := b.surroundings) (.runModule b moduleId source))
      (within.bridge_of_lookup (bridge_in_scope (setModule id moduleId source) rfl) hlookup)
  refine Outcome.Yields.bind (ran.yields fun _ v hv => hv hwithin) (fun r v hv => ?_) fun v hv => ?_
  · cases r with
    | ok namespaceObject =>
      have hv : ((reach.during (setModule id moduleId source)).scope w).Keeps w v := hv
      have hsound := hv.sound hw fun _ => hw.scope_bound
      have hstarted : w.table.isSome = true := w.table_isSome.trans (insistStarted_bind hcheck)
      obtain ⟨t, t', ht, ht', hdrift⟩ := started_drifts hstarted (hv.drifts (hw.scope_covers _))
      obtain ⟨r, hr, htable⟩ := hsound.table_stored moduleId { namespaceObject, source }
        (hv.registry ▸ hlookup) ht'
      have heffect : (setModule id moduleId source).Effect reach (v.reportedTo bridge) w.table
          (World.table { v with
            brains := v.brains.modify number fun b => b.store moduleId { namespaceObject, source } }) :=
        ⟨t, t', r, ht, hdrift, hr, htable⟩
      exact ⟨hsound.stored number moduleId _, hv.config, fun _ _ _ => heffect,
        fun hfails => absurd rfl (hfails _ rfl)⟩
    | error failure =>
      exact reported_moves hw (hl _) hwithin (hw.scope_covers _) (fun _ => hw.scope_bound) hv failure nofun
  · exact moves_of_keeps hw (hw.scope_covers _) (fun _ => hw.scope_bound) hv fun _ => nofun

end Operation

/-! ## Resets -/

namespace World

variable {w v : World E K}

theorem Sound.aside (hw : w.Sound) (hooks : Hooks) (journal : Array (Entry K.Note)) :
    World.Sound { w with hooks, journal } :=
  ⟨hw.stopped, hw.keys, hw.numbers, hw.bridges, hw.apart, hw.owners, hw.closed⟩

theorem Sound.bridged (hw : w.Sound) : (bridged w).Sound where
  stopped := hw.stopped
  keys := hw.keys
  numbers := hw.numbers
  bridges hb := (hw.bridges hb).trans (by simp [BrainHost.bridged])
  apart := hw.apart
  owners howner := (hw.owners howner).trans (by simp [BrainHost.bridged])
  closed := hw.closed

theorem table_bridged (w : World E K) : (bridged w).table = w.table := by
  have records : Brain.record (bridged w) = Brain.record w := by
    funext b
    exact congrArg (BrainRecord.mk b.source b.moduleSource) (resultIn_push w.results b.bridge)
  unfold World.table
  rw [records]
  rfl

end World

/-- The bridge of the brain that is being made is in scope as well. -/
def Reach.remaking (reach : Reach) (w : World E K) : Scope where
  bridges bridge := bridge = w.results.size ∨ (reach.scope w).bridges bridge
  modules := (reach.scope w).modules

namespace Operation

variable {reach : Reach} {w v : World E K} {link : Link E K}

theorem Moves.of_bridged {bridge : Nat} {op : Operation} {answer : Option op.Answer}
    (h : Moves reach bridge (bridged w) op answer v) : Moves reach bridge w op answer v where
  sound := h.sound
  config := h.config
  effect := w.table_bridged ▸ h.effect
  drifts := w.table_bridged ▸ h.drifts

theorem remaking_covers (hw : w.Sound) (reach : Reach) : reach.Covers (reach.remaking w) (bridged w) where
  bridges hb hscope := by
    refine hscope.elim (fun hnew => ?_) fun hold => (hw.scope_covers reach).bridges hb hold
    exact absurd hnew (hw.bridges hb).ne
  modules := (hw.scope_covers reach).modules

theorem remaking_within (hw : w.Sound) (reach : Reach) : reach.Within (reach.remaking w) (bridged w) where
  bridges hruns hb := .inr ((hw.scope_within reach.le_refl).bridges hruns hb)
  modules := (hw.scope_within reach.le_refl).modules
  opened hx hopen := .inr ((hw.scope_within reach.le_refl).opened hx hopen)

theorem remaking_bound (hw : w.Sound) (reach : Reach) {bridge : Nat} (h : (reach.remaking w).bridges bridge) :
    bridge < (bridged w).results.size := by
  have size : (bridged w).results.size = w.results.size + 1 := Array.size_push _
  rw [size]
  exact h.elim (fun hnew => hnew ▸ Nat.lt_succ_self _) fun hold => Nat.lt_succ_of_lt (hw.scope_bound hold)

theorem remake_apply (id source : String) (config : EngineConfig) (link : Link E K) (w : World E K) :
    (Registry.remake id source config).run link w =
      ((Brain.make source config).run link w).bind fun r v =>
        match r with
        | .ok b => .done (.ok ()) (Act.logged .info "brain" "brain reset"
            (Registry.insert id b (Registry.remove id v)))
        | .error cause => .done (.error (.resetFailed (listing source) cause)) v := by
  have made : (Attempt.attempt (Brain.make source config)).run link w =
      ((Brain.make source config).run link w).bind fun r v => .done (.ok r) v := Act.bind_apply ..
  unfold Registry.remake
  rw [Attempt.run_bind, Act.bind_apply, made, Outcome.bind_assoc]
  congr 1
  funext r v
  cases r <;> rfl

theorem result_reported (hkeeps : (reach.remaking w).Keeps (bridged w) v)
    (h : v.reportedTo w.results.size = false) : resultIn v.results w.results.size = none := by
  by_contra hsome
  have fresh : resultIn (bridged w).results w.results.size = none := by
    simp [resultIn, bridged]
  obtain ⟨-, reporter, hheard, howner⟩ := hkeeps.results w.results.size (by rwa [fresh])
  rw [World.reportedTo_of_heard hheard howner] at h
  cases h

theorem remade (hw : w.Sound) (hstarted : w.life.isSome = true)
    (hkeeps : (reach.remaking w).Keeps (bridged w) v) (id : String) (b : Brain E)
    (hbridge : b.bridge = w.results.size) (hmodules : b.modules = []) :
    Moves reach w.results.size (bridged w) (resetBrain id b.source) (some (.ok ()))
      (Act.logged .info "brain" "brain reset" (Registry.insert id b (Registry.remove id v))) := by
  have hsound := hkeeps.sound hw.bridged fun _ => remaking_bound hw reach
  have hdrifts := hkeeps.drifts (remaking_covers hw reach)
  obtain ⟨t, t', ht, ht', hdrift⟩ := started_drifts ((bridged w).table_isSome.trans hstarted) hdrifts
  have hlife : v.life ≠ none := by
    intro hstopped
    rw [World.table, hstopped] at ht'
    cases ht'
  have hstands : b.bridge < v.results.size := by
    rw [hkeeps.size, hbridge]
    exact remaking_bound hw reach (.inl rfl)
  have hown {other : String} {b' : Brain E} (hfound : v.found other = some b') : b'.bridge ≠ b.bridge := by
    obtain ⟨b₀, hb₀, hsame⟩ := hkeeps.found hfound
    rw [hsame, hbridge]
    exact (hw.bridges hb₀).ne
  have hrecord : b.record v =
      { source := b.source, modules := fun _ => none, lastResult := resultIn v.results w.results.size } := by
    unfold Brain.record Brain.moduleSource
    rw [hmodules, hbridge]
    rfl
  have heffect : (resetBrain id b.source).Effect reach (v.reportedTo w.results.size) (bridged w).table
      (Registry.insert id b (Registry.remove id v)).table :=
    ⟨t, t', _, ht, hdrift, hrecord ▸ hsound.table_replaced id b ht', result_reported hkeeps⟩
  exact ⟨(hsound.replaced hlife hstands hown).aside _ _, hkeeps.config, fun _ _ _ => heffect,
    fun hfails => absurd rfl (hfails _ rfl)⟩

theorem resetBrain_moves (hw : w.Sound) (hl : ∀ scope, (within E K reach scope).admits link)
    {id source : String} (hcheck : checkAt w (resetBrain id source) = .ok ()) :
    ((resetBrain id source).act link w).Yields (Moves reach w.results.size w (resetBrain id source)) := by
  obtain ⟨_, rfl, hrun⟩ := hcheck ▸ resetBrain_enters w id source
  have act : (resetBrain id source).act link w = _ := Session.logged_apply _ link w
  rw [act, hrun, remake_apply, Outcome.bind_assoc, Brain.make_apply]
  cases hcreate : E.create w.config.engine brainFunctions with
  | error reason =>
    exact reported_moves hw (hl _) (hw.scope_within reach.le_refl)
      ((hw.scope_covers reach).mono (reach.le_during _)) (fun _ => hw.scope_bound) (.refl w) _ nofun
  | ok c =>
    -- The source runs with a new bridge, and the registry is changed when it has run.
    have hcovers := (remaking_covers hw reach).mono (reach.le_during (resetBrain id source))
    have hwithin := remaking_within hw reach
    have hbound (bridge : Nat) : (reach.remaking w).bridges bridge → bridge < (bridged w).results.size :=
      remaking_bound hw reach
    have serves : (within E K reach (reach.remaking w)).Serving (some w.results.size) :=
      within.serving fun _ h => Option.some.inj h ▸ .inl rfl
    have ran := serves.plain (s := { bridge := w.results.size }) (.entryPoints source) c link (hl _) (bridged w)
    dsimp only
    rw [Outcome.bind_assoc]
    refine Outcome.Yields.mono ?_ fun _ _ => Moves.of_bridged
    refine (ran.yields fun _ v hv => hv hwithin).bind (fun p v hv => ?_) fun v hv => ?_
    · obtain ⟨r, c'⟩ := p
      cases r with
      | error cause => exact reported_moves hw.bridged (hl _) hwithin hcovers hbound hv _ nofun
      | ok points =>
        exact remade hw (insistStarted_bind hcheck) hv id
          { context := some c', source, bridge := w.results.size, updateAgent := points.1
            postMessageFlush := points.2, maxPendingJobs := w.config.engine.maxPendingJobs } rfl rfl
    · exact moves_of_keeps hw.bridged hcovers hbound hv fun _ => nofun

/-! ## Lifecycle -/

theorem stopped_of_check {path : String} (hcheck : checkAt w (start path) = .ok ()) : w.life = none := by
  have checked : checkAt w (start path) = (do
    insist .filePath path
    insistStopped w.life.isSome
    insistUsable E w.config.engine) := rfl
  cases hlife : w.life with
  | none => rfl
  | some life =>
    rw [checked, hlife] at hcheck
    cases hpath : insist .filePath path with
    | error failure => rw [hpath] at hcheck; cases hcheck
    | ok u => rw [hpath] at hcheck; cases hcheck

theorem start_moves (reach : Reach) (bridge : Nat) (hw : w.Sound) {path : String}
    (hcheck : checkAt w (start path) = .ok ()) :
    ∃ v, (∀ link, (start path).act link w = .done (.ok ()) v) ∧ v.table = some (.empty path) ∧
      Moves reach bridge w (start path) (some (.ok ())) v := by
  have starts := start_apply path w
  rw [hcheck] at starts
  obtain ⟨scratch, journal, hrun⟩ := starts
  have hlife := stopped_of_check hcheck
  have hfound (id : String) : w.found id = none := by rw [World.found, hw.stopped hlife]; rfl
  have htable : World.table { w with life := some { path, scratch }, journal } = some (.empty path) := by
    refine (World.table_of_some rfl).trans ?_
    rw [Table.empty]
    congr 2
    funext id
    exact congrArg (Option.map _) (hfound id)
  refine ⟨_, hrun, htable, ⟨by simp, hw.keys, hw.numbers, hw.bridges, hw.apart, hw.owners, hw.closed⟩, rfl,
    fun _ _ _ => ⟨?_, htable⟩, fun hfails => absurd rfl (hfails _ rfl)⟩
  rw [World.table, hlife, Option.map_none]

theorem stop_moves (reach : Reach) (bridge : Nat) (hw : w.Sound) (hcheck : checkAt w stop = .ok ()) :
    ∃ v, (∀ link, stop.act link w = .done (.ok ()) v) ∧ v.table = none ∧
      Moves reach bridge w stop (some (.ok ())) v := by
  have hrun (link : Link E K) : stop.act link w = .done (.ok ()) _ :=
    (stop_apply link w).trans (if_pos (insistStarted_ok hcheck))
  refine ⟨_, hrun, rfl, ⟨fun _ => rfl, List.nodup_nil, nofun, nofun, nofun, hw.owners, hw.closed⟩, rfl,
    fun _ _ _ => rfl, fun hfails => absurd rfl (hfails _ rfl)⟩

/-! ## All operations -/

theorem refines (hw : w.Sound) (hl : ∀ scope, (within E K reach scope).admits link) (op : Operation) :
    (op.act link w).Yields (Refines reach w op) := by
  cases hcheck : checkAt w op with
  | error failure => exact refuses hw hl op hcheck
  | ok u =>
    refine refines_of_moves hw hcheck ?_
    cases op with
    | start path =>
      obtain ⟨v, hrun, -, hmoves⟩ := start_moves reach w.results.size hw hcheck
      rw [hrun]
      exact hmoves
    | stop =>
      obtain ⟨v, hrun, -, hmoves⟩ := stop_moves reach w.results.size hw hcheck
      rw [hrun]
      exact hmoves
    | resetBrain id source => exact resetBrain_moves hw hl hcheck
    | setModule id moduleId source => exact setModule_moves hw hl hcheck
    | updateAgent id agent state buffer =>
      exact drifting hw (within.updateAgent (hl _) (bridge_in_scope (updateAgent id agent state buffer) rfl)
        agent state buffer) fun _ _ h => h
    | namespaceJson id moduleId =>
      exact drifting hw (within.namespaceJson (hl _) (bridge_in_scope (namespaceJson id moduleId) rfl) moduleId)
        fun _ _ h => h
    | evaluate source => exact drifting hw (within.lending.sessionEvaluate source link (hl _) w) fun _ _ h => h
    | evaluateToInteger source =>
      exact drifting hw (within.lending.evaluateToInteger source link (hl _) w) fun _ _ h => h

end Operation

end BrainHost
