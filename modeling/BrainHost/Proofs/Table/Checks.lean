import BrainHost.Proofs.Table.Spec
import BrainHost.Proofs.Update.Delivery

/-! # What operations check

An operation checks what it was given before any script runs. One that is not let in has changed
nothing but the log, and the host's sink is told why unless the log has it already. -/

namespace BrainHost

variable {E : Engine} {K : HostKind} {α β : Type} {w : World E K}

/-- The host's sink is not told of these. -/
def Failure.isSilent : Failure → Bool
  | rejected _ => true
  | alreadyInitialized => true
  | notInitialized => true
  | _ => false

def Session.announce (failure : Failure) : Act E K Unit :=
  if failure.isSilent then pure () else Act.logError failure.message

def Failure.isReset : Failure → Bool
  | resetFailed _ _ => true
  | _ => false

theorem Registry.find_apply (id : String) (link : Link E K) (w : World E K) :
    (Registry.find id : Attempt E K Nat).run link w =
      .done ((w.registry.lookup id).elim (.error (.unknownBrain id)) .ok) w := by
  unfold Registry.find
  rw [Attempt.get_bind_apply]
  cases w.registry.lookup id <;> rfl

namespace Attempt

/-- An operation begins with checks. It goes on as another one, or it fails and has changed nothing but
the log. -/
def Enters (m : Attempt E K α) (w : World E K) (check : Except Failure Unit)
    (goes : Attempt E K α → Prop) : Prop :=
  match check with
  | .ok () => ∃ rest, goes rest ∧ ∀ link, m.run link w = rest.run link w
  | .error failure => failure.isReset = false ∧
    ∃ journal, ∀ link, m.run link w = .done (.error failure) { w with journal }

/-- A check gives something good and changes nothing, or it fails. -/
def Checks (m : Attempt E K α) (w : World E K) (check : Except Failure Unit) (good : α → Prop) : Prop :=
  Enters m w check fun rest => ∃ a, good a ∧ rest = pure a

namespace Enters

theorem bind {m : Attempt E K α} {f : α → Attempt E K β} {check later : Except Failure Unit}
    {good : α → Prop} {goes : Attempt E K β → Prop} (hm : Checks m w check good)
    (hf : ∀ a, good a → Enters (f a) w later goes) :
    Enters (m >>= f) w (check >>= fun _ => later) goes := by
  cases check with
  | error failure =>
    obtain ⟨hreset, journal, hrun⟩ := hm
    refine ⟨hreset, journal, fun link => ?_⟩
    rw [run_bind, Act.bind_apply, hrun]
    rfl
  | ok u =>
    obtain ⟨rest, ⟨a, ha, rfl⟩, hrun⟩ := hm
    have same (link : Link E K) : (m >>= f).run link w = (f a).run link w := by
      rw [run_bind, Act.bind_apply, hrun]
      rfl
    have enters := hf a ha
    change Enters (m >>= f) w later goes
    unfold Enters at enters ⊢
    simpa only [same] using enters

theorem ends {m : Attempt E K α} {check : Except Failure Unit} {goes : Attempt E K α → Prop}
    (h : Enters m w check goes) {link : Link E K} {P : World E K → Prop}
    (hjournal : ∀ journal, P { w with journal }) (hrest : ∀ rest, goes rest → (rest.run link w).Ends P) :
    (m.run link w).Ends P := by
  cases check with
  | error failure =>
    obtain ⟨-, journal, hrun⟩ := h
    rw [hrun]
    exact hjournal journal
  | ok u =>
    obtain ⟨rest, hgoes, hrun⟩ := h
    rw [hrun]
    exact hrest rest hgoes

theorem free {m : Attempt E K α} {f : α → Attempt E K β} {later : Except Failure Unit}
    {good : α → Prop} {goes : Attempt E K β → Prop} (hm : Checks m w (.ok ()) good)
    (hf : ∀ a, good a → Enters (f a) w later goes) : Enters (m >>= f) w later goes := bind hm hf

theorem go {m : Attempt E K α} {goes : Attempt E K α → Prop} (h : goes m) : Enters m w (.ok ()) goes :=
  ⟨m, h, fun _ => rfl⟩

theorem last {m : Attempt E K α} {f : α → Attempt E K β} {check : Except Failure Unit}
    {good : α → Prop} {goes : Attempt E K β → Prop} (hm : Checks m w check good)
    (hf : ∀ a, good a → goes (f a)) : Enters (m >>= f) w check goes := by
  have enters := bind hm fun a ha => go (w := w) (hf a ha)
  cases check with
  | error failure => exact enters
  | ok u => exact enters

end Enters

namespace Checks

theorem orReject (r : Except Rejection Unit) :
    Checks (Attempt.orReject (Act.warnOf r)) w (r.mapError .rejected) fun _ => True := by
  cases r with
  | ok u => exact ⟨_, ⟨(), trivial, rfl⟩, fun _ => rfl⟩
  | error cause => exact ⟨rfl, _, fun _ => rfl⟩

theorem insistText (limit : Limit) (text : String) :
    Checks (Attempt.insistText limit text) w (insist limit text) fun _ => True :=
  orReject (limit.check text)

theorem insistLength (limit : Limit) (length : Nat) :
    Checks (Attempt.insistLength limit length) w ((limit.checkLength length).mapError .rejected)
      fun _ => True :=
  orReject (limit.checkLength length)

theorem engineConfig :
    Checks (Session.engineConfig : Attempt E K EngineConfig) w (.ok ()) (· = w.config.engine) :=
  ⟨_, ⟨_, rfl, rfl⟩, fun _ => rfl⟩

theorem life :
    Checks (Session.life : Attempt E K (Life E)) w (insistStarted w.life.isSome)
      fun life => w.life = some life := by
  have run (link : Link E K) : (Session.life : Attempt E K (Life E)).run link w =
      .done (w.life.elim (.error .notInitialized) .ok) w := by
    unfold Session.life
    rw [get_bind_apply]
    cases w.life <;> rfl
  cases hlife : w.life with
  | none =>
    rw [hlife] at run
    exact ⟨rfl, w.journal, run⟩
  | some life =>
    rw [hlife] at run
    exact ⟨_, ⟨life, rfl, rfl⟩, run⟩

theorem find (id : String) :
    Checks (Registry.find id : Attempt E K Nat) w
      (insistKnown (w.registry.lookup id).isSome id)
      fun number => w.registry.lookup id = some number := by
  have run (link : Link E K) := Registry.find_apply id link w
  cases hlookup : w.registry.lookup id with
  | none =>
    rw [hlookup] at run
    exact ⟨rfl, w.journal, run⟩
  | some number =>
    rw [hlookup] at run
    exact ⟨_, ⟨number, rfl, rfl⟩, run⟩

end Checks

end Attempt

/-! ## What follows the checks -/

def Registry.remake (id source : String) (config : EngineConfig) : Attempt E K Unit := do
  match ← Attempt.attempt (Brain.make source config) with
  | .error cause => throw (.resetFailed (listing source) cause)
  | .ok b => do
    Attempt.modify fun w => insert id b (remove id w)
    Attempt.record .info "brain reset"

def Brain.load (number : Nat) (id source : String) : Attempt E K Unit := do
  let namespaceObject ← enter number fun b => b.runModule id source
  update number fun b => b.store id { namespaceObject, source }

def Scratch.runIn (source : String) (life : Life E) : Attempt E K Unit := do
  match life.scratch with
  | none => Attempt.fault
  | some context => do
    Attempt.modify (setContext none)
    let _ ← Attempt.lend context (evaluate {} source) fun context => setContext (some context)

def Scratch.integerIn (source : String) (config : EngineConfig) : Attempt E K Int := do
  let context ← make config
  let (result, _) ← Attempt.inside context (integerOf {} source)
  Attempt.finish result

namespace Registry

open Attempt (Enters)

variable (w : World E K)

theorem reset_enters (id source : String) :
    Enters (do reset id source (← Session.engineConfig)) w (do
        insist .identifier id
        insist .scriptSource source)
      (· = remake id source w.config.engine) :=
  .free .engineConfig fun _ hconfig => .bind (.insistText _ _) fun _ _ =>
    .last (.insistText _ _) fun _ _ => hconfig ▸ rfl

theorem setModule_enters (id moduleId source : String) :
    Enters (setModule id moduleId source) w (do
        insist .identifier id
        insistKnown (w.registry.lookup id).isSome id
        insist .identifier moduleId
        insist .scriptSource source)
      fun rest => ∃ number, w.registry.lookup id = some number ∧ rest = Brain.load number moduleId source :=
  .bind (.insistText _ _) fun _ _ => .bind (.find id) fun number hnumber =>
    .bind (.insistText _ _) fun _ _ => .last (.insistText _ _) fun _ _ => ⟨number, hnumber, rfl⟩

theorem find_enters (id : String) (f : Nat → Attempt E K α) :
    Enters (do f (← find id)) w (insistKnown (w.registry.lookup id).isSome id)
      fun rest => ∃ number, w.registry.lookup id = some number ∧ rest = f number :=
  .last (.find id) fun number hnumber => ⟨number, hnumber, rfl⟩

end Registry

namespace Operation

def checkAt (w : World E K) (op : Operation) : Except Failure Unit :=
  op.check E w.config.engine w.life.isSome fun id => (w.registry.lookup id).isSome

open Attempt (Enters Checks)

variable (w : World E K)

theorem resetBrain_enters (id source : String) :
    Enters (do let _ ← Session.life; Registry.reset id source (← Session.engineConfig)) w
      (checkAt w (resetBrain id source)) (· = Registry.remake id source w.config.engine) :=
  .bind .life fun _ _ => Registry.reset_enters w id source

theorem setModule_enters (id moduleId source : String) :
    Enters (do let _ ← Session.life; Registry.setModule id moduleId source) w
      (checkAt w (setModule id moduleId source))
      fun rest => ∃ number, w.registry.lookup id = some number ∧ rest = Brain.load number moduleId source :=
  .bind .life fun _ _ => Registry.setModule_enters w id moduleId source

theorem updateAgent_enters (id agent state : String) (buffer : ByteArray) :
    Checks (Session.findForUpdate id agent state buffer) w (checkAt w (updateAgent id agent state buffer))
      fun number => w.registry.lookup id = some number :=
  .bind (.insistText _ _) fun _ _ => .bind (.insistText _ _) fun _ _ => .bind (.insistText _ _) fun _ _ =>
    .bind (.insistLength _ _) fun _ _ => .bind .life fun _ _ => Checks.find id

theorem namespaceJson_enters (id moduleId : String) :
    Enters (do let _ ← Session.life; Brain.namespaceJson (← Registry.find id) moduleId) w
      (checkAt w (namespaceJson id moduleId))
      fun rest => ∃ number, w.registry.lookup id = some number ∧
        rest = Brain.namespaceJson number moduleId :=
  .bind .life fun _ _ => Registry.find_enters w id fun number => Brain.namespaceJson number moduleId

theorem evaluate_enters (source : String) :
    Enters (do Scratch.run source (← Session.life)) w (checkAt w (evaluate source))
      fun rest => ∃ life, w.life = some life ∧ rest = Scratch.runIn source life :=
  .bind .life fun life hlife => .last (.insistText _ _) fun _ _ => ⟨life, hlife, rfl⟩

theorem evaluateToInteger_enters (source : String) :
    Enters (do Scratch.integer source (← Session.engineConfig)) w (checkAt w (evaluateToInteger source))
      (· = Scratch.integerIn source w.config.engine) :=
  .free .engineConfig fun _ hconfig => .last (.insistText _ _) fun _ _ => hconfig ▸ rfl

end Operation

/-! ## Operations that are not let in -/

theorem Session.logged_apply (m : Attempt E K α) (link : Link E K) (w : World E K) :
    (Session.logged m).run link w = (m.run link w).bind fun r v =>
      match r with
      | .ok a => .done (.ok a) v
      | .error failure => (Session.report failure link v).bind fun _ u => .done (.error failure) u := by
  unfold Session.logged
  change (m.run >>= _) link w = _
  rw [Act.bind_apply]
  congr 1
  funext r v
  cases r with
  | ok a => rfl
  | error failure => exact Act.bind_apply ..

theorem Session.report_apply {failure : Failure} (h : failure.isReset = false) (w : World E K) :
    ∃ journal, ∀ link,
      Session.report failure link w = Session.announce failure link { w with journal } := by
  cases failure with
  | rejected cause => exact ⟨w.journal, fun _ => rfl⟩
  | alreadyInitialized => exact ⟨_, fun _ => rfl⟩
  | notInitialized => exact ⟨_, fun _ => rfl⟩
  | resetFailed listing cause => cases h
  | _ => exact ⟨w.journal, fun _ => rfl⟩

/-- The outcome of an operation that was not let in: the sink is told, and the operation fails. -/
def Session.refusal (failure : Failure) (answer : α) (link : Link E K) (w : World E K) :
    Outcome (World E K) α :=
  (Session.announce failure link w).bind fun _ v => .done answer v

theorem Attempt.Enters.refused {m : Attempt E K α} {failure : Failure} {goes : Attempt E K α → Prop}
    (h : m.Enters w (.error failure) goes) : ∃ journal, ∀ link, (Session.logged m).run link w =
      Session.refusal failure (.error failure) link { w with journal } := by
  obtain ⟨hreset, journal, hrun⟩ := h
  obtain ⟨journal', hreport⟩ := Session.report_apply hreset { w with journal }
  refine ⟨journal', fun link => ?_⟩
  rw [Session.logged_apply, hrun, Outcome.bind_done]
  dsimp only
  rw [hreport]
  rfl

namespace Attempt

theorem Checks.logged_passes {m : Attempt E K α} {good : α → Prop} (h : Checks m w (.ok ()) good)
    (f : α → Attempt E K β) :
    ∃ a, good a ∧ ∀ link, (Session.logged m >>= f).run link w = (f a).run link w := by
  obtain ⟨_, ⟨a, ha, rfl⟩, hrun⟩ := h
  refine ⟨a, ha, fun link => ?_⟩
  rw [run_bind, Act.bind_apply, Session.logged_apply, hrun]
  rfl

theorem Checks.logged_refuses {m : Attempt E K α} {failure : Failure} {good : α → Prop}
    (h : Checks m w (.error failure) good) (f : α → Attempt E K β) :
    ∃ journal, ∀ link, (Session.logged m >>= f).run link w =
      Session.refusal failure (.error failure) link { w with journal } := by
  obtain ⟨journal, hrun⟩ := Enters.refused h
  refine ⟨journal, fun link => ?_⟩
  rw [run_bind, Act.bind_apply, hrun, Session.refusal, Outcome.bind_assoc]
  rfl

theorem Checks.validateConfig :
    Checks (Session.validateConfig : Attempt E K Unit) w (w.config.engine.validate.mapError .config)
      fun _ => True := by
  refine .free .engineConfig ?_
  rintro _ rfl
  cases w.config.engine.validate with
  | error cause => exact ⟨rfl, w.journal, fun _ => rfl⟩
  | ok u => exact ⟨_, ⟨(), trivial, rfl⟩, fun _ => rfl⟩

theorem Checks.scratchMake :
    Checks (do Scratch.make (← Session.engineConfig) : Attempt E K E.Context) w
      ((E.create w.config.engine logFunctions).mapError Failure.engine >>= fun _ => .ok ())
      fun _ => True := by
  refine .free .engineConfig ?_
  rintro _ rfl
  unfold Scratch.make
  cases E.create w.config.engine logFunctions with
  | error reason => exact ⟨rfl, w.journal, fun _ => rfl⟩
  | ok context => exact ⟨_, ⟨context, trivial, rfl⟩, fun _ => rfl⟩

end Attempt

namespace Operation

def settle (path : String) (context : E.Context) : Attempt E K Unit := do
  Attempt.modify fun w => { w with life := some { path, scratch := some context } }
  Attempt.record .info "brain runtime initialized"

def furnish (path : String) : Attempt E K Unit := do
  let context ← Session.logged (do Scratch.make (← Session.engineConfig))
  settle path context

/-- A start that is let in: it makes the context for scratch scripts, unless the configuration is of no
use. -/
def launch (path : String) : Attempt E K Unit := do
  Session.logged Session.validateConfig
  furnish path

theorem start_enters (path : String) (w : World E K) :
    Attempt.Enters (Session.start path) w (do
      insist .filePath path
      insistStopped w.life.isSome) (· = launch path) := by
  refine .bind (.insistText _ _) fun _ _ => ?_
  have got : Attempt.Checks (Attempt.get : Attempt E K (World E K)) w (.ok ()) (· = w) :=
    ⟨_, ⟨w, rfl, rfl⟩, fun _ => rfl⟩
  refine .free got ?_
  rintro v rfl
  cases v.life.isSome with
  | false => exact .go rfl
  | true => exact ⟨rfl, _, fun _ => rfl⟩

theorem launch_apply (path : String) (w : World E K) :
    match insistUsable E w.config.engine with
    | .error failure => ∃ journal, ∀ link, (launch path).run link w =
        Session.refusal failure (.error failure) link { w with journal }
    | .ok () => ∃ scratch journal, ∀ link, (launch path).run link w =
        .done (.ok ()) { w with life := some { path, scratch }, journal } := by
  unfold insistUsable
  have valid : Attempt.Checks (Session.validateConfig : Attempt E K Unit) w _ _ := .validateConfig
  have made : Attempt.Checks (do Scratch.make (← Session.engineConfig) : Attempt E K E.Context) w _ _ :=
    .scratchMake
  cases hvalid : w.config.engine.validate with
  | error cause =>
    rw [hvalid] at valid
    exact valid.logged_refuses _
  | ok u =>
    rw [hvalid] at valid
    obtain ⟨_, -, hlaunch⟩ := valid.logged_passes fun _ => furnish path
    cases hcreate : E.create w.config.engine logFunctions with
    | error reason =>
      rw [hcreate] at made
      obtain ⟨journal, hrun⟩ := made.logged_refuses (settle path)
      exact ⟨journal, fun link => (hlaunch link).trans (hrun link)⟩
    | ok context =>
      rw [hcreate] at made
      obtain ⟨context, -, hrun⟩ := made.logged_passes (settle path)
      exact ⟨some context, _, fun link => (hlaunch link).trans (hrun link)⟩

theorem start_apply (path : String) (w : World E K) :
    match checkAt w (start path) with
    | .error failure => ∃ journal, ∀ link, (Session.start path).run link w =
        Session.refusal failure (.error failure) link { w with journal }
    | .ok () => ∃ scratch journal, ∀ link, (Session.start path).run link w =
        .done (.ok ()) { w with life := some { path, scratch }, journal } := by
  have enters := start_enters path w
  have launches := launch_apply path w
  have checked : checkAt w (start path) = (do
    insist .filePath path
    insistStopped w.life.isSome
    insistUsable E w.config.engine) := rfl
  rw [checked]
  unfold insist at enters ⊢
  cases hpath : Limit.filePath.check path with
  | error cause =>
    rw [hpath] at enters
    obtain ⟨-, journal, hrun⟩ := enters
    exact ⟨journal, hrun⟩
  | ok u =>
    rw [hpath] at enters
    cases hstarted : w.life.isSome with
    | true =>
      rw [hstarted] at enters
      obtain ⟨-, journal, hrun⟩ := enters
      exact ⟨journal, hrun⟩
    | false =>
      rw [hstarted] at enters
      obtain ⟨_, rfl, hlaunch⟩ := enters
      simp only [hlaunch]
      exact launches

theorem stop_apply (link : Link E K) (w : World E K) :
    Session.stop.run link w =
      if w.life.isSome then .done (.ok ()) (Act.logged .info "brain" "brain runtime deinitialized"
        { w with brains := #[], registry := [], life := none })
      else .done (.error .notInitialized)
        (Act.logged .warn "brain" "deinitialize called before initialize. Doing nothing." w) := by
  unfold Session.stop
  rw [Attempt.get_bind_apply]
  split
  · next hlife => rw [if_pos (by rw [hlife]; rfl)]; rfl
  · next hlife => rw [if_neg (by rw [hlife]; simp)]; rfl

theorem runUpdate_apply (id agent state : String) (buffer : ByteArray) (w : World E K) :
    match checkAt w (updateAgent id agent state buffer) with
    | .error failure => failure.isReset = false ∧ ∃ journal, ∀ link,
        Session.runUpdate id agent state buffer link w = .done (.error failure, buffer) { w with journal }
    | .ok () => ∃ number, w.registry.lookup id = some number ∧ ∀ link,
        Session.runUpdate id agent state buffer link w = Brain.runUpdate number state buffer link w := by
  have enters := updateAgent_enters w id agent state buffer
  cases hcheck : checkAt w (updateAgent id agent state buffer) with
  | error failure =>
    rw [hcheck] at enters
    obtain ⟨hreset, journal, hfind⟩ := enters
    refine ⟨hreset, journal, fun link => ?_⟩
    rw [Session.runUpdate, Act.bind_apply, hfind, Outcome.bind_done]
    rfl
  | ok u =>
    rw [hcheck] at enters
    obtain ⟨_, ⟨number, hnumber, rfl⟩, hfind⟩ := enters
    refine ⟨number, hnumber, fun link => ?_⟩
    rw [Session.runUpdate, Act.bind_apply, hfind]
    rfl

theorem updateAgent_refused {id agent state : String} {buffer : ByteArray} {w : World E K}
    {failure : Failure} (h : checkAt w (updateAgent id agent state buffer) = .error failure) :
    ∃ journal, ∀ deliver link, Session.updateAgent id agent state buffer deliver link w =
      Session.refusal failure (.error failure, buffer) link { w with journal } := by
  have runs := runUpdate_apply id agent state buffer w
  rw [h] at runs
  obtain ⟨hreset, journal, hrun⟩ := runs
  obtain ⟨journal', hreport⟩ := Session.report_apply hreset { w with journal }
  refine ⟨journal', fun deliver link => ?_⟩
  rw [Session.updateAgent_apply, hrun, Outcome.bind_done]
  dsimp only
  rw [hreport]
  rfl

theorem refused (op : Operation) (w : World E K) {failure : Failure}
    (h : checkAt w op = .error failure) :
    ∃ journal, ∀ link,
      op.act link w = Session.refusal failure (op.refuse failure) link { w with journal } := by
  cases op with
  | start path =>
    have started := start_apply path w
    rw [h] at started
    exact started
  | stop =>
    have stopped : insistStarted w.life.isSome = .error failure := h
    unfold insistStarted at stopped
    split at stopped
    · cases stopped
    · next hlife =>
      cases stopped
      exact ⟨_, fun link => (stop_apply link w).trans (if_neg hlife)⟩
  | resetBrain id source => exact Attempt.Enters.refused (h ▸ resetBrain_enters w id source)
  | setModule id moduleId source => exact Attempt.Enters.refused (h ▸ setModule_enters w id moduleId source)
  | updateAgent id agent state buffer =>
    obtain ⟨journal, hrun⟩ := updateAgent_refused h
    exact ⟨journal, hrun deliver⟩
  | namespaceJson id moduleId => exact Attempt.Enters.refused (h ▸ namespaceJson_enters w id moduleId)
  | evaluate source => exact Attempt.Enters.refused (h ▸ evaluate_enters w source)
  | evaluateToInteger source =>
    obtain ⟨journal, hrun⟩ := Attempt.Enters.refused (h ▸ evaluateToInteger_enters w source)
    refine ⟨journal, fun link => ?_⟩
    change Session.evaluateToInteger source link w = _
    unfold Session.evaluateToInteger
    rw [Act.bind_apply, hrun, Session.refusal, Outcome.bind_assoc]
    cases failure <;> rfl

end Operation

end BrainHost
