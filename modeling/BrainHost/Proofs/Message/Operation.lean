import BrainHost.Proofs.Message.Failure
import BrainHost.Proofs.Message.Request
import BrainHost.Proofs.Service.Play

/-! # Messages of operations

An operation calls host functions for what its scripts ask, for its result, and for the texts of its
failure, which were measured. -/

namespace BrainHost

variable {E : Engine} {K : HostKind} {α : Type} {allowed : Callback → Prop}

namespace Blunt

variable (h : Blunt allowed)
include h

/-! ## Scripts -/

theorem plain {s : Surroundings E} {m : Inside E K α} (hm : Inside.Plain s True m) :
    Inside.Calls allowed m := .plain hm (h.serve s)

theorem updateInside (b : Brain E) (state : String) (buffer : ByteArray) :
    Inside.Calls allowed (b.updateInside state buffer : Inside E K _) := by
  refine (Inside.Calls.lift (.warnOf _)).bind fun r => ?_
  cases r with
  | error cause => exact .pure _
  | ok u =>
    exact (Inside.Calls.change _).bind fun view => (h.plain (.updateWith b state view)).closing _

theorem runUpdate (number : Nat) (state : String) (buffer : ByteArray) :
    Act.Calls allowed (Brain.runUpdate number state buffer : Act E K _) := by
  refine Act.Calls.bind (Attempt.Calls.enter fun b => h.updateInside b state buffer) fun r => ?_
  cases r <;> exact .pure _

theorem make (source : String) (config : EngineConfig) :
    Attempt.Calls allowed (Brain.make source config : Attempt E K (Brain E)) := by
  unfold Brain.make
  split
  · exact .throw _
  · refine (Attempt.Calls.lift (Act.Calls.get.bind fun _ => (Act.Calls.modify _).bind fun _ => .pure _)).bind
      fun bridge => ?_
    exact (Attempt.Calls.inside (h.plain (.entryPoints source)) _).bind fun p =>
      (Attempt.Calls.finish _).bind fun _ => .pure _

theorem reset (id source : String) (config : EngineConfig) :
    Attempt.Calls allowed (Registry.reset id source config : Attempt E K Unit) := by
  refine (Attempt.Calls.orReject _).bind fun _ => (Attempt.Calls.orReject _).bind fun _ =>
    (h.make source config).attempt.bind fun r => ?_
  cases r with
  | error cause => exact .throw _
  | ok b => exact (Attempt.Calls.modify _).bind fun _ => .record _ _

theorem setModule (number : Nat) (id source : String) :
    Attempt.Calls allowed (Brain.setModule number id source : Attempt E K Unit) :=
  (Attempt.Calls.orReject _).bind fun _ => (Attempt.Calls.orReject _).bind fun _ =>
    (Attempt.Calls.enter fun b => h.plain (.runModule b id source)).bind fun _ => .modify _

theorem namespaceJson (number : Nat) (id : String) :
    Attempt.Calls allowed (Brain.namespaceJson number id : Attempt E K (Option String)) :=
  .enter fun b => h.plain (.namespaceInside b id)

theorem scratchRun (source : String) (life : Life E) :
    Attempt.Calls allowed (Scratch.run source life : Attempt E K Unit) := by
  refine (Attempt.Calls.orReject _).bind fun _ => ?_
  split
  · exact .fault
  · exact (Attempt.Calls.modify _).bind fun _ =>
      (Attempt.Calls.lend (h.plain (.scratchEvaluate source)) _ _).bind fun _ => .pure _

theorem integer (source : String) (config : EngineConfig) :
    Attempt.Calls allowed (Scratch.integer source config : Attempt E K Int) := by
  have makes : Attempt.Calls allowed (Scratch.make config : Attempt E K E.Context) := by
    unfold Scratch.make
    split
    · exact .pure _
    · exact .throw _
  exact (Attempt.Calls.orReject _).bind fun _ => makes.bind fun context =>
    (Attempt.Calls.inside (h.plain (.integerOf source)) _).bind fun p => .finish _

/-! ## Reports of failures -/

theorem failure {failure : Failure} (hmeasured : failure.Measured) :
    Act.Calls allowed (Session.report failure : Act E K Unit) := by
  induction failure with
  | rejected cause => exact .pure _
  | alreadyInitialized => exact .modify _
  | notInitialized => exact .modify _
  | resetFailed listing cause ih => exact (ih hmeasured).bind fun _ => h.measured hmeasured
  | _ => exact h.measured hmeasured

theorem logged {m : Attempt E K α} (hm : Attempt.Calls allowed m) (hfails : m.Fails Failure.Measured) :
    Attempt.Calls allowed (Session.logged m) := by
  refine Act.Calls.bind_of hm fun r hr => ?_
  cases r with
  | ok a => exact .pure _
  | error failure =>
    obtain ⟨link, w, v, hrun⟩ := hr
    exact (h.failure (hfails link w failure v hrun)).bind fun _ => .pure _

/-! ## Operations -/

theorem start (path : String) : Attempt.Calls allowed (Session.start path : Attempt E K Unit) := by
  have validates : Attempt.Calls allowed (Session.validateConfig : Attempt E K Unit) := by
    refine Attempt.Calls.engineConfig.bind fun config => ?_
    split
    · exact .pure _
    · exact .throw _
  have makes : Attempt.Calls allowed (do Scratch.make (← Session.engineConfig) : Attempt E K E.Context) := by
    refine Attempt.Calls.engineConfig.bind fun config => ?_
    unfold Scratch.make
    split
    · exact .pure _
    · exact .throw _
  refine (Attempt.Calls.orReject _).bind fun _ => Attempt.Calls.get.bind fun w => ?_
  dsimp only
  split
  · exact (Attempt.Calls.record _ _).bind fun _ => .throw_bind _ _
  · refine (h.logged validates .validateConfig).bind fun _ => ?_
    refine (h.logged makes (Attempt.Fails.engineConfig.bind .scratchMake)).bind fun context => ?_
    exact (Attempt.Calls.modify _).bind fun _ => .record _ _

omit h in
theorem stop : Attempt.Calls allowed (Session.stop : Attempt E K Unit) := by
  refine Attempt.Calls.get.bind fun w => ?_
  split
  · exact (Attempt.Calls.lift (.modify _)).bind fun _ => (Attempt.Calls.modify _).bind fun _ => .record _ _
  · exact (Attempt.Calls.record _ _).bind fun _ => .throw _

theorem resetBrain (id source : String) :
    Attempt.Calls allowed (Session.resetBrain id source : Attempt E K Unit) :=
  h.logged (Attempt.Calls.life.bind fun _ => Attempt.Calls.engineConfig.bind fun config =>
      h.reset id source config)
    (Attempt.Fails.life.bind fun _ => Attempt.Fails.engineConfig.bind fun config =>
      .reset id source config)

theorem sessionSetModule (id moduleId source : String) :
    Attempt.Calls allowed (Session.setModule id moduleId source : Attempt E K Unit) :=
  h.logged (Attempt.Calls.life.bind fun _ => (Attempt.Calls.orReject _).bind fun _ =>
      (Attempt.Calls.find id).bind fun number => h.setModule number moduleId source)
    (Attempt.Fails.life.bind fun _ => (Attempt.Fails.orReject _).bind fun _ =>
      (Attempt.Fails.find id).bind fun number => .setModule number moduleId source)

theorem sessionNamespaceJson (id moduleId : String) :
    Attempt.Calls allowed (Session.namespaceJson id moduleId : Attempt E K (Option String)) :=
  h.logged (Attempt.Calls.life.bind fun _ => (Attempt.Calls.find id).bind fun number =>
      h.namespaceJson number moduleId)
    (Attempt.Fails.life.bind fun _ => (Attempt.Fails.find id).bind fun number =>
      .namespaceJson number moduleId)

theorem evaluate (source : String) :
    Attempt.Calls allowed (Session.evaluate source : Attempt E K Unit) :=
  h.logged (Attempt.Calls.life.bind fun life => h.scratchRun source life)
    (Attempt.Fails.life.bind fun life => .scratchRun source life)

theorem evaluateToInteger (source : String) :
    Act.Calls allowed (Session.evaluateToInteger source : Act E K Int) := by
  refine Act.Calls.bind (h.logged (Attempt.Calls.engineConfig.bind fun config => h.integer source config)
    (Attempt.Fails.engineConfig.bind fun config => .integer source config)) fun r => ?_
  split <;> exact .pure _

omit h in
theorem findForUpdate (id agent state : String) (buffer : ByteArray) :
    Attempt.Calls allowed (Session.findForUpdate id agent state buffer : Attempt E K Nat) :=
  (Attempt.Calls.orReject _).bind fun _ => (Attempt.Calls.orReject _).bind fun _ =>
    (Attempt.Calls.orReject _).bind fun _ => (Attempt.Calls.orReject _).bind fun _ =>
      Attempt.Calls.life.bind fun _ => .find id

theorem sessionRunUpdate (id agent state : String) (buffer : ByteArray) :
    Act.Calls allowed (Session.runUpdate id agent state buffer : Act E K _) := by
  refine Act.Calls.bind (findForUpdate id agent state buffer) fun r => ?_
  cases r with
  | ok number => exact h.runUpdate number state buffer
  | error failure => exact .pure _

theorem updateAgent (id agent state : String) (buffer : ByteArray) {deliver : String → Act E K Unit}
    (hdeliver : ∀ json, Act.Calls allowed (deliver json)) :
    Act.Calls allowed (Session.updateAgent id agent state buffer deliver) := by
  refine (h.sessionRunUpdate id agent state buffer).bind_of fun p hp => ?_
  obtain ⟨link, w, v, hrun⟩ := hp
  obtain ⟨r, bytes⟩ := p
  cases r with
  | ok json => exact (hdeliver json).bind fun _ => .pure _
  | error failure => exact (h.failure (Session.runUpdate_measured hrun)).bind fun _ => .pure _

end Blunt

end BrainHost
