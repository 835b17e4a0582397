import BrainHost.Proofs.Act.Keeps
import BrainHost.Proofs.Act.Make
import BrainHost.Proofs.Act.Outward
import BrainHost.Proofs.Act.Plain

/-! # Conducts that every operation keeps

A shared conduct allows what operations do while they leave the set of brains alone: to log, to call
host functions, to run scripts and to set modules. A free conduct allows the rest as well: to make and
drop brains, to start and to stop. It is kept by whatever the runtime does, for scripts that run on
any engine. The layers below the operations call no host functions but by way of scripts, so they keep
conducts as well that allow less. -/

namespace BrainHost

variable {E : Engine} {K : HostKind} {α : Type} {D : Conduct E K}

/-- A conduct that leaves operations free to log. -/
structure Conduct.Logging (D : Conduct E K) : Prop where
  logged : ∀ w row, D.rel w { w with journal := w.journal.push (.logged row) }

/-- A conduct that leaves operations free to log and to call host functions, those for services
apart. -/
structure Conduct.Loud (D : Conduct E K) : Prop extends D.Logging where
  invoke : ∀ callback, (∀ service args reporter, callback ≠ .callService service args reporter) →
    Act.Keeps D (Act.invoke callback : Act E K Reply)

/-- A conduct that scripts keep in some surroundings, whatever they ask for. -/
structure Conduct.Scripting (D : Conduct E K) (s : Surroundings E) : Prop extends D.Logging where
  carryOut : ∀ {α : Type} {run : E.Context → Run E.Context E.Value (E.Context × α)}, E.Operates True run → ∀ c,
    Act.Keeps D (Act.carryOut s (run c))

/-- A conduct that scripts keep which call services by a bridge, if they have one. -/
structure Conduct.Serving (D : Conduct E K) (bridge? : Option Nat) : Prop extends D.Loud where
  callService : ∀ bridge ∈ bridge?, ∀ service args,
    Act.Keeps D (Act.callService bridge service args : Act E K _)

/-- What may happen to a context is all that the operations of brains do to one. -/
structure Conduct.Works (D : Conduct E K) : Prop where
  update : ∀ (b : Brain E) state buffer,
    Inside.Onward D.onward (b.updateInside state buffer : Inside E K _)
  runModule : ∀ (b : Brain E) id source,
    Inside.Onward D.onward (b.runModule id source : Inside E K _)
  namespaceInside : ∀ (b : Brain E) id, Inside.Onward D.onward (b.namespaceInside id : Inside E K _)

/-- A conduct by which scratch scripts have their context. -/
structure Conduct.Scratching (D : Conduct E K) : Prop extends D.Logging where
  scratched : ∀ w scratch,
    D.rel w { w with life := w.life.map fun life => { life with scratch } }

/-- A conduct by which a brain lends its context to an operation and gets it back, and so do scratch
scripts. -/
structure Conduct.Lends (D : Conduct E K) : Prop extends D.Scratching where
  rested : ∀ {w number b c v c'}, w.brains[number]? = some b → b.context = some c →
    D.rel (busy number w) v → D.onward c c' → D.rel w (rested number c' v)
  works : D.Works

/-- A conduct that the layers below the runtime's operations keep as they run scripts of brains that are
there. -/
structure Conduct.Visiting (D : Conduct E K) : Prop extends D.Lends where
  scripting : ∀ s, D.Scripting s

/-- A conduct that those layers keep as they set modules as well. -/
structure Conduct.Tending (D : Conduct E K) : Prop extends D.Visiting where
  stored : ∀ w number id m,
    D.rel w { w with brains := w.brains.modify number fun b => b.store id m }

/-- A conduct that those layers keep as they make brains. -/
structure Conduct.Making (D : Conduct E K) : Prop extends D.Tending where
  replaced : ∀ w id b, b.Made K → D.rel w (Registry.insert id b (Registry.remove id w))
  bridged : ∀ w, D.rel w { w with results := w.results.push none }

/-- A conduct by which contexts are lent, and which leaves operations free to log and to call host
functions. -/
structure Conduct.Lending (D : Conduct E K) : Prop extends D.Loud, D.Lends

/-- A conduct that operations keep which leave the set of brains and their modules alone. -/
structure Conduct.Calling (D : Conduct E K) : Prop extends D.Lending where
  callService : ∀ bridge service args, Act.Keeps D (Act.callService bridge service args : Act E K _)

/-- A conduct that operations keep which leave the set of brains alone. -/
structure Conduct.Shared (D : Conduct E K) : Prop extends D.Calling where
  stored : ∀ w number id m,
    D.rel w { w with brains := w.brains.modify number fun b => b.store id m }

/-- A conduct that leaves operations free in all but service calls, which keep it as well. -/
structure Conduct.Free (D : Conduct E K) : Prop extends D.Shared where
  replaced : ∀ w id b, b.Made K → D.rel w (Registry.insert id b (Registry.remove id w))
  cleared : ∀ w, D.rel w { w with brains := #[], registry := [] }
  life : ∀ w life, D.rel w { w with life }
  bridged : ∀ w, D.rel w { w with results := w.results.push none }
  scratched := fun w _ => life w _

namespace Conduct

theorem Works.of_true (h : ∀ c c', D.onward c c') : D.Works where
  update _ _ _ := .of_true h _
  runModule _ _ _ := .of_true h _
  namespaceInside _ _ := .of_true h _

theorem rested_of_entered
    (h : ∀ w number context,
      D.rel w { w with brains := w.brains.modify number fun b => { b with context } })
    {w v : World E K} {number : Nat} {c : E.Context} (hrel : D.rel (busy number w) v) :
    D.rel w (rested number c v) :=
  D.trans (h w number none) (D.trans hrel (h v number (some c)))

theorem Free.of_table (hloud : D.Loud)
    (hservice : ∀ bridge service args, Act.Keeps D (Act.callService bridge service args : Act E K _))
    (htable : ∀ w brains registry life, D.rel w { w with brains, registry, life })
    (hbridged : ∀ w, D.rel w { w with results := w.results.push none })
    (honward : ∀ c c', D.onward c c') : D.Free where
  toLoud := hloud
  callService := hservice
  rested _ _ hv _ := rested_of_entered (fun w _ _ => htable w _ w.registry w.life) hv
  works := .of_true honward
  stored w _ _ _ := htable w _ w.registry w.life
  replaced w _ _ _ := htable w _ _ w.life
  cleared w := htable w #[] [] w.life
  life w _ := htable w w.brains w.registry _
  bridged := hbridged

end Conduct

/-! ## Logging -/

namespace Conduct.Logging

variable (h : D.Logging)
include h

theorem record (severity : Severity) (target message : String) :
    Act.Keeps D (Act.record severity target message : Act E K Unit) :=
  Act.Keeps.modify fun w => h.logged w _

theorem warnOf (check : Except Rejection Unit) : Act.Keeps D (Act.warnOf check : Act E K _) := by
  cases check with
  | ok u => exact Act.Keeps.pure _
  | error cause => exact (h.record _ _ _).bind fun _ => Act.Keeps.pure _

theorem checkText (limit : Limit) (text : String) :
    Act.Keeps D (Act.checkText limit text : Act E K _) :=
  h.warnOf _

theorem checkLength (limit : Limit) (length : Nat) :
    Act.Keeps D (Act.checkLength limit length : Act E K _) :=
  h.warnOf _

theorem attemptRecord (severity : Severity) (message : String) :
    Attempt.Keeps D (Attempt.record severity message : Attempt E K Unit) :=
  Attempt.Keeps.lift (h.record _ _ _)

theorem insistText (limit : Limit) (text : String) :
    Attempt.Keeps D (Attempt.insistText limit text : Attempt E K Unit) :=
  Attempt.Keeps.orReject (h.checkText limit text)

theorem insistLength (limit : Limit) (length : Nat) :
    Attempt.Keeps D (Attempt.insistLength limit length : Attempt E K Unit) :=
  Attempt.Keeps.orReject (h.checkLength limit length)

end Conduct.Logging

namespace Conduct.Loud

variable (h : D.Loud)
include h

theorem outward {m : Act E K α} (hm : m.Outward) : Act.Keeps D m := by
  induction hm with
  | pure a => exact Act.Keeps.pure a
  | bind hm hf ihm ihf => exact ihm.bind ihf
  | record severity target message => exact h.record _ _ _
  | isSet hook => exact Act.Keeps.isSet hook
  | invoke hc _ => exact h.invoke _ hc

theorem logError (message : String) : Act.Keeps D (Act.logError message : Act E K Unit) :=
  h.outward (.logError message)

theorem servingNone : D.Serving none where
  toLoud := h
  callService _ hbridge := nomatch hbridge

end Conduct.Loud

namespace Conduct.Serving

/-! ## Scripts -/

theorem serveScript {bridge? : Option Nat} (h : D.Serving bridge?) {bridge : Nat}
    (hbridge : bridge ∈ bridge?) (service args : String) :
    Act.Keeps D (Act.serveScript bridge service args : Act E K (Option String)) := by
  unfold Act.serveScript
  refine (h.callService bridge hbridge service args).bind fun r => ?_
  split
  · exact Act.Keeps.pure _
  · exact (h.logError _).bind fun _ => Act.Keeps.pure _
  · exact Act.Keeps.pure _
  · exact (h.logError _).bind fun _ => Act.Keeps.pure _

variable {s : Surroundings E} (h : D.Serving s.bridge)
include h

theorem serve (request : Request) :
    Act.Keeps D (Act.serve s request : Act E K _) := by
  by_cases hservice : ∃ name args, request = .service name args
  · obtain ⟨name, args, rfl⟩ := hservice
    unfold Act.serve
    dsimp only
    split
    · next bridge hbridge =>
      refine (h.serveScript hbridge name args).bind fun r => ?_
      cases r <;> exact Act.Keeps.pure _
    · exact Act.Keeps.pure _
  · exact h.outward (.serve fun name args heq => hservice ⟨name, args, heq⟩)

theorem carryOut (run : Run E.Context E.Value α) :
    Act.Keeps D (Act.carryOut s run : Act E K α) := by
  induction run with
  | done a => exact Act.Keeps.pure a
  | ask request meanwhile resume ih => exact (h.serve request).bind ih
  | stuck => exact Act.Keeps.stuck

theorem scripting : D.Scripting s where
  toLogging := h.toLogging
  carryOut _ _ := h.carryOut _

end Conduct.Serving

namespace Conduct.Scripting

theorem plain {s : Surroundings E} (h : D.Scripting s) {m : Inside E K α}
    (hm : Inside.Plain s True m) : Inside.Keeps D m := by
  induction hm with
  | pure a => exact Inside.Keeps.pure a
  | throw hinner => exact Inside.Keeps.throw _
  | bind hm hf ihm ihf => exact ihm.bind ihf
  | perform hop => exact Inside.Keeps.perform (h.carryOut hop)
  | inspect f => exact Inside.Keeps.inspect f
  | parse text => exact Inside.Keeps.change _
  | stuck => exact Inside.Keeps.stuck

theorem updateInside {b : Brain E} (h : D.Scripting b.surroundings) (state : String)
    (buffer : ByteArray) :
    Inside.Keeps D (b.updateInside state buffer : Inside E K _) := by
  refine (Inside.Keeps.lift (h.checkLength _ _)).bind fun r => ?_
  split
  · exact Inside.Keeps.pure _
  · exact (Inside.Keeps.change _).bind fun view => (h.plain (.updateWith b state view)).closing _

end Conduct.Scripting

theorem Conduct.Serving.plain {s : Surroundings E} (h : D.Serving s.bridge) {m : Inside E K α}
    (hm : Inside.Plain s True m) : Inside.Keeps D m := h.scripting.plain hm

/-! ## Below the runtime's operations -/

namespace Conduct.Scratching

variable (h : D.Scratching)
include h

theorem lend {m : Inside E K α} (hm : Inside.Keeps D m) (c : E.Context) :
    Attempt.Keeps D (Attempt.lend c m fun context => Scratch.setContext (some context)) := fun link hl w =>
  (Inside.run_ends c |>.mp (hm c link hl w)).settle fun scene kept => D.trans kept (h.scratched scene.2 _)

variable (hs : D.Scripting {})
include hs

theorem scratchRun (source : String) (life : Life E) :
    Attempt.Keeps D (Scratch.run source life : Attempt E K Unit) := by
  refine (h.insistText _ _).bind fun _ => ?_
  split
  · exact Attempt.Keeps.fault
  · exact (Attempt.Keeps.modify fun w => h.scratched w _).bind fun _ =>
      (h.lend (hs.plain (.scratchEvaluate _)) _).bind fun _ => Attempt.Keeps.pure _

theorem integer (source : String) (config : EngineConfig) :
    Attempt.Keeps D (Scratch.integer source config : Attempt E K Int) :=
  (h.insistText _ _).bind fun _ => (Attempt.Keeps.scratchMake config).bind fun _ =>
    (Attempt.Keeps.inside (hs.plain (.integerOf _)) _).bind fun _ =>
      Attempt.Keeps.finish _

end Conduct.Scratching

namespace Conduct.Lends

variable (h : D.Lends)
include h

theorem enter {link : Link E K} (hl : D.admits link) {w : World E K}
    {number : Nat} {m : Brain E → Inside E K α}
    (hm : ∀ b, w.brains[number]? = some b → Inside.Keeps D (m b))
    (hon : ∀ b, Inside.Onward D.onward (m b)) :
    ((Brain.enter number m).run link w).Ends (D.rel w) := by
  rw [Brain.enter_apply]
  cases hfound : w.brains[number]?.bind fun b => b.context.map (b, ·) with
  | none => exact D.refl w
  | some p =>
    obtain ⟨b, c⟩ := p
    obtain ⟨b', hb, hpair⟩ := Option.bind_eq_some_iff.mp hfound
    obtain ⟨c', hc, heq⟩ := Option.map_eq_some_iff.mp hpair
    cases heq
    have ran := (Inside.run_ends c).mp (hm b hb c link hl (busy number w))
    exact (ran.and (hon b c link (busy number w))).settle fun scene kept => h.rested hb hc kept.1 kept.2

end Conduct.Lends

namespace Conduct.Visiting

variable (h : D.Visiting)
include h

theorem enter (number : Nat) {m : Brain E → Inside E K α} (hm : ∀ b, Inside.Keeps D (m b))
    (hon : ∀ b, Inside.Onward D.onward (m b)) : Attempt.Keeps D (Brain.enter number m) :=
  fun _ hl _ => h.toLends.enter hl (fun b _ => hm b) hon

theorem runUpdate (number : Nat) (state : String) (buffer : ByteArray) :
    Act.Keeps D (Brain.runUpdate number state buffer : Act E K _) := by
  refine Act.Keeps.bind (h.enter number (fun b => (h.scripting _).updateInside state buffer)
    fun b => h.works.update b state buffer) fun r => ?_
  cases r <;> exact Act.Keeps.pure _

theorem runModule (number : Nat) (id source : String) :
    Attempt.Keeps D (Brain.enter number fun b => b.runModule id source : Attempt E K E.Value) :=
  h.enter number (fun b => (h.scripting _).plain (.runModule b id source)) fun b => h.works.runModule b id source

theorem namespaceJson (number : Nat) (id : String) :
    Attempt.Keeps D (Brain.namespaceJson number id : Attempt E K (Option String)) :=
  h.enter number (fun b => (h.scripting _).plain (.namespaceInside b id))
    fun b => h.works.namespaceInside b id

theorem findForUpdate (id agent state : String) (buffer : ByteArray) :
    Attempt.Keeps D (Session.findForUpdate id agent state buffer : Attempt E K Nat) :=
  (h.insistText _ _).bind fun _ => (h.insistText _ _).bind fun _ => (h.insistText _ _).bind fun _ =>
    (h.insistLength _ _).bind fun _ => Attempt.Keeps.life.bind fun _ => Attempt.Keeps.find _

theorem sessionRunUpdate (id agent state : String) (buffer : ByteArray) :
    Act.Keeps D (Session.runUpdate id agent state buffer : Act E K _) := by
  refine Act.Keeps.bind (h.findForUpdate id agent state buffer) fun r => ?_
  cases r with
  | ok number => exact h.runUpdate _ _ _
  | error failure => exact Act.Keeps.pure _

end Conduct.Visiting

namespace Conduct.Tending

variable (h : D.Tending)
include h

theorem setModule (number : Nat) (id source : String) :
    Attempt.Keeps D (Brain.setModule number id source : Attempt E K Unit) :=
  (h.insistText _ _).bind fun _ => (h.insistText _ _).bind fun _ => (h.runModule number id source).bind fun _ =>
    Attempt.Keeps.modify fun w => h.stored w number id _

theorem registrySetModule (id moduleId source : String) :
    Attempt.Keeps D (Registry.setModule id moduleId source : Attempt E K Unit) :=
  (h.insistText _ _).bind fun _ => (Attempt.Keeps.find id).bind fun _ => h.setModule _ _ _

end Conduct.Tending

namespace Conduct.Making

variable (h : D.Making)
include h

theorem newBridge : Act.Keeps D (Act.newBridge : Act E K Nat) :=
  Act.Keeps.get.bind fun _ => (Act.Keeps.modify h.bridged).bind fun _ => Act.Keeps.pure _

theorem make (source : String) (config : EngineConfig) :
    Attempt.Keeps D (Brain.make source config : Attempt E K (Brain E)) := by
  unfold Brain.make
  split
  · exact Attempt.Keeps.throw _
  · refine (Attempt.Keeps.lift h.newBridge).bind fun bridge => ?_
    refine (Attempt.Keeps.inside ((h.scripting { bridge }).plain (.entryPoints source)) _).bind fun p => ?_
    exact (Attempt.Keeps.finish _).bind fun _ => Attempt.Keeps.pure _

theorem registryReset (id source : String) (config : EngineConfig) :
    Attempt.Keeps D (Registry.reset id source config : Attempt E K Unit) := by
  refine (h.insistText _ _).bind fun _ => (h.insistText _ _).bind fun _ => ?_
  refine Attempt.Keeps.attempt_bind (h.make source config) fun r hr => ?_
  cases r with
  | error cause => exact Attempt.Keeps.throw _
  | ok b =>
    obtain ⟨link, w, v, hmake⟩ := hr
    have made : b.Made K := ⟨source, config, link, w, v, hmake⟩
    exact (Attempt.Keeps.modify fun w => h.replaced w id b made).bind fun _ =>
      h.attemptRecord _ _

end Conduct.Making

/-! ## The runtime's operations -/

theorem Conduct.Calling.serving (h : D.Calling) (bridge? : Option Nat) : D.Serving bridge? where
  toLoud := h.toLoud
  callService bridge _ := h.callService bridge

theorem Conduct.Calling.visiting (h : D.Calling) : D.Visiting where
  toLends := h.toLends
  scripting s := (h.serving s.bridge).scripting

theorem Conduct.Shared.tending (h : D.Shared) : D.Tending where
  toVisiting := h.visiting
  stored := h.stored

theorem Conduct.Free.making (h : D.Free) : D.Making where
  toTending := h.tending
  replaced := h.replaced
  bridged := h.bridged

namespace Conduct.Loud

variable (h : D.Loud)
include h

theorem report (failure : Failure) : Act.Keeps D (Session.report failure : Act E K Unit) := by
  induction failure with
  | rejected cause => exact Act.Keeps.pure _
  | resetFailed listing cause ih => exact ih.bind fun _ => h.logError _
  | alreadyInitialized => exact h.record _ _ _
  | notInitialized => exact h.record _ _ _
  | _ => exact h.logError _

theorem reported {m : Attempt E K α} (hm : Attempt.Keeps D m) :
    Attempt.Keeps D (Session.logged m) := by
  refine Act.Keeps.bind hm fun r => ?_
  cases r with
  | ok a => exact Act.Keeps.pure _
  | error failure => exact (h.report failure).bind fun _ => Act.Keeps.pure _

end Conduct.Loud

namespace Conduct.Lending

variable (h : D.Lending)
include h

theorem sessionEvaluate (source : String) :
    Attempt.Keeps D (Session.evaluate source : Attempt E K Unit) :=
  h.reported (Attempt.Keeps.life.bind fun life => h.scratchRun h.servingNone.scripting source life)

theorem evaluateToInteger (source : String) :
    Act.Keeps D (Session.evaluateToInteger source : Act E K Int) := by
  refine Act.Keeps.bind
    (h.reported (Attempt.Keeps.engineConfig.bind fun config =>
      h.integer h.servingNone.scripting source config))
    fun r => ?_
  split <;> exact Act.Keeps.pure _

end Conduct.Lending

namespace Conduct.Calling

variable (h : D.Calling)
include h

theorem updateAgent (id agent state : String) (buffer : ByteArray) {deliver : String → Act E K Unit}
    (hd : ∀ json, Act.Keeps D (deliver json)) :
    Act.Keeps D (Session.updateAgent id agent state buffer deliver) := by
  refine (h.visiting.sessionRunUpdate id agent state buffer).bind fun p => ?_
  obtain ⟨r, bytes⟩ := p
  cases r with
  | ok json => exact (hd json).bind fun _ => Act.Keeps.pure _
  | error failure => exact (h.report failure).bind fun _ => Act.Keeps.pure _

theorem sessionNamespaceJson (id moduleId : String) :
    Attempt.Keeps D (Session.namespaceJson id moduleId : Attempt E K (Option String)) :=
  h.reported (Attempt.Keeps.life.bind fun _ => (Attempt.Keeps.find _).bind fun _ =>
    h.visiting.namespaceJson _ _)

end Conduct.Calling

theorem Conduct.Shared.sessionSetModule (h : D.Shared) (id moduleId source : String) :
    Attempt.Keeps D (Session.setModule id moduleId source : Attempt E K Unit) :=
  h.reported (Attempt.Keeps.life.bind fun _ => h.tending.registrySetModule _ _ _)

namespace Conduct.Free

variable (h : D.Free)
include h

theorem clear : Act.Keeps D (Registry.clear : Act E K Unit) :=
  Act.Keeps.modify h.cleared

theorem start (path : String) : Attempt.Keeps D (Session.start path : Attempt E K Unit) := by
  refine (h.insistText _ _).bind fun _ => Attempt.Keeps.get.bind fun w => ?_
  dsimp only
  split
  · exact (h.attemptRecord _ _).bind fun _ => Attempt.Keeps.throw_bind _ _
  · refine (h.reported Attempt.Keeps.validateConfig).bind fun _ => ?_
    refine (h.reported (Attempt.Keeps.engineConfig.bind Attempt.Keeps.scratchMake)).bind fun context => ?_
    exact (Attempt.Keeps.modify fun w => h.life w _).bind fun _ => h.attemptRecord _ _

theorem stop : Attempt.Keeps D (Session.stop : Attempt E K Unit) := by
  refine Attempt.Keeps.get.bind fun w => ?_
  split
  · exact (Attempt.Keeps.lift h.clear).bind fun _ =>
      (Attempt.Keeps.modify fun w => h.life w none).bind fun _ => h.attemptRecord _ _
  · exact (h.attemptRecord _ _).bind fun _ => Attempt.Keeps.throw _

theorem resetBrain (id source : String) :
    Attempt.Keeps D (Session.resetBrain id source : Attempt E K Unit) :=
  h.reported (Attempt.Keeps.life.bind fun _ => Attempt.Keeps.engineConfig.bind fun _ =>
    h.making.registryReset _ _ _)

end Conduct.Free

end BrainHost
