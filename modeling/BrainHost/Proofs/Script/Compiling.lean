import BrainHost.Proofs.Message.Failure
import BrainHost.Proofs.Script.Fault
import BrainHost.Scratch

/-! # What fails to compile

Brains, scratch scripts and scratch numbers begin with a source that is run. In a context whose prototypes of
errors are as they were a source with a fault in it always fails to compile. A script fails to compile too
if it throws an error under the name of syntax errors, and any source with a NUL in it fails as its run does. -/

namespace BrainHost

variable {E : Engine} {K : HostKind} {α β : Type} {compiling running source : String}

/-- A failure blames a source exactly if the source has a fault or throws an error that says so. -/
structure Judges (s : Surroundings Script.engine) (compiling running source : String) (c : Script.Context)
    (link : Link Script.engine K) (w : World Script.engine K)
    (o : Outcome (World Script.engine K) (Except Failure α)) : Prop
    extends Blames s compiling running source c link w o where
  fault : ∀ fault, Diagnostic.ofNul? source = none → c.reading source = .error fault → c.realm.Frank →
    ∃ d v, o = .done (.error (.script (.compilation compiling d))) v ∧ d.message = "SyntaxError: " ++ fault.message

theorem Judges.evaluating {s : Surroundings Script.engine} {c : Script.engine.Context} {link : Link Script.engine K}
    {w : World Script.engine K} {rest : Script.engine.Value → Inside Script.engine K α}
    (neutral : ∀ value, Inside.Fails Failure.Neutral (rest value)) (give : Script.engine.Context → α → β)
    (settle : Script.engine.Context → World Script.engine K → World Script.engine K) :
    Judges s compiling running source c link w
      (((Inside.evaluate s compiling running source >>= rest).run c link w).bind fun p v =>
        .done (p.1.map (give p.2)) (settle p.2 v)) where
  toBlames := .evaluating neutral give settle
  fault fault text unread frank := by
    obtain ⟨d, c', evaluated, message, -⟩ := Inside.evaluate_fault compiling running frank text unread
    refine ⟨d, settle c' w, ?_, message⟩
    rw [Inside.bind_error (evaluated link w)]
    rfl

theorem Judges.of_done {s : Surroundings Script.engine} {c : Script.engine.Context} {link : Link Script.engine K}
    {w : World Script.engine K} {o o' : Outcome (World Script.engine K) (Except Failure α)}
    (h : Judges s compiling running source c link w o) (same : ∀ r v, o' = .done r v ↔ o = .done r v) :
    Judges s compiling running source c link w o' where
  nul d text := (h.nul d text).imp fun v => (same _ v).mpr
  compilation failure v text ended := h.compilation failure v text ((same _ v).mp ended)
  exception failure v text ended := h.exception failure v text ((same _ v).mp ended)
  fault fault text unread frank := by
    obtain ⟨d, v, ended, message⟩ := h.fault fault text unread frank
    exact ⟨d, v, (same _ v).mpr ended, message⟩

/-! ## The operations -/

/-- The state in which the scratch context is busy. -/
def resting (w : World E K) : World E K := { w with life := w.life.map fun life => { life with scratch := none } }

theorem Attempt.insistText_apply {limit : Limit} {text : String} (fits : limit.check text = .ok ())
    (link : Link E K) (w : World E K) :
    (Attempt.insistText limit text : Attempt E K Unit).run link w = .done (.ok ()) w := by
  have checked : (ExceptT.lift (Act.checkText limit text) : Attempt E K _).run link w = .done (.ok (.ok ())) w := by
    rw [Attempt.Fails.lift_apply, Act.checkText_apply, fits]
    rfl
  unfold Attempt.insistText Attempt.orReject
  rw [Attempt.run_bind, Act.bind_apply]
  exact (congrArg (Outcome.bind · _) checked).trans rfl

theorem Scratch.run_apply {life : Life E} {c : E.Context} (fits : Limit.scriptSource.check source = .ok ())
    (idle : life.scratch = some c) (link : Link E K) (w : World E K) :
    (Scratch.run source life : Attempt E K Unit).run link w =
      (((Scratch.evaluate {} source : Inside E K E.Value) c link (resting w)).settle fun scene =>
        Scratch.setContext (some scene.1) scene.2).bind fun r v => .done (r.map fun _ => ()) v := by
  unfold Scratch.run
  rw [Attempt.run_bind, Act.bind_apply, Attempt.insistText_apply fits, Outcome.bind_done, idle]
  have busy : (Attempt.modify (Scratch.setContext none) : Attempt E K Unit).run link w =
      .done (.ok ()) (resting w) := rfl
  dsimp only
  rw [Attempt.run_bind, Act.bind_apply, busy, Outcome.bind_done]
  dsimp only
  rw [Attempt.run_bind, Act.bind_apply, Attempt.lend_apply]
  congr 1
  funext r v
  cases r <;> rfl

theorem Scratch.integer_apply {config : EngineConfig} {c : E.Context}
    (fits : Limit.scriptSource.check source = .ok ()) (made : E.create config logFunctions = .ok c) (link : Link E K)
    (w : World E K) : (Scratch.integer source config : Attempt E K Int).run link w =
      ((Scratch.integerOf {} source : Inside E K Int).run c link w).bind fun p v => .done (p.1.map fun n => n) v := by
  have create : (Scratch.make config : Attempt E K E.Context).run link w = .done (.ok c) w := by
    unfold Scratch.make
    rw [made]
    rfl
  have inside : (Attempt.inside c (Scratch.integerOf {} source) : Attempt E K _).run link w =
      ((Scratch.integerOf {} source : Inside E K _).run c link w).bind fun p v => .done (.ok p) v := Act.bind_apply ..
  unfold Scratch.integer
  rw [Attempt.run_bind, Act.bind_apply, Attempt.insistText_apply fits, Outcome.bind_done]
  dsimp only
  rw [Attempt.run_bind, Act.bind_apply, create, Outcome.bind_done]
  dsimp only
  rw [Attempt.run_bind, Act.bind_apply, inside, Outcome.bind_assoc]
  congr 1
  funext ⟨r, c'⟩ v
  cases r <;> rfl

/-! ## What they blame -/

section

variable (source : String) {c : Script.engine.Context} (link : Link Script.engine K) (w : World Script.engine K)

theorem Failure.neutral_engine (reason : String) : Failure.Neutral (.engine reason) := fun _ _ => ⟨nofun, nofun⟩

theorem Brain.make_judges {config : EngineConfig} (made : Script.engine.create config brainFunctions = .ok c) :
    Judges { bridge := w.results.size } "Error while compiling brain JS: " "Exception caught while running brain JS: "
      source c link (bridged w) ((Brain.make source config : Attempt Script.engine K _).run link w) := by
  rw [Brain.make_apply, made]
  let give (c : Script.engine.Context) (points : Script.engine.Value × Option Script.engine.Value) :
      Brain Script.engine :=
    { context := some c, source, bridge := w.results.size, updateAgent := points.1
      postMessageFlush := points.2, maxPendingJobs := config.maxPendingJobs }
  refine .evaluating (fun _ => ?_) give fun _ v => v
  have reads (name : String) {s : Surroundings Script.engine} :
      Inside.Fails Failure.Neutral (Brain.readGlobal s name : Inside Script.engine K _) :=
    Inside.Fails.readGlobal (Failure.neutral_engine _) name
  apply Inside.Fails.bind (reads updateAgentName)
  intro update
  apply Inside.Fails.bind (Inside.Fails.inspect _)
  intro callable
  dsimp only
  split
  · exact Inside.Fails.throw_bind (fun _ _ => ⟨nofun, nofun⟩) _
  · apply Inside.Fails.bind (reads postMessageFlushName)
    intro flush
    exact Inside.Fails.bind (Inside.Fails.inspect _) fun hasFlush => Inside.Fails.pure _

variable (fits : Limit.scriptSource.check source = .ok ())
include fits

theorem Scratch.run_judges {life : Life Script.engine} (idle : life.scratch = some c) :
    Judges {} "Could not compile! " "Exception caught while running: " source c link (resting w)
      ((Scratch.run source life : Attempt Script.engine K Unit).run link w) := by
  rw [Scratch.run_apply fits idle]
  -- The context is put back on a fault too, and a fault blames nothing.
  have judged : Judges {} "Could not compile! " "Exception caught while running: " source c link (resting w) _ :=
    .evaluating (fun value => Inside.Fails.pure value) (fun _ _ => ()) fun c v => Scratch.setContext (some c) v
  refine judged.of_done fun r v => ?_
  unfold Scratch.evaluate
  rw [Inside.run_bind, Act.bind_apply, Inside.run_apply]
  cases Inside.evaluate {} "Could not compile! " "Exception caught while running: " source c link (resting w) with
  | done result scene => cases result <;> exact Iff.rfl
  | fault scene => exact ⟨nofun, nofun⟩
  | stuck => exact Iff.rfl

theorem Scratch.integer_judges {config : EngineConfig} (made : Script.engine.create config logFunctions = .ok c) :
    Judges {} "Could not compile! " "Exception caught while running: " source c link w
      ((Scratch.integer source config : Attempt Script.engine K Int).run link w) := by
  rw [Scratch.integer_apply fits made]
  refine .evaluating (fun value => Inside.Fails.bind (Inside.Fails.perform _ _) fun r => ?_) (fun _ n => n) fun _ v => v
  cases r with
  | ok n => exact Inside.Fails.pure n
  | error thrown => exact Inside.Fails.throw (Failure.neutral_engine _)

end

/-- How brains, scratch scripts and scratch numbers blame their sources. Brains and scratch numbers begin in
contexts of their own, scratch scripts in the one that earlier scripts left. -/
theorem failures_blame (source : String) (link : Link Script.engine K) (w : World Script.engine K) :
    (∀ config c, Script.engine.create config brainFunctions = .ok c → c.realm.Frank ∧
      Judges { bridge := w.results.size } "Error while compiling brain JS: " "Exception caught while running brain JS: "
        source c link (bridged w) ((Brain.make source config : Attempt Script.engine K _).run link w)) ∧
    (Limit.scriptSource.check source = .ok () →
      (∀ life c, life.scratch = some c →
        Judges {} "Could not compile! " "Exception caught while running: " source c link (resting w)
          ((Scratch.run source life : Attempt Script.engine K Unit).run link w)) ∧
      ∀ config c, Script.engine.create config logFunctions = .ok c → c.realm.Frank ∧
        Judges {} "Could not compile! " "Exception caught while running: " source c link w
          ((Scratch.integer source config : Attempt Script.engine K Int).run link w)) :=
  ⟨fun _ _ made => ⟨Script.Context.create_frank made, Brain.make_judges source link w made⟩, fun fits =>
    ⟨fun _ _ idle => Scratch.run_judges source link w fits idle,
      fun _ _ made => ⟨Script.Context.create_frank made, Scratch.integer_judges source link w fits made⟩⟩⟩

theorem Script.Context.reading_unclosed (c : Script.Context) :
    c.reading "(" = .error ⟨"unexpected token in expression: ''", 1, 1, true⟩ := rfl

/-- A parenthesis that is not closed is no script: neither a brain nor a number comes of it. -/
theorem unclosed_blamed :
    let link : Link Script.engine ⟨Unit, Unit⟩ := fun _ w => .done .none w
    let w : World Script.engine ⟨Unit, Unit⟩ := { host := () }
    Limit.scriptSource.check "(" = .ok () ∧
      (∃ d v, (Brain.make "(" {} : Attempt Script.engine _ (Brain Script.engine)).run link w =
        .done (.error (.script (.compilation "Error while compiling brain JS: " d))) v ∧
          d.message = "SyntaxError: unexpected token in expression: ''") ∧
      ∃ d v, (Scratch.integer "(" {} : Attempt Script.engine _ Int).run link w =
        .done (.error (.script (.compilation "Could not compile! " d))) v ∧
          d.message = "SyntaxError: unexpected token in expression: ''" := by
  intro link w
  have fits : Limit.scriptSource.check "(" = .ok () := rfl
  obtain ⟨brains, scratch⟩ := failures_blame "(" link w
  obtain ⟨frank, brain⟩ := brains {} _ rfl
  obtain ⟨frank', number⟩ := (scratch fits).2 {} _ rfl
  exact ⟨fits, brain.fault _ (by decide) (Script.Context.reading_unclosed _) frank,
    number.fault _ (by decide) (Script.Context.reading_unclosed _) frank'⟩

/-- A source that is nothing but a NUL is no script either, and yet its run is blamed. -/
theorem nul_blames_run :
    let link : Link Script.engine ⟨Unit, Unit⟩ := fun _ w => .done .none w
    let w : World Script.engine ⟨Unit, Unit⟩ := { host := () }
    (∃ c fault, Script.engine.create {} brainFunctions = .ok c ∧ c.reading "\x00" = .error fault) ∧
      ∃ d v, (Brain.make "\x00" {} : Attempt Script.engine _ (Brain Script.engine)).run link w =
        .done (.error (.script (.exception "Exception caught while running brain JS: " d))) v := by
  intro link w
  obtain ⟨brains, -⟩ := failures_blame "\x00" link w
  obtain ⟨v, ran⟩ := (brains {} _ rfl).2.nul _ rfl
  exact ⟨⟨_, _, rfl, rfl⟩, _, v, ran⟩

end BrainHost
