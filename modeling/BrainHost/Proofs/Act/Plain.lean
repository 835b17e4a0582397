import BrainHost.Proofs.Act.Basic
import BrainHost.Proofs.Message.Preview

/-! # Operations inside a context

What a brain does inside its context is built from few parts: the engine runs a script or reads a
state, and the brain looks at what came of it, goes on or gives up. A property that these parts have
is one of every operation. -/

namespace BrainHost

variable {E : Engine} {K : HostKind} {α β : Type}

/-- Which answers fit which requests. -/
abbrev Fitting (V : Type) := Request → Answer V → Prop

namespace Run

variable {C V : Type}

/-- What a run ends with has a property, whatever its requests are answered. -/
def Ends (P : α → Prop) : Run C V α → Prop
  | done a => P a
  | ask _ _ resume => ∀ answer, (resume answer).Ends P
  | stuck => True

/-- What a run ends with has a property if its requests are given answers that fit. -/
def Settles (fits : Fitting V) (P : α → Prop) : Run C V α → Prop
  | done a => P a
  | ask request _ resume => ∀ answer, fits request answer → (resume answer).Settles fits P
  | stuck => True

/-- Wherever a run shows its context, and where it ends, the context has a property. -/
def Shows (P : C → Prop) : Run C V (C × α) → Prop
  | done p => P p.1
  | ask _ meanwhile resume => P meanwhile ∧ ∀ answer, (resume answer).Shows P
  | stuck => True

theorem Ends.mono {P Q : α → Prop} {run : Run C V α} (h : run.Ends P) (imp : ∀ a, P a → Q a) : run.Ends Q := by
  induction run with
  | done a => exact imp a h
  | ask request meanwhile resume ih => exact fun answer => ih answer (h answer)
  | stuck => trivial

theorem ends_bind {Q : β → Prop} {run : Run C V α} {f : α → Run C V β} :
    (run >>= f).Ends Q ↔ run.Ends fun a => (f a).Ends Q := by
  induction run with
  | done a => exact Iff.rfl
  | ask request meanwhile resume ih => exact forall_congr' ih
  | stuck => exact Iff.rfl

theorem Shows.mono {P Q : C → Prop} {run : Run C V (C × α)} (h : run.Shows P) (imp : ∀ c, P c → Q c) :
    run.Shows Q := by
  induction run with
  | done p => exact imp p.1 h
  | ask request meanwhile resume ih => exact ⟨imp meanwhile h.1, fun answer => ih answer (h.2 answer)⟩
  | stuck => trivial

theorem Shows.bind {P : C → Prop} {run : Run C V (C × α)} {f : C × α → Run C V (C × β)} (h : run.Shows P)
    (hf : ∀ p, P p.1 → (f p).Shows P) : (run >>= f).Shows P := by
  induction run with
  | done p => exact hf p h
  | ask request meanwhile resume ih => exact ⟨h.1, fun answer => ih answer (h.2 answer)⟩
  | stuck => trivial

theorem Shows.ends {P : C → Prop} {run : Run C V (C × α)} (h : run.Shows P) : run.Ends fun p => P p.1 := by
  induction run with
  | done p => exact h
  | ask request meanwhile resume ih => exact fun answer => ih answer (h.2 answer)
  | stuck => trivial

theorem settles_iff_ends {P : α → Prop} {run : Run C V α} : run.Settles (fun _ _ => True) P ↔ run.Ends P := by
  induction run with
  | done a => exact Iff.rfl
  | ask request meanwhile resume ih => exact forall_congr' fun answer => true_imp_iff.trans (ih answer)
  | stuck => exact Iff.rfl

theorem Settles.carryOut {fits : Fitting E.Value} {P : α → Prop} {run : Run E.Context E.Value α}
    (h : run.Settles fits P) {s : Surroundings E} {link : Link E K}
    (hserve : ∀ {request w answer v}, Act.serve s request link w = .done answer v → fits request answer)
    {w v : World E K} {a : α} (hrun : Act.carryOut s run link w = .done a v) : P a := by
  induction run generalizing w with
  | done b =>
    cases hrun
    exact h
  | ask request meanwhile resume ih =>
    rw [Act.carryOut, Act.bind_apply, Outcome.bind_eq_done] at hrun
    obtain ⟨answer, u, hanswer, hrest⟩ := hrun
    exact ih answer (h answer (hserve hanswer)) hrest
  | stuck => cases hrun

theorem Ends.carryOut {P : α → Prop} {run : Run E.Context E.Value α} (h : run.Ends P) {s : Surroundings E}
    {link : Link E K} {w v : World E K} {a : α} (hrun : Act.carryOut s run link w = .done a v) : P a :=
  (settles_iff_ends.mpr h).carryOut (fun _ => trivial) hrun

theorem Shows.carryOut {P : E.Context → Prop} {run : Run E.Context E.Value (E.Context × α)} (h : run.Shows P)
    (s : Surroundings E) (c : E.Context) (link : Link E K) (w : World E K) :
    ((Inside.carryOut s run : Inside E K α) c link w).Ends fun scene => P scene.1 := by
  induction run generalizing c w with
  | done p => exact h
  | ask request meanwhile resume ih =>
    have served : (((Act.serve s request : Act E K _) link w).settle fun v => (meanwhile, v)).Ends
        fun scene => scene.1 = meanwhile :=
      (Outcome.ends_of_forall (P := fun _ => True) (fun _ => trivial) _).settle fun _ _ => rfl
    rw [Inside.carryOut, Inside.bind_apply]
    change (((liftM (Act.serve s request) >>= fun answer => Inside.carryOut s (resume answer) : Inside E K α))
      meanwhile link w).Ends _
    rw [Inside.bind_apply, Inside.lift_apply, Outcome.bind_assoc]
    exact served.bind (fun answer scene _ => ih answer (h.2 answer) scene.1 scene.2) fun scene same => same ▸ h.1
  | stuck => trivial

end Run

/-- The operations of an engine that run scripts. Jobs are among them where they are wanted. -/
inductive Engine.Operates (E : Engine) (jobs : Prop) :
    {α : Type} → (E.Context → Run E.Context E.Value (E.Context × α)) → Prop
  | evaluate (strict : Bool) (source : String) : E.Operates jobs (E.evaluate strict source)
  | global (name : String) : E.Operates jobs (E.global name)
  | call (f : E.Value) (args : List E.Value) : E.Operates jobs (E.call f args)
  | stringify (v : E.Value) : E.Operates jobs (E.stringify v)
  | compile (file source : String) : E.Operates jobs (E.compile file source)
  | start (m : E.Module) : E.Operates jobs (E.start m)
  | property (v : E.Value) (name : String) : E.Operates jobs (E.property v name)
  | headline (v : E.Value) : E.Operates jobs (E.headline v)
  | toText (v : E.Value) : E.Operates jobs (E.toText v)
  | toInt32 (v : E.Value) : E.Operates jobs (E.toInt32 v)
  | namespaceOf (m : E.Module) : E.Operates jobs (E.namespaceOf m)
  | job (h : jobs) : E.Operates jobs E.runJob

/-- A relation of contexts that holds from one to the other side of whatever scripts do. -/
structure Engine.Onward (E : Engine) (jobs : Prop) (R : E.Context → E.Context → Prop) : Prop where
  refl : ∀ c, R c c
  trans : ∀ {c d e}, R c d → R d e → R c e
  operates : ∀ {α : Type} {run : E.Context → Run E.Context E.Value (E.Context × α)}, E.Operates jobs run →
    ∀ c, (run c).Shows (R c)
  parse : ∀ text c, R c (E.parseJson text c).1

/-- Whether a failure is one of scripts and states, and not of what the host asked for. -/
def Failure.isInner : Failure → Bool
  | script _ => true
  | marshal _ => true
  | engine _ => true
  | _ => false

namespace Inside

/-- An operation that is built from what scripts do in some surroundings. -/
inductive Plain (s : Surroundings E) (jobs : Prop) : {α : Type} → Inside E K α → Prop
  | pure {α : Type} (a : α) : Plain s jobs (Pure.pure a)
  | throw {α : Type} {failure : Failure} (h : failure.isInner = true) :
    Plain s jobs (throw failure : Inside E K α)
  | bind {α β : Type} {m : Inside E K α} {f : α → Inside E K β} (hm : Plain s jobs m)
    (hf : ∀ a, Plain s jobs (f a)) : Plain s jobs (m >>= f)
  | perform {α : Type} {run : E.Context → Run E.Context E.Value (E.Context × α)} (h : E.Operates jobs run) :
    Plain s jobs (Inside.perform s run)
  | inspect {α : Type} (f : E.Context → α) : Plain s jobs (Inside.inspect f)
  | parse (text : String) : Plain s jobs (Inside.change (E.parseJson text))
  | stuck {α : Type} : Plain s jobs (Inside.stuck : Inside E K α)

/-- Operations, one for each bridge, that are built in the same way from what scripts do in their
surroundings. -/
inductive Uniform (s : Nat → Surroundings E) (jobs : Prop) : {α : Type} → (Nat → Inside E K α) → Prop
  | pure {α : Type} (a : α) : Uniform s jobs fun _ => Pure.pure a
  | throw {α : Type} {failure : Failure} (h : failure.isInner = true) :
    Uniform s jobs fun _ => (throw failure : Inside E K α)
  | bind {α β : Type} {m : Nat → Inside E K α} {f : α → Nat → Inside E K β} (hm : Uniform s jobs m)
    (hf : ∀ a, Uniform s jobs (f a)) : Uniform s jobs fun n => m n >>= fun a => f a n
  | perform {α : Type} {run : E.Context → Run E.Context E.Value (E.Context × α)} (h : E.Operates jobs run) :
    Uniform s jobs fun n => Inside.perform (s n) run
  | inspect {α : Type} (f : E.Context → α) : Uniform s jobs fun _ => Inside.inspect f
  | parse (text : String) : Uniform s jobs fun _ => Inside.change (E.parseJson text)
  | stuck {α : Type} : Uniform s jobs fun _ => (Inside.stuck : Inside E K α)

/-- The context that an operation leaves is related to the one that it was given, also where it panics. -/
def Onward (R : E.Context → E.Context → Prop) (m : Inside E K α) : Prop :=
  ∀ c link w, (m c link w).Ends fun scene => R c scene.1

theorem Onward.of_true {R : E.Context → E.Context → Prop} (h : ∀ c c', R c c') (m : Inside E K α) : Onward R m :=
  fun c _ _ => Outcome.ends_of_forall (fun _ => h c _) _

theorem Onward.done {R : E.Context → E.Context → Prop} {m : Inside E K α} (hm : Onward R m) {c c' : E.Context}
    {link : Link E K} {w v : World E K} {r : Except Failure α} (h : m.run c link w = .done (r, c') v) : R c c' := by
  have ends := hm c link w
  rwa [run_eq_done.mp h] at ends

/-- The failures of an operation have a property. -/
def Fails (P : Failure → Prop) (m : Inside E K α) : Prop :=
  ∀ {c link w failure c' v}, m.run c link w = .done (.error failure, c') v → P failure

theorem run_bind_eq_done {m : Inside E K α} {f : α → Inside E K β} {c c' : E.Context}
    {link : Link E K} {w v : World E K} {r : Except Failure β}
    (h : (m >>= f).run c link w = .done (r, c') v) :
    (∃ a c₁ w₁, m.run c link w = .done (.ok a, c₁) w₁ ∧ (f a).run c₁ link w₁ = .done (r, c') v) ∨
      ∃ failure, m.run c link w = .done (.error failure, c') v ∧ r = .error failure := by
  rw [run_bind, Act.bind_apply, Outcome.bind_eq_done] at h
  obtain ⟨⟨r₁, c₁⟩, w₁, hrun, hrest⟩ := h
  cases r₁ with
  | ok a => exact .inl ⟨a, c₁, w₁, hrun, hrest⟩
  | error failure =>
    cases hrest
    exact .inr ⟨failure, hrun, rfl⟩

theorem run_perform_eq_done {s : Surroundings E} {run : E.Context → Run E.Context E.Value (E.Context × α)}
    {c c' : E.Context} {link : Link E K} {w v : World E K} {r : Except Failure α}
    (h : (Inside.perform s run : Inside E K α).run c link w = .done (r, c') v) :
    ∃ a, r = .ok a ∧ Act.carryOut s (run c) link w = .done (c', a) v := by
  rw [run_perform, Act.bind_apply, Outcome.bind_eq_done] at h
  obtain ⟨p, u, hrun, heq⟩ := h
  cases heq
  exact ⟨p.2, rfl, hrun⟩

namespace Plain

variable {s : Surroundings E} {jobs : Prop}

theorem onward {R : E.Context → E.Context → Prop} (hR : E.Onward jobs R) {m : Inside E K α}
    (hm : Plain s jobs m) : Onward R m := by
  induction hm with
  | pure a => exact fun c _ _ => hR.refl c
  | throw hinner => exact fun c _ _ => hR.refl c
  | bind hm hf ihm ihf =>
    intro c link w
    rw [bind_apply]
    refine (ihm c link w).bind (fun r scene first => ?_) fun _ first => first
    cases r with
    | ok a => exact (ihf a scene.1 link scene.2).mono fun _ rest => hR.trans first rest
    | error failure => exact first
  | perform hop => exact fun c link w => (hR.operates hop c).carryOut _ c link w
  | inspect f => exact fun c _ _ => hR.refl c
  | parse text => exact fun c _ _ => hR.parse text c
  | stuck => exact fun _ _ _ => trivial

theorem fails {m : Inside E K α} (hm : Plain s jobs m) : Fails (·.isInner = true) m := by
  induction hm with
  | pure a => intro c link w failure c' v h; cases h
  | throw hinner => intro c link w failure c' v h; cases h; exact hinner
  | bind hm hf ihm ihf =>
    intro c link w failure c' v h
    obtain ⟨a, c₁, w₁, hfirst, hrest⟩ | ⟨failure', hfirst, heq⟩ := run_bind_eq_done h
    · exact ihf a hrest
    · cases heq
      exact ihm hfirst
  | perform hop =>
    intro c link w failure c' v h
    obtain ⟨a, hok, -⟩ := run_perform_eq_done h
    cases hok
  | inspect f => intro c link w failure c' v h; cases h
  | parse text => intro c link w failure c' v h; cases h
  | stuck => intro c link w failure c' v h; cases h

end Plain

theorem Uniform.plain {s : Nat → Surroundings E} {jobs : Prop} {m : Nat → Inside E K α}
    (h : Uniform s jobs m) (n : Nat) : Plain (s n) jobs (m n) := by
  induction h with
  | pure a => exact .pure a
  | throw hinner => exact .throw hinner
  | bind hm hf ihm ihf => exact ihm.bind ihf
  | perform hop => exact .perform hop
  | inspect f => exact .inspect f
  | parse text => exact .parse text
  | stuck => exact .stuck

end Inside

/-- The brain with another end of the service bridge. -/
def Brain.linked (b : Brain E) (bridge : Nat) : Brain E := { b with bridge }

/-! ## How operations are built -/

namespace Inside.Uniform

variable {s : Nat → Surroundings E} {jobs : Prop}

theorem throw_bind {failure : Failure} (h : failure.isInner = true) (f : Nat → α → Inside E K β) :
    Uniform s jobs fun n => (MonadExcept.throw failure >>= f n : Inside E K β) :=
  throw (α := β) h

/-! Exceptions and states. -/

theorem stringProperty (v : E.Value) (name : String) :
    Uniform s jobs fun n => (Inside.stringProperty (s n) v name : Inside E K (Option String)) := by
  refine (perform (.property v name)).bind fun r => ?_
  cases r <;> exact pure _

theorem textProperty (v : E.Value) (name : String) :
    Uniform s jobs fun n => (Inside.textProperty (s n) v name : Inside E K (Option String)) := by
  refine (perform (.property v name)).bind fun r => ?_
  cases r with
  | ok w =>
    dsimp only
    split
    · exact pure _
    · exact perform (.toText w)
  | error thrown => exact pure _

theorem numberProperty (v : E.Value) (name : String) :
    Uniform s jobs fun n => (Inside.numberProperty (s n) v name : Inside E K (Option Nat)) := by
  refine (perform (.property v name)).bind fun r => ?_
  cases r <;> exact pure _

theorem isSyntaxError (thrown : E.Value) :
    Uniform s jobs fun n => (Inside.isSyntaxError (s n) thrown : Inside E K Bool) := by
  refine (inspect _).bind fun isError => ?_
  split
  · exact (stringProperty _ _).bind fun _ => pure _
  · exact pure _

theorem describe (error : E.Value) :
    Uniform s jobs fun n => (Inside.describe (s n) error : Inside E K Diagnostic) :=
  (textProperty _ _).bind fun _ => (stringProperty _ _).bind fun _ =>
    (numberProperty _ _).bind fun _ => (numberProperty _ _).bind fun _ =>
      (perform (.headline error)).bind fun _ => pure _

theorem diagnose (thrown : E.Value) (lookup : Option String → Option String) :
    Uniform s jobs fun n => (Inside.diagnose (s n) thrown lookup : Inside E K Diagnostic) := by
  refine (inspect _).bind fun isError => ?_
  split
  · exact (describe _).bind fun _ => pure _
  · exact (perform (.headline thrown)).bind fun _ => pure _

theorem failWith (failure : String → Diagnostic → ScriptFailure) (activity : String)
    (lookup : Option String → Option String) (thrown : E.Value) :
    Uniform s jobs fun n => (Inside.failWith (s n) failure activity lookup thrown : Inside E K α) :=
  (diagnose thrown lookup).bind fun _ => throw rfl

theorem evaluate (compiling running source : String) :
    Uniform s jobs fun n => (Inside.evaluate (s n) compiling running source : Inside E K E.Value) := by
  unfold Inside.evaluate
  split
  · exact throw_bind rfl _
  · refine (perform (.evaluate false source)).bind fun r => ?_
    cases r with
    | ok v => exact pure _
    | error thrown =>
      refine (isSyntaxError thrown).bind fun isSyntaxError => ?_
      split <;> exact failWith _ _ _ _

theorem decodeState (text : String) :
    Uniform s jobs fun _ => (Inside.decodeState text : Inside E K E.Value) := by
  rw [Inside.decodeState_eq]
  refine (parse text).bind fun r => ?_
  cases r with
  | ok v => exact pure _
  | error thrown => exact throw rfl

theorem encodeState (v : E.Value) :
    Uniform s jobs fun n => (Inside.encodeState (s n) v : Inside E K String) := by
  refine (perform (.stringify v)).bind fun r => ?_
  split
  · dsimp only
    split
    · exact throw rfl
    · exact pure _
  · exact throw rfl
  · exact (perform (.headline _)).bind fun _ => throw rfl

/-! Brains. -/

theorem readGlobal (name : String) :
    Uniform s jobs fun n => (Brain.readGlobal (s n) name : Inside E K E.Value) := by
  refine (perform (.global name)).bind fun r => ?_
  cases r with
  | ok v => exact pure _
  | error thrown => exact throw rfl

theorem entryPoints (source : String) :
    Uniform s jobs fun n => (Brain.entryPoints (s n) source : Inside E K (E.Value × Option E.Value)) := by
  refine (evaluate _ _ source).bind fun _ => (readGlobal _).bind fun update => ?_
  refine (inspect _).bind fun callable => ?_
  dsimp only
  split
  · exact throw_bind rfl _
  · exact (readGlobal _).bind fun _ => (inspect _).bind fun _ => pure _

theorem callEntry (b : Brain E) (activity : String) (f : E.Value) (args : List E.Value) :
    Uniform (fun n => (b.linked n).surroundings) jobs
      fun n => ((b.linked n).callEntry activity f args : Inside E K Unit) := by
  refine (perform (.call f args)).bind fun r => ?_
  cases r with
  | ok u => exact pure _
  | error thrown => exact failWith _ _ b.sourceOf _

theorem doJob : Uniform s True fun n => (Brain.doJob (s n) : Inside E K Unit) := by
  refine (perform (.job trivial)).bind fun r => ?_
  cases r with
  | ok u => exact pure _
  | error thrown => exact (perform (.headline thrown)).bind fun _ => throw rfl

theorem drainFrom (limit : Option Nat) (rounds executed : Nat) :
    Uniform s True fun n => (Brain.drainFrom (s n) limit rounds executed : Inside E K Nat) := by
  induction rounds generalizing executed with
  | zero => exact stuck
  | succ rounds ih =>
    refine (inspect _).bind fun pending => ?_
    split
    · split
      · exact throw rfl
      · exact doJob.bind fun _ => ih _
    · exact pure _

theorem drain (b : Brain E) :
    Uniform (fun n => (b.linked n).surroundings) True fun n => ((b.linked n).drain : Inside E K Nat) :=
  drainFrom b.maxPendingJobs (drainRounds b.maxPendingJobs) 0

theorem updateWith (b : Brain E) (state : String) (view : E.Value) :
    Uniform (fun n => (b.linked n).surroundings) True
      fun n => ((b.linked n).updateWith state view : Inside E K String) := by
  refine (decodeState state).bind fun v => ?_
  refine (callEntry b _ b.updateAgent [v, view]).bind fun _ => (drain b).bind fun _ => ?_
  have same (n : Nat) : (b.linked n).postMessageFlush = b.postMessageFlush := rfl
  simp only [same]
  cases b.postMessageFlush with
  | some flush => exact (callEntry b _ flush [v, view]).bind fun _ => encodeState v
  | none => exact encodeState v

theorem finishFrom (promise : E.Value) (rounds : Nat) :
    Uniform s True fun n => (Brain.finishFrom (s n) promise rounds : Inside E K _) := by
  induction rounds with
  | zero => exact stuck
  | succ rounds ih =>
    refine (inspect _).bind fun outcome => ?_
    cases outcome with
    | some outcome => exact pure _
    | none =>
      refine (inspect _).bind fun pending => ?_
      split
      · exact (perform (.job trivial)).bind fun _ => ih
      · exact pure _

theorem runModule (b : Brain E) (id source : String) :
    Uniform (fun n => (b.linked n).surroundings) True
      fun n => ((b.linked n).runModule id source : Inside E K E.Value) := by
  unfold Brain.runModule
  dsimp only
  split
  · exact throw_bind rfl _
  · refine (perform (.compile id source)).bind fun compiled => ?_
    cases compiled with
    | error thrown => exact failWith _ _ _ _
    | ok m =>
      refine (perform (.start m)).bind fun started => ?_
      cases started with
      | error thrown => exact failWith _ _ _ _
      | ok promise =>
        refine (finishFrom promise _).bind fun finished => ?_
        split
        · refine (perform (.namespaceOf m)).bind fun r => ?_
          cases r with
          | ok namespaceObject => exact pure _
          | error thrown => exact failWith _ _ _ _
        · exact failWith _ _ _ _
        · exact throw rfl

theorem namespaceInside (b : Brain E) (id : String) :
    Uniform (fun n => (b.linked n).surroundings) jobs
      fun n => ((b.linked n).namespaceInside id : Inside E K (Option String)) := by
  unfold Brain.namespaceInside
  dsimp only [Brain.linked]
  split
  · exact (encodeState _).bind fun _ => pure _
  · exact pure _

/-! Scratch scripts. -/

theorem scratchEvaluate (source : String) :
    Uniform s jobs fun n => (Scratch.evaluate (s n) source : Inside E K E.Value) := evaluate _ _ _

theorem integerOf (source : String) :
    Uniform s jobs fun n => (Scratch.integerOf (s n) source : Inside E K Int) := by
  refine (scratchEvaluate source).bind fun v => (perform (.toInt32 v)).bind fun r => ?_
  cases r with
  | ok n => exact pure _
  | error thrown => exact throw rfl

end Inside.Uniform

namespace Inside.Plain

variable {s : Surroundings E} {jobs : Prop}

theorem diagnose (thrown : E.Value) (lookup : Option String → Option String) :
    Plain s jobs (Inside.diagnose s thrown lookup : Inside E K Diagnostic) :=
  (Uniform.diagnose (s := fun _ => s) thrown lookup).plain 0

theorem entryPoints (source : String) :
    Plain s jobs (Brain.entryPoints s source : Inside E K (E.Value × Option E.Value)) :=
  (Uniform.entryPoints (s := fun _ => s) source).plain 0

theorem updateWith (b : Brain E) (state : String) (view : E.Value) :
    Plain b.surroundings True (b.updateWith state view : Inside E K String) :=
  (Uniform.updateWith b state view).plain b.bridge

theorem runModule (b : Brain E) (id source : String) :
    Plain b.surroundings True (b.runModule id source : Inside E K E.Value) :=
  (Uniform.runModule b id source).plain b.bridge

theorem namespaceInside (b : Brain E) (id : String) :
    Plain b.surroundings jobs (b.namespaceInside id : Inside E K (Option String)) :=
  (Uniform.namespaceInside b id).plain b.bridge

theorem scratchEvaluate (source : String) :
    Plain s jobs (Scratch.evaluate s source : Inside E K E.Value) :=
  (Uniform.scratchEvaluate (s := fun _ => s) source).plain 0

theorem integerOf (source : String) :
    Plain s jobs (Scratch.integerOf s source : Inside E K Int) :=
  (Uniform.integerOf (s := fun _ => s) source).plain 0

end Inside.Plain

/-! ## An engine without scripts -/

/-- An engine whose contexts never change. Values have texts, and every value is a function. -/
def Engine.idle (C V : Type) (initial : C) (value : String → V) (text : V → String) : Engine where
  Context := C
  Value := V
  Module := Unit
  create _ _ := .ok initial
  evaluate _ source c := .done (c, .ok (value source))
  global name c := .done (c, .ok (value name))
  isFunction _ _ := true
  call _ _ c := .done (c, .ok ())
  parseJson json c := (c, .ok (value json))
  stringify v c := .done (c, .ok (some (text v)))
  attach _ c := (c, value "view")
  detach _ c := (c, .empty)
  jobPending _ := false
  runJob c := .done (c, .ok ())
  compile _ _ c := .done (c, .ok ())
  start _ c := .done (c, .ok (value ""))
  outcome? _ v := some (.ok v)
  namespaceOf _ c := .done (c, .ok (value ""))
  isError _ _ := false
  property v _ c := .done (c, .ok v)
  text? v := some (text v)
  integer? _ := none
  isAbsent _ := false
  headline v c := .done (c, text v)
  toText v c := .done (c, some (text v))
  toInt32 _ c := .done (c, .ok 0)

end BrainHost
