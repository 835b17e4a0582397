import BrainHost.Proofs.Service.Lax

/-! # Hosts that call back

Host code is a plan: it asks the runtime for one thing after another, and each answer decides how it
goes on. A host gives a plan for every call of its functions, and these plans may ask for service
calls again, to any depth. What host code sees of the service protocol is kept in a chronicle. -/

namespace BrainHost

inductive Operation
  | start (path : String)
  | stop
  | resetBrain (id source : String)
  | setModule (id moduleId source : String)
  | updateAgent (id agent state : String) (buffer : ByteArray)
  | namespaceJson (id moduleId : String)
  | evaluate (source : String)
  | evaluateToInteger (source : String)

namespace Operation

def Answer : Operation → Type
  | updateAgent .. => Except Failure Unit × ByteArray
  | namespaceJson .. => Except Failure (Option String)
  | evaluateToInteger _ => Int
  | _ => Except Failure Unit

variable {E : Engine} {K : HostKind}

def deliver (json : String) : Act E K Unit := do
  let _ ← Act.invoke (.result json)

def act : (operation : Operation) → Act E K operation.Answer
  | start path => (Session.start path).run
  | stop => Session.stop.run
  | resetBrain id source => (Session.resetBrain id source).run
  | setModule id moduleId source => (Session.setModule id moduleId source).run
  | updateAgent id agent state buffer => Session.updateAgent id agent state buffer deliver
  | namespaceJson id moduleId => (Session.namespaceJson id moduleId).run
  | evaluate source => (Session.evaluate source).run
  | evaluateToInteger source => Session.evaluateToInteger source

theorem keeps {D : Conduct E K} (h : D.Free) (operation : Operation) :
    Act.Keeps D (operation.act : Act E K _) := by
  cases operation with
  | start path => exact h.start path
  | stop => exact h.stop
  | resetBrain id source => exact h.resetBrain id source
  | setModule id moduleId source => exact h.sessionSetModule id moduleId source
  | updateAgent id agent state buffer =>
    exact h.updateAgent id agent state buffer fun json =>
      (h.invoke _ (by simp)).bind fun _ => Act.Keeps.pure _
  | namespaceJson id moduleId => exact h.sessionNamespaceJson id moduleId
  | evaluate source => exact h.sessionEvaluate source
  | evaluateToInteger source => exact h.evaluateToInteger source

end Operation

/-! ## Plans -/

/-- What host code asks for. Bridges and reporters are known by number. -/
inductive Deed
  | call (bridge : Nat) (service args : String)
  | report (reporter : Nat) (result : String)
  | assign (hook : Hook) (on : Bool)
  | operate (operation : Operation)

namespace Deed

def Answer : Deed → Type
  | call .. => Except ServiceFailure (Option String)
  | report .. => Except ServiceFailure Unit
  | assign .. => Unit
  | operate operation => operation.Answer

def act {E : Engine} {K : HostKind} : (deed : Deed) → Act E K deed.Answer
  | call bridge service args => Act.callService bridge service args
  | report reporter result => Act.report reporter result
  | assign hook on => Act.modify fun w => { w with hooks := w.hooks.assign hook on }
  | operate operation => operation.act

end Deed

/-- Host code with a state of its own. It may panic, and may go on after a panic. -/
inductive Plan (S : Type)
  | finish (reply : Reply)
  | think (change : S → S) (next : S → Plan S)
  | ask (deed : Deed) (next : deed.Answer → Plan S)
  | panic
  | rescue (risky next : Plan S)

/-- What happens at a moment: a host function starts or is about to return, or host code asks for
something or was answered. -/
inductive Turn
  | entered (callback : Callback)
  | left (callback : Callback)
  | asked (deed : Deed)
  | answered (deed : Deed)

/-- What the service protocol looks like at a moment at which host code runs. -/
structure Moment where
  turn : Turn
  /-- The reporters of the call-service functions that are running, the innermost first. -/
  running : List Nat
  inFlight : Bool
  reporters : Array Reporter
  results : Array (Option String)

/-- The state of a host that plays by plans. -/
structure Mind (S : Type) where
  own : S
  running : List Nat := []
  /-- The moments so far, the latest first. -/
  chronicle : List Moment := []

abbrev Minded (S : Type) : HostKind := ⟨Mind S, Empty⟩

variable {S : Type} {E : Engine}

def World.moment (turn : Turn) (w : World E (Minded S)) : Moment :=
  ⟨turn, w.host.running, w.inFlight, w.reporters, w.results⟩

def noted (turn : Turn) (w : World E (Minded S)) : World E (Minded S) :=
  { w with host := { w.host with chronicle := w.moment turn :: w.host.chronicle } }

def note (turn : Turn) : Act E (Minded S) Unit := Act.modify (noted turn)

def Plan.act : Plan S → Act E (Minded S) Reply
  | .finish reply => pure reply
  | .think change next => do
    Act.modify fun w => { w with host := { w.host with own := change w.host.own } }
    (next (← Act.get).host.own).act
  | .ask deed next => do
    note (.asked deed)
    let answer ← deed.act
    note (.answered deed)
    (next answer).act
  | .panic => Act.fault
  | .rescue risky next => do
    let _ ← risky.act.catchFault (pure .none)
    next.act

/-! ## Hosts -/

/-- What a host does when its functions are called. -/
abbrev Host (S : Type) := Callback → Plan S

/-- The reporter that a host function is handed. -/
def Callback.reporter? : Callback → Option Nat
  | .callService _ _ reporter => some reporter
  | _ => none

theorem Callback.reporter?_of_other {callback : Callback}
    (h : ∀ service args reporter, callback ≠ .callService service args reporter) :
    callback.reporter? = none := by
  cases callback with
  | callService service args reporter => exact absurd rfl (h service args reporter)
  | _ => rfl

def entering (callback : Callback) (w : World E (Minded S)) : World E (Minded S) :=
  { w with host := { w.host with running := callback.reporter?.toList ++ w.host.running } }

def leaving (callback : Callback) (w : World E (Minded S)) : World E (Minded S) :=
  { w with host := { w.host with running := w.host.running.drop callback.reporter?.toList.length } }

def Plan.perform (callback : Callback) (plan : Plan S) : Act E (Minded S) Reply := do
  note (.entered callback)
  let reply ← plan.act
  note (.left callback)
  pure reply

def attend (callback : Callback) (plan : Plan S) : Act E (Minded S) Reply := do
  Act.modify (entering callback)
  (plan.perform callback).ensuring (leaving callback)

theorem attend_apply (callback : Callback) (plan : Plan S) (link : Link E (Minded S))
    (w : World E (Minded S)) :
    attend callback plan link w =
      (plan.perform callback link (entering callback w)).settle (leaving callback) := by
  rw [attend, Act.bind_apply, Act.modify_apply, Outcome.bind_done, Act.ensuring_apply]

/-- Calls the functions of a host, which may be nested up to a depth. -/
def Host.link (host : Host S) : Nat → Link E (Minded S)
  | 0 => fun _ _ => .stuck
  | depth + 1 => fun callback w => attend callback (host callback) (host.link depth) w

/-- No service call is in flight, and no reporter is left open. -/
structure Idle (w : World E (Minded S)) : Prop where
  inFlight : w.inFlight = false
  running : w.host.running = []
  closed : ∀ reporter, ¬ IsOpenIn w.reporters reporter

/-- A run begins: the chronicle has its start and nothing else. -/
structure Begun (w : World E (Minded S)) : Prop extends Idle w where
  chronicle : ∃ turn, w.host.chronicle = [w.moment turn]

/-! ## What plans keep -/

/-- Host code that asks for nothing but what is allowed. -/
def Plan.Asks (allowed : Deed → Prop) : Plan S → Prop
  | .finish _ => True
  | .think _ next => ∀ own, (next own).Asks allowed
  | .ask deed next => allowed deed ∧ ∀ answer, (next answer).Asks allowed
  | .panic => True
  | .rescue risky next => risky.Asks allowed ∧ next.Asks allowed

theorem Plan.asks_true (plan : Plan S) : plan.Asks fun _ => True := by
  induction plan with
  | finish reply => trivial
  | think change next ih => exact ih
  | ask deed next ih => exact ⟨trivial, ih⟩
  | panic => trivial
  | rescue risky next ihrisky ihnext => exact ⟨ihrisky, ihnext⟩

/-- A conduct that plans keep which ask for what is allowed: the host thinks, takes notes and asks. -/
structure Conduct.Playing (D : Conduct E (Minded S)) (allowed : Deed → Prop) : Prop where
  think : ∀ (w : World E (Minded S)) own, D.rel w { w with host := { w.host with own } }
  -- A report is noted and made in one step, since the note is what allows a result to change.
  note : ∀ turn, (∀ reporter result, turn ≠ .asked (.report reporter result)) →
    ∀ w, D.rel w (noted turn w)
  ask : ∀ deed, allowed deed →
    Act.Keeps D (do BrainHost.note (.asked deed); deed.act : Act E (Minded S) _)

namespace Conduct.Playing

variable {D : Conduct E (Minded S)} {allowed : Deed → Prop} (h : D.Playing allowed)
include h

theorem plan {plan : Plan S} (hplan : plan.Asks allowed) :
    Act.Keeps D (plan.act : Act E (Minded S) Reply) := by
  induction plan with
  | finish reply => exact Act.Keeps.pure reply
  | think change next ih =>
    exact (Act.Keeps.modify fun w => h.think w _).bind fun _ => Act.Keeps.get.bind fun w =>
      ih _ (hplan _)
  | ask deed next ih =>
    have rest (answer : deed.Answer) :
        Act.Keeps D (do BrainHost.note (.answered deed); (next answer).act) :=
      (Act.Keeps.modify (h.note _ (by simp))).bind fun _ => ih answer (hplan.2 answer)
    have whole := (h.ask deed hplan.1).bind rest
    rwa [bind_assoc] at whole
  | panic => exact Act.Keeps.fault
  | rescue risky next risky_ih next_ih =>
    exact ((risky_ih hplan.1).catchFault (Act.Keeps.pure _)).bind fun _ => next_ih hplan.2

theorem perform (callback : Callback) {plan : Plan S} (hplan : plan.Asks allowed) :
    Act.Keeps D (plan.perform callback : Act E (Minded S) Reply) :=
  (Act.Keeps.modify (h.note _ (by simp))).bind fun _ => (h.plan hplan).bind fun _ =>
    (Act.Keeps.modify (h.note _ (by simp))).bind fun _ => Act.Keeps.pure _

theorem link {meets : Callback → World E (Minded S) → World E (Minded S) → Prop}
    (hadmits : ∀ link, (∀ callback w, (link callback w).Ends (meets callback w)) → D.admits link)
    (hmeets : ∀ callback w v, D.rel (entering callback w) v → meets callback w (leaving callback v))
    {host : Host S} (hhost : ∀ callback, (host callback).Asks allowed) (depth : Nat) :
    D.admits (host.link depth) := by
  -- Calls at depth 0 are stuck, and a call one deeper is a plan over the link below it.
  have ends : ∀ callback w, (host.link depth callback w).Ends (meets callback w) := by
    induction depth with
    | zero => exact fun _ _ => trivial
    | succ depth ih =>
      intro callback w
      have performed := h.perform callback (hhost callback) _ (hadmits _ ih) (entering callback w)
      change (attend callback (host callback) (host.link depth) w).Ends _
      rw [attend_apply]
      exact performed.settle fun v hv => hmeets callback w v hv
  exact hadmits _ ends

end Conduct.Playing

/-- A conduct that all plans keep: besides what the runtime does, the host thinks, takes notes, changes
hooks and reports. -/
structure Conduct.Fair (D : Conduct E (Minded S)) : Prop extends D.Free where
  think : ∀ (w : World E (Minded S)) own, D.rel w { w with host := { w.host with own } }
  assign : ∀ (w : World E (Minded S)) hooks, D.rel w { w with hooks }
  note : ∀ turn, (∀ reporter result, turn ≠ .asked (.report reporter result)) →
    ∀ w, D.rel w (noted turn w)
  report : ∀ reporter result, Act.Keeps D (do
    BrainHost.note (.asked (.report reporter result))
    Act.report reporter result : Act E (Minded S) _)

namespace Conduct.Fair

variable {D : Conduct E (Minded S)} (h : D.Fair)
include h

theorem ask (deed : Deed) :
    Act.Keeps D (do BrainHost.note (.asked deed); deed.act : Act E (Minded S) _) := by
  have asked (hd : ∀ reporter result, deed ≠ .report reporter result) :
      Act.Keeps D (BrainHost.note (.asked deed)) :=
    Act.Keeps.modify (h.note _ (by simpa using hd))
  cases deed with
  | call bridge service args =>
    exact (asked (by simp)).bind fun _ => h.callService bridge service args
  | report reporter result => exact h.report reporter result
  | assign hook on => exact (asked (by simp)).bind fun _ => Act.Keeps.modify fun w => h.assign w _
  | operate operation => exact (asked (by simp)).bind fun _ => operation.keeps h.toFree

theorem playing : D.Playing fun _ => True where
  think := h.think
  note := h.note
  ask deed _ := h.ask deed

theorem plan (plan : Plan S) : Act.Keeps D (plan.act : Act E (Minded S) Reply) :=
  h.playing.plan plan.asks_true

theorem link {meets : Callback → World E (Minded S) → World E (Minded S) → Prop}
    (hadmits : ∀ link, (∀ callback w, (link callback w).Ends (meets callback w)) → D.admits link)
    (hmeets : ∀ callback w v, D.rel (entering callback w) v → meets callback w (leaving callback v))
    (host : Host S) (depth : Nat) : D.admits (host.link depth) :=
  h.playing.link hadmits hmeets (fun callback => (host callback).asks_true) depth

end Conduct.Fair

/-! ## Host code that returns -/

/-- Host code that asks for nothing but what is allowed, and that returns. -/
inductive Plan.Only (allowed : Deed → Prop) : Plan S → Prop
  | finish (reply : Reply) : (Plan.finish reply).Only allowed
  | think {change : S → S} {next : S → Plan S} (hnext : ∀ own, (next own).Only allowed) :
    (Plan.think change next).Only allowed
  | ask {deed : Deed} {next : deed.Answer → Plan S} (hdeed : allowed deed)
    (hnext : ∀ answer, (next answer).Only allowed) : (Plan.ask deed next).Only allowed
  | rescue {risky next : Plan S} (hrisky : risky.Only allowed) (hnext : next.Only allowed) :
    (Plan.rescue risky next).Only allowed

/-- Host code returns if all that it asks for returns. What holds at the end does not depend on the
host's own state. -/
theorem Plan.Only.returns {allowed : Deed → Prop} {plan : Plan S} (hplan : plan.Only allowed)
    {link : Link E (Minded S)} {P : World E (Minded S) → Prop}
    (hblind : ∀ w host, P w → P { w with host })
    (hdeed : ∀ deed, allowed deed → ∀ w, P w → ∃ answer v, deed.act link w = .done answer v ∧ P v)
    (w : World E (Minded S)) (hw : P w) : ∃ reply v, plan.act link w = .done reply v ∧ P v := by
  induction hplan generalizing w with
  | finish reply => exact ⟨reply, w, rfl, hw⟩
  | think hnext ih => exact ih _ _ (hblind w _ hw)
  | @ask deed next hallowed hnext ih =>
    obtain ⟨answer, v, hv, hPv⟩ := hdeed deed hallowed (noted (.asked deed) w) (hblind w _ hw)
    obtain ⟨reply, u, hu, hPu⟩ := ih answer (noted (.answered deed) v) (hblind v _ hPv)
    refine ⟨reply, u, ?_, hPu⟩
    rw [Plan.act, Act.bind_apply, note, Act.modify_apply, Outcome.bind_done, Act.bind_apply, hv,
      Outcome.bind_done, Act.bind_apply, note, Act.modify_apply, Outcome.bind_done, hu]
  | @rescue risky next hrisky hnext ihrisky ihnext =>
    obtain ⟨reply, v, hv, hPv⟩ := ihrisky w hw
    obtain ⟨reply', u, hu, hPu⟩ := ihnext v hPv
    refine ⟨reply', u, ?_, hPu⟩
    rw [Plan.act, Act.bind_apply, Act.catchFault, hv, Outcome.bind_done, hu]

theorem Plan.Only.attended {allowed : Deed → Prop} {plan : Plan S} (hplan : plan.Only allowed)
    {link : Link E (Minded S)} {P : World E (Minded S) → Prop}
    (hblind : ∀ w host, P w → P { w with host })
    (hdeed : ∀ deed, allowed deed → ∀ w, P w → ∃ answer v, deed.act link w = .done answer v ∧ P v)
    (callback : Callback) (w : World E (Minded S)) (hw : P w) :
    ∃ reply v, attend callback plan link w = .done reply v ∧ P v := by
  have entered : P (noted (.entered callback) (entering callback w)) := hblind _ _ (hblind _ _ hw)
  obtain ⟨reply, v, hv, hPv⟩ := hplan.returns hblind hdeed _ entered
  refine ⟨reply, leaving callback (noted (.left callback) v), ?_, hblind _ _ (hblind _ _ hPv)⟩
  rw [attend_apply, Plan.perform, Act.bind_apply, note, Act.modify_apply, Outcome.bind_done,
    Act.bind_apply, hv, Outcome.bind_done, Act.bind_apply, note, Act.modify_apply,
    Outcome.bind_done]
  rfl

end BrainHost
