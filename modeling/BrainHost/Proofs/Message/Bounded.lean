import BrainHost.Proofs.Boundary.Code
import BrainHost.Proofs.Message.Operation

/-! # Bounds of log messages

What the sinks of a host are passed is bounded, but for errors that quote. This holds of every operation
and call by itself, and so of whatever host code makes of them, from inside host functions and to any
depth. -/

namespace BrainHost

variable {E : Engine} {K : HostKind} {S α : Type} {allowed : Callback → Prop}

namespace Blunt

variable (h : Blunt allowed) (hresult : ∀ json, allowed (.result json))
include h hresult

theorem operation (op : Operation) : Act.Calls allowed (op.act : Act E K _) := by
  cases op with
  | start path => exact h.start path
  | stop => exact stop
  | resetBrain id source => exact h.resetBrain id source
  | setModule id moduleId source => exact h.sessionSetModule id moduleId source
  | updateAgent id agent state buffer =>
    exact h.updateAgent id agent state buffer fun json =>
      (Act.Calls.invoke (hresult json)).bind fun _ => .pure _
  | namespaceJson id moduleId => exact h.sessionNamespaceJson id moduleId
  | evaluate source => exact h.evaluate source
  | evaluateToInteger source => exact h.evaluateToInteger source

theorem deed (deed : Deed) : Act.Calls allowed (deed.act : Act E K _) := by
  cases deed with
  | call bridge service args => exact h.callService bridge service args
  | report reporter result => exact h.report reporter result
  | assign hook on => exact .modify _
  | operate op => exact h.operation hresult op

theorem plan (plan : Plan S) : Act.Calls allowed (plan.act : Act E (Minded S) Reply) := by
  induction plan with
  | finish reply => exact .pure _
  | think change next ih => exact (Act.Calls.modify _).bind fun _ => Act.Calls.get.bind fun w => ih _
  | ask asked next ih =>
    exact (Act.Calls.modify _).bind fun _ => (h.deed hresult asked).bind fun answer =>
      (Act.Calls.modify _).bind fun _ => ih answer
  | panic => exact .fault
  | rescue risky next ihrisky ihnext => exact (ihrisky.catchFault (.pure _)).bind fun _ => ihnext

end Blunt

/-! ## Calls of the C boundary -/

namespace Boundary

section

variable (h : Blunt allowed) (hresult : ∀ json, allowed (.result json))
include h hresult

theorem work_calls (lastReporter : Option Nat) (call : Call) :
    Act.Calls allowed (call.work lastReporter : Act E K call.Answer) := by
  have succeeding {α : Type} {m : Attempt E K α} (hm : Attempt.Calls allowed m) :
      Act.Calls allowed (succeeds m) := by
    refine Act.Calls.bind hm fun r => ?_
    cases r <;> exact .pure _
  have delivers (wanted : Bool) (json : String) : Act.Calls allowed (deliver wanted json : Act E K Unit) :=
    .ite (fun _ => (Act.Calls.invoke (hresult json)).bind fun _ => .pure _) fun _ => .pure _
  have updates (id agent state : Bytes) (memory : Option ByteArray) (length : Int) (wanted : Bool) :
      Act.Calls allowed (updateWork id agent state memory length wanted : Act E K _) := by
    refine .ite (fun _ => (Act.Calls.record _ _ _).bind fun _ => .pure _) fun _ => ?_
    exact (h.updateAgent _ _ _ _ (delivers wanted)).bind fun _ => .pure _
  cases call with
  | start path => exact (succeeding (h.start _)).bind fun _ => .pure _
  | stop => exact (succeeding Blunt.stop).bind fun _ => .pure _
  | reset id source => exact succeeding (h.resetBrain _ _)
  | setModule id moduleId source => exact succeeding (h.sessionSetModule _ _ _)
  | updateBytes id agent state memory length wanted => exact updates _ _ _ _ _ _
  | update id agent state wanted =>
    change Act.Calls allowed (Prod.fst <$> updateWork id agent state none 0 wanted)
    rw [← bind_pure_comp]
    exact (updates _ _ _ _ _ _).map Prod.fst
  | evaluate source => exact (succeeding (h.evaluate _)).bind fun _ => .pure _
  | evaluateToInteger source => exact h.evaluateToInteger _
  | reportResult result =>
    cases lastReporter with
    | some reporter => exact (h.report reporter _).bind fun _ => .pure _
    | none =>
      have measured : (Failure.service (.noCurrentUser (decoded result))).Measured := trivial
      exact h.measured measured
  | setHook hook on => exact .modify _

end

variable (h : Candid allowed) (hresult : ∀ json, allowed (.result json))
include h

theorem relayed_calls {callback : Callback} (hcallback : allowed callback) :
    Act.Calls allowed (relayed callback : Act E K Reply) := by
  have forwards (texts : List String) (target message : String) :
      Act.Calls allowed (forward texts target message callback : Act E K Reply) :=
    .ite (fun _ => (Act.Calls.modify _).bind fun _ => .pure _) fun _ => .invoke hcallback
  have reads (actor field : Nat) : Act.Calls allowed (readString actor field : Act E K Reply) := by
    refine Act.Calls.get.bind fun w => (Act.Calls.modify _).bind fun _ =>
      (Act.Calls.invoke (h.fillString actor field _)).bind fun reply => ?_
    dsimp only
    split <;> exact (Act.Calls.pure _).bind fun _ => (Act.Calls.modify _).bind fun _ => .pure _
  have relayed := relays (E := E) (K := K) callback
  generalize Boundary.relayed callback = m at relayed ⊢
  cases relayed with
  | invoked => exact .invoke hcallback
  | forwarded => exact forwards _ _ _
  | read => exact reads _ _
  | service =>
    split
    · exact (Act.Calls.modify _).bind fun _ => forwards _ _ _
    · exact forwards _ _ _

theorem relay_alikeOn {link link' : Link E K} (alike : AlikeOn allowed link link') :
    AlikeOn allowed (relay link) (relay link') := fun _ hcallback => relayed_calls h hcallback link link' alike

include hresult

theorem call_calls (call : Call) : Act.Calls allowed (call.act : Act E K call.Answer) := by
  intro link link' alike
  funext w
  cases hbusy : busy (call.use w.boundary.lastReporter) w.boundary.holding with
  | true =>
    rw [Call.act_apply, Call.act_apply]
    obtain ⟨journal, hread⟩ := call.read_eq w
    have hbusy : busy (call.use w.boundary.lastReporter) (call.read w).boundary.holding = true := by
      rw [hread]
      exact hbusy
    rw [withRuntime_refused hbusy, withRuntime_refused hbusy]
  | false =>
    rw [Call.act_granted link hbusy, Call.act_granted link' hbusy, Call.letIn, Call.letIn,
      work_calls h.toBlunt hresult _ call (relay link) (relay link') (relay_alikeOn h alike)]

theorem code_calls (code : Code S) : Act.Calls allowed (code.act : Act E (Coded E S) Reply) := by
  induction code with
  | finish reply => exact .pure _
  | think change next ih => exact (Act.Calls.modify _).bind fun _ => Act.Calls.get.bind fun w => ih _
  | call asked next ih =>
    have asks : Act.Calls allowed (ask asked : Act E (Coded E S) asked.Answer) := by
      intro link link' alike
      funext w
      rw [ask, ask, call_calls h hresult asked link link' alike]
    exact asks.bind ih

end Boundary

end BrainHost
