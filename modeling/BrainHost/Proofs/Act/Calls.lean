import BrainHost.Proofs.Act.Keeps
import BrainHost.Proofs.Act.Plain
import BrainHost.Proofs.Service.Call

/-! # Which host functions operations call

An operation calls none but certain host functions if it does the same however all others are called.
That says more than what a host takes note of: it holds of operations that never end as well. -/

namespace BrainHost

variable {E : Engine} {K : HostKind} {α β : Type} {allowed : Callback → Prop}

/-- Two links that make the allowed calls in the same way. -/
def AlikeOn (allowed : Callback → Prop) (link link' : Link E K) : Prop :=
  ∀ callback, allowed callback → link callback = link' callback

/-- An operation that makes no calls but those allowed. -/
def Act.Calls (allowed : Callback → Prop) (m : Act E K α) : Prop :=
  ∀ link link', AlikeOn allowed link link' → m link = m link'

def Attempt.Calls (allowed : Callback → Prop) (m : Attempt E K α) : Prop := Act.Calls allowed m.run

def Inside.Calls (allowed : Callback → Prop) (m : Inside E K α) : Prop :=
  ∀ link link', AlikeOn allowed link link' → ∀ c, m c link = m c link'

namespace Act.Calls

theorem mono {allowed' : Callback → Prop} {m : Act E K α} (hm : Calls allowed m)
    (h : ∀ callback, allowed callback → allowed' callback) : Calls allowed' m :=
  fun link link' alike => hm link link' fun callback hcallback => alike callback (h callback hcallback)

theorem pure (a : α) : Calls allowed (Pure.pure a : Act E K α) := fun _ _ _ => rfl

theorem bind_of {m : Act E K α} {f : α → Act E K β} (hm : Calls allowed m)
    (hf : ∀ a, (∃ link w v, m link w = .done a v) → Calls allowed (f a)) :
    Calls allowed (m >>= f) := by
  intro link link' h
  funext w
  rw [bind_apply, bind_apply, ← hm link link' h]
  cases ho : m link w with
  | done a v => exact congrFun (hf a ⟨link, w, v, ho⟩ link link' h) v
  | fault v => rfl
  | stuck => rfl

theorem bind {m : Act E K α} {f : α → Act E K β} (hm : Calls allowed m)
    (hf : ∀ a, Calls allowed (f a)) : Calls allowed (m >>= f) := hm.bind_of fun a _ => hf a

theorem map {m : Act E K α} (hm : Calls allowed m) (f : α → β) :
    Calls allowed (m >>= fun a => Pure.pure (f a)) := hm.bind fun a => pure (f a)

theorem ite {p : Prop} [Decidable p] {m n : Act E K α} (hm : p → Calls allowed m)
    (hn : ¬ p → Calls allowed n) : Calls allowed (if p then m else n) := by
  split
  · next h => exact hm h
  · next h => exact hn h

theorem get : Calls allowed (Act.get : Act E K (World E K)) := fun _ _ _ => rfl

theorem modify (f : World E K → World E K) : Calls allowed (Act.modify f) := fun _ _ _ => rfl

theorem fault : Calls allowed (Act.fault : Act E K α) := fun _ _ _ => rfl

theorem stuck : Calls allowed (Act.stuck : Act E K α) := fun _ _ _ => rfl

theorem record (severity : Severity) (target message : String) :
    Calls allowed (Act.record severity target message : Act E K Unit) := modify _

theorem isSet (hook : Hook) : Calls allowed (Act.isSet hook : Act E K Bool) := fun _ _ _ => rfl

theorem warnOf (check : Except Rejection Unit) : Calls allowed (Act.warnOf check : Act E K _) := by
  cases check <;> exact fun _ _ _ => rfl

theorem invoke {callback : Callback} (h : allowed callback) :
    Calls allowed (Act.invoke callback : Act E K Reply) := fun _ _ alike => alike callback h

theorem catchFault {m handler : Act E K α} (hm : Calls allowed m) (hh : Calls allowed handler) :
    Calls allowed (m.catchFault handler) := by
  intro link link' h
  funext w
  rw [catchFault_apply, catchFault_apply, hm link link' h, hh link link' h]

theorem ensuring {m : Act E K α} (hm : Calls allowed m) (cleanup : World E K → World E K) :
    Calls allowed (m.ensuring cleanup) := by
  intro link link' h
  funext w
  rw [ensuring_apply, ensuring_apply, hm link link' h]

theorem notify (hook : Hook) {callback : Callback} (h : allowed callback) :
    Calls allowed (Act.notify hook callback : Act E K Unit) :=
  (isSet hook).bind fun _ => ite (fun _ => (invoke h).bind fun _ => pure _) fun _ => pure _

theorem logDebug {message : String} (h : allowed (.debug message)) :
    Calls allowed (Act.logDebug message : Act E K Unit) := notify _ h

theorem logError {message : String} (h : allowed (.error message)) :
    Calls allowed (Act.logError message : Act E K Unit) := (record _ _ _).bind fun _ => notify _ h

end Act.Calls

theorem Inside.Calls.run {m : Inside E K α} (hm : Inside.Calls allowed m) (c : E.Context) :
    Act.Calls allowed (m.run c) := fun link link' alike => funext fun w => by
  rw [Inside.run_apply, Inside.run_apply, hm link link' alike c]

namespace Attempt.Calls

theorem pure (a : α) : Calls allowed (Pure.pure a : Attempt E K α) := Act.Calls.pure _

theorem throw (failure : Failure) : Calls allowed (throw failure : Attempt E K α) := Act.Calls.pure _

theorem bind_of {m : Attempt E K α} {f : α → Attempt E K β} (hm : Calls allowed m)
    (hf : ∀ a, (∃ link w v, m.run link w = .done (.ok a) v) → Calls allowed (f a)) :
    Calls allowed (m >>= f) := by
  unfold Calls
  rw [run_bind]
  refine Act.Calls.bind_of hm fun r hr => ?_
  cases r with
  | ok a => exact hf a hr
  | error failure => exact .pure _

theorem bind {m : Attempt E K α} {f : α → Attempt E K β} (hm : Calls allowed m)
    (hf : ∀ a, Calls allowed (f a)) : Calls allowed (m >>= f) := hm.bind_of fun a _ => hf a

theorem throw_bind (failure : Failure) (f : α → Attempt E K β) :
    Calls allowed (MonadExcept.throw failure >>= f : Attempt E K β) := Act.Calls.pure _

theorem lift {m : Act E K α} (hm : Act.Calls allowed m) :
    Calls allowed (liftM m : Attempt E K α) := hm.map _

theorem get : Calls allowed (Attempt.get : Attempt E K (World E K)) := lift .get

theorem fault : Calls allowed (Attempt.fault : Attempt E K α) := lift .fault

theorem modify (f : World E K → World E K) : Calls allowed (Attempt.modify f) := lift (.modify f)

theorem record (severity : Severity) (message : String) :
    Calls allowed (Attempt.record severity message : Attempt E K Unit) := lift (.record _ _ _)

theorem inside {m : Inside E K α} (hm : Inside.Calls allowed m) (c : E.Context) :
    Calls allowed (Attempt.inside c m) := lift (hm.run c)

theorem lend {m : Inside E K α} (hm : Inside.Calls allowed m) (c : E.Context)
    (putBack : E.Context → World E K → World E K) : Calls allowed (Attempt.lend c m putBack) :=
  fun link link' alike => funext fun w => by
    rw [lend_apply, lend_apply, hm link link' alike c]

theorem attempt {m : Attempt E K α} (hm : Calls allowed m) : Calls allowed (Attempt.attempt m) :=
  Act.Calls.bind hm fun _ => .pure _

theorem finish (r : Except Failure α) : Calls allowed (Attempt.finish r : Attempt E K α) := by
  cases r with
  | ok a => exact pure a
  | error failure => exact throw failure

theorem orReject (check : Except Rejection Unit) :
    Calls allowed (Attempt.orReject (Act.warnOf check) : Attempt E K Unit) :=
  (lift (.warnOf check)).bind fun r => by
    cases r with
    | ok u => exact pure _
    | error cause => exact throw _

theorem life : Calls allowed (Session.life : Attempt E K (Life E)) := by
  refine get.bind fun w => ?_
  split
  · exact pure _
  · exact throw _

theorem engineConfig : Calls allowed (Session.engineConfig : Attempt E K EngineConfig) :=
  get.bind fun _ => pure _

theorem find (id : String) : Calls allowed (Registry.find id : Attempt E K Nat) := by
  refine get.bind fun w => ?_
  split
  · exact pure _
  · exact throw _

theorem enter {number : Nat} {m : Brain E → Inside E K α} (hm : ∀ b, Inside.Calls allowed (m b)) :
    Calls allowed (Brain.enter number m) := by
  refine get.bind fun w => ?_
  dsimp only
  split
  · exact fault
  · exact (modify _).bind fun _ => lend (hm _) _ _

end Attempt.Calls

namespace Inside.Calls

theorem pure (a : α) : Calls allowed (Pure.pure a : Inside E K α) := fun _ _ _ _ => rfl

theorem bind {m : Inside E K α} {f : α → Inside E K β} (hm : Calls allowed m)
    (hf : ∀ a, Calls allowed (f a)) : Calls allowed (m >>= f) := by
  intro link link' alike c
  funext w
  rw [bind_apply, bind_apply, ← hm link link' alike c]
  congr 1
  funext r scene
  cases r with
  | ok a => exact congrFun (hf a link link' alike scene.1) scene.2
  | error failure => rfl

theorem lift {m : Act E K α} (hm : m.Calls allowed) : Calls allowed (liftM m : Inside E K α) := by
  intro link link' alike c
  funext w
  rw [lift_apply, lift_apply, hm link link' alike]

theorem change (f : E.Context → E.Context × α) : Calls allowed (Inside.change f : Inside E K α) :=
  fun _ _ _ _ => rfl

theorem closing {m : Inside E K α} (hm : Calls allowed m) (close : E.Context → E.Context × β) :
    Calls allowed (Inside.closing m close) := fun link link' alike c => by
  unfold Inside.closing
  rw [hm link link' alike c]

theorem plain {s : Surroundings E} {jobs : Prop} {m : Inside E K α} (hm : Plain s jobs m)
    (hserve : ∀ request, Act.Calls allowed (Act.serve s request : Act E K _)) : Calls allowed m := by
  have carryOut {α : Type} (run : Run E.Context E.Value (E.Context × α)) :
      Calls allowed (Inside.carryOut s run : Inside E K α) := by
    induction run with
    | done p => exact .change _
    | ask request meanwhile resume ih => exact (Calls.change _).bind fun _ => (Calls.lift (hserve request)).bind ih
    | stuck => exact fun _ _ _ _ => rfl
  induction hm with
  | pure a => exact .pure a
  | throw hinner => exact fun _ _ _ _ => rfl
  | bind hm hf ihm ihf => exact ihm.bind ihf
  | perform hop => exact fun link link' alike c => carryOut _ link link' alike c
  | inspect f => exact fun _ _ _ _ => rfl
  | parse text => exact .change _
  | stuck => exact fun _ _ _ _ => rfl

end Inside.Calls

end BrainHost
