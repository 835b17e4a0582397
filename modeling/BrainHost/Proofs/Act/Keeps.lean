import BrainHost.Proofs.Act.Basic

/-! # What operations keep

A conduct relates the states before and after an operation, for links of some kind. The conduct of
a whole operation follows from that of its parts. -/

namespace BrainHost

/-- How operations may change the state, when host functions are called by a link of a kind. -/
structure Conduct (E : Engine) (K : HostKind) where
  admits : Link E K → Prop
  rel : World E K → World E K → Prop
  refl : ∀ w, rel w w
  trans : ∀ {u v w}, rel u v → rel v w → rel u w
  /-- What may happen to the context of a brain while it is lent to an operation. -/
  onward : E.Context → E.Context → Prop := fun _ _ => True

variable {E : Engine} {K : HostKind} {α β : Type}

def Act.Keeps (D : Conduct E K) (m : Act E K α) : Prop :=
  ∀ link, D.admits link → ∀ w, (m link w).Ends (D.rel w)

def Attempt.Keeps (D : Conduct E K) (m : Attempt E K α) : Prop := Act.Keeps D m.run

def Inside.Keeps (D : Conduct E K) (m : Inside E K α) : Prop := ∀ c, Act.Keeps D (m.run c)

variable {D : Conduct E K}

namespace Act.Keeps

theorem pure (a : α) : Keeps D (Pure.pure a : Act E K α) := fun _ _ w => D.refl w

theorem bind_of {m : Act E K α} {f : α → Act E K β} (hm : Keeps D m)
    (hf : ∀ a, (∃ link w v, m link w = .done a v) → Keeps D (f a)) : Keeps D (m >>= f) := by
  intro link hl w
  have first := hm link hl w
  rw [bind_apply]
  cases ho : m link w with
  | done a v =>
    rw [ho] at first
    exact (hf a ⟨link, w, v, ho⟩ link hl v).mono fun _ => D.trans first
  | fault v => rwa [ho] at first
  | stuck => trivial

theorem bind {m : Act E K α} {f : α → Act E K β} (hm : Keeps D m) (hf : ∀ a, Keeps D (f a)) :
    Keeps D (m >>= f) := hm.bind_of fun a _ => hf a

theorem get : Keeps D (Act.get : Act E K (World E K)) := fun _ _ w => D.refl w

theorem fault : Keeps D (Act.fault : Act E K α) := fun _ _ w => D.refl w

theorem stuck : Keeps D (Act.stuck : Act E K α) := fun _ _ _ => trivial

theorem modify {f : World E K → World E K} (h : ∀ w, D.rel w (f w)) : Keeps D (Act.modify f) :=
  fun _ _ w => h w

theorem map {m : Act E K α} (hm : Keeps D m) (f : α → β) :
    Keeps D (m >>= fun a => Pure.pure (f a)) :=
  hm.bind fun a => pure (f a)

theorem ite {p : Prop} [Decidable p] {m n : Act E K α} (hm : Keeps D m) (hn : Keeps D n) :
    Keeps D (if p then m else n) := by
  split
  · exact hm
  · exact hn

theorem catchFault {m n : Act E K α} (hm : Keeps D m) (hn : Keeps D n) :
    Keeps D (m.catchFault n) := by
  intro link hl w
  have first := hm link hl w
  unfold Act.catchFault
  cases ho : m link w with
  | done a v => rw [ho] at first; exact first
  | fault v => rw [ho] at first; exact (hn link hl v).mono fun _ => D.trans first
  | stuck => trivial

theorem isSet (hook : Hook) : Keeps D (Act.isSet hook : Act E K Bool) := get.bind fun _ => pure _

theorem lastResult (bridge : Nat) : Keeps D (Act.lastResult bridge : Act E K (Option String)) :=
  get.bind fun _ => pure _

end Act.Keeps

namespace Attempt.Keeps

theorem pure (a : α) : Keeps D (Pure.pure a : Attempt E K α) := Act.Keeps.pure _

theorem throw (failure : Failure) : Keeps D (throw failure : Attempt E K α) := Act.Keeps.pure _

theorem bind {m : Attempt E K α} {f : α → Attempt E K β} (hm : Keeps D m)
    (hf : ∀ a, Keeps D (f a)) :
    Keeps D (m >>= f) := by
  unfold Keeps
  rw [run_bind]
  refine Act.Keeps.bind hm fun r => ?_
  cases r with
  | ok a => exact hf a
  | error failure => exact Act.Keeps.pure _

theorem throw_bind (failure : Failure) (f : α → Attempt E K β) :
    Keeps D (MonadExcept.throw failure >>= f : Attempt E K β) := Act.Keeps.pure _

theorem lift {m : Act E K α} (hm : Act.Keeps D m) : Keeps D (liftM m : Attempt E K α) := hm.map _

theorem get : Keeps D (Attempt.get : Attempt E K (World E K)) := lift Act.Keeps.get

theorem fault : Keeps D (Attempt.fault : Attempt E K α) := lift Act.Keeps.fault

theorem modify {f : World E K → World E K} (h : ∀ w, D.rel w (f w)) : Keeps D (Attempt.modify f) :=
  lift (Act.Keeps.modify h)

theorem inside {m : Inside E K α} (hm : Inside.Keeps D m) (c : E.Context) :
    Keeps D (Attempt.inside c m) := lift (hm c)

theorem attempt_bind {m : Attempt E K α} {f : Except Failure α → Attempt E K β} (hm : Keeps D m)
    (hf : ∀ r, (∃ link w v, m.run link w = .done r v) → Keeps D (f r)) :
    Keeps D (Attempt.attempt m >>= f) := by
  have same : (Attempt.attempt m >>= f).run = m.run >>= fun r => (f r).run := by
    have noted : (Attempt.attempt m).run = m.run >>= fun r => Pure.pure (Except.ok r) := rfl
    rw [run_bind, noted, bind_assoc]
    rfl
  unfold Keeps
  rw [same]
  exact Act.Keeps.bind_of hm hf

theorem finish (r : Except Failure α) : Keeps D (Attempt.finish r : Attempt E K α) := by
  cases r with
  | ok a => exact pure a
  | error failure => exact throw failure

theorem orReject {check : Act E K (Except Rejection Unit)} (hc : Act.Keeps D check) :
    Keeps D (Attempt.orReject check) :=
  (lift hc).bind fun r => by
    cases r with
    | ok u => exact pure _
    | error cause => exact throw _

theorem find (id : String) : Keeps D (Registry.find id : Attempt E K Nat) := by
  refine get.bind fun w => ?_
  split
  · exact pure _
  · exact throw _

theorem scratchMake (config : EngineConfig) :
    Keeps D (Scratch.make config : Attempt E K E.Context) := by
  unfold Scratch.make
  split
  · exact pure _
  · exact throw _

theorem life : Keeps D (Session.life : Attempt E K (Life E)) := by
  refine get.bind fun w => ?_
  split
  · exact pure _
  · exact throw _

theorem engineConfig : Keeps D (Session.engineConfig : Attempt E K EngineConfig) :=
  get.bind fun _ => pure _

theorem validateConfig : Keeps D (Session.validateConfig : Attempt E K Unit) := by
  refine engineConfig.bind fun config => ?_
  split
  · exact pure _
  · exact throw _

end Attempt.Keeps

namespace Inside.Keeps

theorem pure (a : α) : Keeps D (Pure.pure a : Inside E K α) := fun _ => Act.Keeps.pure _

theorem throw (failure : Failure) : Keeps D (throw failure : Inside E K α) :=
  fun _ => Act.Keeps.pure _

theorem bind {m : Inside E K α} {f : α → Inside E K β} (hm : Keeps D m) (hf : ∀ a, Keeps D (f a)) :
    Keeps D (m >>= f) := by
  intro c
  rw [run_bind]
  refine (hm c).bind fun p => ?_
  obtain ⟨r, c⟩ := p
  cases r with
  | ok a => exact hf a c
  | error failure => exact Act.Keeps.pure _

theorem lift {m : Act E K α} (hm : Act.Keeps D m) : Keeps D (liftM m : Inside E K α) := fun c => by
  rw [run_lift]
  exact hm.map _

theorem inspect (f : E.Context → α) : Keeps D (Inside.inspect f : Inside E K α) := fun _ => Act.Keeps.pure _

theorem change (f : E.Context → E.Context × α) : Keeps D (Inside.change f : Inside E K α) :=
  fun _ => Act.Keeps.pure _

theorem stuck : Keeps D (Inside.stuck : Inside E K α) := lift Act.Keeps.stuck

theorem perform {s : Surroundings E} {run : E.Context → Run E.Context E.Value (E.Context × α)}
    (h : ∀ c, Act.Keeps D (Act.carryOut s (run c))) : Keeps D (Inside.perform s run : Inside E K α) := fun c => by
  rw [run_perform]
  exact (h c).map _

theorem closing {m : Inside E K α} (hm : Keeps D m) (close : E.Context → E.Context × β) :
    Keeps D (Inside.closing m close) := fun c => by
  rw [run_closing]
  exact (hm c).map _

end Inside.Keeps

end BrainHost
