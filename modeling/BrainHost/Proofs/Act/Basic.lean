import BrainHost.Session

/-! # How operations run

One equation for each way to build an operation, and what it means that all states an operation
can end in have a property. -/

namespace BrainHost

namespace Outcome

variable {σ τ α β γ : Type}

def bind (o : Outcome σ α) (f : α → σ → Outcome σ β) : Outcome σ β :=
  match o with
  | .done a w => f a w
  | .fault w => .fault w
  | .stuck => .stuck

/-- The state that an operation ends in has a property, if it ends. -/
def Ends (P : σ → Prop) : Outcome σ α → Prop
  | .done _ w => P w
  | .fault w => P w
  | .stuck => True

instance (P : σ → Prop) [DecidablePred P] (o : Outcome σ α) : Decidable (o.Ends P) :=
  match o with
  | .done _ w => inferInstanceAs (Decidable (P w))
  | .fault w => inferInstanceAs (Decidable (P w))
  | .stuck => inferInstanceAs (Decidable True)

@[simp] theorem bind_done (a : α) (w : σ) (f : α → σ → Outcome σ β) :
    (Outcome.done a w).bind f = f a w := rfl
@[simp] theorem bind_fault (w : σ) (f : α → σ → Outcome σ β) :
    (Outcome.fault w).bind f = .fault w := rfl
@[simp] theorem bind_stuck (f : α → σ → Outcome σ β) : (Outcome.stuck).bind f = .stuck := rfl

@[simp] theorem settle_done (cleanup : σ → τ) (a : α) (w : σ) :
    (Outcome.done a w).settle cleanup = .done a (cleanup w) := rfl
@[simp] theorem settle_fault (cleanup : σ → τ) (w : σ) :
    (Outcome.fault w : Outcome σ α).settle cleanup = .fault (cleanup w) := rfl
@[simp] theorem settle_stuck (cleanup : σ → τ) :
    (Outcome.stuck : Outcome σ α).settle cleanup = .stuck := rfl

@[simp] theorem ends_done (P : σ → Prop) (a : α) (w : σ) : (Outcome.done a w).Ends P ↔ P w :=
  Iff.rfl
@[simp] theorem ends_fault (P : σ → Prop) (w : σ) : (Outcome.fault w : Outcome σ α).Ends P ↔ P w :=
  Iff.rfl
@[simp] theorem ends_stuck (P : σ → Prop) : (Outcome.stuck : Outcome σ α).Ends P ↔ True := Iff.rfl

theorem bind_assoc (o : Outcome σ α) (f : α → σ → Outcome σ β) (g : β → σ → Outcome σ γ) :
    (o.bind f).bind g = o.bind fun a w => (f a w).bind g := by
  cases o <;> rfl

theorem bind_eq_done {o : Outcome σ α} {f : α → σ → Outcome σ β} {b : β} {v : σ} :
    o.bind f = .done b v ↔ ∃ a w, o = .done a w ∧ f a w = .done b v := by
  constructor
  · intro h
    cases o with
    | done a w => exact ⟨a, w, rfl, h⟩
    | fault w => cases h
    | stuck => cases h
  · rintro ⟨a, w, rfl, h⟩
    exact h

theorem settle_eq_done {cleanup : σ → τ} {o : Outcome σ α} {a : α} {v : τ} :
    o.settle cleanup = .done a v ↔ ∃ w, o = .done a w ∧ v = cleanup w := by
  cases o with
  | done b w =>
    simp only [settle_done, done.injEq]
    constructor
    · rintro ⟨rfl, rfl⟩
      exact ⟨w, ⟨rfl, rfl⟩, rfl⟩
    · rintro ⟨_, ⟨rfl, rfl⟩, rfl⟩
      exact ⟨rfl, rfl⟩
  | fault w => simp
  | stuck => simp

theorem Ends.mono {P Q : σ → Prop} {o : Outcome σ α} (h : o.Ends P) (hPQ : ∀ w, P w → Q w) :
    o.Ends Q := by
  cases o with
  | done a w => exact hPQ w h
  | fault w => exact hPQ w h
  | stuck => trivial

theorem Ends.and {P Q : σ → Prop} {o : Outcome σ α} (hP : o.Ends P) (hQ : o.Ends Q) :
    o.Ends fun w => P w ∧ Q w := by
  cases o with
  | done a w => exact ⟨hP, hQ⟩
  | fault w => exact ⟨hP, hQ⟩
  | stuck => trivial

theorem ends_of_forall {P : σ → Prop} (h : ∀ w, P w) (o : Outcome σ α) : o.Ends P := by
  cases o with
  | done a w => exact h w
  | fault w => exact h w
  | stuck => trivial

theorem Ends.bind {P Q : σ → Prop} {o : Outcome σ α} {f : α → σ → Outcome σ β} (h : o.Ends P)
    (hf : ∀ a w, P w → (f a w).Ends Q) (hQ : ∀ w, P w → Q w) : (o.bind f).Ends Q := by
  cases o with
  | done a w => exact hf a w h
  | fault w => exact hQ w h
  | stuck => trivial

theorem Ends.settle {P : σ → Prop} {Q : τ → Prop} {cleanup : σ → τ} {o : Outcome σ α} (h : o.Ends P)
    (hQ : ∀ w, P w → Q (cleanup w)) : (o.settle cleanup).Ends Q := by
  cases o with
  | done a w => exact hQ w h
  | fault w => exact hQ w h
  | stuck => trivial

theorem Ends.imp {p : Prop} {P : σ → Prop} {o : Outcome σ α} (h : p → o.Ends P) :
    o.Ends fun w => p → P w := by
  cases o with
  | done a w => exact h
  | fault w => exact h
  | stuck => trivial

end Outcome

namespace Act

variable {E : Engine} {K : HostKind} {α β γ : Type} (link : Link E K) (w : World E K)

@[simp] theorem pure_apply (a : α) : (pure a : Act E K α) link w = .done a w := rfl

theorem bind_apply (m : Act E K α) (f : α → Act E K β) :
    (m >>= f) link w = (m link w).bind fun a w => f a link w := by
  cases h : m link w <;> simp only [Bind.bind, h, Outcome.bind]

theorem bind_eq_done {m : Act E K α} {f : α → Act E K β} {link : Link E K} {w v : World E K} {b : β} :
    (m >>= f) link w = .done b v ↔ ∃ a u, m link w = .done a u ∧ f a link u = .done b v := by
  rw [bind_apply, Outcome.bind_eq_done]

@[simp] theorem get_apply : (get : Act E K (World E K)) link w = .done w w := rfl
@[simp] theorem modify_apply (f : World E K → World E K) : modify f link w = .done () (f w) := rfl
@[simp] theorem fault_apply : (fault : Act E K α) link w = .fault w := rfl
@[simp] theorem stuck_apply : (stuck : Act E K α) link w = .stuck := rfl
@[simp] theorem invoke_apply (callback : Callback) : invoke callback link w = link callback w := rfl

theorem catchFault_apply (m handler : Act E K α) :
    m.catchFault handler link w =
      match m link w with
      | .done a w => .done a w
      | .fault w => handler link w
      | .stuck => .stuck := rfl

theorem isSet_apply (hook : Hook) :
    (isSet hook : Act E K Bool) link w = .done (w.hooks.isSet hook) w := rfl

theorem ensuring_apply (m : Act E K α) (cleanup : World E K → World E K) (link : Link E K)
    (w : World E K) :
    m.ensuring cleanup link w = (m link w).settle cleanup := rfl

def logged (severity : Severity) (target message : String) (w : World E K) : World E K :=
  { w with journal := w.journal.push (.logged ⟨severity, target, message⟩) }

theorem record_apply (severity : Severity) (target message : String) :
    record severity target message link w = .done () (logged severity target message w) := rfl

def checked (check : Except Rejection Unit) (w : World E K) : World E K :=
  match check with
  | .ok () => w
  | .error cause => logged .warn "brain" cause.message w

theorem warnOf_apply (check : Except Rejection Unit) :
    warnOf check link w = .done check (checked check w) := by
  rcases check with cause | ⟨⟩ <;> rfl

theorem checkText_apply (limit : Limit) (text : String) :
    checkText limit text link w = .done (limit.check text) (checked (limit.check text) w) :=
      warnOf_apply ..

theorem map_pure (m : Act E K α) : (m >>= fun a => pure a) = m := by
  funext link w
  rw [bind_apply]
  cases m link w <;> rfl

theorem bind_assoc' (m : Act E K α) (f : α → Act E K β) (g : β → Act E K γ) :
    (m >>= f) >>= g = m >>= fun a => f a >>= g := by
  funext link w
  simp only [bind_apply, Outcome.bind_assoc]

instance : LawfulMonad (Act E K) :=
  LawfulMonad.mk' _ (fun m => map_pure m) (fun _ _ => rfl) (fun m f g => bind_assoc' m f g)

/-- Serves what a run asks for. What its context is like meanwhile does not matter to what it ends with. -/
def carryOut (s : Surroundings E) : Run E.Context E.Value α → Act E K α
  | .done a => pure a
  | .ask request _ resume => do carryOut s (resume (← serve s request))
  | .stuck => stuck

end Act

namespace Attempt

variable {E : Engine} {K : HostKind} {α β : Type}

theorem run_bind (m : Attempt E K α) (f : α → Attempt E K β) :
    (m >>= f).run = m.run >>= fun r => match r with
      | .ok a => (f a).run
      | .error failure => pure (.error failure) := by
  rw [ExceptT.run_bind]
  congr 1
  funext r
  cases r <;> rfl

theorem get_bind_apply (f : World E K → Attempt E K α) (link : Link E K) (w : World E K) :
    (Attempt.get >>= f).run link w = (f w).run link w := rfl

end Attempt

namespace Inside

variable {E : Engine} {K : HostKind} {α β : Type} {m : Inside E K α} (s : Surroundings E) (c : E.Context)

theorem run_apply (m : Inside E K α) (link : Link E K) (w : World E K) :
    m.run c link w = match m c link w with
      | .done r scene => .done (r, scene.1) scene.2
      | .fault scene => .fault scene.2
      | .stuck => .stuck := by
  unfold run
  cases m c link w <;> rfl

theorem run_eq_done {c c' : E.Context} {link : Link E K} {w v : World E K} {r : Except Failure α} :
    m.run c link w = .done (r, c') v ↔ m c link w = .done r (c', v) := by
  rw [run_apply]
  cases m c link w with
  | done r' scene => simp [Prod.ext_iff, and_assoc]
  | fault scene => simp
  | stuck => simp

theorem run_ends {m : Inside E K α} {P : World E K → Prop} {link : Link E K} {w : World E K} :
    (m.run c link w).Ends P ↔ (m c link w).Ends fun scene => P scene.2 := by
  rw [run_apply]
  cases m c link w <;> exact Iff.rfl

theorem bind_apply (m : Inside E K α) (f : α → Inside E K β) (link : Link E K) (w : World E K) :
    (m >>= f) c link w = (m c link w).bind fun r scene => match r with
      | .ok a => f a scene.1 link scene.2
      | .error failure => .done (.error failure) scene := by
  simp only [Bind.bind]
  cases m c link w with
  | done r scene => cases r <;> rfl
  | fault scene => rfl
  | stuck => rfl

theorem lift_apply (m : Act E K α) (link : Link E K) (w : World E K) :
    (liftM m : Inside E K α) c link w =
      ((m link w).settle fun v => (c, v)).bind fun a scene => .done (.ok a) scene := by
  simp only [liftM, monadLift, MonadLift.monadLift]
  cases m link w <;> rfl

theorem run_bind (m : Inside E K α) (f : α → Inside E K β) :
    (m >>= f).run c = m.run c >>= fun (r, c) => match r with
      | .ok a => (f a).run c
      | .error failure => pure (.error failure, c) := by
  funext link w
  rw [run_apply, bind_apply, Act.bind_apply, run_apply]
  cases m c link w with
  | done r scene =>
    cases r with
    | ok a => exact (run_apply scene.1 (f a) link scene.2).symm
    | error failure => rfl
  | fault scene => rfl
  | stuck => rfl

theorem run_lift (m : Act E K α) :
    (liftM m : Inside E K α).run c = m >>= fun a => pure (.ok a, c) := by
  funext link w
  rw [run_apply, lift_apply, Act.bind_apply]
  cases m link w <;> rfl

theorem run_carryOut (run : Run E.Context E.Value (E.Context × α)) :
    (Inside.carryOut s run : Inside E K α).run c =
      Act.carryOut s run >>= fun p => pure (.ok p.2, p.1) := by
  induction run generalizing c with
  | done p => rfl
  | ask request meanwhile resume ih =>
    rw [Inside.carryOut, run_bind, Act.carryOut, bind_assoc]
    change (liftM (Act.serve s request) >>= fun answer => Inside.carryOut s (resume answer) : Inside E K α).run
      meanwhile = _
    rw [run_bind, run_lift, bind_assoc]
    congr 1
    funext answer
    exact ih answer meanwhile
  | stuck => rfl

theorem run_perform (run : E.Context → Run E.Context E.Value (E.Context × α)) :
    (Inside.perform s run : Inside E K α).run c =
      Act.carryOut s (run c) >>= fun p => pure (.ok p.2, p.1) := run_carryOut s c (run c)

theorem run_closing (m : Inside E K α) (close : E.Context → E.Context × β) :
    (Inside.closing m close).run c = m.run c >>= fun p => pure (.ok (p.1, (close p.2).2), (close p.2).1) := by
  funext link w
  rw [Act.bind_apply]
  unfold run closing
  cases m c link w <;> rfl

theorem closing_ends {P Q : E.Context × World E K → Prop} {close : E.Context → E.Context × β} {link : Link E K}
    {w : World E K} (h : (m c link w).Ends P) (hQ : ∀ c w, P (c, w) → Q ((close c).1, w)) :
    ((Inside.closing m close) c link w).Ends Q := by
  unfold Inside.closing
  cases ho : m c link w with
  | done r scene => rw [ho] at h; exact hQ scene.1 scene.2 h
  | fault scene => rw [ho] at h; exact hQ scene.1 scene.2 h
  | stuck => trivial

end Inside

theorem Attempt.lend_apply {E : Engine} {K : HostKind} {α : Type} (c : E.Context) (m : Inside E K α)
    (putBack : E.Context → World E K → World E K) (link : Link E K) (w : World E K) :
    (Attempt.lend c m putBack).run link w = (m c link w).settle fun scene => putBack scene.1 scene.2 := rfl

/-! ## Entering brains -/

variable {E : Engine} {K : HostKind} {α : Type}

def busy (number : Nat) (w : World E K) : World E K :=
  { w with brains := w.brains.modify number fun b => { b with context := none } }

def rested (number : Nat) (c : E.Context) (w : World E K) : World E K :=
  { w with brains := w.brains.modify number fun b => { b with context := some c } }

theorem Brain.enter_apply (number : Nat) (m : Brain E → Inside E K α) (link : Link E K)
    (w : World E K) :
    (Brain.enter number m).run link w =
      match w.brains[number]?.bind fun b => b.context.map (b, ·) with
      | none => .fault w
      | some (b, c) => ((m b) c link (busy number w)).settle fun scene => rested number scene.1 scene.2 := by
  have got : (Attempt.get : Attempt E K (World E K)).run link w = .done (.ok w) w := rfl
  unfold Brain.enter
  rw [Attempt.run_bind, Act.bind_apply, got, Outcome.bind_done]
  cases hfound : w.brains[number]?.bind fun b => b.context.map (b, ·) with
  | none =>
    simp only [hfound]
    rfl
  | some p =>
    obtain ⟨b, c⟩ := p
    simp only [hfound]
    -- The brain lends its context to the operation and gets it back, however that ends.
    exact Attempt.lend_apply c (m b) (rested number) link (busy number w)

end BrainHost
