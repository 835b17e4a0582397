import BrainHost.Proofs.Message.Bounded

/-! # Messages of runs

A host that takes note of every call of its functions finds no message in its notes that is too long, but
for errors that quote. Only calls that are made get into the notes, and a call that an operation does not
make might as well never return. -/

namespace BrainHost

variable {E : Engine} {K : HostKind} {S α : Type} {allowed : Callback → Prop}

/-! ## What the host keeps -/

/-- Conduct: what the host has is changed by its own functions only. -/
def hosting (E : Engine) {K : HostKind} (I : K.State → Prop) : Conduct E K where
  admits link := ∀ callback w, (link callback w).Ends fun v => I w.host → I v.host
  rel w v := I w.host → I v.host
  refl _ h := h
  trans h₁ h₂ h := h₂ (h₁ h)

namespace hosting

variable {I : K.State → Prop}

theorem lax : (hosting E I).Lax where
  logged _ _ h := h
  invoke callback _ hl w := hl callback w
  serving _ _ _ _ h := h

theorem free : (hosting E I).Free :=
  .of_table lax.loud lax.callService (fun _ _ _ _ h => h) (fun _ h => h) fun _ _ => trivial

theorem deed (deed : Deed) : Act.Keeps (hosting E I) (deed.act : Act E K _) := by
  cases deed with
  | call bridge service args => exact lax.callService bridge service args
  | report reporter result => exact lax.report reporter result
  | assign hook on => exact Act.Keeps.modify fun w h => h
  | operate op => exact op.keeps free

end hosting

/-- The link whose calls never return unless they are allowed. -/
noncomputable def Link.only (allowed : Callback → Prop) (link : Link E K) : Link E K :=
  open Classical in fun callback w => if allowed callback then link callback w else .stuck

theorem Act.Calls.only {m : Act E K α} (hm : m.Calls allowed) (link : Link E K) :
    m link = m (link.only allowed) :=
  hm link (link.only allowed) fun callback hcallback => by
    funext w
    exact (if_pos hcallback).symm

theorem Link.only_ends {link : Link E K} {P : World E K → World E K → Prop}
    (h : ∀ callback, allowed callback → ∀ w, (link callback w).Ends (P w)) (callback : Callback)
    (w : World E K) : (link.only allowed callback w).Ends (P w) := by
  unfold Link.only
  split
  · next hcallback => exact h callback hcallback w
  · trivial

/-! ## Hosts that play by plans -/

/-- The notes since some time tell of no calls but those allowed. -/
def Since (allowed : Callback → Prop) (past : List Moment) (mind : Mind S) : Prop :=
  ∃ moments, mind.chronicle = moments ++ past ∧
    ∀ moment ∈ moments, ∀ callback, moment.turn = .entered callback → allowed callback

namespace Since

variable {past : List Moment}

theorem noted {turn : Turn} (hturn : ∀ callback, turn = .entered callback → allowed callback)
    {w : World E (Minded S)} (h : Since allowed past w.host) :
    Since allowed past (BrainHost.noted turn w).host := by
  obtain ⟨moments, hchronicle, hmoments⟩ := h
  refine ⟨w.moment turn :: moments, congrArg (w.moment turn :: ·) hchronicle, ?_⟩
  exact List.forall_mem_cons.mpr ⟨hturn, hmoments⟩

theorem plan (plan : Plan S) :
    Act.Keeps (hosting E (Since allowed past)) (plan.act : Act E (Minded S) Reply) := by
  have notes (turn : Turn) (hturn : ∀ callback, turn ≠ .entered callback) :
      Act.Keeps (hosting E (Since allowed past)) (note turn : Act E (Minded S) Unit) :=
    Act.Keeps.modify fun w h => h.noted fun callback heq => absurd heq (hturn callback)
  induction plan with
  | finish reply => exact Act.Keeps.pure reply
  | think change next ih =>
    exact (Act.Keeps.modify fun w h => h).bind fun _ => Act.Keeps.get.bind fun w => ih _
  | ask asked next ih =>
    exact (notes _ (by simp)).bind fun _ => (hosting.deed asked).bind fun answer =>
      (notes _ (by simp)).bind fun _ => ih answer
  | panic => exact Act.Keeps.fault
  | rescue risky next ihrisky ihnext =>
    exact (ihrisky.catchFault (Act.Keeps.pure _)).bind fun _ => ihnext

theorem attend {callback : Callback} (hcallback : allowed callback) (plan : Plan S) :
    Act.Keeps (hosting E (Since allowed past)) (attend callback plan) := by
  intro link hl w
  rw [attend_apply]
  have performed : Act.Keeps (hosting E (Since allowed past)) (plan.perform callback) := by
    refine (Act.Keeps.modify fun w h => h.noted fun other heq => ?_).bind fun _ =>
      (Since.plan plan).bind fun reply => (Act.Keeps.modify fun w h => h.noted ?_).bind fun _ => .pure _
    · cases heq
      exact hcallback
    · simp
  exact (performed link hl (entering callback w)).settle fun v hv => hv

theorem link (h : Candid allowed) (hresult : ∀ json, allowed (.result json)) (host : Host S) (depth : Nat) :
    (hosting E (Since allowed past)).admits ((host.link depth).only allowed) := by
  -- The functions that a host function calls are those below it, and of these only allowed ones matter.
  induction depth with
  | zero => exact Link.only_ends fun _ _ _ => trivial
  | succ depth ih =>
    refine Link.only_ends fun callback hcallback w => ?_
    have performs : Act.Calls allowed ((host callback).perform callback : Act E (Minded S) _) :=
      (Act.Calls.modify _).bind fun _ => (h.plan hresult _).bind fun _ => (Act.Calls.modify _).bind fun _ =>
        .pure _
    have attends : Act.Calls allowed (BrainHost.attend callback (host callback) : Act E (Minded S) _) :=
      (Act.Calls.modify _).bind fun _ => performs.ensuring _
    change (BrainHost.attend callback (host callback) (host.link depth) w).Ends _
    rw [attends.only]
    exact attend hcallback (host callback) _ ih w

end Since

theorem hosting.call {I : K.State → Prop} (call : Boundary.Call) :
    Act.Keeps (hosting E I) (call.act : Act E K call.Answer) := by
  have works (lastReporter : Option Nat) :
      Act.Keeps (hosting E I) (call.work lastReporter : Act E K call.Answer) :=
    Boundary.Call.work_keeps_of_free free (fun _ _ _ _ h => h) fun _ _ _ _ => lax.report _ _
  have relays (link : Link E K) (hl : (hosting E I).admits link) :
      (hosting E I).admits (Boundary.relay link) :=
    fun callback => Boundary.Relayed.lax lax (fun _ _ _ h => h) callback link hl
  exact Boundary.Call.act_keeps lax (fun _ _ h => h) relays works

namespace Boundary

/-- The notes since some time tell of no calls but those allowed. -/
def Since (allowed : Callback → Prop) (past : List (Moment E)) (mind : Mind E S) : Prop :=
  ∃ moments, mind.chronicle = moments ++ past ∧
    ∀ moment ∈ moments, ∀ callback, moment.turn = .entered callback → allowed callback

namespace Since

variable {past : List (Moment E)}

theorem noted {turn : Turn E} (hturn : ∀ callback, turn = .entered callback → allowed callback)
    {w : World E (Coded E S)} (h : Since allowed past w.host) :
    Since allowed past (Boundary.noted turn w).host := by
  obtain ⟨moments, hchronicle, hmoments⟩ := h
  refine ⟨moment turn w :: moments, congrArg (moment turn w :: ·) hchronicle, ?_⟩
  exact List.forall_mem_cons.mpr ⟨hturn, hmoments⟩

theorem noting : Noting (S := S) (hosting E (Since allowed past)) where
  own _ _ _ h := h
  noted _ _ hturn h := h.noted fun callback heq => absurd heq (hturn callback)

theorem code (code : Code S) :
    Act.Keeps (hosting E (Since allowed past)) (code.act : Act E (Coded E S) Reply) :=
  noting.code (fun call _ => hosting.call call) (code.only_of_all fun _ => trivial)

theorem link (h : Candid allowed) (hresult : ∀ json, allowed (.result json)) (host : Callback → Code S)
    (depth : Nat) : (hosting E (Since allowed past)).admits ((Boundary.link host depth).only allowed) := by
  induction depth with
  | zero => exact Link.only_ends fun _ _ _ => trivial
  | succ depth ih =>
    refine Link.only_ends fun callback hcallback w => Outcome.Ends.imp fun hw => ?_
    have enters : Since allowed past (Boundary.noted (.entered callback) w).host :=
      hw.noted fun other heq => by
        cases heq
        exact hcallback
    change (((host callback).act (Boundary.link host depth) (Boundary.noted (.entered callback) w)).bind _).Ends _
    rw [(code_calls h hresult (host callback)).only]
    have ran := Since.code (host callback) _ ih (Boundary.noted (.entered callback) w)
    exact (ran.mono fun v hv => hv enters).bind (fun reply v hv => hv.noted (by simp)) fun v hv => hv

end Since

end Boundary

end BrainHost
