import BrainHost.Proofs.Boundary.Code
import BrainHost.Proofs.Service.Lax

/-! # Exclusive access

However calls of the boundary nest, a call that changes the set of brains runs alone, and the brains
stay as they are while a call runs that only uses them. -/

namespace BrainHost.Boundary

variable {E : Engine} {S : Type}

/-- A moment at which the runtime is held by those that run, and at which whoever shares it finds the
brains as they were when it was called. -/
structure Moment.Sound (m : Moment E) : Prop where
  ordered : Ordered m.running
  held : m.holding = holdingOf m.running
  settled : ∀ stay ∈ m.running, stay.holds = .sharing →
    m.shown.toStanding = stay.found.toStanding
  called : ∀ stay, m.turn = .called stay → stay.refused = busy stay.use m.holding
  returned : ∀ stay answer, m.turn = .returned stay answer →
    (stay.holds = .sharing → m.shown.toStanding = stay.found.toStanding) ∧
      (stay.refused = true → answer = stay.call.failure ∧ m.shown = stay.found)

structure Sound (w : World E (Coded E S)) : Prop where
  ordered : Ordered w.host.running
  held : w.boundary.holding = holdingOf w.host.running
  settled : ∀ stay ∈ w.host.running, stay.holds = .sharing →
    (shown w).toStanding = stay.found.toStanding
  chronicle : ∀ m ∈ w.host.chronicle, m.Sound

namespace Sound

variable {w v : World E (Coded E S)}

theorem of_same (h : Sound w) (hhost : v.host = w.host)
    (hheld : v.boundary.holding = w.boundary.holding)
    (hsettled : ∀ stay ∈ w.host.running, stay.holds = .sharing →
      (shown v).toStanding = (shown w).toStanding) : Sound v where
  ordered := hhost ▸ h.ordered
  held := by rw [hheld, hhost, h.held]
  settled stay hstay hholds := by
    rw [hhost] at hstay
    exact (hsettled stay hstay hholds).trans (h.settled stay hstay hholds)
  chronicle := hhost ▸ h.chronicle

theorem noted (h : Sound w) {turn : Turn E}
    (hcalled : ∀ stay, turn = .called stay → stay.refused = busy stay.use w.boundary.holding)
    (hreturned : ∀ stay answer, turn = .returned stay answer →
      (stay.holds = .sharing → (shown w).toStanding = stay.found.toStanding) ∧
        (stay.refused = true → answer = stay.call.failure ∧ shown w = stay.found)) :
    Sound (noted turn w) where
  ordered := h.ordered
  held := h.held
  settled := h.settled
  chronicle := List.forall_mem_cons.mpr
    ⟨⟨h.ordered, h.held, h.settled, hcalled, hreturned⟩, h.chronicle⟩

theorem begun (h : Sound w) (call : Call) :
    Sound (hold (taken (staying call w).holds w.boundary.holding) (begun (staying call w) w)) where
  ordered := by
    refine ⟨?_, h.ordered⟩
    change busy (staying call w).use w.boundary.holding = busy (staying call w).use (holdingOf w.host.running)
    rw [h.held]
  held := by
    change taken (staying call w).holds w.boundary.holding = taken _ (holdingOf w.host.running)
    rw [h.held]
  settled := List.forall_mem_cons.mpr ⟨fun _ => rfl, h.settled⟩
  chronicle := by
    have calls : Sound (Boundary.noted (.called (staying call w)) w) :=
      h.noted (fun stay heq => by cases heq; rfl) fun _ _ heq => by cases heq
    exact calls.chronicle

theorem ended (h : Sound v) {stay : Stay E} {rest : List (Stay E)}
    (hrunning : v.host.running = stay :: rest) (answer : stay.call.Answer)
    (hsettled : stay.holds = .sharing → (shown v).toStanding = stay.found.toStanding)
    (hrefused : stay.refused = true → answer = stay.call.failure ∧ shown v = stay.found) :
    Sound (ended stay answer (hold (holdingOf rest) v)) := by
  have ordered : Ordered (stay :: rest) := hrunning ▸ h.ordered
  have popped : Sound { hold (holdingOf rest) v with
      host := { v.host with running := v.host.running.tail } } :=
    { ordered := by rw [hrunning]; exact ordered.2
      held := by rw [hrunning]; rfl
      settled := fun other hother => h.settled other (List.mem_of_mem_tail hother)
      chronicle := h.chronicle }
  refine popped.noted (fun _ heq => by cases heq) fun other answer' heq => ?_
  cases heq
  exact ⟨hsettled, hrefused⟩

end Sound

/-! ## Calls that share the runtime -/

def Kept (w v : World E (Coded E S)) : Prop :=
  Sound w → Sound v ∧ v.host.running = w.host.running ∧
    v.boundary.holding = w.boundary.holding ∧
    (w.boundary.holding ≠ .shared 0 → (shown v).toStanding = (shown w).toStanding)

namespace Kept

variable {u v w : World E (Coded E S)}

theorem trans (h₁ : Kept u v) (h₂ : Kept v w) : Kept u w := by
  intro hu
  obtain ⟨hv, hrunning, hheld, hstanding⟩ := h₁ hu
  obtain ⟨hw, hrunning', hheld', hstanding'⟩ := h₂ hv
  refine ⟨hw, hrunning'.trans hrunning, hheld'.trans hheld, fun hne => ?_⟩
  rw [hstanding' (hheld ▸ hne), hstanding hne]

theorem of_same (hhost : v.host = w.host) (hheld : v.boundary.holding = w.boundary.holding)
    (hstanding : (shown v).toStanding = (shown w).toStanding) : Kept w v := fun h =>
  ⟨h.of_same hhost hheld fun _ _ _ => hstanding, congrArg Mind.running hhost, hheld,
    fun _ => hstanding⟩

theorem noted {turn : Turn E} (hcalled : ∀ stay, turn ≠ .called stay)
    (hreturned : ∀ stay answer, turn ≠ .returned stay answer) : Kept w (noted turn w) := fun h =>
  ⟨h.noted (fun stay heq => absurd heq (hcalled stay))
    fun stay answer heq => absurd heq (hreturned stay answer), rfl, rfl, fun _ => rfl⟩

end Kept

theorem sources_modify (brains : Array (Brain E)) (number : Nat) {f : Brain E → Brain E}
    (hf : ∀ b, (f b).source = b.source) :
    (brains.modify number f).toList.map Brain.source = brains.toList.map Brain.source := by
  apply List.ext_getElem?
  intro i
  rw [Array.toList_modify, List.getElem?_map, List.getElem?_map, List.getElem?_modify]
  split
  · simp [Option.map_map, Function.comp_def, hf]
  · simp

theorem standing_of_modify (w : World E (Coded E S)) (number : Nat) {f : Brain E → Brain E}
    (hf : ∀ b, (f b).source = b.source) :
    (shown { w with brains := w.brains.modify number f }).toStanding = (shown w).toStanding := by
  simp only [shown, sources_modify w.brains number hf]

/-- Conduct: who shares the runtime leaves the brains and their sources in place. -/
def abiding (E : Engine) (S : Type) : Conduct E (Coded E S) where
  admits link := ∀ callback w, (link callback w).Ends (Kept w)
  rel := Kept
  refl _ := .of_same rfl rfl rfl
  trans := .trans

namespace abiding

theorem modified (w : World E (Coded E S)) (number : Nat) {f : Brain E → Brain E}
    (hf : ∀ b, (f b).source = b.source) :
    (abiding E S).rel w { w with brains := w.brains.modify number f } :=
  .of_same rfl rfl (standing_of_modify w number hf)

theorem lax : (abiding E S).Lax where
  logged _ _ := .of_same rfl rfl rfl
  invoke callback _ hl w := hl callback w
  serving _ _ _ _ := .of_same rfl rfl rfl

theorem shared : (abiding E S).Shared where
  toLoud := lax.loud
  callService := lax.callService
  rested _ _ hv _ := Conduct.rested_of_entered (fun w number _ => modified w number fun _ => rfl) hv
  works := .of_true fun _ _ => trivial
  stored w number _ _ := modified w number fun _ => rfl
  scratched w scratch := by
    refine .of_same rfl rfl ?_
    cases hlife : w.life <;> simp [shown, hlife]

/-! Host functions are called by way of C. -/

theorem boundary (w : World E (Coded E S)) (lastReporter : Option Nat) (buffer : Option ByteArray) :
    (abiding E S).rel w { w with boundary := { w.boundary with lastReporter, buffer } } :=
  .of_same rfl rfl rfl

theorem relay {link : Link E (Coded E S)} (hl : (abiding E S).admits link) :
    (abiding E S).admits (relay link) :=
  fun callback w => Relayed.lax lax boundary callback link hl w

theorem work {lastReporter : Option Nat} {call : Call} (h : call.use lastReporter ≠ .owning) :
    Act.Keeps (abiding E S) (call.work lastReporter : Act E (Coded E S) call.Answer) :=
  Call.work_keeps shared (fun _ _ _ _ => .of_same rfl rfl rfl) (fun _ _ _ _ => lax.report _ _) h

end abiding

/-! ## Calls that own the runtime -/

/-- Conduct: who owns the runtime may change everything, but leaves it held as it was. -/
def reigning (E : Engine) (S : Type) : Conduct E (Coded E S) where
  admits link := ∀ callback w, (link callback w).Ends (Kept w)
  rel w v := w.boundary.holding = .exclusive → Sound w →
    Sound v ∧ v.host.running = w.host.running ∧ v.boundary.holding = w.boundary.holding
  refl _ _ h := ⟨h, rfl, rfl⟩
  trans h₁ h₂ howned h := by
    obtain ⟨hv, hrunning, hheld⟩ := h₁ howned h
    obtain ⟨hw, hrunning', hheld'⟩ := h₂ (hheld.trans howned) hv
    exact ⟨hw, hrunning'.trans hrunning, hheld'.trans hheld⟩

namespace reigning

theorem of_same {w v : World E (Coded E S)} (hhost : v.host = w.host)
    (hheld : v.boundary.holding = w.boundary.holding) : (reigning E S).rel w v := by
  intro howned h
  have alone := holds_of_exclusive h.ordered (h.held ▸ howned)
  exact ⟨h.of_same hhost hheld fun stay hstay hholds => absurd hholds (alone stay hstay),
    congrArg Mind.running hhost, hheld⟩

theorem lax : (reigning E S).Lax where
  logged _ _ := of_same rfl rfl
  invoke callback _ hl w := (hl callback w).mono fun _ hv _ h =>
    ⟨(hv h).1, (hv h).2.1, (hv h).2.2.1⟩
  serving _ _ _ _ := of_same rfl rfl

theorem free : (reigning E S).Free :=
  .of_table lax.loud lax.callService (fun _ _ _ _ => of_same rfl rfl) (fun _ => of_same rfl rfl)
    fun _ _ => trivial

theorem work {lastReporter : Option Nat} {call : Call} (h : call.use lastReporter = .owning) :
    Act.Keeps (reigning E S) (call.work lastReporter : Act E (Coded E S) call.Answer) :=
  Call.owned_keeps free h

end reigning

end BrainHost.Boundary
