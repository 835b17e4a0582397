import BrainHost.Proofs.Boundary.Code

/-! # Log sinks at the C boundary

A native host is told of errors by its log sink, as bytes that a NUL ends. A text with a NUL inside is
kept from the sink, and the runtime's own log says so instead. Whatever the runtime does, a sink that is
set stays set unless the host takes it away. -/

namespace BrainHost.Boundary

variable {E : Engine} {K : HostKind} {S : Type} {heard : K.State → List String} {link : Link E K}
  {u v w : World E K} {text : String}

/-! ## What the sink hears -/

/-- The row of the log that stands for a text which was kept from a sink. -/
def withheld {N : Type} : Entry N :=
  .logged ⟨.warn, "brain.ffi", "message contains an interior NUL; not forwarded"⟩

/-- Something is among what came to a list that otherwise stays as it is. -/
def Gains {A : Type} (a : A) (before after : List A) : Prop := ∃ between, before ++ between ++ [a] <+: after

/-- The log sink stays set, and neither what it heard nor what was logged is lost. -/
structure Heeds (heard : K.State → List String) (w v : World E K) : Prop where
  set : v.hooks.isSet .errorLog = true
  heard : heard w.host <+: heard v.host
  journal : w.journal.toList <+: v.journal.toList

/-- A text is told from one state to the other: the sink hears it, or a NUL keeps it from the sink and the
log says so. -/
structure Tells (heard : K.State → List String) (text : String) (w v : World E K) : Prop where
  passed : hasNul text = false → Gains text (heard w.host) (heard v.host)
  noted : hasNul text = true → Gains withheld w.journal.toList v.journal.toList

namespace Gains

variable {A : Type} {a : A} {before middle after : List A}

theorem earlier (hle : before <+: middle) (h : Gains a middle after) : Gains a before after := by
  obtain ⟨first, rfl⟩ := hle
  obtain ⟨between, hafter⟩ := h
  exact ⟨first ++ between, by rwa [← List.append_assoc]⟩

theorem later (h : Gains a before middle) (hle : middle <+: after) : Gains a before after := by
  obtain ⟨between, hmiddle⟩ := h
  exact ⟨between, hmiddle.trans hle⟩

theorem push : Gains a before (before ++ [a]) := ⟨[], by simp⟩

end Gains

namespace Heeds

theorem refl (hset : w.hooks.isSet .errorLog = true) : Heeds heard w w :=
  ⟨hset, List.prefix_rfl, List.prefix_rfl⟩

theorem trans (h₁ : Heeds heard u v) (h₂ : Heeds heard v w) : Heeds heard u w :=
  ⟨h₂.set, h₁.heard.trans h₂.heard, h₁.journal.trans h₂.journal⟩

end Heeds

namespace Tells

theorem of_passed (hnul : hasNul text = false) (h : Gains text (heard w.host) (heard v.host)) :
    Tells heard text w v := ⟨fun _ => h, fun hnul' => absurd (hnul.symm.trans hnul') Bool.false_ne_true⟩

theorem of_noted (hnul : hasNul text = true) (h : Gains withheld w.journal.toList v.journal.toList) :
    Tells heard text w v := ⟨fun hnul' => absurd (hnul'.symm.trans hnul) Bool.false_ne_true, fun _ => h⟩

theorem earlier (hle : Heeds heard u v) (h : Tells heard text v w) : Tells heard text u w :=
  ⟨fun hnul => (h.passed hnul).earlier hle.heard, fun hnul => (h.noted hnul).earlier hle.journal⟩

theorem later (h : Tells heard text u v) (hle : Heeds heard v w) : Tells heard text u w :=
  ⟨fun hnul => (h.passed hnul).later hle.heard, fun hnul => (h.noted hnul).later hle.journal⟩

end Tells

/-! ## Hosts -/

/-- The host keeps what its log sink is told, and none of its functions takes the sink away. -/
structure Attentive (heard : K.State → List String) (link : Link E K) : Prop where
  heeds : ∀ callback w, w.hooks.isSet .errorLog = true → (link callback w).Ends (Heeds heard w)
  told : ∀ message w reply v, w.hooks.isSet .errorLog = true →
    link (.error message) w = .done reply v → Gains message (heard w.host) (heard v.host)

/-- Conduct: a log sink that is set is heeded. -/
def heeding (E : Engine) (heard : K.State → List String) : Conduct E K where
  admits link := ∀ callback w, w.hooks.isSet .errorLog = true → (link callback w).Ends (Heeds heard w)
  rel w v := w.hooks.isSet .errorLog = true → Heeds heard w v
  refl _ := .refl
  trans h₁ h₂ hset := (h₁ hset).trans (h₂ (h₁ hset).set)

namespace heeding

theorem of_same (hhost : v.host = w.host) (hhooks : v.hooks = w.hooks) (hjournal : v.journal = w.journal) :
    (heeding E heard).rel w v := fun hset =>
  ⟨hhooks ▸ hset, hhost ▸ List.prefix_rfl, hjournal ▸ List.prefix_rfl⟩

theorem lax : (heeding E heard).Lax where
  logged _ row hset := ⟨hset, List.prefix_rfl, [.logged row], by simp⟩
  invoke callback _ hl w := Outcome.Ends.imp (hl callback w)
  serving _ _ _ _ := of_same rfl rfl rfl

theorem free : (heeding E heard).Free :=
  .of_table lax.loud lax.callService (fun _ _ _ _ => of_same rfl rfl rfl) (fun _ => of_same rfl rfl rfl)
    fun _ _ => trivial

theorem boundary (w : World E K) (boundary : BrainHost.Boundary) :
    (heeding E heard).rel w { w with boundary } := of_same rfl rfl rfl

theorem relay (hl : (heeding E heard).admits link) : (heeding E heard).admits (Boundary.relay link) :=
  fun callback w hset => (Relayed.lax lax (fun w _ _ => boundary w _) callback link hl w).mono fun _ hv => hv hset

theorem assign {hook : Hook} {on : Bool} (h : ¬ (hook = .errorLog ∧ on = false)) (w : World E K) :
    (heeding E heard).rel w { w with hooks := w.hooks.assign hook on } := by
  refine fun hset => ⟨?_, List.prefix_rfl, List.prefix_rfl⟩
  have mem : Hook.errorLog ∈ w.hooks.active := by simpa [Hooks.isSet] using hset
  cases on with
  | true =>
    by_cases heq : hook = .errorLog
    · simp [Hooks.isSet, Hooks.assign, heq]
    · simp [Hooks.isSet, Hooks.assign, mem, Ne.symm heq]
  | false => simp [Hooks.isSet, Hooks.assign, mem, Ne.symm fun heq => h ⟨heq, rfl⟩]

theorem work {call : Call} (hcall : call ≠ .setHook .errorLog false) (lastReporter : Option Nat) :
    Act.Keeps (heeding E heard) (call.work lastReporter : Act E K call.Answer) := by
  refine Call.work_keeps_of_free free (fun hook on heq => assign ?_) fun _ _ _ _ => lax.report _ _
  rintro ⟨rfl, rfl⟩
  exact hcall heq

theorem call {call : Call} (hcall : call ≠ .setHook .errorLog false) :
    Act.Keeps (heeding E heard) (call.act : Act E K call.Answer) :=
  Call.act_keeps lax boundary (fun _ => relay) (work hcall)

end heeding

/-! ## Hosts that are code -/

/-- The message that an error sink is called with, if one is. -/
def Turn.error? : Turn E → Option String
  | .entered (.error message) => some message
  | _ => none

/-- What the error sink of a host was told, in order. -/
def errorsHeard (mind : Mind E S) : List String :=
  (mind.chronicle.filterMap fun moment => moment.turn.error?).reverse

/-- Host code never takes the error sink away. -/
def Code.Listens (code : Code S) : Prop := code.Only (· ≠ .setHook .errorLog false)

namespace heeding

theorem of_chronicle {w v : World E (Coded E S)} (moments : List (Moment E))
    (hchronicle : v.host.chronicle = moments ++ w.host.chronicle) (hhooks : v.hooks = w.hooks)
    (hjournal : v.journal = w.journal) : (heeding E errorsHeard).rel w v := by
  refine fun hset => ⟨hhooks ▸ hset, ?_, hjournal ▸ List.prefix_rfl⟩
  unfold errorsHeard
  rw [hchronicle, List.filterMap_append, List.reverse_append]
  exact List.prefix_append _ _

theorem noted (turn : Turn E) (w : World E (Coded E S)) :
    (heeding E errorsHeard).rel w (Boundary.noted turn w) := of_chronicle [moment turn w] rfl rfl rfl

theorem noting : Noting (S := S) (heeding E errorsHeard) where
  own _ _ _ := of_chronicle [] rfl rfl rfl
  noted w turn _ := noted turn w

theorem code {code : Code S} (h : code.Listens) :
    Act.Keeps (heeding E errorsHeard) (code.act : Act E (Coded E S) Reply) :=
  noting.code (fun _ => heeding.call) h

variable {host : Callback → Code S} (h : ∀ callback, (host callback).Listens)
include h

theorem attended {depth : Nat} (hl : (heeding E errorsHeard).admits (Boundary.link host depth))
    (callback : Callback) (w : World E (Coded E S)) (hset : w.hooks.isSet .errorLog = true) :
    (Boundary.link host (depth + 1) callback w).Ends
      (Heeds errorsHeard (Boundary.noted (.entered callback) w)) := by
  have begins := noted (.entered callback) w hset
  have ran := code (h callback) (Boundary.link host depth) hl (Boundary.noted (.entered callback) w)
  refine (ran.mono fun v hv => hv begins.set).bind (fun reply v hv => ?_) fun v hv => hv
  exact hv.trans (noted (.left callback) v hv.set)

theorem admits (depth : Nat) : (heeding E errorsHeard).admits (Boundary.link host depth) := by
  -- Calls at depth 0 are stuck, and a call one deeper is code over the link below it.
  induction depth with
  | zero => exact fun _ _ _ => trivial
  | succ depth ih =>
    exact fun callback w hset => (attended h ih callback w hset).mono fun v hv =>
      (noted (.entered callback) w hset).trans hv

end heeding

theorem Attentive.of_listens {host : Callback → Code S} (h : ∀ callback, (host callback).Listens)
    (depth : Nat) : Attentive (K := Coded E S) errorsHeard (Boundary.link host depth) := by
  refine ⟨heeding.admits h depth, fun message w reply v hset hrun => ?_⟩
  cases depth with
  | zero => cases hrun
  | succ depth =>
    have gained : Gains message (errorsHeard w.host) (errorsHeard (noted (.entered (.error message)) w).host) :=
      ⟨[], by simp [errorsHeard, noted, moment, Turn.error?]⟩
    have after := heeding.attended h (heeding.admits h depth) (.error message) w hset
    rw [hrun] at after
    exact gained.later after.heard

end BrainHost.Boundary
