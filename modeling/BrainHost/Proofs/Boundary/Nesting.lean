import BrainHost.Proofs.Boundary.Access
import BrainHost.Proofs.Update.Delivery

/-! # Nested calls

What one call of the boundary keeps, host code keeps that calls the boundary again from inside. -/

namespace BrainHost.Boundary

variable {E : Engine} {S : Type}

/-- The state after the work of a call, before the runtime is given back. -/
structure Over (w : World E (Coded E S)) (stay : Stay E) (v : World E (Coded E S)) : Prop where
  sound : Sound v
  running : v.host.running = stay :: w.host.running
  held : v.boundary.holding = taken stay.use w.boundary.holding
  settled : stay.use = .sharing ∨ w.boundary.holding ≠ .shared 0 →
    (shown v).toStanding = (shown w).toStanding

theorem taken_ne_free {use : Use} {holding : Holding} (h : use = .sharing ∨ holding ≠ .shared 0) :
    taken use holding ≠ .shared 0 := by
  cases use with
  | nothing => exact h.resolve_left (by simp)
  | sharing => cases holding <;> simp [taken]
  | owning => simp [taken]

theorem work_over {link : Link E (Coded E S)} (hl : (abiding E S).admits link) (call : Call)
    {w : World E (Coded E S)} (h : Sound w) (hgranted : (staying call w).refused = false) :
    (call.work w.boundary.lastReporter (relay link)
      (hold (taken (staying call w).use w.boundary.holding) (call.read (begun (staying call w) w)))).Ends
        (Over w (staying call w)) := by
  generalize hstay : staying call w = stay at *
  have huse : stay.use = call.use w.boundary.lastReporter := by rw [← hstay]; rfl
  have hholds : stay.holds = stay.use := by simp [Stay.holds, hgranted]
  have hbusy : busy stay.use w.boundary.holding = false := by rw [← hgranted, ← hstay]; rfl
  obtain ⟨journal, hread⟩ := call.read_eq (begun stay w)
  rw [hread]
  have sound : Sound (hold (taken stay.use w.boundary.holding) { begun stay w with journal }) := by
    have begins := h.begun call
    rw [hstay, hholds] at begins
    exact begins.of_same rfl rfl fun _ _ _ => rfl
  by_cases howns : stay.use = .owning
  · have works := reigning.work (E := E) (S := S) (huse ▸ howns) (relay link) (abiding.relay hl)
      (hold (taken stay.use w.boundary.holding) { begun stay w with journal })
    have hfree : w.boundary.holding = .shared 0 := by
      rw [howns] at hbusy
      cases hheld : w.boundary.holding with
      | shared count => simpa [hheld, busy] using hbusy
      | exclusive => simp [hheld, busy] at hbusy
    refine works.mono fun v hv => ?_
    obtain ⟨hv, hrunning, hheld⟩ := hv (by rw [howns]; rfl) sound
    exact ⟨hv, hrunning, hheld, by simp [howns, hfree]⟩
  · have works := abiding.work (E := E) (S := S) (huse ▸ howns) (relay link) (abiding.relay hl)
      (hold (taken stay.use w.boundary.holding) { begun stay w with journal })
    refine works.mono fun v hv => ?_
    obtain ⟨hv, hrunning, hheld, hstanding⟩ := hv sound
    exact ⟨hv, hrunning, hheld, fun hshares => hstanding (taken_ne_free hshares)⟩

theorem ask_refused {call : Call} {link : Link E (Coded E S)} {w : World E (Coded E S)}
    (hrefused : (staying call w).refused = true) : (ask call link w).Ends (Kept w) := by
  obtain ⟨journal, hact⟩ := Call.act_refused (w := begun (staying call w) w) link hrefused
  unfold ask
  dsimp only
  rw [hact]
  intro h
  have hholds : (staying call w).holds = .nothing := if_pos hrefused
  have begins : Sound { begun (staying call w) w with journal } := by
    have begins := h.begun call
    rw [hholds] at begins
    exact begins.of_same rfl rfl fun _ _ _ => rfl
  have runs : (begun (staying call w) w).host.running = staying call w :: w.host.running := rfl
  have ends := begins.ended runs call.failure (by simp [hholds]) fun _ => ⟨rfl, rfl⟩
  rw [← h.held] at ends
  exact ⟨ends, rfl, rfl, fun _ => rfl⟩

theorem ask_granted {call : Call} {link : Link E (Coded E S)} (hl : (abiding E S).admits link)
    {w : World E (Coded E S)} (hgranted : (staying call w).refused = false) :
    (ask call link w).Ends (Kept w) := by
  refine Outcome.Ends.imp fun h => ?_
  have hbusy : busy (call.use w.boundary.lastReporter) w.boundary.holding = false := hgranted
  -- The work leaves the runtime held; then it is given back, and a panic is logged.
  have returns : (call.act link (begun (staying call w) w)).Ends fun v =>
      ∃ u, Over w (staying call w) u ∧ v = hold w.boundary.holding u := by
    rw [Call.act_granted (w := begun (staying call w) w) link hbusy]
    refine (Outcome.Ends.settle (work_over hl call h hgranted) fun u hu => ?_).caught _ ?_
    · exact ⟨u, hu, released_eq hbusy hu.held⟩
    · rintro _ ⟨u, hu, rfl⟩
      exact ⟨panicked u, ⟨hu.sound.of_same rfl rfl fun _ _ _ => rfl, hu.running, hu.held, hu.settled⟩, rfl⟩
  refine returns.bind_of_calm (fun v => Call.act_ne_fault call link _ v) ?_
  rintro answer _ ⟨u, hu, rfl⟩
  have hholds : (staying call w).holds = (staying call w).use := by simp [Stay.holds, hgranted]
  have ends := hu.sound.ended hu.running answer (fun hshares => hu.settled (.inl (hholds ▸ hshares)))
    (by simp [hgranted])
  rw [← h.held] at ends
  refine ⟨ends, ?_, rfl, fun hne => hu.settled (.inr hne)⟩
  change u.host.running.tail = w.host.running
  rw [hu.running]
  rfl

theorem ask_keeps (call : Call) : Act.Keeps (abiding E S) (ask call) := by
  intro link hl w
  cases hrefused : (staying call w).refused with
  | true => exact ask_refused hrefused
  | false => exact ask_granted hl hrefused

theorem Code.act_keeps (code : Code S) : Act.Keeps (abiding E S) code.act := by
  induction code with
  | finish reply => exact Act.Keeps.pure reply
  | think change next ih =>
    have thinks : Act.Keeps (abiding E S) (Act.modify fun w : World E (Coded E S) =>
        { w with host := { w.host with own := change w.host.own } }) := by
      refine Act.Keeps.modify fun w h => ?_
      exact ⟨⟨h.ordered, h.held, h.settled, h.chronicle⟩, rfl, rfl, fun _ => rfl⟩
    exact thinks.bind fun _ => Act.Keeps.get.bind fun w => ih _
  | call asked next ih => exact (ask_keeps asked).bind fun answer => ih answer

theorem link_admits (host : Callback → Code S) (depth : Nat) :
    (abiding E S).admits (link host depth) := by
  -- Calls at depth 0 are stuck, and a call one deeper is code over the link below it.
  induction depth with
  | zero => exact fun _ _ => trivial
  | succ depth ih =>
    intro callback w
    have enters : Kept w (noted (.entered callback) w) := .noted (by simp) (by simp)
    refine ((host callback).act_keeps _ ih (noted (.entered callback) w)).bind ?_ ?_
    · intro reply v hv
      exact enters.trans (hv.trans (.noted (by simp) (by simp)))
    · exact fun v hv => enters.trans hv

theorem Code.act_ne_fault (code : Code S) (link : Link E (Coded E S)) (w v : World E (Coded E S)) :
    code.act link w ≠ .fault v := by
  induction code generalizing w with
  | finish reply => simp [Code.act]
  | think change next ih => exact ih _ _
  | call asked next ih =>
    rw [Code.act, Act.bind_apply]
    unfold ask
    dsimp only
    cases hact : asked.act link (begun (staying asked w) w) with
    | done answer u => exact ih answer _
    | fault u => exact absurd hact (Call.act_ne_fault asked link _ u)
    | stuck => simp

/-- The runtime is free and the chronicle is empty. -/
structure AtRest (w : World E (Coded E S)) : Prop where
  held : w.boundary.holding = .shared 0
  running : w.host.running = []
  chronicle : w.host.chronicle = []

theorem AtRest.sound {w : World E (Coded E S)} (h : AtRest w) : Sound w where
  ordered := by rw [h.running]; trivial
  held := by rw [h.held, h.running]; rfl
  settled := by simp [h.running]
  chronicle := by simp [h.chronicle]

/-- **Exclusive access at the C boundary.** Whatever calls host code makes, from inside host functions
and to any depth, no panic gets past the boundary. At every moment, a call that needs the runtime for
itself is turned away while another one holds it, and a call that needs it at all is turned away while
another one owns it. A call that was turned away gives what it gives on failure and leaves everything
as it found it. While a call shares the runtime, as an update does, and when it returns, the set of
brains, their sources and whether the runtime is initialized are as the call found them. Once the host
code is through nothing holds the runtime, and the next call is let in, whatever it needs. -/
theorem exclusive_access (host : Callback → Code S) (depth : Nat) (code : Code S)
    {w : World E (Coded E S)} (h : AtRest w) :
    (∀ v, code.act (link host depth) w ≠ .fault v) ∧
    (code.act (link host depth) w).Ends fun v =>
      (∀ m ∈ v.host.chronicle,
        (∀ stay, m.turn = .called stay →
          (stay.use = .owning → (∃ other ∈ m.running, other.holds ≠ .nothing) → stay.refused = true) ∧
          (stay.use ≠ .nothing → (∃ other ∈ m.running, other.holds = .owning) → stay.refused = true)) ∧
        (∀ stay answer, m.turn = .returned stay answer → stay.refused = true →
          answer = stay.call.failure ∧ m.shown = stay.found) ∧
        (∀ stay ∈ m.running, stay.holds = .sharing → m.shown.toStanding = stay.found.toStanding) ∧
        ∀ stay answer, m.turn = .returned stay answer → stay.holds = .sharing →
          m.shown.toStanding = stay.found.toStanding) ∧
      v.boundary.holding = .shared 0 ∧ ∀ (call : Call) next, call.act next v = call.letIn next v := by
  refine ⟨fun v => code.act_ne_fault _ w v, ?_⟩
  have kept := code.act_keeps (link host depth) (link_admits host depth) w
  refine kept.mono fun v hv => ?_
  obtain ⟨sound, -, hheld, -⟩ := hv h.sound
  have free : v.boundary.holding = .shared 0 := hheld.trans h.held
  refine ⟨fun m hm => ?_, free, fun call next => Call.act_granted next ?_⟩
  · have moment := sound.chronicle m hm
    refine ⟨fun stay hturn => ⟨?_, ?_⟩, fun stay answer hturn => (moment.returned stay answer hturn).2,
      moment.settled, fun stay answer hturn => (moment.returned stay answer hturn).1⟩
    · rintro howns ⟨other, hother, hholds⟩
      rw [moment.called stay hturn, moment.held, howns]
      exact busy_of_holds hother hholds
    · rintro hneeds ⟨other, hother, howns⟩
      rw [moment.called stay hturn, moment.held, holdingOf_owned moment.ordered hother howns]
      cases huse : stay.use with
      | nothing => exact absurd huse hneeds
      | sharing => rfl
      | owning => rfl
  · rw [free]
    cases call.use v.boundary.lastReporter <;> rfl

/-- An engine whose scripts do nothing but log. -/
def talkingEngine : Engine :=
  { notingEngine with call := fun _ _ c => .ask (.debug "tick") c fun _ => .done (c, .ok ()) }

def talking : World talkingEngine (Coded talkingEngine Unit) where
  hooks := ⟨[.debugLog]⟩
  brains := #[{ context := some [], source := "", bridge := 0, updateAgent := "", maxPendingJobs := none }]
  registry := [("a", 0)]
  life := some ⟨"", none⟩
  host := { own := () }

/-- The C string of one letter. -/
def letter (byte : UInt8) : Bytes := some ⟨#[byte]⟩

def updating : Call := .update (letter 97) (letter 98) (letter 49) false

/-- A log sink that resets the running brain, updates it again and stops the runtime. -/
def meddling : Callback → Code Unit := fun _ =>
  .call (.reset (letter 97) (letter 97)) fun _ => .call updating fun _ => .call .stop fun _ =>
    .finish .none

/-- How calls returned, the latest first: whether they were turned away, and what they needed. -/
def returns (chronicle : List (Moment E)) : List (Bool × Use) :=
  chronicle.filterMap fun m =>
    match m.turn with
    | .returned stay _ => some (stay.refused, stay.use)
    | _ => none

theorem talking_atRest : AtRest talking := ⟨rfl, rfl, rfl⟩

/-- The reset and the stop are turned away, and the panic of the nested update stays inside. -/
theorem exclusive_access_meddling :
    AtRest talking ∧
    ((Code.call updating fun _ => .finish .none).act (link meddling 1) talking).Ends fun v =>
      returns v.host.chronicle =
        [(false, .sharing), (true, .owning), (false, .sharing), (true, .owning)] ∧
      v.boundary.holding = .shared 0 := by
  refine ⟨talking_atRest, ?_⟩
  have access := exclusive_access meddling 1 (.call updating fun _ => .finish .none) talking_atRest
  have ran : ((Code.call updating fun _ => .finish .none).act (link meddling 1) talking).Ends fun v =>
      returns v.host.chronicle =
        [(false, .sharing), (true, .owning), (false, .sharing), (true, .owning)] := by
    decide +kernel
  exact ran.and (access.2.mono fun v hv => hv.2.1)

end BrainHost.Boundary
