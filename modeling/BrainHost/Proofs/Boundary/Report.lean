import BrainHost.Proofs.Boundary.Sight
import BrainHost.Proofs.Table.Refine

/-! # Where reports go

A host reports through the one C function, whatever the call that it has in mind. The reporter that is
kept for it outlives calls and runtimes, so it may be one of a call that is over. -/

namespace BrainHost.Boundary

variable {E : Engine} {S : Type}

theorem stepIn_of_other {callback : Callback}
    (h : ∀ service args reporter, callback ≠ .callService service args reporter)
    (w : World E (Watched S)) : stepIn callback w = w := by
  rw [stepIn, callback.reporter?_of_other h]
  rfl

theorem eq_singleton_of_mem {functions : List Nat} {reporter : Nat} (hsingle : functions.length ≤ 1)
    (hmem : reporter ∈ functions) : functions = [reporter] := by
  obtain ⟨other, rfl⟩ := List.length_eq_one_iff.mp
    (Nat.le_antisymm hsingle (List.length_pos_of_mem hmem))
  rw [List.mem_singleton.mp hmem]

/-- The protocol stays in order, and the functions that run are the same afterwards. -/
def Steady (w v : World E (Watched S)) : Prop :=
  Orderly none w → Orderly none v ∧ v.host.functions = w.host.functions

namespace Steady

variable {u v w : World E (Watched S)}

theorem refl (w : World E (Watched S)) : Steady w w := fun h => ⟨h, rfl⟩

theorem trans (h₁ : Steady u v) (h₂ : Steady v w) : Steady u w := by
  intro hu
  obtain ⟨hv, hfunctions⟩ := h₁ hu
  obtain ⟨hw, hfunctions'⟩ := h₂ hv
  exact ⟨hw, hfunctions'.trans hfunctions⟩

theorem of_same (hfunctions : v.host.functions = w.host.functions)
    (hsights : v.host.sights = w.host.sights) (hflag : v.inFlight = w.inFlight)
    (hkept : v.boundary.lastReporter = w.boundary.lastReporter) (hreporters : v.reporters = w.reporters)
    (hresults : v.results = w.results) : Steady w v :=
  fun h => ⟨h.of_same hfunctions hsights hflag hkept hreporters hresults, hfunctions⟩

end Steady

/-! ## Under the boundary -/

/-- Conduct: what the runtime does keeps the protocol in order. It calls a host function for services
only once the call is open. -/
def reporting (E : Engine) (S : Type) : Conduct E (Watched S) where
  admits link := ∀ callback w, Orderly callback.reporter? w → (link callback w).Ends fun v =>
    Orderly callback.reporter? v ∧ v.host.functions = w.host.functions
  rel := Steady
  refl := .refl
  trans := .trans

namespace reporting

theorem loud : (reporting E S).Loud where
  logged _ _ := .of_same rfl rfl rfl rfl rfl rfl
  invoke callback hc := by
    intro link hl w
    refine Outcome.Ends.imp fun h => ?_
    have called := hl callback w
    simp only [callback.reporter?_of_other hc] at called
    exact called h

theorem callService (bridge : Nat) (service args : String) :
    Act.Keeps (reporting E S) (Act.callService bridge service args) := by
  intro link hl w
  refine Outcome.Ends.imp fun h => ?_
  rw [Act.callService_apply]
  cases hrefusal : Act.refusal? w service args with
  | some failure =>
    have refused : Steady w (Act.refused failure w) := by
      cases failure <;> exact .of_same rfl rfl rfl rfl rfl rfl
    exact refused h
  | none =>
    have called := hl (.callService service args w.reporters.size) _
      (h.opens (Act.inFlight_of_refusal?_none w service args hrefusal) bridge)
    have settled := called.settle
      (Q := fun v : World E (Watched S) => Orderly none v ∧ v.host.functions = w.host.functions)
      fun v hv => ⟨hv.1.closes, hv.2⟩
    refine settled.bind (fun _ v hv => ?_) fun _ hv => hv
    exact (loud.conclude bridge _ service link hl v).mono fun u hu => ⟨(hu hv.1).1, (hu hv.1).2.trans hv.2⟩

theorem free : (reporting E S).Free :=
  .of_table loud callService (fun _ _ _ _ => .of_same rfl rfl rfl rfl rfl rfl)
    (fun w h => ⟨h.congr rfl rfl rfl rfl (fun _ => .rfl) (fun _ => rfl) (resultIn_push w.results), rfl⟩)
    fun _ _ => trivial

theorem report {link : Link E (Watched S)} (hl : (reporting E S).admits link) {w : World E (Watched S)}
    (h : Orderly none w) {result : Bytes}
    (hsight : w.host.sights.head? = some (sight (.called (.reportResult result)) w)) {reporter : Nat}
    (hkept : w.boundary.lastReporter = some reporter) :
    (Act.report reporter (decoded result) link w).Ends fun v =>
      Orderly none v ∧ v.host.functions = w.host.functions := by
  have fails (failure : ServiceFailure) {v : World E (Watched S)} (hv : Orderly none v)
      (hfunctions : v.host.functions = w.host.functions) :
      (Act.logService failure link v : Outcome _ (Except ServiceFailure Unit)).Ends fun x =>
        Orderly none x ∧ x.host.functions = w.host.functions :=
    (loud.logService failure link hl v).mono fun x hx => ⟨(hx hv).1, (hx hv).2.trans hfunctions⟩
  cases hcheck : Limit.json.check (decoded result) with
  | error cause =>
    rw [Act.report_rejected link _ reporter _ hcheck]
    exact fails _ (h.of_same rfl rfl rfl rfl rfl rfl) rfl
  | ok u =>
    by_cases hopen : IsOpenIn w.reporters reporter
    · -- An open reporter is that of the one function that runs, so that its call is in flight.
      have hruns : w.host.functions = [reporter] :=
        eq_singleton_of_mem h.single ((h.opened reporter).mp hopen)
      obtain ⟨⟨awaiting, isOpen, bridge⟩, hx, rfl⟩ := hopen
      have hreport : (sight (.called (.reportResult result)) w).IsReportFor bridge :=
        ⟨result, reporter, rfl, hruns, hkept, by simp [sight, ownerIn, hx]⟩
      have hstored (r : Option String) := (h.heard reporter).stored hsight hreport r
      rw [Act.report_open link w reporter _ hcheck hx]
      split
      · exact ⟨hstored _, rfl⟩
      · exact fails _ (hstored none) rfl
    · rw [Act.report_closed link w reporter _ hcheck hopen]
      exact fails _ (h.heard reporter) rfl

end reporting

/-! ## On the boundary -/

/-- Conduct: what is done on the boundary keeps the protocol in order. A host function is called where it
is in order while the function runs. -/
def native (E : Engine) (S : Type) : Conduct E (Watched S) where
  admits link := ∀ callback w, Orderly none (stepIn callback w) → (link callback w).Ends fun v =>
    Orderly none (stepIn callback v) ∧ v.host.functions = w.host.functions
  rel := Steady
  refl := .refl
  trans := .trans

namespace native

theorem loud : (native E S).Loud where
  logged _ _ := .of_same rfl rfl rfl rfl rfl rfl
  invoke callback hc := by
    intro link hl w
    refine Outcome.Ends.imp fun h => ?_
    have called := hl callback w
    simp only [stepIn_of_other hc] at called
    exact called h

theorem relayedService {link : Link E (Watched S)} (hl : (native E S).admits link)
    (service args : String) {reporter : Nat} {w : World E (Watched S)} (h : Orderly (some reporter) w) :
    (relayed (.callService service args reporter) link w).Ends fun v =>
      Orderly (some reporter) v ∧ v.host.functions = w.host.functions := by
  rw [relayed_service]
  split
  · exact ⟨h.of_same rfl rfl rfl rfl rfl rfl, rfl⟩
  · exact (hl _ _ h.enters).mono fun v hv => ⟨hv.1.leaves, hv.2⟩

theorem relay {link : Link E (Watched S)} (hl : (native E S).admits link) :
    (reporting E S).admits (Boundary.relay link) := by
  intro callback w h
  by_cases hservice : ∃ service args reporter, callback = .callService service args reporter
  · obtain ⟨service, args, reporter, rfl⟩ := hservice
    exact relayedService hl service args h
  · have hother : ∀ service args reporter, callback ≠ .callService service args reporter :=
      fun service args reporter heq => hservice ⟨service, args, reporter, heq⟩
    have kept : Act.Keeps (native E S) (relayed callback : Act E (Watched S) Reply) :=
      Relayed.keeps loud (fun _ _ => .of_same rfl rfl rfl rfl rfl rfl) hother
    rw [callback.reporter?_of_other hother] at h ⊢
    exact (kept link hl w).mono fun v hv => hv h

theorem work {link : Link E (Watched S)} (hl : (reporting E S).admits link) {w : World E (Watched S)}
    (h : Orderly none w) (call : Call)
    (hsight : w.host.sights.head? = some (sight (.called call) w)) :
    (call.work w.boundary.lastReporter link w).Ends fun v =>
      Orderly none v ∧ v.host.functions = w.host.functions := by
  by_cases hreports : ∃ reporter result, w.boundary.lastReporter = some reporter ∧
      call = .reportResult result
  · obtain ⟨reporter, result, hkept, rfl⟩ := hreports
    rw [hkept, Call.work, Act.bind_apply]
    exact (reporting.report hl h hsight hkept).bind (fun _ _ hv => hv) fun _ hv => hv
  · have keeps : Act.Keeps (reporting E S) (call.work w.boundary.lastReporter : Act E (Watched S) _) :=
      Call.work_keeps_of_free reporting.free (fun _ _ _ _ => .of_same rfl rfl rfl rfl rfl rfl)
        fun reporter result hkept hcall => absurd ⟨reporter, result, hkept, hcall⟩ hreports
    exact (keeps link hl w).mono fun v hv => hv h

theorem act {link : Link E (Watched S)} (hl : (native E S).admits link) {w : World E (Watched S)}
    (h : Orderly none w) {call : Call}
    (hsight : w.host.sights.head? = some (sight (.called call) w)) :
    (call.act link w).Ends fun v => Orderly none v ∧ v.host.functions = w.host.functions := by
  cases hbusy : busy (call.use w.boundary.lastReporter) w.boundary.holding with
  | true =>
    obtain ⟨journal, hrefused⟩ := Call.act_refused link hbusy
    rw [hrefused]
    exact ⟨h.of_same rfl rfl rfl rfl rfl rfl, rfl⟩
  | false =>
    rw [Call.act_granted link hbusy]
    obtain ⟨journal, hread⟩ := call.read_eq w
    unfold Call.letIn
    rw [hread]
    have worked := work (relay hl)
      (w := hold (taken (call.use w.boundary.lastReporter) w.boundary.holding) { w with journal })
      (h.of_same rfl rfl rfl rfl rfl rfl) call hsight
    refine (worked.settle fun v hv => ?_).caught _ fun v hv => ?_
    · have back : Steady v (released (call.use w.boundary.lastReporter) v) := by
        cases call.use w.boundary.lastReporter with
        | nothing => exact .refl v
        | _ =>
          unfold released release
          dsimp only
          split <;> exact .of_same rfl rfl rfl rfl rfl rfl
      exact ⟨(back hv.1).1, (back hv.1).2.trans hv.2⟩
    · exact ⟨hv.1.of_same rfl rfl rfl rfl rfl rfl, hv.2⟩

theorem see (cue : Cue) : Act.Keeps (native E S) (Boundary.see cue) :=
  Act.Keeps.modify fun _ h => ⟨h.seen cue, rfl⟩

theorem watchedCall (call : Call) : Act.Keeps (native E S) (Boundary.watchedCall call) := by
  have called : Act.Keeps (native E S) (do Boundary.see (.called call); call.act) :=
    fun link hl w => Outcome.Ends.imp fun h => act hl (h.seen (.called call)) rfl
  have whole := called.bind fun answer => (see (.returned call)).bind fun _ => Act.Keeps.pure answer
  rwa [bind_assoc] at whole

theorem watched (code : Code S) : Act.Keeps (native E S) code.watched := by
  induction code with
  | finish reply => exact Act.Keeps.pure reply
  | think change next ih =>
    have thinks : Act.Keeps (native E S) (Act.modify fun w : World E (Watched S) =>
        { w with host := { w.host with own := change w.host.own } }) :=
      Act.Keeps.modify fun _ => .of_same rfl rfl rfl rfl rfl rfl
    exact thinks.bind fun _ => Act.Keeps.get.bind fun w => ih _
  | call asked next ih => exact (watchedCall asked).bind ih

theorem attend (callback : Callback) (code : Code S) :
    Act.Keeps (native E S) (code.attend callback) :=
  (see _).bind fun _ => (watched code).bind fun _ => (see _).bind fun _ => Act.Keeps.pure _

theorem link (host : Callback → Code S) (depth : Nat) :
    (native E S).admits (watching host depth) := by
  -- Calls at depth 0 are stuck, and a call one deeper is code over the link below it.
  induction depth with
  | zero => exact fun _ _ _ => trivial
  | succ depth ih =>
    intro callback w h
    have attended := attend callback (host callback) (watching host depth) ih (stepIn callback w)
    refine (attended.mono fun v hv => hv h).settle fun v hv => ?_
    obtain ⟨horderly, hfunctions⟩ := hv
    have out : (stepOut callback v).host.functions = w.host.functions := by
      simp [stepOut, hfunctions, stepIn]
    have back : (stepIn callback (stepOut callback v)).host.functions = v.host.functions := by
      simp [stepIn, out, hfunctions]
    exact ⟨horderly.of_same back rfl rfl rfl rfl rfl, out⟩

end native

/-! ## Runs -/

/-- No service call is in flight, and what there is now is all that was seen. -/
structure Quiescent (w : World E (Watched S)) : Prop where
  inFlight : w.inFlight = false
  functions : w.host.functions = []
  closed : ∀ reporter, ¬ IsOpenIn w.reporters reporter
  sights : ∃ cue, w.host.sights = [sight cue w]

theorem Quiescent.orderly {w : World E (Watched S)} (h : Quiescent w) : Orderly none w := by
  have closed : ∀ reporter, IsOpenIn w.reporters reporter ↔ reporter ∈ w.host.functions := by
    simpa [h.functions] using h.closed
  have flag : w.inFlight = true ↔ w.host.functions ≠ [] := by simp [h.functions, h.inFlight]
  have single : w.host.functions.length ≤ 1 := by simp [h.functions]
  have kept : ∀ reporter ∈ w.host.functions, w.boundary.lastReporter = some reporter := by
    simp [h.functions]
  obtain ⟨cue, hsights⟩ := h.sights
  have same (other : Cue) : (sight other w).Follows (sight cue w) :=
    ⟨fun _ hne => absurd rfl hne, fun _ _ howner => howner⟩
  exact
    { single, flag, opened := closed, kept
      past := by simpa [hsights] using (⟨single, flag, closed, kept⟩ : (sight cue w).Sound)
      chain := by simp [hsights]
      linked := by simpa [hsights] using same }

theorem Sight.Sound.last {m : Sight} (h : m.Sound) :
    ∀ reporter ∈ m.lastReporter, ¬ IsOpenIn m.reporters reporter ∨ m.functions = [reporter] := by
  intro reporter hlast
  by_cases hopen : IsOpenIn m.reporters reporter
  · exact .inr (eq_singleton_of_mem h.single ((h.opened reporter).mp hopen))
  · exact .inl hopen

/-- **Reports reach the call in flight only.** Whatever calls host code makes of the boundary, from inside
host functions and to any depth, whatever functions for services it sets meanwhile, whatever brains it
makes, and as often as it stops and starts the runtime: at every moment one function for services runs at
most, its call is the one in flight, and its reporter is the one that is kept. A reporter that is kept
while no function runs is closed. From one moment to the next the result of a bridge changes only if a
report begins at the earlier one while the function runs whose call was made through that bridge, and
then for no other bridge. A report that begins while no function runs changes no result. Once the host
code is through no reporter is left open. -/
theorem reports_reach_call (host : Callback → Code S) (depth : Nat) (code : Code S)
    {w : World E (Watched S)} (h : Quiescent w) :
    (code.watched (watching host depth) w).Ends fun v =>
      (∀ m ∈ v.host.sights,
        m.functions.length ≤ 1 ∧ (m.inFlight = true ↔ m.functions ≠ []) ∧
        (∀ reporter ∈ m.functions, m.lastReporter = some reporter) ∧
        ∀ reporter ∈ m.lastReporter, ¬ IsOpenIn m.reporters reporter ∨ m.functions = [reporter]) ∧
      v.host.sights.IsChain Sight.Follows ∧
      (∀ m ∈ v.host.sights.head?, ∀ cue, (sight cue v).Follows m) ∧
      v.inFlight = false ∧ ∀ reporter, ¬ IsOpenIn v.reporters reporter := by
  have kept := native.watched code (watching host depth) (native.link host depth) w
  refine kept.mono fun v hv => ?_
  obtain ⟨orderly, hfunctions⟩ := hv h.orderly
  rw [h.functions] at hfunctions
  refine ⟨fun m hm => ?_, orderly.chain, orderly.linked, ?_, fun reporter hopen => ?_⟩
  · have sound := orderly.past m hm
    exact ⟨sound.single, sound.flag, sound.kept, sound.last⟩
  · simpa [hfunctions] using orderly.flag
  · simpa [hfunctions] using (orderly.opened reporter).mp hopen

/-- A runtime that is not started yet, for a host whose function for services is set. -/
def unstarted : World callingEngine (Watched Unit) :=
  seen (.returned .stop) { hooks := ⟨[.callService]⟩, host := { own := () } }

theorem unstarted_quiescent : Quiescent unstarted where
  inFlight := rfl
  functions := rfl
  closed := by simp [IsOpenIn, unstarted, seen]
  sights := ⟨_, rfl⟩

def obliging : Callback → Code Unit
  | .callService .. => .call (.reportResult (some "1".toUTF8)) fun _ => .finish .none
  | _ => .finish .none

/-- Makes a brain, whose source calls a service, and then reports once more. -/
def tardy : Code Unit :=
  .call (.start (some "p".toUTF8)) fun _ => .call (.reset (some "b".toUTF8) (some "s".toUTF8)) fun _ =>
    .call (.reportResult (some "2".toUTF8)) fun _ => .finish .none

/-- The report from inside the call is the result, and the one after it is lost. -/
theorem reports_reach_call_tardy :
    Quiescent unstarted ∧
    (tardy.watched (watching obliging 1) unstarted).Ends fun v =>
      v.results = #[some "1"] ∧ v.host.sights.length = 11 ∧ v.boundary.lastReporter = some 0 ∧
      ¬ IsOpenIn v.reporters 0 := by
  refine ⟨unstarted_quiescent, ?_⟩
  have reach := reports_reach_call obliging 1 tardy unstarted_quiescent
  have ran : (tardy.watched (watching obliging 1) unstarted).Ends fun v =>
      v.results = #[some "1"] ∧ v.host.sights.length = 11 ∧ v.boundary.lastReporter = some 0 := by
    decide +kernel
  exact (ran.and reach).mono fun v hv => ⟨hv.1.1, hv.1.2.1, hv.1.2.2, hv.2.2.2.2.2 0⟩

end BrainHost.Boundary
