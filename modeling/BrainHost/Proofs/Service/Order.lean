import BrainHost.Proofs.Service.Play
import Mathlib.Data.List.Chain

/-! # The service protocol in order

The invariant of the service protocol: a call is in flight exactly while a call-service function
runs, one reporter is open then and none otherwise, and results change only when something is
reported through an open reporter. Every run of every host keeps it. -/

namespace BrainHost

variable {S : Type} {E : Engine}

namespace Moment

/-- One call-service function runs at most, the flag tells whether one does, and the open reporters
are those of the functions that run. -/
structure InOrder (m : Moment) : Prop where
  single : m.running.length ≤ 1
  flag : m.inFlight = true ↔ m.running ≠ []
  opened : ∀ reporter, IsOpenIn m.reporters reporter ↔ reporter ∈ m.running

def IsReportFor (m : Moment) (bridge : Nat) : Prop :=
  ∃ reporter result awaiting, m.turn = .asked (.report reporter result) ∧
    m.reporters[reporter]? = some ⟨awaiting, true, bridge⟩

/-- A moment follows from the one before: the result of a bridge changed only if a report for it
began, and reporters stay those of the bridges they were made for. -/
structure Follows (later earlier : Moment) : Prop where
  results : ∀ bridge, resultIn later.results bridge ≠ resultIn earlier.results bridge →
    earlier.IsReportFor bridge
  owners : ∀ reporter bridge, ownerIn earlier.reporters reporter = some bridge →
    ownerIn later.reporters reporter = some bridge

end Moment

/-- The service protocol is in order now and was so at every moment. -/
structure InOrder (w : World E (Minded S)) : Prop where
  /-- The turn does not matter here. -/
  now : ∀ turn, (w.moment turn).InOrder
  past : ∀ m ∈ w.host.chronicle, m.InOrder
  chain : w.host.chronicle.IsChain Moment.Follows
  linked : ∀ m ∈ w.host.chronicle.head?, ∀ turn, (w.moment turn).Follows m

structure Alike (v w : World E (Minded S)) : Prop where
  opened : ∀ reporter, IsOpenIn v.reporters reporter ↔ IsOpenIn w.reporters reporter
  owners : ∀ reporter, ownerIn v.reporters reporter = ownerIn w.reporters reporter

theorem Alike.of_eq {v w : World E (Minded S)} (h : v.reporters = w.reporters) : Alike v w :=
  ⟨fun _ => by rw [h], fun _ => by rw [h]⟩

theorem InOrder.congr {v w : World E (Minded S)} (h : InOrder w)
    (hrun : v.host.running = w.host.running) (hchron : v.host.chronicle = w.host.chronicle)
    (hflag : v.inFlight = w.inFlight) (halike : Alike v w)
    (hres : ∀ bridge, resultIn v.results bridge = resultIn w.results bridge) : InOrder v where
  now turn :=
    { single := by simpa [World.moment, hrun] using (h.now turn).single
      flag := by simpa [World.moment, hrun, hflag] using (h.now turn).flag
      opened := by
        intro reporter
        simpa [World.moment, hrun, halike.opened reporter] using (h.now turn).opened reporter }
  past := by rw [hchron]; exact h.past
  chain := by rw [hchron]; exact h.chain
  linked := by
    intro m hm turn
    rw [hchron] at hm
    have old := h.linked m hm turn
    exact
      { results := fun bridge hne => old.results bridge (by simpa [World.moment, hres bridge] using hne)
        owners := fun reporter bridge howner =>
          (halike.owners reporter).trans (old.owners reporter bridge howner) }

theorem InOrder.noted {w : World E (Minded S)} (h : InOrder w) (turn : Turn) :
    InOrder (noted turn w) where
  now := h.now
  past := by
    intro m hm
    rcases List.mem_cons.mp hm with rfl | hm
    · exact h.now turn
    · exact h.past m hm
  chain := by
    cases hc : w.host.chronicle with
    | nil => simp [BrainHost.noted, hc]
    | cons m rest =>
      simp only [BrainHost.noted, hc]
      refine List.isChain_cons_cons.mpr ⟨h.linked m (by simp [hc]) turn, ?_⟩
      rw [← hc]
      exact h.chain
  linked := by
    intro m hm turn'
    obtain rfl : w.moment turn = m := by simpa [BrainHost.noted] using hm
    exact ⟨fun bridge hne => absurd rfl hne, fun _ _ howner => howner⟩

/-- Conduct: the protocol stays in order, and the functions that run are the same afterwards. A link
gets to call a function only where the protocol is in order while the function runs. -/
def ordering (S : Type) (E : Engine) : Conduct E (Minded S) where
  admits link := ∀ callback w, InOrder (entering callback w) →
    (link callback w).Ends fun v => InOrder (entering callback v) ∧ v.host.running = w.host.running
  rel w v := InOrder w → InOrder v ∧ v.host.running = w.host.running
  refl _ h := ⟨h, rfl⟩
  trans h₁ h₂ h := ⟨(h₂ (h₁ h).1).1, (h₂ (h₁ h).1).2.trans (h₁ h).2⟩

namespace ordering

variable {w : World E (Minded S)}

theorem rel_congr {v w : World E (Minded S)} (hrun : v.host.running = w.host.running)
    (hchron : v.host.chronicle = w.host.chronicle) (hflag : v.inFlight = w.inFlight)
    (halike : Alike v w) (hres : ∀ bridge, resultIn v.results bridge = resultIn w.results bridge) :
    (ordering S E).rel w v :=
  fun h => ⟨h.congr hrun hchron hflag halike hres, hrun⟩

theorem rel_of_same {v w : World E (Minded S)} (hrun : v.host.running = w.host.running)
    (hchron : v.host.chronicle = w.host.chronicle) (hflag : v.inFlight = w.inFlight)
    (hrep : v.reporters = w.reporters) (hres : v.results = w.results) : (ordering S E).rel w v :=
  rel_congr hrun hchron hflag (.of_eq hrep) (fun _ => by rw [hres])

end ordering

theorem entering_of_other {callback : Callback}
    (h : ∀ service args reporter, callback ≠ .callService service args reporter)
    (w : World E (Minded S)) : entering callback w = w := by
  cases callback with
  | callService service args reporter => exact absurd rfl (h service args reporter)
  | _ => rfl

namespace ordering

theorem loud : (ordering S E).Loud where
  logged _ _ := rel_of_same rfl rfl rfl rfl rfl
  invoke callback hc := by
    intro link hl w
    refine Outcome.Ends.imp fun h => ?_
    have called := hl callback w
    simp only [entering_of_other hc] at called
    exact called h

theorem idle {w : World E (Minded S)} (h : InOrder w) (hf : w.inFlight = false) : Idle w := by
  have now := h.now (.left (.debug ""))
  have running : w.host.running = [] := by
    refine Decidable.byContradiction fun hne => ?_
    have := now.flag.mpr hne
    simp [World.moment, hf] at this
  refine ⟨hf, running, fun reporter hopen => ?_⟩
  have := (now.opened reporter).mp hopen
  simp [World.moment, running] at this

theorem opened {w : World E (Minded S)} (h : InOrder w) (hidle : Idle w) (bridge : Nat)
    (service args : String) :
    InOrder (entering (.callService service args w.reporters.size) (Act.opened bridge w)) where
  now turn :=
    { single := by simp [World.moment, entering, Callback.reporter?, Act.opened, hidle.running]
      flag := by simp [World.moment, entering, Callback.reporter?, Act.opened]
      opened := by
        intro reporter
        have := hidle.closed reporter
        simp [World.moment, entering, Callback.reporter?, Act.opened, hidle.running, isOpenIn_push,
          this] }
  past := h.past
  chain := h.chain
  linked := by
    intro m hm turn
    have old := h.linked m hm turn
    exact ⟨old.results, fun reporter bridge howner => ownerIn_push (old.owners reporter bridge howner) _⟩

theorem closed {v : World E (Minded S)} {reporter : Nat} {service args : String}
    (h : InOrder (entering (.callService service args reporter) v)) (hrun : v.host.running = []) :
    InOrder (Act.closed reporter v) ∧ (Act.closed reporter v).host.running = [] := by
  refine ⟨{ now := fun turn => ?_, past := h.past, chain := h.chain
            linked := fun m hm turn => ?_ }, hrun⟩
  · exact
    { single := by simp [World.moment, Act.closed, hrun]
      flag := by simp [World.moment, Act.closed, hrun]
      opened := by
        intro other
        have := (h.now turn).opened other
        simp only [World.moment, entering, Callback.reporter?, hrun, Option.toList_some,
          List.append_nil, List.mem_singleton] at this
        simp only [World.moment, Act.closed, isOpenIn_close, this, hrun, List.not_mem_nil,
          iff_false]
        exact fun hboth => hboth.1 hboth.2 }
  · have old := h.linked m hm turn
    refine ⟨old.results, fun other bridge howner => ?_⟩
    have kept := ownerIn_modify (f := fun r => { r with isOpen := false }) (fun _ => rfl)
      v.reporters reporter other
    exact kept.trans (old.owners other bridge howner)

theorem rel_refused (failure : ServiceFailure) (w : World E (Minded S)) :
    (ordering S E).rel w (Act.refused failure w) := by
  cases failure <;> exact rel_of_same rfl rfl rfl rfl rfl

theorem callService (bridge : Nat) (service args : String) :
    Act.Keeps (ordering S E) (Act.callService bridge service args) := by
  intro link hl w
  refine Outcome.Ends.imp fun h => ?_
  rw [Act.callService_apply]
  cases hr : Act.refusal? w service args with
  | some failure => exact rel_refused failure w h
  | none =>
    -- Nothing runs while the flag is down, so the new reporter is the only open one.
    have hidle := idle h (Act.inFlight_of_refusal?_none w service args hr)
    have called := hl _ _ (opened h hidle bridge service args)
    have settled := called.settle
      (Q := fun v : World E (Minded S) => InOrder v ∧ v.host.running = [])
      fun v hv => closed hv.1 (hv.2.trans hidle.running)
    refine settled.bind (fun _ v hv => ?_) fun v hv => ⟨hv.1, hv.2.trans hidle.running.symm⟩
    refine (loud.conclude bridge _ service link hl v).mono fun u hu => ?_
    exact ⟨(hu hv.1).1, (hu hv.1).2.trans (hv.2.trans hidle.running.symm)⟩

/-! ## Reports -/

theorem stored {w : World E (Minded S)} {m : Moment} {bridge : Nat} (h : InOrder w)
    (hm : w.host.chronicle.head? = some m) (hr : m.IsReportFor bridge) (result : Option String) :
    InOrder (Act.stored bridge result w) where
  now turn := ⟨(h.now turn).single, (h.now turn).flag, (h.now turn).opened⟩
  past := h.past
  chain := h.chain
  linked := by
    intro m' hm' turn
    obtain rfl : m = m' := by simpa [Act.stored, hm] using hm'
    have old := h.linked m hm turn
    refine ⟨fun other hne => ?_, old.owners⟩
    -- The report that began at the last moment accounts for its own bridge, and for no other.
    by_cases hother : other = bridge
    · subst hother
      exact hr
    · refine old.results other ?_
      simpa [World.moment, Act.stored, resultIn_modify_of_ne _ hother] using hne

theorem heard {w : World E (Minded S)} (h : InOrder w) (reporter : Nat) :
    InOrder (Act.heard reporter w) :=
  h.congr rfl rfl rfl
    { opened := isOpenIn_hear w.reporters reporter
      owners := ownerIn_modify (f := fun r => { r with awaiting := false }) (fun _ => rfl)
        w.reporters reporter }
    fun _ => rfl

theorem report (reporter : Nat) (result : String) :
    Act.Keeps (ordering S E) (do
      note (.asked (.report reporter result))
      Act.report reporter result : Act E (Minded S) _) := by
  intro link hl w
  refine Outcome.Ends.imp fun h => ?_
  have horder : InOrder (noted (.asked (.report reporter result)) w) := h.noted _
  have fails (failure : ServiceFailure) {v : World E (Minded S)} (hv : InOrder v)
      (hrun : v.host.running = w.host.running) :
      (Act.logService failure link v : Outcome _ (Except ServiceFailure Unit)).Ends
        fun x => InOrder x ∧ x.host.running = w.host.running :=
    (loud.logService failure link hl v).mono fun x hx => ⟨(hx hv).1, (hx hv).2.trans hrun⟩
  rw [Act.bind_apply, note, Act.modify_apply, Outcome.bind_done]
  cases hcheck : Limit.json.check result with
  | error cause =>
    rw [Act.report_rejected link _ reporter result hcheck]
    exact fails _ (horder.congr rfl rfl rfl (.of_eq rfl) fun _ => rfl) rfl
  | ok u =>
    by_cases hopen : IsOpenIn w.reporters reporter
    · obtain ⟨⟨awaiting, isOpen, bridge⟩, hx, rfl⟩ := hopen
      have hreport : (w.moment (.asked (.report reporter result))).IsReportFor bridge :=
        ⟨reporter, result, awaiting, rfl, hx⟩
      have hstored (r : Option String) := stored (heard horder reporter) rfl hreport r
      rw [Act.report_open link (noted _ w) reporter result hcheck hx]
      split
      · exact ⟨hstored _, rfl⟩
      · exact fails _ (hstored none) rfl
    · rw [Act.report_closed link (noted _ w) reporter result hcheck hopen]
      exact fails _ (heard horder reporter) rfl

theorem fair : (ordering S E).Fair where
  toFree := .of_table loud callService (fun _ _ _ _ => rel_of_same rfl rfl rfl rfl rfl)
    (fun w => rel_congr rfl rfl rfl (.of_eq rfl) (resultIn_push w.results)) fun _ _ => trivial
  think _ _ := rel_of_same rfl rfl rfl rfl rfl
  assign _ _ := rel_of_same rfl rfl rfl rfl rfl
  note turn _ _ := fun h => ⟨h.noted turn, rfl⟩
  report := report

/-! ## Hosts -/

theorem left {callback : Callback} {v w : World E (Minded S)}
    (hv : (ordering S E).rel (entering callback w) v) (hw : InOrder (entering callback w)) :
    InOrder (entering callback (leaving callback v)) ∧
      (leaving callback v).host.running = w.host.running := by
  obtain ⟨horder, hrun⟩ := hv hw
  have hleft : (leaving callback v).host.running = w.host.running := by
    simp [leaving, hrun, entering]
  have hback : (entering callback (leaving callback v)).host.running = v.host.running := by
    simp [entering, hleft, hrun]
  exact ⟨horder.congr hback rfl rfl (.of_eq rfl) (fun _ => rfl), hleft⟩

theorem link (host : Host S) (depth : Nat) : (ordering S E).admits (host.link depth) := by
  have admits (link : Link E (Minded S))
      (hlink : ∀ callback w, (link callback w).Ends fun v => InOrder (entering callback w) →
        InOrder (entering callback v) ∧ v.host.running = w.host.running) :
      (ordering S E).admits link :=
    fun callback w hw => (hlink callback w).mono fun _ hv => hv hw
  exact fair.link admits (fun _ _ _ hv => left hv) host depth

theorem run (host : Host S) (depth : Nat) (plan : Plan S) {w : World E (Minded S)} (h : InOrder w) :
    (plan.act (host.link depth) w).Ends fun v => InOrder v ∧ v.host.running = w.host.running :=
  (fair.plan plan (host.link depth) (link host depth) w).mono fun _ hv => hv h

end ordering

theorem Idle.moment {w : World E (Minded S)} (h : Idle w) (turn : Turn) :
    (w.moment turn).InOrder where
  single := by simp [World.moment, h.running]
  flag := by simp [World.moment, h.running, h.inFlight]
  opened := by
    intro reporter
    simpa [World.moment, h.running] using h.closed reporter

theorem Begun.inOrder {w : World E (Minded S)} (h : Begun w) : InOrder w := by
  obtain ⟨turn, hc⟩ := h.chronicle
  have same (other : Turn) : (w.moment other).Follows (w.moment turn) :=
    ⟨fun _ hne => absurd rfl hne, fun _ _ howner => howner⟩
  exact
    { now := h.moment
      past := by simpa [hc] using h.moment turn
      chain := by simp [hc]
      linked := by simpa [hc] using same }

end BrainHost
