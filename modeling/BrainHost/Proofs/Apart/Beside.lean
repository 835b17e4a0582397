import BrainHost.Proofs.Act.Free
import BrainHost.Proofs.Apart.Twin
import BrainHost.Proofs.Service.Order

/-! # What scripts of one brain leave alone

Where the host starts nothing, scripts change no brain and no service result but the one of the bridge
by which they call services. A call that they make is over when they go on. -/

namespace BrainHost

variable {E : Engine} {K : HostKind} {α : Type}

/-- No brain has changed, and no service result but that of one bridge. -/
structure Beside (bridge : Nat) (w v : World E K) : Prop where
  config : v.config = w.config
  hooks : v.hooks = w.hooks
  inFlight : v.inFlight = w.inFlight
  registry : v.registry = w.registry
  brains : v.brains = w.brains
  size : v.results.size = w.results.size
  results : ∀ other, other ≠ bridge → resultIn v.results other = resultIn w.results other
  owners : ∀ reporter owner, ownerIn w.reporters reporter = some owner →
    ownerIn v.reporters reporter = some owner

namespace Beside

variable {bridge : Nat} {u v w : World E K}

theorem refl (w : World E K) : Beside bridge w w := ⟨rfl, rfl, rfl, rfl, rfl, rfl, fun _ _ => rfl, fun _ _ h => h⟩

theorem trans (h : Beside bridge w v) (h' : Beside bridge v u) : Beside bridge w u where
  config := h'.config.trans h.config
  hooks := h'.hooks.trans h.hooks
  inFlight := h'.inFlight.trans h.inFlight
  registry := h'.registry.trans h.registry
  brains := h'.brains.trans h.brains
  size := h'.size.trans h.size
  results other hne := (h'.results other hne).trans (h.results other hne)
  owners _ _ howner := h'.owners _ _ (h.owners _ _ howner)

theorem of_aside (journal : Array (Entry K.Note)) (life : Option (Life E)) :
    Beside bridge w { w with journal, life } := ⟨rfl, rfl, rfl, rfl, rfl, rfl, fun _ _ => rfl, fun _ _ h => h⟩

theorem heard (reporter : Nat) : Beside bridge w (Act.heard reporter w) where
  config := rfl
  hooks := rfl
  inFlight := rfl
  registry := rfl
  brains := rfl
  size := rfl
  results _ _ := rfl
  owners _ _ howner := (ownerIn_modify (f := fun r => { r with awaiting := false }) (fun _ => rfl) _ _ _).trans howner

theorem stored (result : Option String) : Beside bridge w (Act.stored bridge result w) where
  config := rfl
  hooks := rfl
  inFlight := rfl
  registry := rfl
  brains := rfl
  size := by simp [Act.stored]
  results _ hne := resultIn_modify_of_ne _ hne _
  owners _ _ howner := howner

end Beside

/-- Conduct: scripts that call services by one bridge change no other result and no brain. -/
def beside (E : Engine) (K : HostKind) (bridge : Nat) : Conduct E K where
  admits link := ∀ callback w, (∀ reporter ∈ callback.reporter?, ownerIn w.reporters reporter = some bridge) →
    (link callback w).Ends (Beside bridge w)
  rel := Beside bridge
  refl := .refl
  trans := .trans

namespace beside

variable {bridge : Nat} {host : Manners} {v w : World E K}

theorem loud : (beside E K bridge).Loud where
  logged w _ := .of_aside _ w.life
  invoke callback hc link hl w := hl callback w (by simp [callback.reporter?_of_other hc])

theorem scratching : (beside E K bridge).Scratching where
  logged w _ := .of_aside _ w.life
  scratched w _ := .of_aside w.journal _

theorem callService (service args : String) :
    Act.Keeps (beside E K bridge) (Act.callService bridge service args) := by
  intro link hl w
  rw [Act.callService_apply]
  cases hrefusal : Act.refusal? w service args with
  | some failure =>
    cases failure with
    | invalidRequest cause => exact loud.logged w _
    | _ => exact .refl w
  | none =>
    -- The flag was clear and is cleared again, so it is as it was although it was set meanwhile.
    have hflag := Act.inFlight_of_refusal?_none w service args hrefusal
    have called := hl (.callService service args w.reporters.size) (Act.opened bridge w)
      (by simp [Callback.reporter?, ownerIn, Act.opened])
    have ended (v : World E K) (h : Beside bridge (Act.opened bridge w) v) :
        Beside bridge w (Act.closed w.reporters.size v) :=
      { h with
        inFlight := hflag.symm
        owners := fun reporter owner howner =>
          (ownerIn_modify (f := fun r => { r with isOpen := false }) (fun _ => rfl) _ _ _).trans
            (h.owners _ _ (ownerIn_push howner _)) }
    refine (called.settle ended).bind (fun _ v hv => ?_) fun _ hv => hv
    exact (loud.conclude bridge _ service link hl v).mono fun u hu => hv.trans hu

theorem serving : (beside E K bridge).Serving (some bridge) where
  toLoud := loud
  callService _ hother := Option.some.inj hother ▸ callService

theorem report {link : Link E K} (hl : (beside E K bridge).admits link) {reporter : Nat}
    (howner : ownerIn w.reporters reporter = some bridge) (text : String) :
    (Act.report reporter text link w).Ends (Beside bridge w) := by
  have fails (failure : ServiceFailure) {v : World E K} (hv : Beside bridge w v) :
      (Act.logService failure link v : Outcome _ (Except ServiceFailure Unit)).Ends (Beside bridge w) :=
    (loud.logService failure link hl v).mono fun _ hu => hv.trans hu
  cases hcheck : Limit.json.check text with
  | error cause =>
    rw [Act.report_rejected link w reporter text hcheck]
    exact fails _ (loud.logged w _)
  | ok u =>
    by_cases hopen : IsOpenIn w.reporters reporter
    · obtain ⟨⟨awaiting, isOpen, owner⟩, hx, rfl⟩ := hopen
      obtain rfl : owner = bridge := by simpa [ownerIn, hx] using howner
      have hstored (r : Option String) : Beside owner w (Act.stored owner r (Act.heard reporter w)) :=
        (Beside.heard reporter).trans (.stored r)
      rw [Act.report_open link w reporter text hcheck hx]
      split
      · exact hstored _
      · exact fails _ (hstored none)
    · rw [Act.report_closed link w reporter text hcheck hopen]
      exact fails _ (.heard reporter)

theorem reportAll {link : Link E K} (hl : (beside E K bridge).admits link) {reporter : Nat}
    (texts : List String) (howner : ownerIn w.reporters reporter = some bridge) :
    (BrainHost.reportAll reporter texts link w).Ends (Beside bridge w) := by
  induction texts generalizing w with
  | nil => exact .refl w
  | cons text texts ih =>
    rw [BrainHost.reportAll, Act.bind_apply]
    refine (report hl howner text).bind (fun _ v hv => ?_) fun _ hv => hv
    exact (ih (hv.owners _ _ howner)).mono fun u hu => hv.trans hu

theorem quiet : (beside E K bridge).admits host.quiet := by
  intro callback w _
  unfold Manners.quiet
  cases host.reply callback <;> exact .refl w

theorem link : (beside E K bridge).admits host.link := by
  intro callback w howner
  by_cases hservice : ∃ service args reporter, callback = .callService service args reporter
  · obtain ⟨service, args, reporter, rfl⟩ := hservice
    have reported : (BrainHost.reportAll reporter (host.reports service args) host.quiet w).Ends (Beside bridge w) :=
      reportAll quiet _ (howner reporter rfl)
    change ((do BrainHost.reportAll reporter (host.reports service args)
                Act.invoke (.callService service args reporter) : Act E K Reply) host.quiet w).Ends _
    rw [Act.bind_apply]
    refine reported.bind (fun _ v hv => ?_) fun _ hv => hv
    exact (quiet (.callService service args reporter) v fun other hother =>
      hv.owners _ _ (howner other hother)).mono fun u hu => hv.trans hu
  · rw [Manners.link_of_other fun service args reporter heq => hservice ⟨service, args, reporter, heq⟩]
    exact quiet callback w howner

end beside

end BrainHost
