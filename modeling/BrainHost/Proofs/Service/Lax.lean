import BrainHost.Proofs.Act.Free
import BrainHost.Proofs.Service.Call

/-! # Conducts that do not mind service calls

A conduct that leaves the service protocol out of account is kept by service calls and by reports. -/

namespace BrainHost

variable {E : Engine} {K : HostKind} {α : Type} {D : Conduct E K}

theorem Conduct.Loud.logService (h : D.Loud) (failure : ServiceFailure) :
    Act.Keeps D (Act.logService failure : Act E K (Except ServiceFailure α)) :=
  h.outward (.logService failure)

theorem Conduct.Loud.conclude (h : D.Loud) (bridge reporter : Nat) (service : String) :
    Act.Keeps D (Act.conclude bridge reporter service) := by
  refine Act.Keeps.get.bind fun w => ?_
  dsimp only
  split
  · exact (h.logError _).bind fun _ => (Act.Keeps.lastResult bridge).bind fun _ => Act.Keeps.pure _
  · exact (Act.Keeps.lastResult bridge).bind fun _ => Act.Keeps.pure _

/-- A conduct that every host function keeps and that does not mind reporters. -/
structure Conduct.Attending (D : Conduct E K) : Prop where
  logged : ∀ w row, D.rel w { w with journal := w.journal.push (.logged row) }
  invoke : ∀ callback, Act.Keeps D (Act.invoke callback : Act E K Reply)
  attended : ∀ w reporters inFlight, D.rel w { w with reporters, inFlight }

namespace Conduct.Attending

variable (h : D.Attending)
include h

theorem loud : D.Loud where
  logged := h.logged
  invoke callback _ := h.invoke callback

theorem callService (bridge : Nat) (service args : String) :
    Act.Keeps D (Act.callService bridge service args : Act E K _) := by
  intro link hl w
  rw [Act.callService_apply]
  cases hr : Act.refusal? w service args with
  | some failure =>
    cases failure with
    | invalidRequest cause => exact h.logged w _
    | _ => exact D.refl w
  | none =>
    have called := h.invoke (.callService service args w.reporters.size) link hl (Act.opened bridge w)
    have reached : (link (.callService service args w.reporters.size) (Act.opened bridge w)).Ends
        (D.rel w) := called.mono fun v hv => D.trans (h.attended w _ _) hv
    refine (reached.settle fun v hv => D.trans hv (h.attended v _ _)).bind
      (fun _ v hv => ?_) fun v hv => hv
    exact (h.loud.conclude bridge _ service link hl v).mono fun u hu => D.trans hv hu

end Conduct.Attending

/-- A conduct that every host function keeps and that does not mind what becomes of service calls. -/
structure Conduct.Lax (D : Conduct E K) : Prop where
  logged : ∀ w row, D.rel w { w with journal := w.journal.push (.logged row) }
  invoke : ∀ callback, Act.Keeps D (Act.invoke callback : Act E K Reply)
  serving : ∀ w reporters inFlight results, D.rel w { w with reporters, inFlight, results }

namespace Conduct.Lax

variable (h : D.Lax)
include h

theorem attending : D.Attending where
  logged := h.logged
  invoke := h.invoke
  attended w reporters inFlight := h.serving w reporters inFlight w.results

theorem loud : D.Loud := h.attending.loud

theorem callService (bridge : Nat) (service args : String) :
    Act.Keeps D (Act.callService bridge service args : Act E K _) := h.attending.callService bridge service args

theorem report (reporter : Nat) (result : String) :
    Act.Keeps D (Act.report reporter result : Act E K _) := by
  refine (h.loud.checkText _ _).bind fun r => ?_
  cases r with
  | error cause => exact h.loud.logService _
  | ok u =>
    have set (bridge : Nat) (r : Option String) : Act.Keeps D (Act.setResult bridge r : Act E K Unit) :=
      Act.Keeps.modify fun w => h.serving w w.reporters w.inFlight _
    have hear : Act.Keeps D
        (Act.modifyReporter reporter fun r => { r with awaiting := false } : Act E K Unit) :=
      Act.Keeps.modify fun w => h.serving w _ w.inFlight w.results
    refine hear.bind fun _ => Act.Keeps.get.bind fun w => ?_
    split
    · split
      · exact (set _ _).bind fun _ => Act.Keeps.pure _
      · exact (set _ _).bind fun _ => h.loud.logService _
    · exact h.loud.logService _

end Conduct.Lax

end BrainHost
