import BrainHost.Proofs.Service.Errors
import BrainHost.Proofs.Service.Order
import BrainHost.Script.Engine

/-! # Who may report

A reporter is open only while its own call runs, and only an open reporter can change a result. What
is reported too late is refused and logged. -/

namespace BrainHost

/-- Why a report through a closed reporter fails. -/
def lateFailure (result : String) : ServiceFailure :=
  match Limit.json.check result with
  | .error cause => .resultRejected cause
  | .ok () => .noCurrentUser result

namespace Act

variable {E : Engine} {K : HostKind}

/-- The state in which a late report is logged. -/
def late (reporter : Nat) (result : String) (w : World E K) : World E K :=
  match Limit.json.check result with
  | .error cause => logged .warn "brain" cause.message w
  | .ok () => heard reporter w

theorem report_late (link : Link E K) (w : World E K) (reporter : Nat) (result : String)
    (hc : ¬ IsOpenIn w.reporters reporter) :
    report reporter result link w =
      logService (lateFailure result) link (late reporter result w) := by
  unfold lateFailure late
  cases hcheck : Limit.json.check result with
  | error cause => exact report_rejected link w reporter result hcheck
  | ok u => exact report_closed link w reporter result hcheck hc

theorem late_results (reporter : Nat) (result : String) (w : World E K) :
    (late reporter result w).results = w.results := by
  unfold late
  split <;> rfl

theorem late_open (reporter other : Nat) (result : String) (w : World E K) :
    IsOpenIn (late reporter result w).reporters other ↔ IsOpenIn w.reporters other := by
  unfold late
  split
  · exact Iff.rfl
  · exact isOpenIn_hear w.reporters reporter other

theorem late_errors (reporter : Nat) (result : String) (w : World E K) :
    (late reporter result w).errors = w.errors := by
  unfold late
  split
  · exact errors_warned _ _ w
  · rfl

end Act

theorem lateFailure_cases (result : String) :
    (∃ cause, Limit.json.check result = .error cause ∧ lateFailure result = .resultRejected cause) ∨
      Limit.json.check result = .ok () ∧ lateFailure result = .noCurrentUser result := by
  unfold lateFailure
  cases hcheck : Limit.json.check result with
  | error cause => exact .inl ⟨cause, rfl, rfl⟩
  | ok u => exact .inr ⟨rfl, rfl⟩

variable {S : Type} {E : Engine}

theorem Moment.InOrder.unique {m : Moment} (h : m.InOrder) {reporter other : Nat}
    (hr : IsOpenIn m.reporters reporter) (ho : IsOpenIn m.reporters other) : reporter = other := by
  have hr := (h.opened reporter).mp hr
  have ho := (h.opened other).mp ho
  have single := h.single
  match hrun : m.running with
  | [] => simp [hrun] at hr
  | [x] =>
    rw [hrun, List.mem_singleton] at hr ho
    rw [hr, ho]
  | _ :: _ :: _ => simp [hrun] at single

theorem InOrder.whole {w : World E (Minded S)} (h : InOrder w) (turn : Turn) :
    (w.moment turn :: w.host.chronicle).IsChain Moment.Follows := by
  cases hc : w.host.chronicle with
  | nil => exact List.isChain_singleton _
  | cons m rest =>
    refine List.isChain_cons_cons.mpr ⟨h.linked m (by simp [hc]) turn, ?_⟩
    rw [← hc]
    exact h.chain

/-- **Ownership of results.** In every run of every host, at every moment at which host code runs,
the open reporters are those of the call-service functions that run, and there is one at most. The
result of a bridge changes only at a report through an open reporter that was made for it, from the
start of the run to its end. A call hands a new reporter of its bridge to the host's function and
closes it afterwards. A report through a closed reporter fails, as rejected or for want of a user;
it logs that one error and changes no result before the host's sink hears of it, and none at all
if the sink changes none. -/
theorem reporter_ownership (host : Host S) (depth : Nat) (plan : Plan S) (w : World E (Minded S))
    (hw : Begun w) :
    ((plan.act (host.link depth) w).Ends fun v =>
      (∀ m ∈ v.host.chronicle, (∀ reporter, IsOpenIn m.reporters reporter ↔ reporter ∈ m.running) ∧
        ∀ reporter other, IsOpenIn m.reporters reporter → IsOpenIn m.reporters other →
          reporter = other) ∧
      (∀ turn, (v.moment turn :: v.host.chronicle).IsChain Moment.Follows) ∧
      ∀ reporter, ¬ IsOpenIn v.reporters reporter) ∧
    (∀ (link : Link E (Minded S)) (v : World E (Minded S)) (bridge : Nat) (service args : String),
      Act.refusal? v service args = none →
        Act.callService bridge service args link v =
          ((link (.callService service args v.reporters.size) (Act.opened bridge v)).settle
            (Act.closed v.reporters.size)).bind fun _ u =>
              Act.conclude bridge v.reporters.size service link u) ∧
    ∀ (link : Link E (Minded S)) (v : World E (Minded S)) (reporter : Nat) (result : String),
      ¬ IsOpenIn v.reporters reporter → ∃ failure u,
        ((∃ cause, Limit.json.check result = .error cause ∧ failure = .resultRejected cause) ∨
          Limit.json.check result = .ok () ∧ failure = .noCurrentUser result) ∧
        u.results = v.results ∧ u.errors = v.errors ∧
        (∀ other, IsOpenIn u.reporters other ↔ IsOpenIn v.reporters other) ∧
        Act.report reporter result link v =
          (Act.logError failure.message link u).bind (fun _ x => .done (.error failure) x) ∧
        (Act.Mute link → (Act.report reporter result link v).Ends fun y =>
          y.results = v.results ∧ y.errors = v.errors ++ [failure.message]) := by
  refine ⟨?_, fun link v bridge service args => Act.callService_accepted link v bridge service args,
    ?_⟩
  · refine (ordering.run host depth plan hw.inOrder).mono fun v hv => ?_
    obtain ⟨horder, hrun⟩ := hv
    refine ⟨fun m hm => ⟨(horder.past m hm).opened, fun _ _ => (horder.past m hm).unique⟩,
      horder.whole, ?_⟩
    intro reporter hopen
    have := ((horder.now (.left (.debug ""))).opened reporter).mp hopen
    simp [World.moment, hrun.trans hw.running] at this
  · intro link v reporter result hclosed
    have hlate := Act.report_late link v reporter result hclosed
    refine ⟨lateFailure result, Act.late reporter result v, lateFailure_cases result,
      Act.late_results reporter result v, Act.late_errors reporter result v,
      fun other => Act.late_open reporter other result v, ?_, fun hmute => ?_⟩
    · rw [hlate, Act.logService_apply]
    · rw [hlate]
      refine (Act.logService_mute hmute _ _).mono fun y hy => ?_
      exact ⟨hy.1.trans (Act.late_results reporter result v),
        hy.2.trans (by rw [Act.late_errors reporter result v])⟩

/-- A host that keeps every reporter. Its call-service function reports the arguments, but first
reports through the oldest reporter that it has. -/
def hoardingHost : Host (List Nat)
  | .callService _ args reporter =>
    .think (· ++ [reporter]) fun kept => .ask (.report (kept.headD 0) "0") fun _ =>
      .ask (.report reporter args) fun _ => .finish .none
  | _ => .finish .none

def hoarding : World Script.engine (Minded (List Nat)) :=
  { hooks := ⟨[.callService]⟩, results := #[none, none]
    host := { own := [], chronicle := [⟨.left (.debug ""), [], false, #[], #[none, none]⟩] } }

theorem hoarding_begun : Begun hoarding := ⟨⟨rfl, rfl, by simp [hoarding, IsOpenIn]⟩, _, rfl⟩

def callTwice : Plan (List Nat) :=
  .ask (.call 0 "add" "[1]") fun _ => .ask (.call 1 "add" "[2]") fun _ => .finish .none

/-- In the second call the reporter of the first has no current user. -/
theorem reporter_ownership_hoarding :
    Begun hoarding ∧
    ((callTwice.act (hoardingHost.link 1) hoarding).Ends fun v =>
      (v.results = #[some "[1]", some "[2]"] ∧
        v.errors = [(ServiceFailure.noCurrentUser "0").message]) ∧
      (∀ m ∈ v.host.chronicle, (∀ reporter, IsOpenIn m.reporters reporter ↔ reporter ∈ m.running) ∧
        ∀ reporter other, IsOpenIn m.reporters reporter → IsOpenIn m.reporters other →
          reporter = other) ∧
      (∀ turn, (v.moment turn :: v.host.chronicle).IsChain Moment.Follows) ∧
      ∀ reporter, ¬ IsOpenIn v.reporters reporter) := by
  have ends : (callTwice.act (hoardingHost.link 1) hoarding).Ends fun v =>
      v.results = #[some "[1]", some "[2]"] ∧
        v.errors = [(ServiceFailure.noCurrentUser "0").message] := by
    decide +kernel
  have owned := (reporter_ownership hoardingHost 1 callTwice hoarding hoarding_begun).1
  exact ⟨hoarding_begun, ends.and owned⟩

end BrainHost
