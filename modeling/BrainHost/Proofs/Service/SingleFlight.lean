import BrainHost.Proofs.Service.Order
import BrainHost.Script.Engine

/-! # Single flight

Only one call-service function runs at a time, over all bridges and whatever host code does. -/

namespace BrainHost

variable {S : Type} {E : Engine}

theorem refused_service (failure : ServiceFailure) {K : HostKind} (w : World E K) :
    (Act.refused failure w).inFlight = w.inFlight ∧ (Act.refused failure w).results = w.results ∧
      (Act.refused failure w).reporters = w.reporters := by
  cases failure <;> exact ⟨rfl, rfl, rfl⟩

/-- **Single flight.** In every run of every host, at every moment at which host code runs, at most
one call-service function runs and the flag tells whether one does; the flag is down again at the
end. A run that panics somewhere counts as well, so this holds of the first part of any run.
While the flag is up every call that is within bounds and finds a function is refused and nothing is
called. A call that fails leaves the flag, all results and all reporters as they were. -/
theorem single_flight (host : Host S) (depth : Nat) (plan : Plan S) (w : World E (Minded S))
    (hw : Begun w) :
    ((plan.act (host.link depth) w).Ends fun v =>
      (∀ m ∈ v.host.chronicle, m.running.length ≤ 1 ∧ (m.inFlight = true ↔ m.running ≠ [])) ∧
        v.host.running = [] ∧ v.inFlight = false) ∧
    (∀ (link : Link E (Minded S)) (v : World E (Minded S)) (bridge : Nat) (service args : String),
      v.inFlight = true → Act.Fits service args → v.hooks.isSet .callService = true →
        Act.callService bridge service args link v = .done (.error (.nested service)) v) ∧
    ∀ (link : Link E (Minded S)) (v u : World E (Minded S)) (bridge : Nat) (service args : String)
      (failure : ServiceFailure),
        Act.callService bridge service args link v = .done (.error failure) u →
        ((∃ cause, failure = .invalidRequest cause) ∨ failure = .noHandler ∨
          failure = .nested service) ∧
          u.inFlight = v.inFlight ∧ u.results = v.results ∧ u.reporters = v.reporters := by
  refine ⟨?_, ?_, ?_⟩
  · refine (ordering.run host depth plan hw.inOrder).mono fun v hv => ?_
    obtain ⟨horder, hrun⟩ := hv
    have hnone : v.host.running = [] := hrun.trans hw.running
    refine ⟨fun m hm => ⟨(horder.past m hm).single, (horder.past m hm).flag⟩, hnone, ?_⟩
    have hflag := (horder.now (.left (.debug ""))).flag
    simpa [World.moment, hnone] using hflag
  · intro link v bridge service args hflight hfits hset
    have hrefused := Act.refusal?_of_inFlight v service args hfits hset hflight
    rw [Act.callService_refused link v bridge service args hrefused]
    rfl
  · intro link v u bridge service args failure hfailed
    obtain ⟨hrefused, rfl⟩ := Act.callService_error link v bridge service args hfailed
    exact ⟨Act.refusal?_cases v service args hrefused, refused_service failure v⟩

/-- A host whose call-service function calls a service again, on another bridge, before it reports. -/
def nestingHost : Host Unit
  | .callService service args reporter =>
    .ask (.call 1 service args) fun _ => .ask (.report reporter "1") fun _ => .finish .none
  | _ => .finish .none

def twoBridges : World Script.engine (Minded Unit) :=
  { hooks := ⟨Hook.all⟩, results := #[none, none]
    host := { own := (), chronicle := [⟨.left (.debug ""), [], false, #[], #[none, none]⟩] } }

theorem twoBridges_begun : Begun twoBridges := ⟨⟨rfl, rfl, by simp [twoBridges, IsOpenIn]⟩, _, rfl⟩

def callOnce : Plan Unit := .ask (.call 0 "add" "[1]") fun _ => .finish .none

/-- The call that the nesting host's function makes is refused. -/
theorem single_flight_nested :
    Begun twoBridges ∧
    ((callOnce.act (nestingHost.link 2) twoBridges).Ends fun v =>
      v.host.chronicle.map (fun m => (m.running, m.inFlight)) =
        [([], false), ([0], true), ([0], true), ([0], true), ([0], true), ([0], true), ([0], true), ([], false),
          ([], false)] ∧
      (∀ m ∈ v.host.chronicle, m.running.length ≤ 1 ∧ (m.inFlight = true ↔ m.running ≠ [])) ∧
        v.host.running = [] ∧ v.inFlight = false) := by
  have ends : (callOnce.act (nestingHost.link 2) twoBridges).Ends fun v =>
      v.host.chronicle.map (fun m => (m.running, m.inFlight)) =
        [([], false), ([0], true), ([0], true), ([0], true), ([0], true), ([0], true), ([0], true), ([], false),
          ([], false)] := by
    decide +kernel
  exact ⟨twoBridges_begun,
    ends.and (single_flight nestingHost 2 callOnce twoBridges twoBridges_begun).1⟩

end BrainHost
