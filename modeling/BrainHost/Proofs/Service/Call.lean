import BrainHost.Proofs.Act.Basic

/-! # What a service call and a report do

Each way in which a call is refused or a report is received, as one equation. A call that is not
refused opens a reporter, runs the host's function and closes the reporter. -/

namespace BrainHost

variable {E : Engine} {K : HostKind} {α : Type}

def IsOpenIn (reporters : Array Reporter) (reporter : Nat) : Prop :=
  ∃ x, reporters[reporter]? = some x ∧ x.isOpen = true

theorem isOpenIn_push (reporters : Array Reporter) (bridge reporter : Nat) :
    IsOpenIn (reporters.push { bridge }) reporter ↔ reporter = reporters.size ∨
      IsOpenIn reporters reporter := by
  unfold IsOpenIn
  rw [Array.getElem?_push]
  split
  · next h => simp [h]
  · next h => simp [h]

theorem isOpenIn_close (reporters : Array Reporter) (reporter other : Nat) :
    IsOpenIn (reporters.modify reporter fun r => { r with isOpen := false }) other ↔
      other ≠ reporter ∧ IsOpenIn reporters other := by
  unfold IsOpenIn
  rw [Array.getElem?_modify]
  by_cases h : reporter = other
  · subst h
    simp
  · simp [h, Ne.symm h]

theorem isOpenIn_hear (reporters : Array Reporter) (reporter other : Nat) :
    IsOpenIn (reporters.modify reporter fun r => { r with awaiting := false }) other ↔
      IsOpenIn reporters other := by
  unfold IsOpenIn
  rw [Array.getElem?_modify]
  by_cases h : reporter = other
  · subst h
    cases reporters[reporter]? <;> simp
  · simp [h]

def ownerIn (reporters : Array Reporter) (reporter : Nat) : Option Nat :=
  (reporters[reporter]?).map Reporter.bridge

theorem ownerIn_push {reporters : Array Reporter} {reporter bridge : Nat}
    (h : ownerIn reporters reporter = some bridge) (x : Reporter) :
    ownerIn (reporters.push x) reporter = some bridge := by
  unfold ownerIn at *
  rw [Array.getElem?_push]
  split
  · next hlast => simp [hlast] at h
  · exact h

theorem ownerIn_modify {f : Reporter → Reporter} (hf : ∀ x, (f x).bridge = x.bridge)
    (reporters : Array Reporter) (reporter other : Nat) :
    ownerIn (reporters.modify reporter f) other = ownerIn reporters other := by
  unfold ownerIn
  rw [Array.getElem?_modify]
  split
  · simp [Function.comp_def, hf]
  · rfl

def resultIn (results : Array (Option String)) (bridge : Nat) : Option String :=
  (results[bridge]?).getD none

theorem resultIn_push (results : Array (Option String)) (bridge : Nat) :
    resultIn (results.push none) bridge = resultIn results bridge := by
  simp only [resultIn, Array.getElem?_push]
  split
  · next h => simp [h]
  · rfl

theorem resultIn_modify_of_ne (results : Array (Option String)) {bridge other : Nat}
    (h : other ≠ bridge) (f : Option String → Option String) :
    resultIn (results.modify bridge f) other = resultIn results other := by
  simp [resultIn, Array.getElem?_modify, Ne.symm h]

namespace Act

/-! ## Calls -/

def Fits (service args : String) : Prop :=
  Limit.serviceName.check service = .ok () ∧ Limit.json.check args = .ok ()

def refusal? (w : World E K) (service args : String) : Option ServiceFailure :=
  match Limit.serviceName.check service, Limit.json.check args with
  | .error cause, _ => some (.invalidRequest cause)
  | .ok (), .error cause => some (.invalidRequest cause)
  | .ok (), .ok () =>
    if !w.hooks.isSet .callService then some .noHandler
    else if w.inFlight then some (.nested service)
    else none

/-- The state in which the host's function is called: a new reporter is open. -/
def opened (bridge : Nat) (w : World E K) : World E K :=
  { w with reporters := w.reporters.push { bridge }, inFlight := true }

/-- The state after the host's function: the reporter is closed. -/
def closed (reporter : Nat) (w : World E K) : World E K :=
  { w with
    inFlight := false, reporters := w.reporters.modify reporter fun r => { r with isOpen := false } }

def isAwaiting (reporter : Nat) (w : World E K) : Bool :=
  ((w.reporters[reporter]?).map Reporter.awaiting).getD false

/-- What a call does after the host's function. -/
def conclude (bridge reporter : Nat) (service : String) :
    Act E K (Except ServiceFailure (Option String)) := do
  let awaiting := isAwaiting reporter (← get)
  if awaiting then logError (ServiceFailure.notReported service).message
  pure (.ok (← lastResult bridge))

variable (link : Link E K) (w : World E K) (bridge : Nat) (service args : String)

/-- The state after a call that is refused: a violated bound is logged. -/
def refused (failure : ServiceFailure) (w : World E K) : World E K :=
  match failure with
  | .invalidRequest cause => logged .warn "brain" cause.message w
  | _ => w

theorem callService_apply :
    callService bridge service args link w =
      match refusal? w service args with
      | some failure => .done (.error failure) (refused failure w)
      | none =>
        ((link (.callService service args w.reporters.size) (opened bridge w)).settle
          (closed w.reporters.size)).bind fun _ v =>
            conclude bridge w.reporters.size service link v := by
  unfold callService refusal?
  rcases hs : Limit.serviceName.check service with cause | ⟨⟩
  · simp [bind_apply, checkText_apply, hs, checked, refused]
  rcases ha : Limit.json.check args with cause | ⟨⟩
  · simp [bind_apply, checkText_apply, hs, ha, checked, refused]
  cases hh : w.hooks.isSet .callService
  · simp [bind_apply, checkText_apply, isSet_apply, hs, ha, hh, checked, refused]
  cases hf : w.inFlight
  · simp [bind_apply, checkText_apply, isSet_apply, hs, ha, hh, hf, checked, newReporter,
      ensuring_apply]
    rfl
  · simp [bind_apply, checkText_apply, isSet_apply, hs, ha, hh, hf, checked, refused]

theorem callService_refused {failure : ServiceFailure}
    (h : refusal? w service args = some failure) :
    callService bridge service args link w = .done (.error failure) (refused failure w) := by
  rw [callService_apply, h]

theorem callService_accepted (h : refusal? w service args = none) :
    callService bridge service args link w =
      ((link (.callService service args w.reporters.size) (opened bridge w)).settle
        (closed w.reporters.size)).bind fun _ v =>
          conclude bridge w.reporters.size service link v := by
  rw [callService_apply, h]

theorem refusal?_of_inFlight (hfits : Fits service args) (hset : w.hooks.isSet .callService = true)
    (hf : w.inFlight = true) : refusal? w service args = some (.nested service) := by
  simp [refusal?, hfits.1, hfits.2, hset, hf]

theorem refusal?_of_idle (hfits : Fits service args) (hset : w.hooks.isSet .callService = true)
    (hf : w.inFlight = false) : refusal? w service args = none := by
  simp [refusal?, hfits.1, hfits.2, hset, hf]

theorem inFlight_of_refusal?_none (h : refusal? w service args = none) : w.inFlight = false := by
  cases hf : w.inFlight with
  | false => rfl
  | true =>
    unfold refusal? at h
    simp only [hf] at h
    split at h
    · cases h
    · cases h
    · split at h <;> cases h

theorem conclude_apply (reporter : Nat) :
    conclude bridge reporter service link w =
      ((if isAwaiting reporter w then logError (ServiceFailure.notReported service).message
        else pure ()) link w).bind fun _ v => .done (.ok (resultIn v.results bridge)) v := by
  unfold conclude
  rw [bind_apply, get_apply, Outcome.bind_done]
  dsimp only
  split
  · rw [bind_apply]
    rfl
  · rfl

theorem callService_error {failure : ServiceFailure} {v : World E K}
    (h : callService bridge service args link w = .done (.error failure) v) :
    refusal? w service args = some failure ∧ v = refused failure w := by
  rw [callService_apply] at h
  cases hr : refusal? w service args with
  | some why =>
    rw [hr] at h
    cases h
    exact ⟨rfl, rfl⟩
  | none =>
    rw [hr] at h
    dsimp only at h
    cases ho : link (.callService service args w.reporters.size) (opened bridge w) with
    | stuck => simp [ho] at h
    | fault u => simp [ho] at h
    | done reply u =>
      rw [ho, Outcome.settle_done, Outcome.bind_done, conclude_apply] at h
      cases hl : (if isAwaiting w.reporters.size (closed w.reporters.size u) then
          logError (ServiceFailure.notReported service).message else pure ()) link
          (closed w.reporters.size u) <;> simp [hl] at h

theorem refusal?_cases {failure : ServiceFailure} (h : refusal? w service args = some failure) :
    (∃ cause, failure = .invalidRequest cause) ∨ failure = .noHandler ∨
      failure = .nested service := by
  unfold refusal? at h
  split at h
  · exact .inl ⟨_, (Option.some.inj h).symm⟩
  · exact .inl ⟨_, (Option.some.inj h).symm⟩
  · split at h
    · exact .inr (.inl (Option.some.inj h).symm)
    · split at h
      · exact .inr (.inr (Option.some.inj h).symm)
      · cases h

theorem serveScript_some {link : Link E K} {w v : World E K} {bridge : Nat} {service args result : String}
    (h : serveScript bridge service args link w = .done (some result) v) :
    callService bridge service args link w = .done (.ok (some result)) v := by
  unfold serveScript at h
  obtain ⟨answer, x, hcall, hrest⟩ := bind_eq_done.mp h
  have never {m : Act E K Unit} : ¬ (do m; pure none : Act E K (Option String)) link x = .done (some result) v := by
    intro h
    obtain ⟨_, y, -, h⟩ := bind_eq_done.mp h
    cases h
  cases answer with
  | ok given =>
    cases given with
    | none => exact (never hrest).elim
    | some text =>
      cases hrest
      exact hcall
  | error failure =>
    cases failure with
    | invalidRequest cause => cases hrest
    | _ => exact (never hrest).elim

theorem serve_service {s : Surroundings E} {link : Link E K} {w v : World E K} {service args result : String}
    (h : serve s (.service service args) link w = .done (.service result) v) :
    ∃ bridge, callService bridge service args link w = .done (.ok (some result)) v := by
  unfold serve at h
  cases hb : s.bridge with
  | none =>
    rw [hb] at h
    cases h
  | some bridge =>
    rw [hb] at h
    obtain ⟨served, u, hserved, h⟩ := bind_eq_done.mp h
    obtain rfl : served = some result := by cases served <;> cases h; rfl
    cases h
    exact ⟨bridge, serveScript_some hserved⟩

/-! ## Reports -/

def heard (reporter : Nat) (w : World E K) : World E K :=
  { w with reporters := w.reporters.modify reporter fun r => { r with awaiting := false } }

def stored (bridge : Nat) (result : Option String) (w : World E K) : World E K :=
  { w with results := w.results.modify bridge fun _ => result }

variable (reporter : Nat) (result : String)

theorem report_rejected {cause : Rejection} (h : Limit.json.check result = .error cause) :
    report reporter result link w =
      logService (.resultRejected cause) link (logged .warn "brain" cause.message w) := by
  simp [report, bind_apply, checkText_apply, h, checked]

theorem report_closed (h : Limit.json.check result = .ok ())
    (hc : ¬ IsOpenIn w.reporters reporter) :
    report reporter result link w = logService (.noCurrentUser result) link (heard reporter w) := by
  simp only [report, bind_apply, checkText_apply, h, checked, Outcome.bind_done, modifyReporter,
    modify_apply, get_apply, Array.getElem?_modify, if_true]
  rcases hr : w.reporters[reporter]? with _ | ⟨awaiting, isOpen, bridge⟩
  · rfl
  · cases isOpen with
    | true => exact absurd ⟨_, hr, rfl⟩ hc
    | false => rfl

theorem report_open {awaiting : Bool} {bridge : Nat} (h : Limit.json.check result = .ok ())
    (ho : w.reporters[reporter]? = some ⟨awaiting, true, bridge⟩) :
    report reporter result link w =
      if Document.isJson result then .done (.ok ()) (stored bridge (some result) (heard reporter w))
      else logService (.invalidResult result) link (stored bridge none (heard reporter w)) := by
  simp only [report, bind_apply, checkText_apply, h, checked, Outcome.bind_done, modifyReporter,
    modify_apply, get_apply, Array.getElem?_modify, if_true, ho, Option.map_some]
  split <;> rfl

end Act

end BrainHost
