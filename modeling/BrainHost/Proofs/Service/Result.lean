import BrainHost.Proofs.Service.Errors
import BrainHost.Proofs.Service.Told
import BrainHost.Script.Engine

/-! # What a service call returns

A call returns what its bridge has after the reports through its reporter, and warns where all of
them were rejected. -/

namespace BrainHost

variable {S : Type} {E : Engine}

/-! ## Quiet sinks -/

def Deed.IsQuiet : Deed → Prop
  | .assign .. => True
  | _ => False

def Deed.IsPlain : Deed → Prop
  | .operate _ => False
  | _ => True

/-- The service protocol and the errors are the same in two states. -/
structure Untouched (w v : World E (Minded S)) : Prop where
  inFlight : v.inFlight = w.inFlight
  reporters : v.reporters = w.reporters
  results : v.results = w.results
  errors : v.errors = w.errors

def Host.Quiet (host : Host S) : Prop := ∀ message, (host (.error message)).Only Deed.IsQuiet

variable {host : Host S}

theorem Host.Quiet.link (hquiet : host.Quiet) (depth : Nat) (message : String)
    (w : World E (Minded S)) :
    ∃ reply v, host.link (depth + 1) (.error message) w = .done reply v ∧ Untouched w v := by
  refine (hquiet message).attended (P := Untouched w)
    (fun v _ hv => ⟨hv.1, hv.2, hv.3, hv.4⟩) ?_ _ w
    ⟨rfl, rfl, rfl, rfl⟩
  intro deed hdeed v hv
  cases deed with
  | assign hook on => exact ⟨_, _, rfl, ⟨hv.1, hv.2, hv.3, hv.4⟩⟩
  | _ => exact hdeed.elim

theorem Host.Quiet.logError (hquiet : host.Quiet) (depth : Nat) (message : String)
    (w : World E (Minded S)) :
    ∃ v, Act.logError message (host.link (depth + 1)) w = .done () v ∧
      Untouched (Act.logged .error "brain" message w) v := by
  rw [Act.logError_apply]
  split
  · obtain ⟨reply, v, hv, hsame⟩ := hquiet.link depth message (Act.logged .error "brain" message w)
    exact ⟨v, by rw [hv]; rfl, hsame⟩
  · exact ⟨_, rfl, ⟨rfl, rfl, rfl, rfl⟩⟩

theorem Host.Quiet.conclude (hquiet : host.Quiet) (depth bridge reporter : Nat) (service : String)
    (w : World E (Minded S)) :
    ∃ v, Act.conclude bridge reporter service (host.link (depth + 1)) w =
        .done (.ok (resultIn w.results bridge)) v ∧ v.results = w.results ∧
      v.errors = w.errors ++
        if Act.isAwaiting reporter w then [(ServiceFailure.notReported service).message] else [] := by
  rw [Act.conclude_apply]
  cases hawait : Act.isAwaiting reporter w with
  | true =>
    obtain ⟨v, hv, hsame⟩ := hquiet.logError depth (ServiceFailure.notReported service).message w
    have results : v.results = w.results := hsame.results
    refine ⟨v, ?_, results, hsame.errors.trans (Act.errors_erred _ _ w)⟩
    rw [if_pos rfl, hv, Outcome.bind_done, results]
  | false => exact ⟨w, rfl, rfl, by simp⟩

/-! ## Host code that runs no scripts -/

theorem head?_append {text : String} {c : Char} (h : text.toList.head? = some c) (rest : String) :
    (text ++ rest).toList.head? = some c := by
  rw [String.toList_append, List.head?_append, h]
  rfl

theorem ServiceFailure.notReported_head? (service : String) :
    (notReported service).message.toList.head? = some 'W' :=
  head?_append (head?_append (by decide +kernel) _) _

def ServiceFailure.IsOfReport : ServiceFailure → Prop
  | resultRejected _ | noCurrentUser _ | invalidResult _ => True
  | _ => False

theorem ServiceFailure.IsOfReport.message_ne {failure : ServiceFailure} (h : failure.IsOfReport)
    (service : String) :
    failure.message ≠ (ServiceFailure.notReported service).message := by
  intro heq
  have first := ServiceFailure.notReported_head? service
  rw [← heq] at first
  cases failure with
  | resultRejected cause =>
    have own : (resultRejected cause).message.toList.head? = some 'S' :=
      head?_append (by decide +kernel) _
    simp [own] at first
  | noCurrentUser result =>
    have own : (noCurrentUser result).message.toList.head? = some 'R' :=
      head?_append (by decide +kernel) _
    simp [own] at first
  | invalidResult result =>
    have own : (invalidResult result).message.toList.head? = some 'C' :=
      head?_append (by decide +kernel) _
    simp [own] at first
  | _ => exact h

/-- A call is in flight, and a message was logged so often. -/
structure Warned (message : String) (count : Nat) (w : World E (Minded S)) : Prop where
  inFlight : w.inFlight = true
  errors : w.errors.count message = count

theorem Act.report_cases (link : Link E (Minded S)) (w : World E (Minded S)) (reporter : Nat)
    (result : String) :
    ∃ v, (v.inFlight = w.inFlight ∧ v.errors = w.errors) ∧
      (report reporter result link w = .done (.ok ()) v ∨
        ∃ failure : ServiceFailure, failure.IsOfReport ∧
          report reporter result link w = logService failure link v) := by
  have fails (failure : ServiceFailure) (hof : failure.IsOfReport) {v : World E (Minded S)}
      (h : report reporter result link w = logService failure link v)
      (hsame : v.inFlight = w.inFlight ∧ v.errors = w.errors) :
      ∃ v, (v.inFlight = w.inFlight ∧ v.errors = w.errors) ∧
        (report reporter result link w = .done (.ok ()) v ∨
          ∃ failure : ServiceFailure, failure.IsOfReport ∧
            report reporter result link w = logService failure link v) :=
    ⟨v, hsame, .inr ⟨failure, hof, h⟩⟩
  cases hcheck : Limit.json.check result with
  | error cause =>
    have same : (logged .warn "brain" cause.message w).errors = w.errors := errors_warned _ _ w
    exact fails (.resultRejected cause) trivial
      (report_rejected link w reporter result hcheck) ⟨rfl, same⟩
  | ok u =>
    by_cases hopen : IsOpenIn w.reporters reporter
    · obtain ⟨⟨awaiting, isOpen, bridge⟩, hx, rfl⟩ := hopen
      have hreport := report_open link w reporter result hcheck hx
      split at hreport
      · exact ⟨stored bridge (some result) (heard reporter w), ⟨rfl, rfl⟩, .inl hreport⟩
      · exact fails (.invalidResult result) trivial hreport ⟨rfl, rfl⟩
    · exact fails (.noCurrentUser result) trivial
        (report_closed link w reporter result hcheck hopen) ⟨rfl, rfl⟩

section Plain

variable {message : String} {count : Nat} {w : World E (Minded S)}

theorem Host.Quiet.logService (hquiet : host.Quiet) (depth : Nat) {failure : ServiceFailure}
    (hne : failure.message ≠ message) (hw : Warned message count w) :
    ∃ v, (Act.logService failure (host.link (depth + 1)) w : Outcome _ (Except ServiceFailure Unit)) =
      .done (.error failure) v ∧ Warned message count v := by
  obtain ⟨v, hv, hsame⟩ := hquiet.logError depth failure.message w
  refine ⟨v, by rw [Act.logService_apply, hv]; rfl, hsame.inFlight.trans hw.inFlight, ?_⟩
  rw [hsame.errors, Act.errors_erred, List.count_append, hw.errors]
  simp [hne]

theorem Host.Quiet.plain (hquiet : host.Quiet) (depth : Nat) (service : String) (deed : Deed)
    (hdeed : deed.IsPlain) (w : World E (Minded S))
    (hw : Warned (ServiceFailure.notReported service).message count w) :
    ∃ answer v, deed.act (host.link (depth + 1)) w = .done answer v ∧
      Warned (ServiceFailure.notReported service).message count v := by
  cases deed with
  | call bridge name args =>
    cases hr : Act.refusal? w name args with
    | some failure =>
      refine ⟨_, _, Act.callService_refused _ w bridge name args hr, ?_⟩
      cases failure with
      | invalidRequest cause =>
        exact ⟨hw.inFlight, (congrArg _ (Act.errors_warned _ _ w)).trans hw.errors⟩
      | _ => exact hw
    | none =>
      have idle := Act.inFlight_of_refusal?_none w name args hr
      rw [hw.inFlight] at idle
      cases idle
  | report reporter result =>
    obtain ⟨v, ⟨hflag, herrors⟩, hreport⟩ :=
      Act.report_cases (host.link (depth + 1)) w reporter result
    have hv : Warned (ServiceFailure.notReported service).message count v :=
      ⟨hflag.trans hw.inFlight, (congrArg _ herrors).trans hw.errors⟩
    rcases hreport with hdone | ⟨failure, hfailure, hfailed⟩
    · exact ⟨_, v, hdone, hv⟩
    · obtain ⟨u, hu, hwarned⟩ := hquiet.logService depth (hfailure.message_ne service) hv
      exact ⟨_, u, hfailed.trans hu, hwarned⟩
  | assign hook on => exact ⟨_, _, rfl, hw.inFlight, hw.errors⟩
  | operate operation => exact hdeed.elim

end Plain

theorem Idle.flying {w : World E (Minded S)} (h : Idle w) {bridge : Nat}
    (hbridge : bridge < w.results.size) :
    Flying bridge w.reporters.size (Act.opened bridge w) where
  inFlight := rfl
  own := ⟨true, by simp [Act.opened]⟩
  stands := hbridge
  only other hopen := ((isOpenIn_push w.reporters bridge other).mp hopen).resolve_right (h.closed other)

theorem Act.isAwaiting_opened (bridge : Nat) (w : World E (Minded S)) :
    isAwaiting w.reporters.size (opened bridge w) = true := by
  simp [isAwaiting, opened]

theorem Act.isAwaiting_closed (reporter : Nat) (w : World E (Minded S)) :
    isAwaiting reporter (closed reporter w) = isAwaiting reporter w := by
  unfold isAwaiting closed
  rw [Array.getElem?_modify, if_pos rfl]
  cases w.reporters[reporter]? <;> rfl

/-- **What a call returns.** Let the function that is called return, whatever it did. Then the call
returns what the texts make of the bridge's earlier result that were reported through its reporter
meanwhile: a text of a bad size changes nothing, any other that is no JSON leaves nothing, and JSON
is taken over. It is what the bridge has afterwards. One warning is logged if all those texts were
rejected for their size, and nothing otherwise. A function that runs no scripts does return, and that
warning is not logged before. -/
theorem service_result (host : Host S) (depth : Nat) (w : World E (Minded S)) (bridge : Nat)
    (service args : String) (hidle : Idle w) (hbridge : bridge < w.results.size)
    (hfits : Act.Fits service args) (hset : w.hooks.isSet .callService = true)
    (hquiet : host.Quiet) :
    (∀ reply v, host.link depth (.callService service args w.reporters.size) (Act.opened bridge w) =
        .done reply v →
      ∃ moments texts result u, v.host.chronicle = moments ++ w.host.chronicle ∧
        texts = told w.reporters.size moments ∧
        result = texts.foldl accept (resultIn w.results bridge) ∧
        Act.callService bridge service args (host.link depth) w = .done (.ok result) u ∧
        resultIn u.results bridge = result ∧
        u.errors = v.errors ++
          if texts.all isSizeRejected then [(ServiceFailure.notReported service).message] else []) ∧
    ((host (.callService service args w.reporters.size)).Only Deed.IsPlain →
      ∃ reply v, host.link (depth + 2) (.callService service args w.reporters.size) (Act.opened bridge w) =
          .done reply v ∧
        v.errors.count (ServiceFailure.notReported service).message =
          w.errors.count (ServiceFailure.notReported service).message) := by
  refine ⟨fun reply v hv => ?_, fun hplain => ?_⟩
  · have flying := hidle.flying hbridge
    have ran : (host.link depth (.callService service args w.reporters.size) (Act.opened bridge w)).Ends
        ((telling S E bridge w.reporters.size).rel (Act.opened bridge w)) :=
      telling.link host depth _ _
    rw [hv] at ran
    obtain ⟨moments, hchron, hresult, hawait⟩ := (ran flying).2
    cases depth with
    | zero => cases hv
    | succ depth =>
      -- What the call returns is the bridge's result, whether or not it warns before.
      obtain ⟨u, hu, hresults, herrors⟩ :=
        hquiet.conclude depth bridge w.reporters.size service (Act.closed w.reporters.size v)
      have hstill : resultIn (Act.closed w.reporters.size v).results bridge =
          (told w.reporters.size moments).foldl accept (resultIn w.results bridge) := hresult
      refine ⟨moments, _, _, u, hchron, rfl, rfl, ?_, ?_, ?_⟩
      · have hnone := Act.refusal?_of_idle w service args hfits hset hidle.inFlight
        rw [Act.callService_accepted _ w bridge service args hnone, hv, Outcome.settle_done,
          Outcome.bind_done, hu, hstill]
      · rw [hresults, hstill]
      · rw [herrors, Act.isAwaiting_closed, hawait, Act.isAwaiting_opened, Bool.true_and]
        rfl
  · -- One level of calls is left to the function, and one to the sinks.
    have start : Warned (ServiceFailure.notReported service).message
        (w.errors.count (ServiceFailure.notReported service).message) (Act.opened bridge w) :=
      ⟨rfl, rfl⟩
    obtain ⟨reply, v, hv, hwarned⟩ := hplain.attended (fun v _ hv => ⟨hv.inFlight, hv.errors⟩)
      (hquiet.plain depth service) (.callService service args w.reporters.size) _ start
    exact ⟨reply, v, hv, hwarned.errors⟩

def reportingHost (texts : List String) : Host Unit
  | .callService _ _ reporter =>
    texts.foldr (fun text plan => .ask (.report reporter text) fun _ => plan) (.finish .none)
  | _ => .finish .none

def oneBridge : World Script.engine (Minded Unit) :=
  { hooks := ⟨[.callService, .errorLog]⟩, results := #[some "0"], host := { own := () } }

theorem oneBridge_idle : Idle oneBridge := ⟨rfl, rfl, by simp [oneBridge, IsOpenIn]⟩

theorem reportingHost_quiet (texts : List String) : (reportingHost texts).Quiet :=
  fun _ => .finish .none

theorem reportingHost_plain (texts : List String) (service args : String) (reporter : Nat) :
    (reportingHost texts (.callService service args reporter)).Only Deed.IsPlain := by
  unfold reportingHost
  induction texts with
  | nil => exact .finish .none
  | cons text texts ih => exact .ask trivial fun _ => ih

/-- What is reported last and fits counts, and the earlier result is kept where nothing fits. -/
theorem service_result_reported :
    Idle oneBridge ∧ Act.Fits "add" "[1]" ∧ oneBridge.hooks.isSet .callService = true ∧
    (∃ result u,
      Act.callService 0 "add" "[1]" ((reportingHost ["x", "1", ""]).link 2) oneBridge =
        .done (.ok result) u ∧
      resultIn u.results 0 = result ∧ u.results = #[some "1"]) ∧
    ∃ result u, Act.callService 0 "add" "[1]" ((reportingHost [""]).link 2) oneBridge =
      .done (.ok result) u ∧
      resultIn u.results 0 = result ∧ u.results = #[some "0"] := by
  have hfits : Act.Fits "add" "[1]" := ⟨rfl, rfl⟩
  have returned (texts : List String) : ∃ result u,
      Act.callService 0 "add" "[1]" ((reportingHost texts).link 2) oneBridge =
        .done (.ok result) u ∧
        resultIn u.results 0 = result := by
    obtain ⟨returns, runs⟩ :=
      service_result (reportingHost texts) 2 oneBridge 0 "add" "[1]" oneBridge_idle
      (by decide) hfits rfl (reportingHost_quiet texts)
    obtain ⟨_, runs⟩ :=
      service_result (reportingHost texts) 0 oneBridge 0 "add" "[1]" oneBridge_idle
      (by decide) hfits rfl (reportingHost_quiet texts)
    obtain ⟨reply, v, hv, -⟩ := runs (reportingHost_plain texts _ _ _)
    obtain ⟨_, _, result, u, -, -, -, hcall, hresult, -⟩ := returns reply v hv
    exact ⟨result, u, hcall, hresult⟩
  refine ⟨oneBridge_idle, hfits, rfl, ?_, ?_⟩
  · obtain ⟨result, u, hcall, hresult⟩ := returned ["x", "1", ""]
    have ends : (Act.callService 0 "add" "[1]"
        ((reportingHost ["x", "1", ""]).link 2) oneBridge).Ends fun u =>
          u.results = #[some "1"] := by
      decide +kernel
    rw [hcall] at ends
    exact ⟨result, u, hcall, hresult, ends⟩
  · obtain ⟨result, u, hcall, hresult⟩ := returned [""]
    have ends : (Act.callService 0 "add" "[1]" ((reportingHost [""]).link 2) oneBridge).Ends fun u =>
        u.results = #[some "0"] := by decide +kernel
    rw [hcall] at ends
    exact ⟨result, u, hcall, hresult, ends⟩

end BrainHost
