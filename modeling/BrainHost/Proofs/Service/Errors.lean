import BrainHost.Proofs.Service.Lax

/-! # Errors that are logged

What it does to log an error, and what the sinks of a host may do then. A script whose call of a service
comes to nothing is not left in the dark. -/

namespace BrainHost

variable {E : Engine} {K : HostKind}

def World.errors (w : World E K) : List String :=
  w.journal.toList.filterMap fun entry =>
    match entry with
    | .logged ⟨.error, _, message⟩ => some message
    | _ => none

/-- What is logged as wrong: warnings and errors. -/
def World.complaints (w : World E K) : List String :=
  w.journal.toList.filterMap fun entry =>
    match entry with
    | .logged ⟨.warn, _, message⟩ => some message
    | .logged ⟨.error, _, message⟩ => some message
    | _ => none

namespace Act

theorem errors_warned (target message : String) (w : World E K) :
    (logged .warn target message w).errors = w.errors := by
  simp [World.errors, logged]

theorem errors_erred (target message : String) (w : World E K) :
    (logged .error target message w).errors = w.errors ++ [message] := by
  simp [World.errors, logged]

theorem logError_apply (link : Link E K) (w : World E K) (message : String) :
    logError message link w =
      if w.hooks.isSet .errorLog then
        (link (.error message) (logged .error "brain" message w)).bind fun _ v => .done () v
      else .done () (logged .error "brain" message w) := by
  simp only [logError, notify, bind_apply, record_apply, isSet_apply, Outcome.bind_done]
  have same : (logged .error "brain" message w).hooks = w.hooks := rfl
  rw [same]
  split
  · rw [bind_apply]
    rfl
  · rfl

theorem logService_apply {α : Type} (link : Link E K) (w : World E K) (failure : ServiceFailure) :
    (logService failure link w : Outcome (World E K) (Except ServiceFailure α)) =
      (logError failure.message link w).bind fun _ v => .done (.error failure) v := bind_apply ..

/-- A link whose error sink neither changes results nor logs errors. -/
def Mute (link : Link E K) : Prop :=
  ∀ message w, (link (.error message) w).Ends fun v => v.results = w.results ∧ v.errors = w.errors

theorem logService_mute {α : Type} {link : Link E K} (hmute : Mute link) (w : World E K)
    (failure : ServiceFailure) :
    (logService failure link w : Outcome (World E K) (Except ServiceFailure α)).Ends fun v =>
      v.results = w.results ∧ v.errors = w.errors ++ [failure.message] := by
  have erred := errors_erred "brain" failure.message w
  rw [logService_apply, logError_apply]
  split
  · rw [Outcome.bind_assoc]
    refine (hmute failure.message _).bind (fun _ v hv => ?_) fun v hv => ?_
    all_goals exact ⟨hv.1, hv.2.trans erred⟩
  · exact ⟨rfl, erred⟩

end Act

/-! ## Logs that grow -/

/-- Texts that are read off the log. Every error is one, and none is taken back. -/
structure Tally (texts : World E K → List String) : Prop where
  error : ∀ target message w, texts (Act.logged .error target message w) = texts w ++ [message]
  logged : ∀ w row, texts w <+: texts { w with journal := w.journal.push (.logged row) }
  attended : ∀ w reporters inFlight, texts w <+: texts { w with reporters, inFlight }

theorem errors_tally : Tally (World.errors : World E K → List String) where
  error := Act.errors_erred
  logged w row := by
    simp only [World.errors, Array.toList_push, List.filterMap_append]
    exact List.prefix_append ..
  attended _ _ _ := List.prefix_rfl

theorem complaints_tally : Tally (World.complaints : World E K → List String) where
  error target message w := by simp [World.complaints, Act.logged]
  logged w row := by
    simp only [World.complaints, Array.toList_push, List.filterMap_append]
    exact List.prefix_append ..
  attended _ _ _ := List.prefix_rfl

variable {texts : World E K → List String} {link : Link E K} {w u v : World E K}

/-- Texts that only become more, if the host keeps to that. -/
def growing (texts : World E K → List String) : Conduct E K where
  admits link := ∀ callback w, (link callback w).Ends fun v => texts w <+: texts v
  rel w v := texts w <+: texts v
  refl _ := List.prefix_rfl
  trans h₁ h₂ := h₁.trans h₂

/-- Texts became more on the way from one state to another. -/
def Grew (texts : World E K → List String) (w v : World E K) : Prop :=
  texts w <+: texts v ∧ (texts w).length < (texts v).length

theorem Grew.before (h : Grew texts w u) (hrest : texts u <+: texts v) : Grew texts w v :=
  ⟨h.1.trans hrest, Nat.lt_of_lt_of_le h.2 hrest.length_le⟩

theorem Grew.after (h : Grew texts u v) (hfirst : texts w <+: texts u) : Grew texts w v :=
  ⟨hfirst.trans h.1, Nat.lt_of_le_of_lt hfirst.length_le h.2⟩

theorem Grew.of_eq_append (text : String) (h : texts v = texts w ++ [text]) : Grew texts w v := by
  unfold Grew
  rw [h]
  simp

namespace Tally

variable (h : Tally texts)
include h

theorem attending : (growing texts).Attending where
  logged := h.logged
  invoke callback _ hlink w := hlink callback w
  attended := h.attended

variable (hlink : (growing texts).admits link)
include hlink

theorem outward {α : Type} {m : Act E K α} (hm : m.Outward) {a : α} (hrun : m link w = .done a v) :
    texts w <+: texts v := by
  have kept := h.attending.loud.outward hm link hlink w
  rw [hrun] at kept
  exact kept

theorem logError {message : String} {x : Unit} (hrun : Act.logError message link w = .done x v) :
    Grew texts w v := by
  obtain ⟨_, u, hrecord, hrest⟩ := Act.bind_eq_done.mp hrun
  rw [Act.record_apply] at hrecord
  cases hrecord
  exact (Grew.of_eq_append message (h.error ..)).before (h.outward hlink (.notify _ (by simp) (by simp)) hrest)

end Tally

/-- A script that calls a service and gets nothing was told why. -/
theorem Act.serveScript_none (hlink : (growing World.complaints).admits link) {bridge : Nat} {service args : String}
    (h : serveScript bridge service args link w = .done none v) : Grew World.complaints w v := by
  obtain ⟨answer, u, hcall, h⟩ := bind_eq_done.mp h
  have called : w.complaints <+: u.complaints := by
    have kept := complaints_tally.attending.callService bridge service args link hlink w
    rw [hcall] at kept
    exact kept
  cases answer with
  | ok result =>
    cases result with
    | some result => cases h
    | none =>
      obtain ⟨_, _, hlog, h⟩ := bind_eq_done.mp h
      cases h
      exact (complaints_tally.logError hlink hlog).after called
  | error failure =>
    have logs (h : (logError failure.message >>= fun _ => pure none : Act E K (Option String)) link u = .done none v) :
        Grew World.complaints w v := by
      obtain ⟨_, _, hlog, h⟩ := bind_eq_done.mp h
      cases h
      exact (complaints_tally.logError hlink hlog).after called
    obtain ⟨-, rfl⟩ := callService_error link w bridge service args hcall
    cases failure with
    | invalidRequest cause =>
      -- The bound that is violated was warned of as it was checked.
      cases h
      exact Grew.of_eq_append cause.message (by simp [World.complaints, refused, logged])
    | _ => exact logs h

/-! ## Requests of scripts -/

/-- The host does not do what a script wants of a service. -/
def Request.Denied {V : Type} : Fitting V
  | .unnamedService, _ => True
  | .unwritableArgs _ _, _ => True
  | .unreadableResult _, _ => True
  | .service _ _, answer => ∀ result, answer ≠ .service result
  | _, _ => False

/-- No service gives a result. -/
def Request.Unanswered {V : Type} : Fitting V
  | .service _ _, answer => ∀ result, answer ≠ .service result
  | _, _ => True

/-- A link by which no service is got to. -/
def Link.Unserved (link : Link E K) : Prop :=
  ∀ service args reporter w, link (.callService service args reporter) w = .stuck

namespace Act

variable {s : Surroundings E} {request : Request} {answer : Answer E.Value}

theorem serve_denied (hbridge : s.bridge.isSome = true) (hlink : (growing World.complaints).admits link)
    (h : serve s request link w = .done answer v) (hdenied : request.Denied answer) : Grew World.complaints w v := by
  have logs {message : String} (h : (logError message >>= fun _ => pure .none : Act E K (Answer E.Value)) link w =
      .done answer v) : Grew World.complaints w v := by
    obtain ⟨_, _, hlog, h⟩ := bind_eq_done.mp h
    cases h
    exact complaints_tally.logError hlink hlog
  cases request with
  | unnamedService => exact logs h
  | unwritableArgs service reason => exact logs h
  | unreadableResult result => exact logs h
  | service name args =>
    obtain ⟨bridge, hbridge⟩ := Option.isSome_iff_exists.mp hbridge
    unfold serve at h
    rw [hbridge] at h
    obtain ⟨served, u, hserved, h⟩ := bind_eq_done.mp h
    cases served with
    | some result =>
      cases h
      exact absurd rfl (hdenied result)
    | none =>
      cases h
      exact serveScript_none hlink hserved
  | _ => exact hdenied.elim

theorem serve_unserved (hlink : link.Unserved) (h : serve s request link w = .done answer v) :
    request.Unanswered answer := by
  cases request with
  | service name args =>
    rintro result rfl
    obtain ⟨bridge, hcall⟩ := serve_service h
    rw [callService_apply] at hcall
    split at hcall
    · cases hcall
    · rw [hlink] at hcall
      cases hcall
  | _ => trivial

end Act

theorem Run.Settles.carryOut_or {α : Type} {denied : Fitting E.Value} {P : α → Prop} {run : Run E.Context E.Value α}
    (h : run.Settles (fun request answer => ¬ denied request answer) P) (tally : Tally texts)
    (hlink : (growing texts).admits link) {s : Surroundings E}
    (told : ∀ {request w answer v}, Act.serve s request link w = .done answer v → denied request answer →
      Grew texts w v) {w v : World E K} {a : α} (hrun : Act.carryOut s run link w = .done a v) :
    P a ∨ Grew texts w v := by
  have serving : (growing texts).Serving s.bridge :=
    ⟨tally.attending.loud, fun bridge _ => tally.attending.callService bridge⟩
  induction run generalizing w with
  | done b =>
    cases hrun
    exact .inl h
  | ask request meanwhile resume ih =>
    obtain ⟨answer, u, hanswer, hrest⟩ := Act.bind_eq_done.mp hrun
    by_cases hdenied : denied request answer
    · have rest := serving.carryOut (resume answer) link hlink u
      rw [hrest] at rest
      exact .inr ((told hanswer hdenied).before rest)
    · have first := serving.serve request link hlink w
      rw [hanswer] at first
      exact (ih answer (h answer hdenied) hrest).imp_right fun grew => grew.after first
  | stuck => cases hrun

end BrainHost
