import BrainHost.Proofs.Service.Errors
import BrainHost.Proofs.Table.Fails

/-! # Bounds

An operation that is given a text or bytes out of their bounds fails before it does anything. The log
has every violation of a bound; the host is not told. It can hear of such an operation in one case
only: the id of a module is checked after its brain was looked up, and of an unknown brain the sink is
told. -/

namespace BrainHost

variable {E : Engine} {K : HostKind} {α : Type}

/-- A text that does not do where one is required: it is empty, or its UTF-8 form is too long. -/
def Unfit (max : Nat) (text : String) : Prop := text.utf8ByteSize = 0 ∨ max < text.utf8ByteSize

/-- Something that an operation is given is out of its bounds. -/
def Operation.OutOfBounds : Operation → Prop
  | start path => Unfit 1024 path
  | stop => False
  | resetBrain id source => Unfit 128 id ∨ Unfit 1048576 source
  | setModule id moduleId source => Unfit 128 id ∨ Unfit 128 moduleId ∨ Unfit 1048576 source
  | updateAgent id agent state buffer =>
    Unfit 128 id ∨ Unfit 128 agent ∨ Unfit 10485760 state ∨ 10485760 < buffer.size
  | namespaceJson .. => False
  | evaluate source => Unfit 1048576 source
  | evaluateToInteger source => Unfit 1048576 source

/-! ## Checks that fail -/

/-- Checks fail, and in such a way. -/
def Refuses (P : Failure → Prop) (check : Except Failure Unit) : Prop :=
  ∃ failure, check = .error failure ∧ P failure

namespace Refuses

variable {P : Failure → Prop} {check : Except Failure Unit} {next : Unit → Except Failure Unit}

theorem first (h : Refuses P check) : Refuses P (check >>= next) := by
  obtain ⟨failure, rfl, hP⟩ := h
  exact ⟨failure, rfl, hP⟩

theorem later (hcheck : ∀ failure, check = .error failure → P failure) (h : Refuses P (next ())) :
    Refuses P (check >>= next) := by
  cases check with
  | ok u => exact h
  | error failure => exact ⟨failure, rfl, hcheck failure rfl⟩

end Refuses

theorem insist_unfit {limit : Limit} {text : String} (h : Unfit limit.maxBytes text) :
    ∃ cause, insist limit text = .error (.rejected cause) := by
  unfold insist Limit.check Limit.checkLength
  rcases h with hempty | hlong
  · exact ⟨.empty limit, by rw [if_pos hempty]; rfl⟩
  · exact ⟨.tooLong limit text.utf8ByteSize, by rw [if_neg (by omega), if_pos hlong]; rfl⟩

namespace Operation

/-- How an operation fails whose arguments are out of bounds. -/
def Declines (w : World E K) : Operation → Failure → Prop
  | setModule id _ _, failure =>
    failure.isSilent = true ∨ w.registry.lookup id = none ∧ failure = .unknownBrain id
  | evaluateToInteger _, failure => ∃ cause, failure = .rejected cause
  | _, failure => failure.isSilent = true

theorem declines_rejected (op : Operation) (w : World E K) (cause : Rejection) :
    op.Declines w (.rejected cause) := by
  cases op with
  | setModule id moduleId source => exact .inl rfl
  | evaluateToInteger source => exact ⟨cause, rfl⟩
  | _ => rfl

section

variable {op : Operation} {w : World E K} {text : String}

theorem declines_insist {limit : Limit} (failure : Failure) (h : insist limit text = .error failure) :
    op.Declines w failure := by
  obtain ⟨cause, rfl⟩ := insist_error h
  exact op.declines_rejected w cause

theorem refuses_unfit (limit : Limit) (h : Unfit limit.maxBytes text) :
    Refuses (op.Declines w) (insist limit text) := by
  obtain ⟨cause, hcause⟩ := insist_unfit h
  exact ⟨_, hcause, op.declines_rejected w cause⟩

theorem silent_of_started {started : Bool} (failure : Failure)
    (h : insistStarted started = .error failure) : failure.isSilent = true := by
  rw [insistStarted_error h]
  rfl

end

theorem refuses_of_outOfBounds (op : Operation) (h : op.OutOfBounds) (w : World E K) :
    Refuses (op.Declines w) (checkAt w op) := by
  cases op with
  | start path => exact (refuses_unfit .filePath h).first
  | stop => exact h.elim
  | resetBrain id source =>
    refine .later silent_of_started ?_
    rcases h with hid | hsource
    · exact (refuses_unfit .identifier hid).first
    · exact .later declines_insist (refuses_unfit .scriptSource hsource)
  | setModule id moduleId source =>
    refine .later (fun failure hstarted => .inl (silent_of_started failure hstarted)) ?_
    rcases h with hid | hrest
    · exact (refuses_unfit .identifier hid).first
    refine .later declines_insist (.later (fun failure hknown => .inr ?_) ?_)
    · obtain ⟨hlookup, rfl⟩ := insistKnown_error hknown
      exact ⟨by simpa using hlookup, rfl⟩
    rcases hrest with hmodule | hsource
    · exact (refuses_unfit .identifier hmodule).first
    · exact .later declines_insist (refuses_unfit .scriptSource hsource)
  | updateAgent id agent state buffer =>
    rcases h with hid | hagent | hstate | hbuffer
    · exact (refuses_unfit .identifier hid).first
    · exact .later declines_insist (refuses_unfit .identifier hagent).first
    · exact .later declines_insist (.later declines_insist (refuses_unfit .json hstate).first)
    · refine .later declines_insist (.later declines_insist (.later declines_insist ?_))
      have htooLong : Limit.buffer.checkLength buffer.size = .error (.tooLong .buffer buffer.size) :=
        if_pos hbuffer
      rw [htooLong]
      exact .first ⟨_, rfl, rfl⟩
  | namespaceJson id moduleId => exact h.elim
  | evaluate source => exact .later silent_of_started (refuses_unfit .scriptSource h)
  | evaluateToInteger source => exact refuses_unfit .scriptSource h

end Operation

/-! ## Checks that say so -/

theorem unfit_of_insist {limit : Limit} {text : String} {failure : Failure}
    (h : insist limit text = .error failure) : Unfit limit.maxBytes text := by
  by_contra hfit
  have hpasses : limit.check text = .ok () := by
    unfold Limit.check Limit.checkLength
    rw [if_neg fun hempty => hfit (.inl hempty), if_neg fun hlong => hfit (.inr hlong)]
  unfold insist at h
  rw [hpasses] at h
  cases h

namespace Operation

theorem outOfBounds_of_rejected {op : Operation} {w : World E K} {cause : Rejection}
    (h : checkAt w op = .error (.rejected cause)) : op.OutOfBounds := by
  have started {started : Bool} (h : insistStarted started = .error (.rejected cause)) : False := by
    cases insistStarted_error h
  have known {known : Bool} {id : String} (h : insistKnown known id = .error (.rejected cause)) :
      False := by
    cases (insistKnown_error h).2
  cases op with
  | start path =>
    rcases bind_eq_error h with hpath | h
    · exact unfit_of_insist hpath
    rcases bind_eq_error h with hstopped | husable
    · cases insistStopped_error hstopped
    · obtain ⟨_, heq⟩ | ⟨_, heq⟩ := insistUsable_error husable <;> cases heq
  | stop => exact (started h).elim
  | resetBrain id source =>
    rcases bind_eq_error h with hstarted | h
    · exact (started hstarted).elim
    exact (bind_eq_error h).imp unfit_of_insist unfit_of_insist
  | setModule id moduleId source =>
    rcases bind_eq_error h with hstarted | h
    · exact (started hstarted).elim
    refine (bind_eq_error h).imp unfit_of_insist fun h => ?_
    rcases bind_eq_error h with hknown | h
    · exact (known hknown).elim
    exact (bind_eq_error h).imp unfit_of_insist unfit_of_insist
  | updateAgent id agent state buffer =>
    refine (bind_eq_error h).imp unfit_of_insist fun h => ?_
    refine (bind_eq_error h).imp unfit_of_insist fun h => ?_
    refine (bind_eq_error h).imp unfit_of_insist fun h => ?_
    rcases bind_eq_error h with hbuffer | h
    · by_contra hfit
      have hpasses : Limit.buffer.checkLength buffer.size = .ok () := if_neg hfit
      rw [hpasses] at hbuffer
      cases hbuffer
    rcases bind_eq_error h with hstarted | hknown
    · exact (started hstarted).elim
    · exact (known hknown).elim
  | namespaceJson id moduleId =>
    rcases bind_eq_error h with hstarted | hknown
    · exact (started hstarted).elim
    · exact (known hknown).elim
  | evaluate source =>
    rcases bind_eq_error h with hstarted | hsource
    · exact (started hstarted).elim
    · exact unfit_of_insist hsource
  | evaluateToInteger source => exact unfit_of_insist h

end Operation

/-! ## Operations that are declined -/

theorem Session.refusal_silent {failure : Failure} (h : failure.isSilent = true) (answer : α)
    (link : Link E K) (w : World E K) : Session.refusal failure answer link w = .done answer w := by
  unfold Session.refusal Session.announce
  rw [if_pos h]
  rfl

/-- Nothing has changed but the log and the host. -/
def Unmoved (w v : World E K) : Prop := ∃ journal host, v = { w with journal, host }

theorem Unmoved.of_journal {w v : World E K} {journal : Array (Entry K.Note)}
    (h : Unmoved { w with journal } v) : Unmoved w v := by
  obtain ⟨journal', host, rfl⟩ := h
  exact ⟨journal', host, rfl⟩

/-- When the host is told of an error, it keeps to itself. -/
def Quiet (link : Link E K) : Prop := ∀ message w, (link (.error message) w).Ends (Unmoved w)

theorem Session.refusal_ends {link : Link E K} (hquiet : Quiet link) (failure : Failure) (answer : α)
    (w : World E K) (journal : Array (Entry K.Note)) :
    (Session.refusal failure answer link { w with journal }).Ends (Unmoved w) := by
  have told : (Session.announce failure link { w with journal }).Ends (Unmoved w) := by
    unfold Session.announce
    split
    · exact ⟨journal, w.host, rfl⟩
    · rw [Act.logError_apply]
      split
      · exact ((hquiet _ _).mono fun v hv => hv.of_journal).bind (fun _ _ hv => hv) fun _ hv => hv
      · exact ⟨_, w.host, rfl⟩
  exact told.bind (fun _ _ hv => hv) fun _ hv => hv

theorem Session.refusal_done {failure : Failure} {answer answer' : α} {link : Link E K} {w v : World E K}
    (h : Session.refusal failure answer link w = .done answer' v) : answer' = answer := by
  obtain ⟨_, _, -, heq⟩ := Outcome.bind_eq_done.mp h
  cases heq
  rfl

theorem Operation.failure?_refuse {op : Operation} {failure failure' : Failure}
    (h : op.failure? (op.refuse failure) = some failure') : failure' = failure := by
  cases op <;> cases h <;> rfl

theorem Operation.declined (op : Operation) (h : op.OutOfBounds) (w : World E K) :
    ∃ failure journal, op.Declines w failure ∧
      ∀ link, op.act link w = Session.refusal failure (op.refuse failure) link { w with journal } := by
  obtain ⟨failure, hcheck, hdeclines⟩ := op.refuses_of_outOfBounds h w
  obtain ⟨journal, hrefused⟩ := op.refused w hcheck
  exact ⟨failure, journal, hdeclines, hrefused⟩

theorem Operation.rejected_apply (op : Operation) {link : Link E K} {w v : World E K} {answer : op.Answer}
    {cause : Rejection} (hrun : op.act link w = .done answer v)
    (hanswer : op.failure? answer = some (.rejected cause)) :
    op.OutOfBounds ∧ ∃ journal, ∀ link, op.act link w = .done answer { w with journal } := by
  cases hcheck : checkAt w op with
  | ok u =>
    have hmay := op.may_fail hcheck hrun hanswer
    cases op with
    | resetBrain id source =>
      obtain ⟨_, -, heq⟩ := hmay
      cases heq
    | _ => cases hmay
  | error failure =>
    obtain ⟨journal, hrefused⟩ := op.refused w hcheck
    rw [hrefused] at hrun
    obtain rfl := Session.refusal_done hrun
    obtain rfl := Operation.failure?_refuse hanswer
    refine ⟨outOfBounds_of_rejected hcheck, journal, fun link => ?_⟩
    rw [hrefused, Session.refusal_silent rfl]

end BrainHost
