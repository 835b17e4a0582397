import BrainHost.Proofs.Boundary.Call
import BrainHost.Proofs.Table.Bounds

/-! # Bounds at the C boundary

A null pointer, and bytes that are no text, do not do where a text is required. -/

namespace BrainHost.Boundary

variable {E : Engine} {K : HostKind} {α : Type}

/-- A string argument that does not do where a text is required. -/
def UnfitBytes (max : Nat) : Bytes → Prop
  | none => True
  | some bytes =>
    match String.fromUTF8? (upToNul bytes) with
    | none => True
    | some text => Unfit max text

namespace Call

/-- Something that a call is given is out of its bounds. -/
def OutOfBounds : Call → Prop
  | start path => UnfitBytes 1024 path
  | stop => False
  | reset id source => UnfitBytes 128 id ∨ UnfitBytes 1048576 source
  | setModule id moduleId source =>
    UnfitBytes 128 id ∨ UnfitBytes 128 moduleId ∨ UnfitBytes 1048576 source
  | updateBytes id agent state _ length _ =>
    UnfitBytes 128 id ∨ UnfitBytes 128 agent ∨ UnfitBytes 10485760 state ∨ length < 0 ∨ 10485760 < length
  | update id agent state _ => UnfitBytes 128 id ∨ UnfitBytes 128 agent ∨ UnfitBytes 10485760 state
  | evaluate source => UnfitBytes 1048576 source
  | evaluateToInteger source => UnfitBytes 1048576 source
  | reportResult _ => False
  | setHook .. => False

/-- What a call gives whose arguments are out of bounds. -/
def rejection : (call : Call) → call.Answer
  | evaluateToInteger _ => (-1 : Int)
  | call => call.failure

def Declines (w : World E K) : Call → Failure → Prop
  | setModule id _ _, failure =>
    failure.isSilent = true ∨ w.registry.lookup (decoded id) = none ∧ failure = .unknownBrain (decoded id)
  | _, failure => failure.isSilent = true

end Call

theorem unfit_decoded {max : Nat} {bytes : Bytes} (h : UnfitBytes max bytes) :
    Unfit max (decoded bytes) := by
  cases bytes with
  | none => exact .inl rfl
  | some bytes =>
    change Unfit max ((String.fromUTF8? (upToNul bytes)).getD "")
    change match String.fromUTF8? (upToNul bytes) with
      | none => True
      | some text => Unfit max text at h
    cases htext : String.fromUTF8? (upToNul bytes) with
    | none => exact .inl rfl
    | some text =>
      rw [htext] at h
      exact h

theorem outOfRange_iff {length : Int} : outOfRange length = true ↔ length < 0 ∨ 10485760 < length := by
  unfold outOfRange
  rw [Bool.or_eq_true, decide_eq_true_eq, decide_eq_true_eq]
  rfl

/-! ## Calls that are declined -/

theorem succeeds_refusal {m : Attempt E K α} {failure : Failure} {link : Link E K} {w v : World E K}
    (h : m.run link w = Session.refusal failure (.error failure) link v) :
    succeeds m link w = Session.refusal failure false link v := by
  unfold succeeds
  rw [Act.bind_apply, h, Session.refusal, Outcome.bind_assoc]
  rfl

theorem exitCode_refusal {m : Attempt E K α} {failure : Failure} {link : Link E K} {w v : World E K}
    (h : m.run link w = Session.refusal failure (.error failure) link v) :
    exitCode m link w = Session.refusal failure (1 : Nat) link v := by
  unfold exitCode
  rw [Act.bind_apply, succeeds_refusal h, Session.refusal, Outcome.bind_assoc]
  rfl

theorem tried_refusal {m : Attempt E K α} {failure : Failure} {link : Link E K} {w v : World E K}
    (h : m.run link w = Session.refusal failure (.error failure) link v) :
    (do let _ ← succeeds m : Act E K Unit) link w = Session.refusal failure () link v := by
  rw [Act.bind_apply, succeeds_refusal h, Session.refusal, Outcome.bind_assoc]
  rfl

theorem overwrite_extract (memory : ByteArray) (length : Nat) :
    overwrite memory (memory.extract 0 length) = memory := by
  unfold overwrite
  rw [ByteArray.size_extract, Nat.sub_zero]
  rcases Nat.le_total length memory.size with hle | hle
  · rw [Nat.min_eq_left hle, ByteArray.extract_append_extract]
    simp [hle]
  · rw [Nat.min_eq_right hle]
    ext1
    simp [hle]

/-- Tells why something fails and gives the answer to that. -/
def declining (failure : Failure) (answer : α) : Act E K α := do
  Session.announce failure
  pure answer

theorem declining_apply (failure : Failure) (answer : α) (link : Link E K) (w : World E K) :
    declining failure answer link w = Session.refusal failure answer link w := Act.bind_apply ..

theorem withRuntime_congr {use : Use} {fallback : α} {work other : Act E K α} {w v : World E K}
    (hgranted : busy use w.boundary.holding = false) (hheld : v.boundary.holding = w.boundary.holding)
    (h : ∀ link, work link (hold (taken use w.boundary.holding) w) =
      other link (hold (taken use w.boundary.holding) v)) (link : Link E K) :
    withRuntime use fallback work link w = withRuntime use fallback other link v := by
  rw [withRuntime_granted hgranted, withRuntime_granted (hheld ▸ hgranted), hheld, h]

/-- All the work of a call is to tell why it fails. -/
def Call.IsDeclined (call : Call) (lastReporter : Option Nat) (w : World E K) : Prop :=
  ∃ failure journal, call.Declines w failure ∧ ∀ link, call.work lastReporter link w =
    Session.refusal failure call.rejection link { w with journal }

namespace Call

theorem updateWork_declined {id agent state : Bytes} (length : Int)
    (h : UnfitBytes 128 id ∨ UnfitBytes 128 agent ∨ UnfitBytes 10485760 state ∨ outOfRange length = true)
    (memory : Option ByteArray) (wanted : Bool) (w : World E K) :
    ∃ failure journal, failure.isSilent = true ∧ ∀ link,
      updateWork id agent state memory length wanted link w =
        Session.refusal failure (false, memory) link { w with journal } := by
  unfold updateWork
  cases hlength : outOfRange length with
  | true => exact ⟨.rejected (.tooLong .buffer length.toNat), _, rfl, fun link => rfl⟩
  | false =>
    simp only [Bool.false_eq_true, if_false]
    have unfit (buffer : ByteArray) : (Operation.updateAgent (decoded id) (decoded agent) (decoded state)
        buffer).OutOfBounds := by
      rcases h with hid | hagent | hstate | hrange
      · exact .inl (unfit_decoded hid)
      · exact .inr (.inl (unfit_decoded hagent))
      · exact .inr (.inr (.inl (unfit_decoded hstate)))
      · cases hlength.symm.trans hrange
    obtain ⟨failure, hcheck, hsilent⟩ :=
      Operation.refuses_of_outOfBounds _ (unfit ((memory.map fun m => m.extract 0 length.toNat).getD .empty)) w
    obtain ⟨journal, hrun⟩ := Operation.updateAgent_refused hcheck
    refine ⟨failure, journal, hsilent, fun link => ?_⟩
    rw [Act.bind_apply, hrun, Session.refusal, Outcome.bind_assoc]
    cases memory with
    | none => rfl
    | some memory =>
      change Session.refusal failure (false, some (overwrite memory (memory.extract 0 length.toNat))) _ _ = _
      rw [overwrite_extract]

theorem work_declined {call : Call} (h : call.OutOfBounds) (lastReporter : Option Nat) (w : World E K) :
    call.IsDeclined lastReporter w := by
  cases call with
  | start path =>
    obtain ⟨failure, journal, hdeclines, hrun⟩ :=
      Operation.declined (.start (decoded path)) (unfit_decoded h) w
    exact ⟨failure, journal, hdeclines, fun link => exitCode_refusal (hrun link)⟩
  | stop => exact h.elim
  | reset id source =>
    obtain ⟨failure, journal, hdeclines, hrun⟩ :=
      Operation.declined (.resetBrain (decoded id) (decoded source))
        (h.imp unfit_decoded unfit_decoded) w
    exact ⟨failure, journal, hdeclines, fun link => succeeds_refusal (hrun link)⟩
  | setModule id moduleId source =>
    obtain ⟨failure, journal, hdeclines, hrun⟩ :=
      Operation.declined (.setModule (decoded id) (decoded moduleId) (decoded source))
        (h.imp unfit_decoded (.imp unfit_decoded unfit_decoded)) w
    exact ⟨failure, journal, hdeclines, fun link => succeeds_refusal (hrun link)⟩
  | updateBytes id agent state memory length wanted =>
    refine updateWork_declined length ?_ memory wanted w
    exact h.imp_right (.imp_right (.imp_right outOfRange_iff.mpr))
  | update id agent state wanted =>
    obtain ⟨failure, journal, hsilent, hrun⟩ :=
      updateWork_declined 0 (h.imp_right (.imp_right .inl)) none wanted w
    refine ⟨failure, journal, hsilent, fun link => ?_⟩
    change (Prod.fst <$> updateWork id agent state none 0 wanted) link w = _
    rw [← bind_pure_comp, Act.bind_apply, hrun, Session.refusal, Outcome.bind_assoc]
    rfl
  | evaluate source =>
    obtain ⟨failure, journal, hdeclines, hrun⟩ :=
      Operation.declined (.evaluate (decoded source)) (unfit_decoded h) w
    exact ⟨failure, journal, hdeclines, fun link => tried_refusal (hrun link)⟩
  | evaluateToInteger source =>
    obtain ⟨_, journal, ⟨cause, rfl⟩, hrun⟩ :=
      Operation.declined (.evaluateToInteger (decoded source)) (unfit_decoded h) w
    exact ⟨.rejected cause, journal, rfl, hrun⟩
  | reportResult result => exact h.elim
  | setHook hook on => exact h.elim

theorem declined {call : Call} (h : call.OutOfBounds) (w : World E K) :
    ∃ failure journal, call.Declines w failure ∧ ∀ link, call.act link w =
      withRuntime (call.use w.boundary.lastReporter) call.failure
        (declining failure call.rejection) link { w with journal } := by
  obtain ⟨read, hread⟩ := call.read_eq w
  obtain ⟨failure, journal, hdeclines, hwork⟩ :=
    work_declined h w.boundary.lastReporter
      (hold (taken (call.use w.boundary.lastReporter) w.boundary.holding) { w with journal := read })
  have declines : call.Declines w failure := by cases call <;> exact hdeclines
  cases hbusy : busy (call.use w.boundary.lastReporter) w.boundary.holding with
  | true =>
    refine ⟨failure, read, declines, fun link => ?_⟩
    have hbusy : busy (call.use w.boundary.lastReporter) { w with journal := read }.boundary.holding = true :=
      hbusy
    rw [act_apply, hread, withRuntime_refused hbusy, withRuntime_refused hbusy]
  | false =>
    refine ⟨failure, journal, declines, fun link => ?_⟩
    rw [act_apply, hread]
    exact withRuntime_congr (w := { w with journal := read }) (v := { w with journal }) hbusy rfl
      (fun link => (hwork link).trans (declining_apply ..).symm) link

end Call

theorem declining_silent {failure : Failure} (hsilent : failure.isSilent = true) (use : Use)
    (fallback answer : α) (w : World E K) :
    ∃ journal, ∀ link, withRuntime use fallback (declining failure answer) link w =
      .done (if busy use w.boundary.holding then fallback else answer) { w with journal } := by
  cases hbusy : busy use w.boundary.holding with
  | true => exact ⟨_, fun link => withRuntime_refused hbusy _ _ link⟩
  | false =>
    refine ⟨w.journal, fun link => ?_⟩
    rw [withRuntime_granted hbusy, declining_apply, Session.refusal_silent hsilent]
    change Outcome.done answer (released use (hold (taken use w.boundary.holding) w)) = .done answer w
    rw [released_eq hbusy rfl]
    rfl

/-! ## Hosts -/

theorem quiet_relay {link : Link E K} (h : Quiet link) : Quiet (relay link) := by
  intro message w
  change (forward [message] "brain.ffi" "message contains an interior NUL; not forwarded"
    (.error message) link w).Ends _
  unfold forward
  split
  · exact ⟨_, w.host, rfl⟩
  · exact h message w

theorem declining_ends {link : Link E K} (hquiet : Quiet link) (failure : Failure) (use : Use)
    (fallback answer : α) (w : World E K) :
    (withRuntime use fallback (declining failure answer) link w).Ends (Unmoved w) := by
  cases hbusy : busy use w.boundary.holding with
  | true =>
    rw [withRuntime_refused hbusy]
    exact ⟨_, w.host, rfl⟩
  | false =>
    rw [withRuntime_granted hbusy, declining_apply]
    -- While the failure is told the runtime is held; then it is given back.
    have told := Session.refusal_ends (quiet_relay hquiet) failure answer
      (hold (taken use w.boundary.holding) w) w.journal
    refine (told.settle fun v hv => ?_).caught fallback ?_
    · obtain ⟨journal, host, rfl⟩ := hv
      rw [released_eq hbusy rfl]
      exact (⟨journal, host, rfl⟩ : Unmoved w _)
    · rintro _ ⟨journal, host, rfl⟩
      exact ⟨_, host, rfl⟩

/-- **Bounds are enforced before any work.** An operation with a text or a buffer out of its bounds
fails, and is nothing but its own failure being told: no script runs, the buffer comes back as it was
given and the result callback plays no part. The host is not told either, except of a brain that is
unknown, and as far as its sink keeps to itself nothing changes but the log. An operation never fails with a
violated bound unless there is one, and then neither hooks nor sinks are reached at all. The same holds
of calls of the C boundary, where the runtime is held meanwhile. -/
theorem bounds_before_work :
    (∀ (op : Operation) (w : World E K), op.OutOfBounds →
      ∃ failure journal, op.Declines w failure ∧
        (∀ link, op.act link w = Session.refusal failure (op.refuse failure) link { w with journal }) ∧
        (failure.isSilent = true → ∀ link, op.act link w = .done (op.refuse failure) { w with journal }) ∧
        ∀ link, Quiet link → (op.act link w).Ends (Unmoved w)) ∧
    (∀ (op : Operation) (link : Link E K) (w v : World E K) (answer : op.Answer) (cause : Rejection),
      op.act link w = .done answer v → op.failure? answer = some (.rejected cause) →
      op.OutOfBounds ∧ ∃ journal, ∀ link, op.act link w = .done answer { w with journal }) ∧
    ∀ (call : Call) (w : World E K), call.OutOfBounds →
      ∃ failure journal, call.Declines w failure ∧
        (∀ link, call.act link w = withRuntime (call.use w.boundary.lastReporter) call.failure
          (declining failure call.rejection) link { w with journal }) ∧
        (failure.isSilent = true → ∃ journal, ∀ link, call.act link w =
          .done (if busy (call.use w.boundary.lastReporter) w.boundary.holding then call.failure
            else call.rejection) { w with journal }) ∧
        ∀ link, Quiet link → (call.act link w).Ends (Unmoved w) := by
  refine ⟨fun op w h => ?_, fun op link w v answer cause => op.rejected_apply, fun call w h => ?_⟩
  · obtain ⟨failure, journal, hdeclines, hrun⟩ := op.declined h w
    refine ⟨failure, journal, hdeclines, hrun, fun hsilent link => ?_, fun link hquiet => ?_⟩
    · rw [hrun, Session.refusal_silent hsilent]
    · rw [hrun]
      exact Session.refusal_ends hquiet failure _ w journal
  · obtain ⟨failure, journal, hdeclines, hrun⟩ := Call.declined h w
    refine ⟨failure, journal, hdeclines, hrun, fun hsilent => ?_, fun link hquiet => ?_⟩
    · obtain ⟨journal', hspoken⟩ := declining_silent hsilent (call.use w.boundary.lastReporter) call.failure
        call.rejection { w with journal }
      exact ⟨journal', fun link => (hrun link).trans (hspoken link)⟩
    · rw [hrun]
      exact (declining_ends hquiet failure _ call.failure call.rejection _).mono fun v hv => hv.of_journal

def brainless : World notingEngine ⟨Unit, Empty⟩ where
  life := some ⟨"main", none⟩
  host := ()

/-- A module without id for a brain that is not there, a scratch script that is empty, a scratch script by
a null pointer, and an update of less than no bytes. -/
theorem bounds_before_work_brainless :
    (Operation.setModule "a" "" "1").OutOfBounds ∧
    (∃ failure journal, (Operation.setModule "a" "" "1").Declines brainless failure ∧
      ∀ link, (Operation.setModule "a" "" "1").act link brainless =
        Session.refusal failure ((Operation.setModule "a" "" "1").refuse failure) link
          { brainless with journal }) ∧
    (∀ link, Quiet link → ((Operation.setModule "a" "" "1").act link brainless).Ends (Unmoved brainless)) ∧
    (∃ journal, ∀ link, (Operation.evaluate "").act link brainless =
      .done (Except.error (.rejected (.empty .scriptSource))) { brainless with journal }) ∧
    (Call.evaluateToInteger none).OutOfBounds ∧
    (∃ journal, ∀ link, (Call.evaluateToInteger none).act link brainless =
      .done (-1 : Int) { brainless with journal }) ∧
    (Call.updateBytes (some "a".toUTF8) (some "b".toUTF8) (some "1".toUTF8) none (-1) true).OutOfBounds ∧
    ∃ journal, ∀ link, (Call.updateBytes (some "a".toUTF8) (some "b".toUTF8) (some "1".toUTF8) none (-1)
      true).act link brainless = .done (false, none) { brainless with journal } := by
  have unfit : (Operation.setModule "a" "" "1").OutOfBounds := .inr (.inl (.inl (by decide)))
  have unreadable : (Call.evaluateToInteger none).OutOfBounds := trivial
  have outOfRange : (Call.updateBytes (some "a".toUTF8) (some "b".toUTF8) (some "1".toUTF8) none (-1)
      true).OutOfBounds := .inr (.inr (.inr (.inl (by decide))))
  have ⟨operations, rejections, calls⟩ := bounds_before_work (E := notingEngine) (K := ⟨Unit, Empty⟩)
  obtain ⟨failure, journal, hdeclines, hrun, -, hquiet⟩ := operations _ brainless unfit
  have empty (link : Link notingEngine ⟨Unit, Empty⟩) := rejections (.evaluate "") link brainless _
    (Except.error (.rejected (.empty .scriptSource))) _ rfl rfl
  obtain ⟨_, _, hsilent, -, hnull, -⟩ := calls _ brainless unreadable
  obtain ⟨_, _, hsilent', -, hnegative, -⟩ := calls _ brainless outOfRange
  exact ⟨unfit, ⟨failure, journal, hdeclines, hrun⟩, hquiet, (empty fun _ _ => .stuck).2, unreadable,
    hnull hsilent, outOfRange, hnegative hsilent'⟩

end BrainHost.Boundary
