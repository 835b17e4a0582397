import BrainHost.Boundary
import BrainHost.Proofs.Service.Lax

/-! # Calls of the C boundary

What a native host can call, and what each call needs the runtime for. A call that cannot have the
runtime is refused: it gives what it gives on failure, and nothing but the log has changed. -/

namespace BrainHost

variable {E : Engine} {K : HostKind} {α β : Type}

namespace Outcome

variable {σ : Type}

def caught (fallback : α) (handler : σ → σ) : Outcome σ α → Outcome σ α
  | .done a w => .done a w
  | .fault w => .done fallback (handler w)
  | .stuck => .stuck

theorem caught_ne_fault (fallback : α) (handler : σ → σ) (o : Outcome σ α) (w : σ) :
    o.caught fallback handler ≠ .fault w := by
  cases o <;> simp [caught]

theorem Ends.caught {P : σ → Prop} {o : Outcome σ α} (h : o.Ends P) (fallback : α)
    {handler : σ → σ} (hP : ∀ w, P w → P (handler w)) : (o.caught fallback handler).Ends P := by
  cases o with
  | done a w => exact h
  | fault w => exact hP w h
  | stuck => trivial

theorem Ends.bind_of_calm {P Q : σ → Prop} {o : Outcome σ α} {f : α → σ → Outcome σ β}
    (h : o.Ends P) (hcalm : ∀ w, o ≠ .fault w) (hf : ∀ a w, P w → (f a w).Ends Q) :
    (o.bind f).Ends Q := by
  cases o with
  | done a w => exact hf a w h
  | fault w => exact absurd rfl (hcalm w)
  | stuck => trivial

theorem bind_ne_fault {o : Outcome σ α} {f : α → σ → Outcome σ β} (h : ∀ w, o ≠ .fault w)
    (hf : ∀ a w v, f a w ≠ .fault v) (v : σ) : o.bind f ≠ .fault v := by
  cases o with
  | done a w => exact hf a w v
  | fault w => exact absurd rfl (h w)
  | stuck => exact nofun

theorem settle_ne_fault {o : Outcome σ α} {cleanup : σ → σ} (h : ∀ w, o ≠ .fault w) (v : σ) :
    o.settle cleanup ≠ .fault v := by
  cases o with
  | done a w => exact nofun
  | fault w => exact absurd rfl (h w)
  | stuck => exact nofun

end Outcome

namespace Boundary

/-- A call of the C boundary. -/
inductive Call
  | start (path : Bytes)
  | stop
  | reset (id source : Bytes)
  | setModule (id moduleId source : Bytes)
  | updateBytes (id agent state : Bytes) (memory : Option ByteArray) (length : Int) (wanted : Bool)
  | update (id agent state : Bytes) (wanted : Bool)
  | evaluate (source : Bytes)
  | evaluateToInteger (source : Bytes)
  | reportResult (result : Bytes)
  | setHook (hook : Hook) (on : Bool)

namespace Call

def Answer : Call → Type
  | start _ => Nat
  | stop => Nat
  | reset .. => Bool
  | setModule .. => Bool
  | updateBytes .. => Bool × Option ByteArray
  | update .. => Bool
  | evaluateToInteger _ => Int
  | _ => Unit

def act : (call : Call) → Act E K call.Answer
  | start path => Boundary.start path
  | stop => Boundary.stop
  | reset id source => Boundary.reset id source
  | setModule id moduleId source => Boundary.setModule id moduleId source
  | updateBytes id agent state memory length wanted =>
    Boundary.updateBytes id agent state memory length wanted
  | update id agent state wanted => Boundary.update id agent state wanted
  | evaluate source => Boundary.evaluate source
  | evaluateToInteger source => Boundary.evaluateToInteger source
  | reportResult result => Boundary.reportResult result
  | setHook hook on => Boundary.setHook hook on

def failure : (call : Call) → call.Answer
  | start _ => (1 : Nat)
  | stop => (1 : Nat)
  | reset .. => false
  | setModule .. => false
  | updateBytes _ _ _ memory _ _ => (false, memory)
  | update .. => false
  | evaluateToInteger _ => (0 : Int)
  | evaluate _ => ()
  | reportResult _ => ()
  | setHook .. => ()

end Call

/-! ## What calls need -/

/-- What a call needs the runtime for. -/
inductive Use
  | nothing | sharing | owning
  deriving DecidableEq

def outOfRange (length : Int) : Bool := length < 0 || (Limit.buffer.maxBytes : Int) < length

/-- What a call needs the runtime for. A report goes straight to the reporter that was kept, and an
update whose length is out of range does not get as far as the runtime. -/
def Call.use (lastReporter : Option Nat) : Call → Use
  | start _ => .owning
  | stop => .owning
  | reset .. => .owning
  | updateBytes _ _ _ _ length _ => if outOfRange length then .nothing else .sharing
  | reportResult _ => if lastReporter.isSome then .nothing else .sharing
  | _ => .sharing

/-- Whether a call finds the runtime held in a way that keeps it from what it needs. -/
def busy : Use → Holding → Bool
  | .nothing, _ => false
  | .sharing, .shared _ => false
  | .sharing, .exclusive => true
  | .owning, .shared count => count ≠ 0
  | .owning, .exclusive => true

def taken : Use → Holding → Holding
  | .nothing, holding => holding
  | .sharing, .shared count => .shared (count + 1)
  | .sharing, .exclusive => .exclusive
  | .owning, _ => .exclusive

/-! ## Arguments -/

def decoded : Bytes → String
  | none => ""
  | some bytes => (String.fromUTF8? (upToNul bytes)).getD ""

def noticed (bytes : Bytes) (w : World E K) : World E K :=
  match bytes with
  | none => w
  | some bytes =>
    match String.fromUTF8? (upToNul bytes) with
    | some _ => w
    | none => Act.logged .warn "brain.ffi" "string argument is not valid UTF-8" w

def Call.arguments : Call → List Bytes
  | start path => [path]
  | stop => []
  | reset id source => [id, source]
  | setModule id moduleId source => [id, moduleId, source]
  | updateBytes id agent state _ _ _ => [id, agent, state]
  | update id agent state _ => [id, agent, state]
  | evaluate source => [source]
  | evaluateToInteger source => [source]
  | reportResult result => [result]
  | setHook .. => []

def Call.read (call : Call) (w : World E K) : World E K := call.arguments.foldl (fun w b => noticed b w) w

theorem textOf_apply (bytes : Bytes) (link : Link E K) (w : World E K) :
    textOf bytes link w = .done (decoded bytes) (noticed bytes w) := by
  cases bytes with
  | none => rfl
  | some bytes =>
    unfold textOf decoded noticed
    dsimp only
    cases String.fromUTF8? (upToNul bytes) <;> rfl

theorem textOf_bind (bytes : Bytes) (f : String → Act E K α) (link : Link E K) (w : World E K) :
    (textOf bytes >>= f) link w = f (decoded bytes) link (noticed bytes w) := by
  rw [Act.bind_apply, textOf_apply, Outcome.bind_done]

@[simp] theorem noticed_boundary (bytes : Bytes) (w : World E K) :
    (noticed bytes w).boundary = w.boundary := by
  unfold noticed
  split
  · rfl
  · split <;> rfl

theorem noticed_eq (bytes : Bytes) (w : World E K) : ∃ journal, noticed bytes w = { w with journal } := by
  unfold noticed
  split
  · exact ⟨w.journal, rfl⟩
  · split <;> exact ⟨_, rfl⟩

theorem Call.read_eq (call : Call) (w : World E K) : ∃ journal, call.read w = { w with journal } := by
  unfold Call.read
  generalize call.arguments = arguments
  induction arguments generalizing w with
  | nil => exact ⟨w.journal, rfl⟩
  | cons bytes rest ih =>
    obtain ⟨first, hfirst⟩ := noticed_eq bytes w
    rw [List.foldl_cons, hfirst]
    exact ih _

/-! ## Holding the runtime -/

/-- How host functions are called by way of C. -/
def relay (link : Link E K) : Link E K := fun callback w => relayed callback link w

def panicked (w : World E K) : World E K :=
  Act.logged .error "brain.ffi" "panic caught at the C boundary" w

def turnedAway (w : World E K) : World E K :=
  Act.logged .error "brain.ffi" "runtime is busy; re-entrant call refused" w

/-- Does the work of a call while holding the runtime as it needs. -/
def withRuntime (use : Use) (fallback : α) (work : Act E K α) : Act E K α :=
  match use with
  | .nothing => guarded fallback (relaying work)
  | .sharing => sharing fallback work
  | .owning => owning fallback work

/-- What is done to the holding once the work of a call has ended. -/
def released : Use → World E K → World E K
  | .nothing => id
  | _ => release

theorem guarded_apply (fallback : α) (m : Act E K α) (link : Link E K) (w : World E K) :
    guarded fallback m link w = (m link w).caught fallback panicked := by
  unfold guarded Act.catchFault
  cases m link w <;> rfl

theorem withRuntime_refused {use : Use} {w : World E K} (h : busy use w.boundary.holding = true)
    (fallback : α) (work : Act E K α) (link : Link E K) :
    withRuntime use fallback work link w = .done fallback (turnedAway w) := by
  cases use with
  | nothing => cases h
  | sharing =>
    cases hw : w.boundary.holding with
    | shared count => simp [hw, busy] at h
    | exclusive =>
      rw [withRuntime, sharing, guarded_apply, Act.bind_apply, Act.get_apply, Outcome.bind_done]
      simp only [hw]
      rfl
  | owning =>
    cases hw : w.boundary.holding with
    | shared count =>
      cases count with
      | zero => simp [hw, busy] at h
      | succ count =>
        rw [withRuntime, owning, guarded_apply, Act.bind_apply, Act.get_apply, Outcome.bind_done]
        simp only [hw]
        rfl
    | exclusive =>
      rw [withRuntime, owning, guarded_apply, Act.bind_apply, Act.get_apply, Outcome.bind_done]
      simp only [hw]
      rfl

theorem withRuntime_granted {use : Use} {w : World E K} (h : busy use w.boundary.holding = false)
    (fallback : α) (work : Act E K α) (link : Link E K) :
    withRuntime use fallback work link w =
      ((work (relay link) (hold (taken use w.boundary.holding) w)).settle (released use)).caught
        fallback panicked := by
  cases use with
  | nothing =>
    rw [withRuntime, guarded_apply]
    change (work (relay link) w).caught fallback panicked =
      ((work (relay link) w).settle (released .nothing)).caught fallback panicked
    cases work (relay link) w <;> rfl
  | sharing =>
    cases hw : w.boundary.holding with
    | shared count =>
      rw [withRuntime, sharing, guarded_apply, Act.bind_apply, Act.get_apply, Outcome.bind_done]
      simp only [hw]
      rw [Act.bind_apply, Act.modify_apply, Outcome.bind_done, Act.ensuring_apply]
      rfl
    | exclusive => simp [hw, busy] at h
  | owning =>
    cases hw : w.boundary.holding with
    | shared count =>
      obtain rfl : count = 0 := by simpa [hw, busy] using h
      rw [withRuntime, owning, guarded_apply, Act.bind_apply, Act.get_apply, Outcome.bind_done]
      simp only [hw]
      rw [Act.bind_apply, Act.modify_apply, Outcome.bind_done, Act.ensuring_apply]
      rfl
    | exclusive => simp [hw, busy] at h

theorem released_eq {use : Use} {holding : Holding} {v : World E K}
    (hgranted : busy use holding = false) (hheld : v.boundary.holding = taken use holding) :
    released use v = hold holding v := by
  cases use with
  | nothing =>
    rw [← show v.boundary.holding = holding from hheld]
    rfl
  | sharing =>
    cases holding with
    | shared count =>
      have hcount : v.boundary.holding = .shared (count + 1) := hheld
      simp [released, release, hcount]
    | exclusive => cases hgranted
  | owning =>
    cases holding with
    | shared count =>
      obtain rfl : count = 0 := by simpa [busy] using hgranted
      have howned : v.boundary.holding = .exclusive := hheld
      simp [released, release, howned]
    | exclusive => cases hgranted

theorem withRuntime_ne_fault (use : Use) (fallback : α) (work : Act E K α) (link : Link E K)
    (w v : World E K) : withRuntime use fallback work link w ≠ .fault v := by
  cases use with
  | nothing => rw [withRuntime, guarded_apply]; apply Outcome.caught_ne_fault
  | sharing => rw [withRuntime, sharing, guarded_apply]; apply Outcome.caught_ne_fault
  | owning => rw [withRuntime, owning, guarded_apply]; apply Outcome.caught_ne_fault

/-! ## What calls do -/

def updateWork (id agent state : Bytes) (memory : Option ByteArray) (length : Int) (wanted : Bool) :
    Act E K (Bool × Option ByteArray) := do
  if outOfRange length then
    record .warn "buffer length out of range. Doing nothing."
    pure (false, memory)
  else
    let buffer := (memory.map fun m => m.extract 0 length.toNat).getD .empty
    let (result, bytes) ←
      Session.updateAgent (decoded id) (decoded agent) (decoded state) buffer (deliver wanted)
    pure (result.isOk, memory.map fun m => overwrite m bytes)

/-- What a call does once it holds the runtime as it needs. -/
def Call.work (lastReporter : Option Nat) : (call : Call) → Act E K call.Answer
  | start path => exitCode (Session.start (decoded path))
  | stop => exitCode Session.stop
  | reset id source => succeeds (Session.resetBrain (decoded id) (decoded source))
  | setModule id moduleId source =>
    succeeds (Session.setModule (decoded id) (decoded moduleId) (decoded source))
  | updateBytes id agent state memory length wanted => updateWork id agent state memory length wanted
  | update id agent state wanted => Prod.fst <$> updateWork id agent state none 0 wanted
  | evaluate source => do
    let _ ← succeeds (Session.evaluate (decoded source))
  | evaluateToInteger source => Session.evaluateToInteger (decoded source)
  | reportResult result =>
    match lastReporter with
    | some reporter => do
      let _ ← Act.report reporter (decoded result)
    | none => Act.logError (ServiceFailure.noCurrentUser (decoded result)).message
  | setHook hook on => Act.modify fun w => { w with hooks := w.hooks.assign hook on }

theorem map_withRuntime (use : Use) (fallback : α) (work : Act E K α) (f : α → β) (link : Link E K)
    (w : World E K) :
    ((withRuntime use fallback work link w).bind fun a v => .done (f a) v) =
      withRuntime use (f fallback) (f <$> work) link w := by
  have mapped (link : Link E K) (w : World E K) :
      (f <$> work) link w = (work link w).bind fun a v => .done (f a) v := by
    rw [← bind_pure_comp, Act.bind_apply]
    rfl
  cases hbusy : busy use w.boundary.holding with
  | true => rw [withRuntime_refused hbusy, withRuntime_refused hbusy, Outcome.bind_done]
  | false =>
    rw [withRuntime_granted hbusy, withRuntime_granted hbusy, mapped]
    cases work (relay link) (hold (taken use w.boundary.holding) w) <;> rfl

theorem updateBytes_apply (id agent state : Bytes) (memory : Option ByteArray) (length : Int)
    (wanted : Bool) (link : Link E K) (w : World E K) :
    Boundary.updateBytes id agent state memory length wanted link w =
      withRuntime (if outOfRange length then .nothing else .sharing) (false, memory)
        (updateWork id agent state memory length wanted) link (noticed state (noticed agent (noticed id w))) := by
  unfold Boundary.updateBytes
  rw [textOf_bind, textOf_bind, textOf_bind]
  by_cases hlength : length < 0 ∨ (Limit.buffer.maxBytes : Int) < length
  · have hout : outOfRange length = true := by simpa [outOfRange] using hlength
    simp only [hout, updateWork, if_true, decide_eq_true_eq, Bool.or_eq_true, hlength]
    rfl
  · have hin : outOfRange length = false := by simpa [outOfRange] using hlength
    simp only [hin, updateWork, decide_eq_true_eq, Bool.or_eq_true, hlength, if_false,
      Bool.false_eq_true]
    rfl

theorem Call.act_apply (call : Call) (link : Link E K) (w : World E K) :
    call.act link w =
      withRuntime (call.use w.boundary.lastReporter) call.failure (call.work w.boundary.lastReporter)
        link (call.read w) := by
  cases call with
  | start path => exact textOf_bind ..
  | stop => rfl
  | reset id source =>
    change Boundary.reset id source link w = _
    unfold Boundary.reset
    rw [textOf_bind, textOf_bind]
    rfl
  | setModule id moduleId source =>
    change Boundary.setModule id moduleId source link w = _
    unfold Boundary.setModule
    rw [textOf_bind, textOf_bind, textOf_bind]
    rfl
  | updateBytes id agent state memory length wanted => exact updateBytes_apply ..
  | update id agent state wanted =>
    change (Boundary.updateBytes id agent state none 0 wanted >>= fun p => pure p.1) link w = _
    rw [Act.bind_apply, updateBytes_apply]
    exact map_withRuntime .sharing (false, none) _ Prod.fst link _
  | evaluate source => exact textOf_bind ..
  | evaluateToInteger source => exact textOf_bind ..
  | reportResult result =>
    change Boundary.reportResult result link w = _
    unfold Boundary.reportResult
    rw [textOf_bind, Act.bind_apply, Act.get_apply, Outcome.bind_done, noticed_boundary]
    unfold Call.use Call.work
    cases w.boundary.lastReporter <;> rfl
  | setHook hook on => rfl

theorem Call.act_refused {call : Call} {w : World E K} (link : Link E K)
    (h : busy (call.use w.boundary.lastReporter) w.boundary.holding = true) :
    ∃ journal, call.act link w = .done call.failure { w with journal } := by
  obtain ⟨journal, hread⟩ := call.read_eq w
  have hbusy : busy (call.use w.boundary.lastReporter) (call.read w).boundary.holding = true := by
    rw [hread]
    exact h
  rw [Call.act_apply, withRuntime_refused hbusy, hread]
  exact ⟨_, rfl⟩

/-- What a call comes to that is let in: its work is done while the runtime is held as it needs. -/
def Call.letIn (call : Call) (link : Link E K) (w : World E K) : Outcome (World E K) call.Answer :=
  let use := call.use w.boundary.lastReporter
  ((call.work w.boundary.lastReporter (relay link) (hold (taken use w.boundary.holding) (call.read w))).settle
    (released use)).caught call.failure panicked

theorem Call.act_granted {call : Call} {w : World E K} (link : Link E K)
    (h : busy (call.use w.boundary.lastReporter) w.boundary.holding = false) :
    call.act link w = call.letIn link w := by
  obtain ⟨journal, hread⟩ := call.read_eq w
  have hheld : (call.read w).boundary.holding = w.boundary.holding := by rw [hread]
  have hbusy : busy (call.use w.boundary.lastReporter) (call.read w).boundary.holding = false := by
    rw [hheld]
    exact h
  rw [Call.act_apply, withRuntime_granted hbusy, hheld]
  rfl

/-- No panic gets past the boundary. -/
theorem Call.act_ne_fault (call : Call) (link : Link E K) (w v : World E K) :
    call.act link w ≠ .fault v := by
  rw [Call.act_apply]
  apply withRuntime_ne_fault

/-! ## Host functions that are called by way of C -/

/-- What becomes of a call of a host function. Only one of a service leaves anything behind. -/
inductive Relays : Callback → Act E K Reply → Prop
  | invoked (callback : Callback) : Relays callback (Act.invoke callback)
  | forwarded (texts : List String) (target message : String) (callback : Callback) :
    Relays callback (forward texts target message callback)
  | read (actor field : Nat) : Relays (.getField .string actor field) (readString actor field)
  | service (service args : String) (reporter : Nat) :
    Relays (.callService service args reporter) (do
      if !(hasNul service || hasNul args) then keepReporter reporter
      forward [service, args] "brain.service" "service call contains an interior NUL"
        (.callService service args reporter))

theorem relays (callback : Callback) : Relays callback (relayed callback : Act E K Reply) := by
  cases callback with
  | debug message => exact .forwarded ..
  | error message => exact .forwarded ..
  | result json => exact .forwarded ..
  | callService service args reporter => exact .service ..
  | getField kind actor field =>
    cases kind with
    | string => exact .read ..
    | _ => exact .invoked _
  | fillString actor field buffer => exact .invoked _
  | setField actor field value =>
    cases value with
    | string s => exact .forwarded ..
    | _ => exact .invoked _

theorem relayed_service (service args : String) (reporter : Nat) (link : Link E K) (w : World E K) :
    relayed (.callService service args reporter) link w =
      if hasNul service || hasNul args then
        .done .none (Act.logged .warn "brain.service" "service call contains an interior NUL" w)
      else link (.callService service args reporter)
        { w with boundary := { w.boundary with lastReporter := some reporter } } := by
  cases hnul : hasNul service || hasNul args with
  | true =>
    simp [relayed, forward, hnul]
    rfl
  | false => simp [relayed, Act.bind_apply, forward, hnul, keepReporter]

/-! ## What calls keep -/

variable {D : Conduct E K}

theorem succeeds_keeps {m : Attempt E K α} (hm : Attempt.Keeps D m) : Act.Keeps D (succeeds m) := by
  refine Act.Keeps.bind hm fun r => ?_
  cases r <;> exact Act.Keeps.pure _

namespace Relayed

variable (h : D.Loud)
  (hbuffer : ∀ w buffer, D.rel w { w with boundary := { w.boundary with buffer } })
include h

theorem forward (texts : List String) (target message : String) {callback : Callback}
    (hc : ∀ service args reporter, callback ≠ .callService service args reporter) :
    Act.Keeps D (Boundary.forward texts target message callback : Act E K Reply) :=
  ((h.record _ _ _).bind fun _ => Act.Keeps.pure _).ite (h.invoke callback hc)

include hbuffer

theorem readString (actor field : Nat) :
    Act.Keeps D (Boundary.readString actor field : Act E K Reply) := by
  have sets (buffer : Option ByteArray) : Act.Keeps D (setBuffer buffer : Act E K Unit) :=
    Act.Keeps.modify fun w => hbuffer w buffer
  refine Act.Keeps.get.bind fun w => (sets none).bind fun _ =>
    (h.invoke _ (by simp)).bind fun reply => ?_
  dsimp only
  split <;> exact (sets _).bind fun _ => Act.Keeps.pure _

theorem keeps {callback : Callback}
    (hc : ∀ service args reporter, callback ≠ .callService service args reporter) :
    Act.Keeps D (relayed callback : Act E K Reply) := by
  have relayed := relays (E := E) (K := K) callback
  generalize Boundary.relayed callback = m at relayed ⊢
  cases relayed with
  | invoked => exact h.invoke _ hc
  | forwarded texts target message => exact forward h texts target message hc
  | read actor field => exact readString h hbuffer actor field
  | service service args reporter => exact absurd rfl (hc service args reporter)

end Relayed

theorem Relayed.lax (h : D.Lax)
    (hkept : ∀ w lastReporter buffer, D.rel w { w with boundary := { w.boundary with lastReporter, buffer } })
    (callback : Callback) : Act.Keeps D (relayed callback : Act E K Reply) := by
  by_cases hservice : ∃ service args reporter, callback = .callService service args reporter
  · obtain ⟨service, args, reporter, rfl⟩ := hservice
    intro link hl w
    rw [relayed_service]
    split
    · exact h.loud.logged _ _
    · exact (h.invoke _ link hl _).mono fun v hv => D.trans (hkept w (some reporter) w.boundary.buffer) hv
  · exact keeps h.loud (fun w => hkept w w.boundary.lastReporter) fun service args reporter heq =>
      hservice ⟨service, args, reporter, heq⟩

theorem Call.work_keeps (h : D.Shared) {lastReporter : Option Nat} {call : Call}
    (hassign : ∀ hook on, call = .setHook hook on → ∀ w, D.rel w { w with hooks := w.hooks.assign hook on })
    (hreport : ∀ reporter result, lastReporter = some reporter → call = .reportResult result →
      Act.Keeps D (Act.report reporter (decoded result) : Act E K _))
    (hshares : call.use lastReporter ≠ .owning) :
    Act.Keeps D (call.work lastReporter : Act E K call.Answer) := by
  have delivers (wanted : Bool) (json : String) : Act.Keeps D (deliver wanted json : Act E K Unit) :=
    ((h.invoke _ (by simp)).bind fun _ => Act.Keeps.pure _).ite (Act.Keeps.pure _)
  have updates (id agent state : Bytes) (memory : Option ByteArray) (length : Int) (wanted : Bool) :
      Act.Keeps D (updateWork id agent state memory length wanted : Act E K _) := by
    refine Act.Keeps.ite ((h.record _ _ _).bind fun _ => Act.Keeps.pure _) ?_
    exact (h.updateAgent _ _ _ _ (delivers wanted)).bind fun _ => Act.Keeps.pure _
  cases call with
  | start path => exact absurd rfl hshares
  | stop => exact absurd rfl hshares
  | reset id source => exact absurd rfl hshares
  | setModule id moduleId source => exact succeeds_keeps (h.sessionSetModule _ _ _)
  | updateBytes id agent state memory length wanted => exact updates _ _ _ _ _ _
  | update id agent state wanted =>
    change Act.Keeps D (Prod.fst <$> updateWork id agent state none 0 wanted)
    rw [← bind_pure_comp]
    exact (updates _ _ _ _ _ _).map Prod.fst
  | evaluate source => exact (succeeds_keeps (h.sessionEvaluate _)).bind fun _ => Act.Keeps.pure _
  | evaluateToInteger source => exact h.evaluateToInteger _
  | reportResult result =>
    cases hlast : lastReporter with
    | some reporter => exact (hreport reporter result hlast rfl).bind fun _ => Act.Keeps.pure _
    | none => exact h.logError _
  | setHook hook on => exact Act.Keeps.modify (hassign hook on rfl)

theorem Call.owned_keeps (h : D.Free) {lastReporter : Option Nat} {call : Call}
    (howns : call.use lastReporter = .owning) :
    Act.Keeps D (call.work lastReporter : Act E K call.Answer) := by
  cases call with
  | start path => exact (succeeds_keeps (h.start _)).bind fun _ => Act.Keeps.pure _
  | stop => exact (succeeds_keeps h.stop).bind fun _ => Act.Keeps.pure _
  | reset id source => exact succeeds_keeps (h.resetBrain _ _)
  | updateBytes id agent state memory length wanted =>
    cases hout : outOfRange length <;> simp [Call.use, hout] at howns
  | reportResult result => cases lastReporter <;> simp [Call.use] at howns
  | _ => cases howns

theorem Call.work_keeps_of_free (h : D.Free) {lastReporter : Option Nat} {call : Call}
    (hassign : ∀ hook on, call = .setHook hook on → ∀ w, D.rel w { w with hooks := w.hooks.assign hook on })
    (hreport : ∀ reporter result, lastReporter = some reporter → call = .reportResult result →
      Act.Keeps D (Act.report reporter (decoded result) : Act E K _)) :
    Act.Keeps D (call.work lastReporter : Act E K call.Answer) := by
  by_cases howns : call.use lastReporter = .owning
  · exact owned_keeps h howns
  · exact work_keeps h.toShared hassign hreport howns

theorem Call.read_rel (h : D.Logging) (call : Call) (w : World E K) : D.rel w (call.read w) := by
  have noted (w : World E K) (bytes : Bytes) : D.rel w (noticed bytes w) := by
    unfold noticed
    split
    · exact D.refl w
    · split
      · exact D.refl w
      · exact h.logged w _
  unfold Call.read
  generalize call.arguments = arguments
  induction arguments generalizing w with
  | nil => exact D.refl w
  | cons bytes rest ih => exact D.trans (noted w bytes) (ih _)

theorem released_rel (hboundary : ∀ w boundary, D.rel w { w with boundary }) (use : Use) (w : World E K) :
    D.rel w (released use w) := by
  cases use with
  | nothing => exact D.refl w
  | _ =>
    unfold released release
    dsimp only
    split <;> exact hboundary w _

/-! ## Conducts that do not mind the boundary -/

section Lax

variable (h : D.Lax) (hboundary : ∀ w boundary, D.rel w { w with boundary })
include h hboundary

theorem Call.act_keeps {call : Call} (hrelay : ∀ link, D.admits link → D.admits (relay link))
    (hwork : ∀ lastReporter, Act.Keeps D (call.work lastReporter : Act E K call.Answer)) :
    Act.Keeps D (call.act : Act E K call.Answer) := by
  intro link hl w
  have reads : D.rel w (call.read w) := call.read_rel h.loud.toLogging w
  rw [Call.act_apply]
  generalize call.use w.boundary.lastReporter = use
  cases hbusy : busy use (call.read w).boundary.holding with
  | true =>
    rw [withRuntime_refused hbusy]
    exact D.trans reads (h.logged _ _)
  | false =>
    rw [withRuntime_granted hbusy]
    have held : D.rel w (hold (taken use (call.read w).boundary.holding) (call.read w)) :=
      D.trans reads (hboundary _ _)
    have works := hwork w.boundary.lastReporter (relay link) (hrelay link hl)
      (hold (taken use (call.read w).boundary.holding) (call.read w))
    refine ((works.mono fun v hv => D.trans held hv).settle fun v hv =>
      D.trans hv (released_rel hboundary use v)).caught _
      fun v hv => D.trans hv (h.logged v _)

end Lax

end Boundary

end BrainHost
