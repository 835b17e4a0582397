import BrainHost.Proofs.Boundary.Heeding
import BrainHost.Proofs.Boundary.Results
import BrainHost.Proofs.Table.Reports

/-! # Failures at the C boundary

A call tells no more than that it has failed. What has failed the host hears by its log sink, before
the call returns. -/

namespace BrainHost

namespace Outcome

variable {σ α : Type}

/-- An operation returns, with an answer and in a state that are so related. -/
def Returns (P : α → σ → Prop) : Outcome σ α → Prop
  | .done a w => P a w
  | .fault _ => False
  | .stuck => False

instance (P : α → σ → Prop) [∀ a w, Decidable (P a w)] (o : Outcome σ α) : Decidable (o.Returns P) :=
  match o with
  | .done a w => inferInstanceAs (Decidable (P a w))
  | .fault _ => inferInstanceAs (Decidable False)
  | .stuck => inferInstanceAs (Decidable False)

theorem Returns.exists_done {P : α → σ → Prop} {o : Outcome σ α} (h : o.Returns P) :
    ∃ a w, o = .done a w ∧ P a w := by
  cases o with
  | done a w => exact ⟨a, w, rfl, h⟩
  | fault w => exact h.elim
  | stuck => exact h.elim

end Outcome

namespace Boundary

section

variable {E : Engine} {K : HostKind} {α : Type} {heard : K.State → List String} {link : Link E K}
  {u v w : World E K} {failure : Failure} {text : String}

/-! ## Reports -/

theorem relay_error (text : String) (link : Link E K) (w : World E K) :
    relay link (.error text) w =
      if hasNul text then
        .done .none (Act.logged .warn "brain.ffi" "message contains an interior NUL; not forwarded" w)
      else link (.error text) w := by
  change forward [text] _ _ (.error text) link w = _
  unfold forward
  rw [List.any_cons, List.any_nil, Bool.or_false]
  cases hasNul text <;> rfl

section

variable (hl : Attentive heard link) (hset : w.hooks.isSet .errorLog = true)
include hl hset

theorem heeds_of_done {m : Act E K α} (hm : Act.Keeps (heeding E heard) m) {a : α}
    (hrun : m (relay link) w = .done a v) : Heeds heard w v := by
  have kept := hm _ (heeding.relay hl.heeds) w
  rw [hrun] at kept
  exact kept hset

theorem logError_tells (hrun : Act.logError text (relay link) w = .done () v) : Tells heard text w v := by
  have logs : Heeds heard w (Act.logged .error "brain" text w) := heeding.lax.logged w _ hset
  rw [Act.logError_apply, if_pos hset, relay_error] at hrun
  cases hnul : hasNul text with
  | true =>
    rw [hnul] at hrun
    cases hrun
    -- The error itself has its row first, and then comes the row for the sink.
    have noted : Gains withheld (Act.logged .error "brain" text w).journal.toList _ := .push
    refine .of_noted hnul (.earlier logs.journal (noted.later ?_))
    exact ⟨[], by simp [Act.logged, withheld]⟩
  | false =>
    rw [hnul] at hrun
    obtain ⟨reply, u, hsink, heq⟩ := Outcome.bind_eq_done.mp hrun
    cases heq
    rw [if_neg Bool.false_ne_true] at hsink
    exact .of_passed hnul (hl.told text (Act.logged .error "brain" text w) reply _ logs.set hsink)

theorem report_tells (hproper : failure.Proper) (hrun : Session.report failure (relay link) w = .done () v) :
    ∀ text ∈ announced (some failure), Tells heard text w v := by
  have single {failure : Failure} {v : World E K} (hreset : failure.isReset = false)
      (hrun : Session.report failure (relay link) w = .done () v) :
      ∀ text ∈ announced (some failure), Tells heard text w v := by
    rw [announced_eq hreset]
    cases hsilent : failure.isSilent with
    | true => simp
    | false =>
      have reports : (Session.report failure : Act E K Unit) = Act.logError failure.message := by
        cases failure <;>
          first | rfl | cases (show true = false from hreset) | cases (show true = false from hsilent)
      rw [reports] at hrun
      simpa using logError_tells hl hset hrun
  cases failure with
  | resetFailed listing cause =>
    -- The cause is told first, and the listing from there on.
    have inner : cause.isInner = true := hproper
    have hcause : cause.isReset = false := by cases cause <;> first | rfl | cases inner
    have spoken : cause.isSilent = false := by cases cause <;> first | rfl | cases inner
    change (Session.report cause >>= fun _ => Act.logError _) (relay link) w = _ at hrun
    rw [Act.bind_apply] at hrun
    obtain ⟨_, u, hfirst, hsecond⟩ := Outcome.bind_eq_done.mp hrun
    have first := single hcause hfirst
    have heeds := heeds_of_done hl hset (heeding.lax.loud.report cause) hfirst
    have second := logError_tells hl heeds.set hsecond
    have after := heeds_of_done hl heeds.set (heeding.lax.loud.logError _) hsecond
    rw [announced_eq hcause, spoken] at first
    rw [announced, root_eq hcause, List.forall_mem_cons]
    exact ⟨(first _ (.head _)).later after, by simpa using second.earlier heeds⟩
  | _ => exact single rfl hrun

end

/-! ## Operations -/

/-- A failure is told, unless a bound was violated or the runtime is not initialized. -/
def IsTold (heard : K.State → List String) (failure : Failure) (w v : World E K) : Prop :=
  (∃ cause, failure = .rejected cause) ∨ failure = .notInitialized ∨
    announced (some failure) ≠ [] ∧ ∀ text ∈ announced (some failure), Tells heard text w v

theorem IsTold.mono {w' v' : World E K} (h : IsTold heard failure w v)
    (htells : ∀ text, Tells heard text w v → Tells heard text w' v') : IsTold heard failure w' v' :=
  h.imp_right fun h => h.imp_right fun h => ⟨h.1, fun text hmem => htells text (h.2 text hmem)⟩

/-- A failure that calls come to. -/
structure Due (failure : Failure) : Prop where
  proper : failure.Proper
  late : failure ≠ .alreadyInitialized

namespace Due

theorem of_inner (h : failure.isInner = true) : Due failure :=
  ⟨.of_inner h, fun heq => by cases heq ▸ h⟩

theorem of_reset {id source : String} (h : (Operation.resetBrain id source).MayFail failure) : Due failure := by
  obtain ⟨cause, hinner, rfl⟩ := h
  exact ⟨hinner, by simp⟩

theorem of_check {op : Operation} (hop : ∀ path, op ≠ .start path) (hreset : failure.isReset = false)
    (h : Operation.checkAt w op = .error failure) : Due failure :=
  ⟨.of_not_reset hreset, Operation.check_ne_alreadyInitialized hop failure h⟩

theorem isTold (h : Due failure) (htold : ∀ text ∈ announced (some failure), Tells heard text w v) :
    IsTold heard failure w v := by
  have late := h.late
  cases failure with
  | rejected cause => exact .inl ⟨cause, rfl⟩
  | notInitialized => exact .inr (.inl rfl)
  | alreadyInitialized => exact absurd rfl late
  | _ => exact .inr (.inr ⟨by simp [announced], htold⟩)

theorem reported (h : Due failure) (hl : Attentive heard link) (hle : Heeds heard w u)
    (hreport : Session.report failure (relay link) u = .done () v) : IsTold heard failure w v :=
  h.isTold fun text hmem => (report_tells hl hle.set h.proper hreport text hmem).earlier hle

end Due

section

variable (hl : Attentive heard link) (hset : w.hooks.isSet .errorLog = true)
include hl hset

theorem logged_tells {m : Attempt E K α} (hm : Attempt.Keeps (heeding E heard) m)
    (hdue : ∀ failure u, m.run (relay link) w = .done (.error failure) u → Due failure)
    (hrun : (Session.logged m).run (relay link) w = .done (.error failure) v) : IsTold heard failure w v := by
  rw [Session.logged_apply] at hrun
  obtain ⟨r, u, hfirst, hrest⟩ := Outcome.bind_eq_done.mp hrun
  have heeds := heeds_of_done hl hset hm hfirst
  cases r with
  | ok a => cases hrest
  | error failure' =>
    obtain ⟨_, _, hreport, heq⟩ := Outcome.bind_eq_done.mp hrest
    cases heq
    exact (hdue failure u hfirst).reported hl heeds hreport

theorem resetBrain_tells {id source : String}
    (hrun : (Session.resetBrain id source).run (relay link) w = .done (.error failure) v) :
    IsTold heard failure w v := by
  refine logged_tells hl hset (Attempt.Keeps.life.bind fun _ => Attempt.Keeps.engineConfig.bind fun _ =>
    heeding.free.making.registryReset id source _) ?_ hrun
  refine (Operation.resetBrain_enters w id source).fails (fun _ => .of_check (by simp)) ?_
  rintro _ rfl
  exact (Operation.remake_fails _ _ _).mono fun _ => .of_reset

theorem setModule_tells {id moduleId source : String}
    (hrun : (Session.setModule id moduleId source).run (relay link) w = .done (.error failure) v) :
    IsTold heard failure w v := by
  refine logged_tells hl hset (Attempt.Keeps.life.bind fun _ =>
    heeding.free.tending.registrySetModule id moduleId source) ?_ hrun
  refine (Operation.setModule_enters w id moduleId source).fails (fun _ => .of_check (by simp)) ?_
  rintro _ ⟨number, -, rfl⟩
  exact (Operation.load_fails _ _ _).mono fun _ => .of_inner

theorem updateAgent_tells {id agent state : String} {buffer bytes : ByteArray} {deliver : String → Act E K Unit}
    (hrun : Session.updateAgent id agent state buffer deliver (relay link) w = .done (.error failure, bytes) v) :
    IsTold heard failure w v := by
  rw [Session.updateAgent_apply] at hrun
  obtain ⟨⟨r, bytes'⟩, u, hran, hrest⟩ := Outcome.bind_eq_done.mp hrun
  have heeds := heeds_of_done hl hset (heeding.free.tending.sessionRunUpdate id agent state buffer) hran
  cases r with
  | ok json =>
    obtain ⟨_, _, -, heq⟩ := Outcome.bind_eq_done.mp hrest
    cases heq
  | error failure' =>
    obtain ⟨_, _, hreport, heq⟩ := Outcome.bind_eq_done.mp hrest
    cases heq
    -- The checks of an update are not an attempt of their own, so its failure is looked at here.
    have due : Due failure := by
      have runs := Operation.runUpdate_apply id agent state buffer w
      cases hcheck : Operation.checkAt w (.updateAgent id agent state buffer) with
      | error failure' =>
        rw [hcheck] at runs
        obtain ⟨hreset, journal, hrefused⟩ := runs
        cases (hrefused _).symm.trans hran
        exact .of_check (by simp) hreset hcheck
      | ok _ =>
        rw [hcheck] at runs
        obtain ⟨number, -, hupdates⟩ := runs
        exact .of_inner (Operation.runUpdate_fails ((hupdates _).symm.trans hran))
    exact due.reported hl heeds hreport

end

/-! ## Calls -/

namespace Call

/-- A call answers that it has failed. -/
def Denies : (call : Call) → call.Answer → Prop
  | reset .., answer => answer = false
  | setModule .., answer => answer = false
  | updateBytes .., answer => answer.1 = false
  | update .., answer => answer = false
  | _, _ => False

/-- The length that a call gives for its memory is out of range. -/
def IsOutOfRange : Call → Prop
  | updateBytes _ _ _ _ length _ => outOfRange length = true
  | _ => False

/-- The runtime's operation that a call is for fails. -/
def FailsWith (link : Link E K) (w : World E K) (failure : Failure) : Call → Prop
  | reset id source =>
    ∃ v, (Session.resetBrain (decoded id) (decoded source)).run link w = .done (.error failure) v
  | setModule id moduleId source =>
    ∃ v, (Session.setModule (decoded id) (decoded moduleId) (decoded source)).run link w =
      .done (.error failure) v
  | updateBytes id agent state memory length wanted =>
    ∃ bytes v, Session.updateAgent (decoded id) (decoded agent) (decoded state) (lent memory length)
      (deliver wanted) link w = .done (.error failure, bytes) v
  | update id agent state wanted =>
    ∃ bytes v, Session.updateAgent (decoded id) (decoded agent) (decoded state) .empty
      (deliver wanted) link w = .done (.error failure, bytes) v
  | _ => False

def held (call : Call) (w : World E K) : World E K :=
  hold (taken (call.use w.boundary.lastReporter) w.boundary.holding) (call.read w)

end Call

theorem succeeds_eq_false {m : Attempt E K α} (h : succeeds m link w = .done false v) :
    ∃ failure, m.run link w = .done (.error failure) v := by
  unfold succeeds at h
  rw [Act.bind_apply] at h
  obtain ⟨r, u, hrun, hrest⟩ := Outcome.bind_eq_done.mp h
  cases r with
  | ok a => cases hrest
  | error failure =>
    cases hrest
    exact ⟨failure, hrun⟩

theorem updateWork_denies {id agent state : Bytes} {memory : Option ByteArray} {length : Int} {wanted : Bool}
    {answer : Bool × Option ByteArray} (hrange : outOfRange length = false)
    (hrun : updateWork id agent state memory length wanted link w = .done answer v) (hdenied : answer.1 = false) :
    ∃ failure bytes, Session.updateAgent (decoded id) (decoded agent) (decoded state) (lent memory length)
      (deliver wanted) link w = .done (.error failure, bytes) v := by
  rw [updateWork_apply hrange] at hrun
  obtain ⟨⟨r, bytes⟩, u, hupdate, heq⟩ := Outcome.bind_eq_done.mp hrun
  cases heq
  cases r with
  | ok _ => cases hdenied
  | error failure => exact ⟨failure, bytes, hupdate⟩

theorem work_denies (hl : Attentive heard link) (hset : w.hooks.isSet .errorLog = true) {call : Call}
    {lastReporter : Option Nat} {answer : call.Answer}
    (hrun : call.work lastReporter (relay link) w = .done answer v) (hdenied : call.Denies answer) :
    call.IsOutOfRange ∨ ∃ failure, call.FailsWith (relay link) w failure ∧ IsTold heard failure w v := by
  cases call with
  | reset id source =>
    cases hdenied
    obtain ⟨failure, hfails⟩ := succeeds_eq_false hrun
    exact .inr ⟨failure, ⟨v, hfails⟩, resetBrain_tells hl hset hfails⟩
  | setModule id moduleId source =>
    cases hdenied
    obtain ⟨failure, hfails⟩ := succeeds_eq_false hrun
    exact .inr ⟨failure, ⟨v, hfails⟩, setModule_tells hl hset hfails⟩
  | updateBytes id agent state memory length wanted =>
    cases hrange : outOfRange length with
    | true => exact .inl hrange
    | false =>
      obtain ⟨failure, bytes, hfails⟩ := updateWork_denies hrange hrun hdenied
      exact .inr ⟨failure, ⟨bytes, v, hfails⟩, updateAgent_tells hl hset hfails⟩
  | update id agent state wanted =>
    cases hdenied
    change (Prod.fst <$> updateWork id agent state none 0 wanted) (relay link) w = _ at hrun
    rw [← bind_pure_comp, Act.bind_apply] at hrun
    obtain ⟨answer, u, hupdate, heq⟩ := Outcome.bind_eq_done.mp hrun
    change Outcome.done answer.1 u = .done false v at heq
    obtain ⟨hdenied, rfl⟩ := Outcome.done.inj heq
    obtain ⟨failure, bytes, hfails⟩ := updateWork_denies rfl hupdate hdenied
    exact .inr ⟨failure, ⟨bytes, u, hfails⟩, updateAgent_tells hl hset hfails⟩
  | _ => exact hdenied.elim

/-! ## Failures of calls -/

/-- **No failure is silent at the boundary.** While the host has a log sink and keeps it, a call of an
update, with bytes or without, of a module or of a reset that answers that it has failed was turned away
because the runtime is busy, or caught a panic, or gave a length out of range, or the runtime's operation
failed. In that case the failure is a violated bound or that the runtime is not initialized, or its text
is told during the call, and for a reset both the cause and the listing. A text that is told is heard by
the sink, unless there is a NUL inside: then the runtime's own log has it that a text was kept from the
sink. -/
theorem failures_are_heard (hl : Attentive heard link) (hset : w.hooks.isSet .errorLog = true) (call : Call)
    {answer : call.Answer} (hrun : call.act link w = .done answer v) (hdenied : call.Denies answer) :
    busy (call.use w.boundary.lastReporter) w.boundary.holding = true ∨
    (∃ u, call.work w.boundary.lastReporter (relay link) (call.held w) = .fault u) ∨
    call.IsOutOfRange ∨
    ∃ failure, call.FailsWith (relay link) (call.held w) failure ∧ IsTold heard failure w v := by
  cases hbusy : busy (call.use w.boundary.lastReporter) w.boundary.holding with
  | true => exact .inl rfl
  | false =>
    rw [Call.act_granted link hbusy] at hrun
    unfold Call.letIn at hrun
    change ((call.work w.boundary.lastReporter (relay link) (call.held w)).settle _).caught _ _ = _ at hrun
    cases hwork : call.work w.boundary.lastReporter (relay link) (call.held w) with
    | fault u => exact .inr (.inl ⟨u, rfl⟩)
    | stuck =>
      rw [hwork] at hrun
      cases hrun
    | done result u =>
      rw [hwork] at hrun
      cases hrun
      -- Reading the arguments, holding the runtime and giving it back lose nothing that is told.
      have before : Heeds heard w (call.held w) :=
        (heeding E heard).trans (call.read_rel heeding.lax.loud.toLogging w) (heeding.boundary _ _) hset
      have keeps : call ≠ .setHook .errorLog false := by
        rintro rfl
        exact hdenied
      have worked := heeds_of_done hl before.set (heeding.work keeps _) hwork
      have after (use : Use) : Heeds heard u (released use u) := released_rel heeding.boundary use u worked.set
      refine .inr (.inr ((work_denies hl before.set hwork hdenied).imp_right ?_))
      rintro ⟨failure, hfails, htold⟩
      exact ⟨failure, hfails, htold.mono fun text htells => (htells.earlier before).later (after _)⟩

end

/-- A host whose sink tries to stop the runtime whenever it is told something. -/
def restless : Callback → Code Unit
  | .error _ => .call .stop fun _ => .finish .none
  | _ => .finish .none

def bare : World complainingEngine (Coded complainingEngine Unit) where
  hooks := ⟨[.errorLog]⟩
  life := some ⟨"p", none⟩
  host := { own := () }

def tickReset : Call := .reset (some "a".toUTF8) (some "tick".toUTF8)

/-- The source of a brain complains and throws: the sink hears its complaint, the cause and the listing. -/
theorem failures_are_heard_reset :
    Attentive (K := Coded complainingEngine Unit) errorsHeard (link restless 1) ∧
    bare.hooks.isSet .errorLog = true ∧
    ∃ v, tickReset.act (link restless 1) bare = .done false v ∧ tickReset.Denies false ∧
      errorsHeard v.host = ["tick", "Exception caught while running brain JS: tick",
        "Failed to reset brain with javascript:\n1:\ttick\n"] ∧
      ∃ failure, tickReset.FailsWith (relay (link restless 1)) (tickReset.held bare) failure ∧
        IsTold (K := Coded complainingEngine Unit) errorsHeard failure bare v := by
  have listens (callback : Callback) : (restless callback).Listens := by
    cases callback with
    | error message => exact ⟨by simp, fun _ => trivial⟩
    | _ => trivial
  have attentive := Attentive.of_listens (E := complainingEngine) listens 1
  have ran : (reset (some "a".toUTF8) (some "tick".toUTF8) (link restless 1) bare).Returns fun answer v =>
      answer = false ∧ errorsHeard v.host = ["tick", "Exception caught while running brain JS: tick",
        "Failed to reset brain with javascript:\n1:\ttick\n"] := by
    decide +kernel
  have worked : (succeeds (Session.resetBrain (decoded (some "a".toUTF8)) (decoded (some "tick".toUTF8)))
      (relay (link restless 1)) (tickReset.held bare)).Returns fun _ _ => True := by
    decide +kernel
  obtain ⟨_, v, hrun, rfl, hheard⟩ := ran.exists_done
  obtain ⟨_, _, hwork, -⟩ := worked.exists_done
  refine ⟨attentive, rfl, v, hrun, rfl, hheard, ?_⟩
  rcases failures_are_heard attentive (w := bare) rfl tickReset hrun rfl with
    hbusy | ⟨u, hpanic⟩ | hrange | told
  · cases hbusy
  · cases hwork.symm.trans hpanic
  · exact hrange.elim
  · exact told

/-- An engine whose functions throw a text with a NUL inside. -/
def stumblingEngine : Engine :=
  { Engine.idle Unit String () id id with call := fun _ _ c => .done (c, .error "a\x00b") }

def mute : Callback → Code Unit := fun _ => .finish .none

def stumbling : World stumblingEngine (Coded stumblingEngine Unit) where
  hooks := ⟨[.errorLog]⟩
  results := #[none]
  brains := #[{ context := some (), source := "s", bridge := 0, updateAgent := "u", maxPendingJobs := none }]
  registry := [("b", 0)]
  life := some ⟨"p", none⟩
  host := { own := () }

def stumblingUpdate : Call := .update (some "b".toUTF8) (some "a".toUTF8) (some "1".toUTF8) false

def stumble : Failure := .script (.exception "Error while calling updateAgent: " { message := "a\x00b" })

/-- An update throws a text with a NUL inside: the call answers that it has failed, and the sink, though
there is one, has not heard of it. -/
theorem unheard_failure :
    stumbling.hooks.isSet .errorLog = true ∧
    ∃ v, stumblingUpdate.act (link mute 1) stumbling = .done false v ∧
      stumblingUpdate.FailsWith (relay (link mute 1)) (stumblingUpdate.held stumbling) stumble ∧
      errorsHeard stumbling.host = [] ∧ errorsHeard v.host = [] := by
  have ran : (update (some "b".toUTF8) (some "a".toUTF8) (some "1".toUTF8) false (link mute 1)
      stumbling).Returns fun answer v => answer = false ∧ errorsHeard v.host = [] := by
    decide +kernel
  have fails : (Session.updateAgent (decoded (some "b".toUTF8)) (decoded (some "a".toUTF8))
      (decoded (some "1".toUTF8)) .empty (deliver false) (relay (link mute 1))
      (stumblingUpdate.held stumbling)).Returns fun answer _ => Operation.errorOf answer.1 = some stumble := by
    decide +kernel
  obtain ⟨_, v, hrun, rfl, hheard⟩ := ran.exists_done
  obtain ⟨⟨r, bytes⟩, u, hupdate, hfailed⟩ := fails.exists_done
  obtain rfl : r = .error stumble := errorOf_eq_some hfailed
  exact ⟨rfl, v, hrun, ⟨bytes, u, hupdate⟩, rfl, hheard⟩

end Boundary

end BrainHost
