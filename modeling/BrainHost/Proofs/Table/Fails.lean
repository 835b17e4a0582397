import BrainHost.Proofs.Table.Checks

/-! # How operations fail that are let in

Such an operation fails with what scripts and states fail with, and a reset with the listing of its
source besides. -/

namespace BrainHost

variable {E : Engine} {K : HostKind} {α β : Type} {P : Failure → Prop}

namespace Attempt

def Fails (P : Failure → Prop) (m : Attempt E K α) : Prop :=
  ∀ link w failure v, m.run link w = .done (.error failure) v → P failure

namespace Fails

theorem bind_of {m : Attempt E K α} {f : α → Attempt E K β} (hm : Fails P m)
    (hf : ∀ a, (∃ link w v, m.run link w = .done (.ok a) v) → Fails P (f a)) : Fails P (m >>= f) := by
  intro link w failure v h
  rw [run_bind, Act.bind_apply, Outcome.bind_eq_done] at h
  obtain ⟨r, u, hfirst, hrest⟩ := h
  cases r with
  | ok a => exact hf a ⟨link, w, u, hfirst⟩ link u failure v hrest
  | error failure' =>
    cases hrest
    exact hm link w failure v hfirst

theorem bind {m : Attempt E K α} {f : α → Attempt E K β} (hm : Fails P m) (hf : ∀ a, Fails P (f a)) :
    Fails P (m >>= f) := hm.bind_of fun a _ => hf a

theorem pure (a : α) : Fails P (Pure.pure a : Attempt E K α) := fun _ _ _ _ h => by cases h

theorem lift_apply (m : Act E K α) (link : Link E K) (w : World E K) :
    (ExceptT.lift m : Attempt E K α).run link w = (m link w).bind fun a v => .done (.ok a) v :=
  Act.bind_apply ..

theorem lift (m : Act E K α) : Fails P (ExceptT.lift m : Attempt E K α) := by
  intro link w failure v h
  rw [lift_apply, Outcome.bind_eq_done] at h
  obtain ⟨a, u, -, heq⟩ := h
  cases heq

theorem lift_bind {m : Act E K α} {f : α → Attempt E K β}
    (hf : ∀ a, (∃ link w v, m link w = .done a v) → Fails P (f a)) :
    Fails P ((ExceptT.lift m : Attempt E K α) >>= f) := by
  refine (lift m).bind_of ?_
  rintro a ⟨link, w, v, hrun⟩
  rw [lift_apply, Outcome.bind_eq_done] at hrun
  obtain ⟨_, u, hm, heq⟩ := hrun
  cases heq
  exact hf a ⟨link, w, v, hm⟩

theorem inside {m : Inside E K α} {f : Except Failure α × E.Context → Attempt E K β}
    (hm : Inside.Fails P m)
    (hf : ∀ r c, (∀ failure, r = .error failure → P failure) → Fails P (f (r, c))) (c : E.Context) :
    Fails P (Attempt.inside c m >>= f) := by
  refine lift_bind ?_
  rintro ⟨r, c'⟩ ⟨link, w, v, hrun⟩
  refine hf r c' fun failure heq => ?_
  subst heq
  exact hm hrun

theorem lend {m : Inside E K α} (hm : Inside.Fails P m) (c : E.Context)
    (putBack : E.Context → World E K → World E K) : Fails P (Attempt.lend c m putBack) := by
  intro link w failure v h
  rw [lend_apply] at h
  obtain ⟨⟨c', u⟩, ran, -⟩ := Outcome.settle_eq_done.mp h
  exact hm (Inside.run_eq_done.mpr ran)

theorem finish {r : Except Failure α} (h : ∀ failure, r = .error failure → P failure) :
    Fails P (Attempt.finish r : Attempt E K α) := by
  cases r with
  | ok a => exact pure a
  | error failure =>
    intro link w failure' v hrun
    cases hrun
    exact h failure rfl

theorem fault : Fails P (Attempt.fault : Attempt E K α) := lift _

theorem enter {number : Nat} {m : Brain E → Inside E K α} (hm : ∀ b, Inside.Fails P (m b)) :
    Fails P (Brain.enter number m) := by
  refine (lift _).bind fun w => ?_
  dsimp only
  split
  · exact fault
  · exact (lift _).bind fun _ => lend (hm _) _ _

theorem logged {m : Attempt E K α} (hm : Fails P m) : Fails P (Session.logged m) := by
  intro link w failure v h
  rw [Session.logged_apply, Outcome.bind_eq_done] at h
  obtain ⟨r, u, hrun, hrest⟩ := h
  cases r with
  | ok a => cases hrest
  | error failure' =>
    obtain ⟨_, _, -, heq⟩ := Outcome.bind_eq_done.mp hrest
    cases heq
    exact hm link w failure u hrun

end Fails

end Attempt

open Attempt (Fails)

theorem Failure.inner_of_phase {failure : Failure} {phase : Phase} (h : failure.phase? = some phase) :
    failure.isInner = true := by
  unfold phase? at h
  split at h <;> first | rfl | cases h

theorem inner_of_plain {s : Surroundings E} {m : Inside E K α} (hm : Inside.Plain s True m) :
    Inside.Fails (·.isInner = true) m := hm.fails

namespace Operation

theorem make_fails (source : String) (config : EngineConfig) :
    Fails (·.isInner = true) (Brain.make source config : Attempt E K (Brain E)) := by
  unfold Brain.make
  split
  · exact Fails.finish (r := .error _) fun _ h => by cases h; rfl
  · refine (Fails.lift _).bind fun bridge => ?_
    refine Fails.inside (inner_of_plain (.entryPoints source)) (fun r c h => ?_) _
    exact (Fails.finish h).bind fun _ => .pure _

theorem remake_fails (id source : String) (config : EngineConfig) :
    Fails (MayFail (.resetBrain id source)) (Registry.remake id source config : Attempt E K Unit) := by
  refine Fails.lift_bind ?_
  rintro r ⟨link, w, v, hmake⟩
  cases r with
  | ok b => exact (Fails.lift _).bind fun _ => Fails.lift _
  | error cause =>
    have hinner := make_fails source config link w cause v hmake
    exact Fails.finish (r := .error _) fun _ h => by cases h; exact ⟨cause, hinner, rfl⟩

theorem load_fails (number : Nat) (id source : String) :
    Fails (·.isInner = true) (Brain.load number id source : Attempt E K Unit) :=
  (Fails.enter fun b => inner_of_plain (.runModule b id source)).bind fun _ => Fails.lift _

theorem runIn_fails (source : String) (life : Life E) :
    Fails (·.isInner = true) (Scratch.runIn source life : Attempt E K Unit) := by
  unfold Scratch.runIn
  split
  · exact Fails.fault
  · exact (Fails.lift _).bind fun _ =>
      (Fails.lend (inner_of_plain (.scratchEvaluate source)) _ _).bind fun _ => .pure _

theorem runUpdate_fails {number : Nat} {state : String} {buffer bytes : ByteArray} {failure : Failure}
    {link : Link E K} {w v : World E K}
    (h : Brain.runUpdate number state buffer link w = .done (.error failure, bytes) v) :
    failure.isInner = true := by
  obtain ⟨b, c, ⟨c', u⟩, -, -, hrun, -⟩ := Brain.runUpdate_done h
  rcases Nat.lt_or_ge Limit.buffer.maxBytes buffer.size with hlarge | hsize
  · cases hrun.symm.trans (b.updateInside_tooLarge state hlarge c link (busy number w))
    rfl
  · obtain ⟨_, ⟨bytes, hcycle⟩, -⟩ :=
      (Inside.Goes.updateInside state hsize (c, busy number w) (c', u) _).mp hrun
    exact Failure.inner_of_phase hcycle.failure

end Operation

theorem Attempt.Enters.may_fail {m : Attempt E K α} {goes : Attempt E K α → Prop} {link : Link E K}
    {w v : World E K} {failure : Failure} (h : m.Enters w (.ok ()) goes)
    (hgoes : ∀ rest, goes rest → Fails P rest)
    (hrun : (Session.logged m).run link w = .done (.error failure) v) : P failure := by
  obtain ⟨rest, hrest, hsame⟩ := h
  rw [Session.logged_apply, hsame, ← Session.logged_apply] at hrun
  exact (hgoes rest hrest).logged link w failure v hrun

theorem errorOf_eq_some {ε : Type} {r : Except ε α} {e : ε} (h : Operation.errorOf r = some e) :
    r = .error e := by
  cases r with
  | ok a => cases h
  | error e' =>
    cases h
    rfl

/-! ## Checks that fail -/

theorem bind_eq_error {check : Except Failure Unit} {next : Unit → Except Failure Unit} {failure : Failure}
    (h : (check >>= next) = .error failure) : check = .error failure ∨ next () = .error failure := by
  cases check with
  | ok u => exact .inr h
  | error failure' => exact .inl h

theorem insist_error {limit : Limit} {text : String} {failure : Failure}
    (h : insist limit text = .error failure) : ∃ cause, failure = .rejected cause := by
  unfold insist at h
  cases hcheck : limit.check text with
  | ok u =>
    rw [hcheck] at h
    cases h
  | error cause =>
    rw [hcheck] at h
    cases h
    exact ⟨cause, rfl⟩

theorem insistStarted_error {started : Bool} {failure : Failure}
    (h : insistStarted started = .error failure) : failure = .notInitialized := by
  cases started with
  | true => cases h
  | false => cases h; rfl

theorem insistKnown_error {known : Bool} {id : String} {failure : Failure}
    (h : insistKnown known id = .error failure) : known = false ∧ failure = .unknownBrain id := by
  cases known with
  | true => cases h
  | false => cases h; exact ⟨rfl, rfl⟩

theorem insistStopped_error {started : Bool} {failure : Failure}
    (h : insistStopped started = .error failure) : failure = .alreadyInitialized := by
  cases started with
  | true => cases h; rfl
  | false => cases h

theorem insistUsable_error {config : EngineConfig} {failure : Failure}
    (h : insistUsable E config = .error failure) :
    (∃ cause, failure = .config cause) ∨ ∃ reason, failure = .engine reason := by
  unfold insistUsable at h
  cases hvalid : config.validate with
  | error cause =>
    rw [hvalid] at h
    cases h
    exact .inl ⟨cause, rfl⟩
  | ok u =>
    rw [hvalid] at h
    cases hcreate : E.create config logFunctions with
    | error reason =>
      rw [hcreate] at h
      cases h
      exact .inr ⟨reason, rfl⟩
    | ok context =>
      rw [hcreate] at h
      cases h

theorem insistStarted_bind {started : Bool} {f : Unit → Except Failure Unit}
    (h : (insistStarted started >>= f) = .ok ()) : started = true := by
  cases started with
  | true => rfl
  | false => cases h

theorem insistStarted_ok {started : Bool} (h : insistStarted started = .ok ()) : started = true := by
  cases started with
  | true => rfl
  | false => cases h

namespace Operation

theorem check_ne_alreadyInitialized {w : World E K} {op : Operation} (hop : ∀ path, op ≠ .start path) :
    ∀ failure, checkAt w op = .error failure → failure ≠ .alreadyInitialized := by
  have both {check : Except Failure Unit} {next : Unit → Except Failure Unit}
      (hcheck : ∀ failure, check = .error failure → failure ≠ .alreadyInitialized)
      (hnext : ∀ failure, next () = .error failure → failure ≠ .alreadyInitialized) (failure : Failure)
      (h : (check >>= next) = .error failure) : failure ≠ .alreadyInitialized :=
    (bind_eq_error h).elim (hcheck failure) (hnext failure)
  have fits (limit : Limit) (text : String) (failure : Failure) (h : insist limit text = .error failure) :
      failure ≠ .alreadyInitialized := by
    obtain ⟨cause, rfl⟩ := insist_error h
    simp
  have fitsBuffer (r : Except Rejection Unit) (failure : Failure) (h : r.mapError .rejected = .error failure) :
      failure ≠ .alreadyInitialized := by
    cases r <;> cases h
    simp
  have started (started : Bool) (failure : Failure) (h : insistStarted started = .error failure) :
      failure ≠ .alreadyInitialized := by
    rw [insistStarted_error h]
    simp
  have known (known : Bool) (id : String) (failure : Failure) (h : insistKnown known id = .error failure) :
      failure ≠ .alreadyInitialized := by
    rw [(insistKnown_error h).2]
    simp
  cases op with
  | start path => exact absurd rfl (hop path)
  | stop => exact started _
  | resetBrain id source => exact both (started _) (both (fits _ _) (fits _ _))
  | setModule id moduleId source =>
    exact both (started _) (both (fits _ _) (both (known _ _) (both (fits _ _) (fits _ _))))
  | updateAgent id agent state buffer =>
    exact both (fits _ _) (both (fits _ _) (both (fits _ _) (both (fitsBuffer _)
      (both (started _) (known _ _)))))
  | namespaceJson id moduleId => exact both (started _) (known _ _)
  | evaluate source => exact both (started _) (fits _ _)
  | evaluateToInteger source => exact fits _ _

/-- Nothing but scripts and states makes an operation fail that is let in. -/
theorem may_fail (op : Operation) {link : Link E K} {w v : World E K} {answer : op.Answer}
    {failure : Failure} (hcheck : checkAt w op = .ok ()) (hrun : op.act link w = .done answer v)
    (hanswer : op.failure? answer = some failure) : op.MayFail failure := by
  cases op with
  | start path =>
    have starts := start_apply path w
    rw [hcheck] at starts
    obtain ⟨scratch, journal, hstart⟩ := starts
    cases (hstart link).symm.trans hrun
    cases hanswer
  | stop =>
    have started : w.life.isSome = true := insistStarted_ok hcheck
    have stopped := stop_apply link w
    rw [if_pos started] at stopped
    cases stopped.symm.trans hrun
    cases hanswer
  | resetBrain id source =>
    have hrun : (Session.resetBrain id source).run link w = .done (.error failure) v :=
      errorOf_eq_some hanswer ▸ hrun
    exact (hcheck ▸ resetBrain_enters w id source).may_fail
      (by rintro _ rfl; exact remake_fails _ _ _) hrun
  | setModule id moduleId source =>
    have hrun : (Session.setModule id moduleId source).run link w = .done (.error failure) v :=
      errorOf_eq_some hanswer ▸ hrun
    exact (hcheck ▸ setModule_enters w id moduleId source).may_fail
      (by rintro _ ⟨number, -, rfl⟩; exact load_fails _ _ _) hrun
  | updateAgent id agent state buffer =>
    have runs := runUpdate_apply id agent state buffer w
    rw [hcheck] at runs
    obtain ⟨number, -, hupdate⟩ := runs
    have hrun : Session.updateAgent id agent state buffer deliver link w = .done answer v := hrun
    rw [Session.updateAgent_apply, hupdate] at hrun
    obtain ⟨⟨r, bytes⟩, u, hran, hrest⟩ := Outcome.bind_eq_done.mp hrun
    cases r with
    | ok json =>
      obtain ⟨_, _, -, heq⟩ := Outcome.bind_eq_done.mp hrest
      cases heq
      cases hanswer
    | error failure' =>
      obtain ⟨_, _, -, heq⟩ := Outcome.bind_eq_done.mp hrest
      cases heq
      cases hanswer
      exact runUpdate_fails hran
  | namespaceJson id moduleId =>
    have hrun : (Session.namespaceJson id moduleId).run link w = .done (.error failure) v :=
      errorOf_eq_some hanswer ▸ hrun
    exact (hcheck ▸ namespaceJson_enters w id moduleId).may_fail
      (by
        rintro _ ⟨number, -, rfl⟩
        exact Fails.enter fun b => inner_of_plain (.namespaceInside b moduleId)) hrun
  | evaluate source =>
    have hrun : (Session.evaluate source).run link w = .done (.error failure) v :=
      errorOf_eq_some hanswer ▸ hrun
    exact (hcheck ▸ evaluate_enters w source).may_fail
      (by rintro _ ⟨life, -, rfl⟩; exact runIn_fails _ _) hrun
  | evaluateToInteger source => cases hanswer

end Operation

end BrainHost
