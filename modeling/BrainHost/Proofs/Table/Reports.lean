import BrainHost.Proofs.Service.Errors
import BrainHost.Proofs.Service.Lax
import BrainHost.Proofs.Table.Fails

/-! # Reports of failures

While an operation runs, the host hears of what its scripts do. What the operation itself comes to is
told once, when it is over. The layers below do not tell: all they do besides running scripts goes
without the host. -/

namespace BrainHost

variable {E : Engine} {K : HostKind} {α : Type}

/-! ## What scripts say -/

/-- From one state to the other the host is reached by scripts alone. A script that runs is carried
out: what it asks for is served, one request after the other. -/
inductive Spoke (link : Link E K) : World E K → World E K → Prop
  | still {w v : World E K} (hhost : v.host = w.host) (hhooks : v.hooks = w.hooks) : Spoke link w v
  | ran {α : Type} {s : Surroundings E} {run : E.Context → Run E.Context E.Value (E.Context × α)}
    {w v : World E K} (hop : E.Operates True run) (c : E.Context)
    (hends : (∃ p, Act.carryOut s (run c) link w = .done p v) ∨
      Act.carryOut s (run c) link w = .fault v) : Spoke link w v
  | trans {u v w : World E K} (h₁ : Spoke link u v) (h₂ : Spoke link v w) : Spoke link u w

/-- Conduct: the host is reached by scripts alone. -/
def speaking (link : Link E K) : Conduct E K where
  admits other := other = link
  rel := Spoke link
  refl _ := .still rfl rfl
  trans := .trans

namespace speaking

variable {link : Link E K}

theorem scripting (s : Surroundings E) : (speaking link).Scripting s where
  logged _ _ := .still rfl rfl
  carryOut hop c := by
    rintro _ rfl w
    cases hrun : Act.carryOut s (_ : Run E.Context E.Value _) _ w with
    | done p v => exact .ran hop c (.inl ⟨p, hrun⟩)
    | fault v => exact .ran hop c (.inr hrun)
    | stuck => trivial

theorem making : (speaking link).Making where
  logged _ _ := .still rfl rfl
  rested _ _ hv _ :=
    Conduct.rested_of_entered (D := speaking link) (fun _ _ _ => .still rfl rfl) hv
  works := .of_true fun _ _ => trivial
  scratched _ _ := .still rfl rfl
  scripting := scripting
  stored _ _ _ _ := .still rfl rfl
  replaced _ _ _ _ := .still rfl rfl
  bridged _ := .still rfl rfl

end speaking

/-! ## Hosts -/

/-- The host has a log sink, whose messages it keeps in order. Its functions leave the hooks alone, and
the one that takes results makes no errors. -/
structure Listening (heard : K.State → List String) (link : Link E K) : Prop where
  hooks : ∀ callback w, (link callback w).Ends fun v => v.hooks = w.hooks
  error : ∀ message w, ∃ reply v, link (.error message) w = .done reply v ∧
    heard v.host = heard w.host ++ [message]
  result : ∀ json w, (link (.result json) w).Ends fun v => heard v.host = heard w.host

/-- Conduct: hooks stay as they are. -/
def plugged (E : Engine) (K : HostKind) : Conduct E K where
  admits link := ∀ callback w, (link callback w).Ends fun v => v.hooks = w.hooks
  rel w v := v.hooks = w.hooks
  refl _ := rfl
  trans h₁ h₂ := h₂.trans h₁

theorem plugged.lax : (plugged E K).Lax where
  logged _ _ := rfl
  invoke callback _ hl w := hl callback w
  serving _ _ _ _ := rfl

theorem plugged.serving (bridge? : Option Nat) : (plugged E K).Serving bridge? where
  toLoud := lax.loud
  callService bridge _ := lax.callService bridge

theorem Spoke.hooks {link : Link E K} (hl : (plugged E K).admits link) {w v : World E K}
    (h : Spoke link w v) : v.hooks = w.hooks := by
  induction h with
  | still hhost hhooks => exact hhooks
  | @ran α s run w v hop c hends =>
    have ran := (plugged.serving s.bridge).carryOut (run c) link hl w
    rcases hends with ⟨p, hrun⟩ | hrun
    · rwa [hrun] at ran
    · rwa [hrun] at ran
  | trans h₁ h₂ ih₁ ih₂ => exact ih₂.trans ih₁

/-! ## Reports -/

/-- The messages by which an operation tells what it comes to. -/
def announced : Option Failure → List String
  | none => []
  | some (.rejected _) => []
  | some .alreadyInitialized => []
  | some .notInitialized => []
  | some (.resetFailed listing cause) =>
    [cause.root.message, (Failure.resetFailed listing cause).message]
  | some failure => [failure.message]

/-- A failed reset has the failure of a script for its cause. -/
def Failure.Proper : Failure → Prop
  | resetFailed _ cause => cause.isInner = true
  | _ => True

theorem Failure.Proper.of_inner {failure : Failure} (h : failure.isInner = true) : failure.Proper := by
  cases failure with
  | resetFailed listing cause => cases h
  | _ => trivial

theorem Failure.Proper.of_not_reset {failure : Failure} (h : failure.isReset = false) :
    failure.Proper := by
  cases failure with
  | resetFailed listing cause => cases h
  | _ => trivial

variable {heard : K.State → List String} {link : Link E K} {w v : World E K}

theorem logError_tells (hl : Listening heard link) (hset : w.hooks.isSet .errorLog = true)
    (message : String) : ∃ v, Act.logError message link w = .done () v ∧ v.hooks = w.hooks ∧
      heard v.host = heard w.host ++ [message] := by
  obtain ⟨reply, v, hsink, hheard⟩ := hl.error message (Act.logged .error "brain" message w)
  have hooks := hl.hooks (.error message) (Act.logged .error "brain" message w)
  rw [hsink] at hooks
  refine ⟨v, ?_, hooks, hheard⟩
  rw [Act.logError_apply, if_pos hset, hsink]
  rfl

theorem announced_eq {failure : Failure} (h : failure.isReset = false) :
    announced (some failure) = if failure.isSilent then [] else [failure.message] := by
  cases failure with
  | resetFailed listing cause => cases h
  | _ => rfl

theorem root_eq {failure : Failure} (h : failure.isReset = false) : failure.root = failure := by
  cases failure with
  | resetFailed listing cause => cases h
  | _ => rfl

theorem announce_tells (hl : Listening heard link) (hset : w.hooks.isSet .errorLog = true)
    {failure : Failure} (h : failure.isReset = false) :
    ∃ v, Session.announce failure link w = .done () v ∧ v.hooks = w.hooks ∧
      heard v.host = heard w.host ++ announced (some failure) := by
  rw [announced_eq h]
  unfold Session.announce
  cases failure.isSilent with
  | true => exact ⟨w, rfl, rfl, by simp⟩
  | false => exact logError_tells hl hset failure.message

theorem report_tells (hl : Listening heard link) (hset : w.hooks.isSet .errorLog = true)
    {failure : Failure} (h : failure.isReset = false) :
    ∃ v, Session.report failure link w = .done () v ∧ v.hooks = w.hooks ∧
      heard v.host = heard w.host ++ announced (some failure) := by
  obtain ⟨journal, hreport⟩ := Session.report_apply h w
  obtain ⟨v, htells, hhooks, hheard⟩ := announce_tells (w := { w with journal }) hl hset h
  exact ⟨v, (hreport link).trans htells, hhooks, hheard⟩

theorem report_once (hl : Listening heard link) (hset : w.hooks.isSet .errorLog = true)
    {failure : Failure} (h : failure.Proper) :
    ∃ v, Session.report failure link w = .done () v ∧
      heard v.host = heard w.host ++ announced (some failure) := by
  cases hreset : failure.isReset with
  | false =>
    obtain ⟨v, hreport, -, hheard⟩ := report_tells hl hset hreset
    exact ⟨v, hreport, hheard⟩
  | true =>
    cases failure with
    | resetFailed listing cause =>
      have inner : cause.isInner = true := h
      have hcause : cause.isReset = false := by cases cause <;> first | rfl | cases inner
      have spoken : cause.isSilent = false := by cases cause <;> first | rfl | cases inner
      obtain ⟨u, hfirst, hhooks, hheard⟩ := report_tells hl hset hcause
      obtain ⟨v, hsecond, -, hheard'⟩ := logError_tells hl (hhooks ▸ hset)
        (Failure.resetFailed listing cause).message
      refine ⟨v, ?_, ?_⟩
      · change (Session.report cause >>= fun _ => Act.logError _) link w = _
        rw [Act.bind_apply, hfirst]
        exact hsecond
      · rw [hheard', hheard, announced_eq hcause, spoken, announced, root_eq hcause]
        simp
    | _ => cases hreset

/-! ## Layers below the operations -/

theorem logged_tells (hl : Listening heard link) (hset : w.hooks.isSet .errorLog = true)
    {m : Attempt E K α} (hspeaks : Attempt.Keeps (speaking link) m)
    (hproper : ∀ failure u, m.run link w = .done (.error failure) u → failure.Proper)
    {r : Except Failure α} (hrun : (Session.logged m).run link w = .done r v) :
    ∃ u, m.run link w = .done r u ∧ Spoke link w u ∧
      heard v.host = heard u.host ++ announced (Operation.errorOf r) := by
  rw [Session.logged_apply, Outcome.bind_eq_done] at hrun
  obtain ⟨r', u, hfirst, hrest⟩ := hrun
  have spoke : Spoke link w u := by
    have ends : (m.run link w).Ends (Spoke link w) := hspeaks link rfl w
    rwa [hfirst] at ends
  cases r' with
  | ok a =>
    cases hrest
    exact ⟨_, hfirst, spoke, by simp [Operation.errorOf, announced]⟩
  | error failure =>
    obtain ⟨v', hreport, hheard⟩ := report_once hl ((spoke.hooks hl.hooks).symm ▸ hset)
      (hproper failure u hfirst)
    obtain ⟨_, _, hreported, heq⟩ := Outcome.bind_eq_done.mp hrest
    cases hreport.symm.trans hreported
    cases heq
    exact ⟨u, hfirst, spoke, hheard⟩

theorem Attempt.Enters.fails {P : Failure → Prop} {m : Attempt E K α} {check : Except Failure Unit}
    {goes : Attempt E K α → Prop} (h : m.Enters w check goes)
    (hcheck : ∀ failure, failure.isReset = false → check = .error failure → P failure)
    (hgoes : ∀ rest, goes rest → rest.Fails P) (failure : Failure) (u : World E K)
    (hrun : m.run link w = .done (.error failure) u) : P failure := by
  cases check with
  | error failure' =>
    obtain ⟨hreset, journal, hfails⟩ := h
    cases (hfails link).symm.trans hrun
    exact hcheck failure hreset rfl
  | ok _ =>
    obtain ⟨rest, hrest, hsame⟩ := h
    exact hgoes rest hrest link w failure u ((hsame link).symm.trans hrun)

theorem Attempt.Enters.proper {m : Attempt E K α} {check : Except Failure Unit}
    {goes : Attempt E K α → Prop} (h : m.Enters w check goes)
    (hgoes : ∀ rest, goes rest → rest.Fails Failure.Proper) (failure : Failure) (u : World E K)
    (hrun : m.run link w = .done (.error failure) u) : failure.Proper :=
  h.fails (fun _ hreset _ => .of_not_reset hreset) hgoes failure u hrun

theorem Attempt.Fails.mono {P Q : Failure → Prop} {m : Attempt E K α} (h : m.Fails P)
    (hPQ : ∀ failure, P failure → Q failure) : m.Fails Q :=
  fun link w failure v hrun => hPQ failure (h link w failure v hrun)

theorem refusal_tells (hl : Listening heard link) (hset : w.hooks.isSet .errorLog = true)
    {failure : Failure} (h : failure.isReset = false) {answer answer' : α}
    {journal : Array (Entry K.Note)}
    (hrun : Session.refusal failure answer link { w with journal } = .done answer' v) :
    answer' = answer ∧ heard v.host = heard w.host ++ announced (some failure) := by
  obtain ⟨u, htells, -, hheard⟩ := announce_tells (w := { w with journal }) hl hset h
  obtain ⟨_, _, htold, heq⟩ := Outcome.bind_eq_done.mp hrun
  cases htells.symm.trans htold
  cases heq
  exact ⟨rfl, hheard⟩

namespace Operation

theorem start_fails {path : String} {failure : Failure}
    (h : checkAt w (.start path) = .error failure) : failure.isReset = false := by
  rcases bind_eq_error h with hpath | h
  · obtain ⟨cause, rfl⟩ := insist_error hpath
    rfl
  rcases bind_eq_error h with hstopped | husable
  · rw [insistStopped_error hstopped]
    rfl
  · obtain ⟨_, rfl⟩ | ⟨_, rfl⟩ := insistUsable_error husable <;> rfl

theorem integerIn_fails (source : String) (config : EngineConfig) :
    Attempt.Fails (·.isInner = true) (Scratch.integerIn source config : Attempt E K Int) := by
  have makes : Attempt.Fails (·.isInner = true) (Scratch.make config : Attempt E K E.Context) := by
    unfold Scratch.make
    split
    · exact .pure _
    · exact Attempt.Fails.finish (r := .error _) fun _ h => by cases h; rfl
  exact makes.bind fun context =>
    Attempt.Fails.inside (inner_of_plain (.integerOf source)) (fun r c h => .finish h) context

/-- The number that a caller is given for a source. -/
def numberOf : Except Failure Int → Int
  | .ok n => n
  | .error (.rejected _) => -1
  | .error _ => 0

/-- What an operation comes to whose caller is given an answer. A number may stand for a failure. -/
def Returns (link : Link E K) (w : World E K) :
    (op : Operation) → op.Answer → Option Failure → Prop
  | evaluateToInteger source, answer, failure? => ∃ r u,
    (do Scratch.integer source (← Session.engineConfig) : Attempt E K Int).run link w = .done r u ∧
      failure? = errorOf r ∧
      answer = numberOf r
  | op, answer, failure? => failure? = op.failure? answer

end Operation

/-! ## Operations -/

theorem start_tells (hl : Listening heard link) (hset : w.hooks.isSet .errorLog = true) {path : String}
    {r : Except Failure Unit} (hrun : (Session.start path).run link w = .done r v) :
    heard v.host = heard w.host ++ announced (Operation.errorOf r) := by
  have starts := Operation.start_apply path w
  cases hcheck : Operation.checkAt w (.start path) with
  | error failure =>
    rw [hcheck] at starts
    obtain ⟨journal, hrefused⟩ := starts
    obtain ⟨rfl, hheard⟩ := refusal_tells hl hset (Operation.start_fails hcheck)
      ((hrefused link).symm.trans hrun)
    exact hheard
  | ok u =>
    rw [hcheck] at starts
    obtain ⟨scratch, journal, hstarts⟩ := starts
    cases (hstarts link).symm.trans hrun
    simp [Operation.errorOf, announced]

theorem stop_tells {r : Except Failure Unit} (hrun : Session.stop.run link w = .done r v) :
    heard v.host = heard w.host ++ announced (Operation.errorOf r) := by
  rw [Operation.stop_apply] at hrun
  split at hrun <;> cases hrun <;> simp [Operation.errorOf, announced, Act.logged]

theorem updateAgent_tells (hl : Listening heard link) (hset : w.hooks.isSet .errorLog = true)
    {id agent state : String} {buffer : ByteArray} {answer : Except Failure Unit × ByteArray}
    (hrun : Session.updateAgent id agent state buffer Operation.deliver link w = .done answer v) :
    ∃ u, Spoke link w u ∧ heard v.host = heard u.host ++ announced (Operation.errorOf answer.1) := by
  rw [Session.updateAgent_apply] at hrun
  obtain ⟨⟨r, bytes⟩, u, hran, hrest⟩ := Outcome.bind_eq_done.mp hrun
  have spoke : Spoke link w u := by
    have ends := speaking.making.toTending.sessionRunUpdate id agent state buffer link rfl w
    rwa [hran] at ends
  cases r with
  | ok json =>
    obtain ⟨_, u', hdelivers, heq⟩ := Outcome.bind_eq_done.mp hrest
    cases heq
    have quiet : (Operation.deliver json link u).Ends fun v => heard v.host = heard u.host := by
      unfold Operation.deliver
      rw [Act.bind_apply]
      exact (hl.result json u).bind (fun _ _ hv => hv) fun _ hv => hv
    rw [hdelivers] at quiet
    have same : heard v.host = heard u.host := quiet
    exact ⟨u, spoke, by simp [same, Operation.errorOf, announced]⟩
  | error failure =>
    have proper : failure.Proper := by
      have runs := Operation.runUpdate_apply id agent state buffer w
      cases hcheck : Operation.checkAt w (.updateAgent id agent state buffer) with
      | error failure' =>
        rw [hcheck] at runs
        obtain ⟨hreset, journal, hrefused⟩ := runs
        cases (hrefused link).symm.trans hran
        exact .of_not_reset hreset
      | ok _ =>
        rw [hcheck] at runs
        obtain ⟨number, -, hupdates⟩ := runs
        exact .of_inner (Operation.runUpdate_fails ((hupdates link).symm.trans hran))
    obtain ⟨_, hreport, hheard⟩ := report_once hl ((spoke.hooks hl.hooks).symm ▸ hset) proper
    obtain ⟨_, _, hreported, heq⟩ := Outcome.bind_eq_done.mp hrest
    cases hreport.symm.trans hreported
    cases heq
    exact ⟨u, spoke, hheard⟩

theorem evaluateToInteger_tells (hl : Listening heard link) (hset : w.hooks.isSet .errorLog = true)
    {source : String} {answer : Int}
    (hrun : Session.evaluateToInteger source link w = .done answer v) :
    ∃ failure? u, (Operation.evaluateToInteger source).Returns link w answer failure? ∧
      Spoke link w u ∧ heard v.host = heard u.host ++ announced failure? := by
  unfold Session.evaluateToInteger at hrun
  rw [Act.bind_apply] at hrun
  obtain ⟨r, u', hlogged, hrest⟩ := Outcome.bind_eq_done.mp hrun
  obtain ⟨u, hran, spoke, hheard⟩ := logged_tells hl hset
    (Attempt.Keeps.engineConfig.bind fun config =>
      speaking.making.toLends.integer (speaking.scripting _) source config)
    ((Operation.evaluateToInteger_enters w source).proper (by
      rintro _ rfl
      exact (Operation.integerIn_fails _ _).mono fun _ => .of_inner)) hlogged
  have same : v = u' ∧ answer = Operation.numberOf r := by
    split at hrest <;> cases hrest
    · exact ⟨rfl, rfl⟩
    · exact ⟨rfl, rfl⟩
    · next hother => exact ⟨rfl, by unfold Operation.numberOf; split <;> simp_all⟩
  obtain ⟨rfl, hanswer⟩ := same
  exact ⟨Operation.errorOf r, u, ⟨r, u, hran, rfl, hanswer⟩, spoke, hheard⟩

/-- **Every failure is reported once.** While the host has a log sink, and its functions start nothing in
the runtime themselves, the sink hears of what scripts do while an operation runs them, and after that
of what the operation returns: nothing if it goes well, if a bound was violated, or if the runtime was
initialized or not; the cause and the source of a failed reset; and the one message of any other
failure. -/
theorem failures_reported_once (op : Operation) (hl : Listening heard link)
    (hset : w.hooks.isSet .errorLog = true) {answer : op.Answer}
    (hrun : op.act link w = .done answer v) :
    ∃ failure? u, op.Returns link w answer failure? ∧ Spoke link w u ∧
      heard v.host = heard u.host ++ announced failure? := by
  have tends : (speaking link).Tending := speaking.making.toTending
  -- Most operations are an attempt whose failure is told.
  have logged {α : Type} {m : Attempt E K α} {r : Except Failure α}
      (hspeaks : Attempt.Keeps (speaking link) m)
      (hproper : ∀ failure u, m.run link w = .done (.error failure) u → failure.Proper)
      (hrun : (Session.logged m).run link w = .done r v) :
      ∃ u, Spoke link w u ∧ heard v.host = heard u.host ++ announced (Operation.errorOf r) := by
    obtain ⟨u, -, spoke, hheard⟩ := logged_tells hl hset hspeaks hproper hrun
    exact ⟨u, spoke, hheard⟩
  cases op with
  | start path => exact ⟨_, w, rfl, .still rfl rfl, start_tells hl hset hrun⟩
  | stop => exact ⟨_, w, rfl, .still rfl rfl, stop_tells hrun⟩
  | resetBrain id source =>
    obtain ⟨u, spoke, hheard⟩ := logged
      (Attempt.Keeps.life.bind fun _ => Attempt.Keeps.engineConfig.bind fun _ =>
        speaking.making.registryReset id source _)
      ((Operation.resetBrain_enters w id source).proper (by
        rintro _ rfl
        refine (Operation.remake_fails _ _ _).mono ?_
        rintro _ ⟨cause, hinner, rfl⟩
        exact hinner)) hrun
    exact ⟨_, u, rfl, spoke, hheard⟩
  | setModule id moduleId source =>
    obtain ⟨u, spoke, hheard⟩ := logged
      (Attempt.Keeps.life.bind fun _ => tends.registrySetModule id moduleId source)
      ((Operation.setModule_enters w id moduleId source).proper (by
        rintro _ ⟨number, -, rfl⟩
        exact (Operation.load_fails _ _ _).mono fun _ => .of_inner)) hrun
    exact ⟨_, u, rfl, spoke, hheard⟩
  | updateAgent id agent state buffer =>
    obtain ⟨u, spoke, hheard⟩ := updateAgent_tells hl hset hrun
    exact ⟨_, u, rfl, spoke, hheard⟩
  | namespaceJson id moduleId =>
    obtain ⟨u, spoke, hheard⟩ := logged
      (Attempt.Keeps.life.bind fun _ => (Attempt.Keeps.find id).bind fun number =>
        tends.namespaceJson number moduleId)
      ((Operation.namespaceJson_enters w id moduleId).proper (by
        rintro _ ⟨number, -, rfl⟩
        exact (Attempt.Fails.enter fun b => inner_of_plain (.namespaceInside b moduleId)).mono
          fun _ => .of_inner)) hrun
    exact ⟨_, u, rfl, spoke, hheard⟩
  | evaluate source =>
    obtain ⟨u, spoke, hheard⟩ := logged
      (Attempt.Keeps.life.bind fun life => tends.scratchRun (tends.scripting _) source life)
      ((Operation.evaluate_enters w source).proper (by
        rintro _ ⟨life, -, rfl⟩
        exact (Operation.runIn_fails _ _).mono fun _ => .of_inner)) hrun
    exact ⟨_, u, rfl, spoke, hheard⟩
  | evaluateToInteger source => exact evaluateToInteger_tells hl hset hrun

/-- An engine whose scripts log an error and then throw. -/
def complainingEngine : Engine :=
  { Engine.idle Unit String () id id with
    evaluate := fun _ source c => .ask (.error source) c fun _ => .done (c, .error source) }

/-- A host that keeps what its log sink is told. -/
abbrev Keeper : HostKind := ⟨List String, Empty⟩

def keeping (E : Engine) : Link E Keeper := fun callback w =>
  match callback with
  | .error message => .done .none { w with host := w.host ++ [message] }
  | _ => .done .none w

theorem keeping_listening : Listening id (keeping E) where
  hooks callback w := by cases callback <;> rfl
  error message w := ⟨.none, _, rfl, rfl⟩
  result json w := rfl

def complaining : World complainingEngine Keeper where
  hooks := ⟨[.errorLog]⟩
  life := some ⟨"main", none⟩
  host := []

/-- The source of a brain complains and throws: after its complaint come the failure and the listing. -/
theorem failures_reported_once_reset :
    Listening id (keeping complainingEngine) ∧ complaining.hooks.isSet .errorLog = true ∧
    ∃ failure v, (Operation.resetBrain "a" "tick").act (keeping complainingEngine) complaining =
        .done (Except.error failure) v ∧
      v.host = "tick" :: announced (some failure) ∧ (announced (some failure)).length = 2 ∧
      ∃ failure? u, (Operation.resetBrain "a" "tick").Returns (keeping complainingEngine) complaining
          (Except.error failure) failure? ∧
        Spoke (keeping complainingEngine) complaining u ∧ v.host = u.host ++ announced failure? := by
  have ran := failures_reported_once (.resetBrain "a" "tick") (keeping_listening (E := complainingEngine))
    (w := complaining) rfl rfl
  exact ⟨keeping_listening, rfl, _, _, rfl, rfl, rfl, ran⟩

end BrainHost
