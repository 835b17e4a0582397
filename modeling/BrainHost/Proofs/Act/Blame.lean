import BrainHost.Exception
import BrainHost.Proofs.Act.Make
import BrainHost.Proofs.Act.Plain
import BrainHost.Proofs.Update.Phase

/-! # Who is to blame

An evaluation that fails blames its source or its run. It decides by what was thrown alone: an error under
the name of syntax errors blames the source, whoever threw it. -/

namespace BrainHost

variable {E : Engine} {K : HostKind} {α β : Type} {s : Surroundings E} {compiling running source : String}
  {c c' : E.Context} {link : Link E K} {w v : World E K}

/-- The run of a source throws. -/
def Throws (s : Surroundings E) (source : String) (c : E.Context) (link : Link E K) (w : World E K) : Prop :=
  ∃ thrown c' v, Act.carryOut s (E.evaluate false source c) link w = .done (c', .error thrown) v

/-- What was thrown is an error whose name reads as that of syntax errors. -/
def NamedSyntaxError (s : Surroundings E) (thrown : E.Value) (c : E.Context) (link : Link E K) (w : World E K) : Prop :=
  E.isError c thrown = true ∧
    ∃ name c' v, Act.carryOut s (E.property thrown "name" c) link w = .done (c', .ok name) v ∧
      E.text? name = some "SyntaxError"

/-- The run of a source throws an error whose name reads as that of syntax errors. -/
def ThrowsSyntaxError (s : Surroundings E) (source : String) (c : E.Context) (link : Link E K) (w : World E K) : Prop :=
  ∃ thrown c' v, Act.carryOut s (E.evaluate false source c) link w = .done (c', .error thrown) v ∧
    NamedSyntaxError s thrown c' link v

theorem ThrowsSyntaxError.throws (h : ThrowsSyntaxError s source c link w) : Throws s source c link w := by
  obtain ⟨thrown, c', v, threw, -⟩ := h
  exact ⟨thrown, c', v, threw⟩

/-- How an operation that evaluates a source first blames the source or its run. -/
structure Blames (s : Surroundings E) (compiling running source : String) (c : E.Context) (link : Link E K)
    (w : World E K) (o : Outcome (World E K) (Except Failure α)) : Prop where
  /-- A source with a NUL in it is not even run, and yet its run is blamed. -/
  nul : ∀ d, Diagnostic.ofNul? source = some d → ∃ v, o = .done (.error (.script (.exception running d))) v
  compilation : ∀ failure v, Diagnostic.ofNul? source = none → o = .done (.error failure) v →
    ((∃ d, failure = .script (.compilation compiling d)) ↔ ThrowsSyntaxError s source c link w)
  exception : ∀ failure v, Diagnostic.ofNul? source = none → o = .done (.error failure) v →
    ((∃ d, failure = .script (.exception running d)) ↔
      Throws s source c link w ∧ ¬ ThrowsSyntaxError s source c link w)

/-- A failure that blames neither a source nor its run. -/
def Failure.Neutral (failure : Failure) : Prop :=
  ∀ activity d, failure ≠ .script (.compilation activity d) ∧ failure ≠ .script (.exception activity d)

namespace Inside

/-- What is done about what the run of a source threw. -/
def blame (s : Surroundings E) (compiling running source : String) (thrown : E.Value) : Inside E K α := do
  let lookup (_ : Option String) : Option String := some source
  if ← isSyntaxError s thrown then failWith s .compilation compiling lookup thrown
  else failWith s .exception running lookup thrown

theorem bind_error {m : Inside E K α} {f : α → Inside E K β} {failure : Failure}
    (h : m.run c link w = .done (.error failure, c') v) : (m >>= f).run c link w = .done (.error failure, c') v := by
  rw [run_bind, Act.bind_apply, h]
  rfl

theorem evaluate_nul {d : Diagnostic} (text : Diagnostic.ofNul? source = some d) :
    (evaluate s compiling running source : Inside E K E.Value).run c link w =
      .done (.error (.script (.exception running d)), c) w := by
  unfold evaluate
  rw [text]
  rfl

theorem evaluate_run (text : Diagnostic.ofNul? source = none) :
    (evaluate s compiling running source : Inside E K E.Value).run c link w =
      (Act.carryOut s (E.evaluate false source c) link w).bind fun p v =>
        match p.2 with
        | .ok value => .done (.ok value, p.1) v
        | .error thrown => (blame s compiling running source thrown : Inside E K E.Value).run p.1 link v := by
  unfold evaluate
  rw [text]
  dsimp only
  rw [run_bind, Act.bind_apply, run_perform, Act.bind_apply, Outcome.bind_assoc]
  congr 1
  funext ⟨c', r⟩ v
  cases r <;> rfl

theorem evaluate_thrown {thrown : E.Value} (text : Diagnostic.ofNul? source = none)
    (ran : Act.carryOut s (E.evaluate false source c) link w = .done (c', .error thrown) v) :
    (evaluate s compiling running source : Inside E K E.Value).run c link w =
      (blame s compiling running source thrown : Inside E K E.Value).run c' link v := by
  rw [evaluate_run text, ran]
  rfl

theorem isSyntaxError_gives {thrown : E.Value} {named : Bool}
    (h : (isSyntaxError s thrown : Inside E K Bool).run c link w = .done (.ok named, c') v) :
    named = true ↔ NamedSyntaxError s thrown c link w := by
  unfold NamedSyntaxError
  obtain ⟨isError, c₁, w₁, hinspect, h⟩ := bind_ok h
  cases hinspect
  split at h
  · next isError =>
    obtain ⟨name?, c₂, w₂, hname, h⟩ := bind_ok h
    cases h
    obtain ⟨r, c₃, w₃, hread, h⟩ := bind_ok hname
    rw [perform_ok hread]
    cases r with
    | ok name =>
      cases h
      simp [isError]
    | error thrown' =>
      cases h
      simp
  · next noError =>
    cases h
    simp [noError]

theorem Infallible.isSyntaxError (thrown : E.Value) :
    Infallible (Inside.isSyntaxError s thrown : Inside E K Bool) := by
  refine (inspect _).bind fun isError => ?_
  split
  · exact (stringProperty s thrown "name").bind fun _ => pure _
  · exact pure _

theorem failWith_fails {failure : String → Diagnostic → ScriptFailure} {activity : String}
    {lookup : Option String → Option String} {thrown : E.Value} {r : Except Failure α}
    (h : (failWith s failure activity lookup thrown : Inside E K α).run c link w = .done (r, c') v) :
    ∃ d, r = .error (.script (failure activity d)) := by
  obtain ⟨d, c₁, w₁, -, h⟩ | ⟨failure', hdiagnose, -⟩ := run_bind_eq_done h
  · cases h
    exact ⟨d, rfl⟩
  · obtain ⟨d, hd⟩ := Infallible.diagnose _ _ _ _ _ _ _ _ hdiagnose
    cases hd

theorem blame_fails {thrown : E.Value} {r : Except Failure α}
    (h : (blame s compiling running source thrown : Inside E K α).run c link w = .done (r, c') v) : ∃ d,
      NamedSyntaxError s thrown c link w ∧ r = .error (.script (.compilation compiling d)) ∨
        ¬ NamedSyntaxError s thrown c link w ∧ r = .error (.script (.exception running d)) := by
  obtain ⟨named, c₁, w₁, hnamed, h⟩ | ⟨failure, hnamed, -⟩ := run_bind_eq_done h
  · have reads := isSyntaxError_gives hnamed
    split at h
    · next yes =>
      obtain ⟨d, failed⟩ := failWith_fails h
      exact ⟨d, .inl ⟨reads.mp yes, failed⟩⟩
    · next no =>
      obtain ⟨d, failed⟩ := failWith_fails h
      exact ⟨d, .inr ⟨fun named => no (reads.mpr named), failed⟩⟩
  · obtain ⟨named, hn⟩ := Infallible.isSyntaxError _ _ _ _ _ _ hnamed
    cases hn

theorem evaluate_ends (text : Diagnostic.ofNul? source = none) {r : Except Failure E.Value}
    (h : (evaluate s compiling running source : Inside E K E.Value).run c link w = .done (r, c') v) :
    (∃ value, r = .ok value) ∧ ¬ Throws s source c link w ∨ ∃ d,
      ThrowsSyntaxError s source c link w ∧ r = .error (.script (.compilation compiling d)) ∨
        Throws s source c link w ∧ ¬ ThrowsSyntaxError s source c link w ∧
          r = .error (.script (.exception running d)) := by
  rw [evaluate_run text, Outcome.bind_eq_done] at h
  obtain ⟨⟨c₁, result⟩, w₁, ran, h⟩ := h
  cases result with
  | ok value =>
    cases h
    refine .inl ⟨⟨value, rfl⟩, ?_⟩
    rintro ⟨thrown, c₂, w₂, threw⟩
    rw [ran] at threw
    cases threw
  | error thrown =>
    have once : ThrowsSyntaxError s source c link w ↔ NamedSyntaxError s thrown c₁ link w₁ := by
      constructor
      · rintro ⟨thrown', c₂, w₂, threw, named⟩
        rw [ran] at threw
        cases threw
        exact named
      · exact fun named => ⟨thrown, c₁, w₁, ran, named⟩
    obtain ⟨d, ⟨named, failed⟩ | ⟨unnamed, failed⟩⟩ := blame_fails h
    · exact .inr ⟨d, .inl ⟨once.mpr named, failed⟩⟩
    · exact .inr ⟨d, .inr ⟨⟨thrown, c₁, w₁, ran⟩, fun named => unnamed (once.mp named), failed⟩⟩

end Inside

/-! ## Operations that evaluate first -/

namespace Blames

open Inside

theorem evaluating {rest : E.Value → Inside E K α} (neutral : ∀ value, Fails Failure.Neutral (rest value))
    (give : E.Context → α → β) (settle : E.Context → World E K → World E K) :
    Blames s compiling running source c link w
      (((evaluate s compiling running source >>= rest : Inside E K α).run c link w).bind fun p v =>
        .done (p.1.map (give p.2)) (settle p.2 v)) := by
  have fails {failure : Failure} {v : World E K} (text : Diagnostic.ofNul? source = none)
      (h : (((evaluate s compiling running source >>= rest : Inside E K α).run c link w).bind fun p v =>
        .done (p.1.map (give p.2)) (settle p.2 v)) = .done (.error failure) v) :
      failure.Neutral ∧ ¬ Throws s source c link w ∨ ∃ d,
        ThrowsSyntaxError s source c link w ∧ failure = .script (.compilation compiling d) ∨
          Throws s source c link w ∧ ¬ ThrowsSyntaxError s source c link w ∧
            failure = .script (.exception running d) := by
    obtain ⟨⟨r, c₁⟩, w₁, ran, ended⟩ := Outcome.bind_eq_done.mp h
    have failed : r = .error failure := by
      cases r with
      | ok a => cases ended
      | error failure' => cases ended; rfl
    subst failed
    obtain ⟨value, c₂, w₂, evaluated, rested⟩ | ⟨failure', evaluated, same⟩ := run_bind_eq_done ran
    · obtain ⟨-, silent⟩ | ⟨d, ⟨-, e⟩ | ⟨-, -, e⟩⟩ := evaluate_ends text evaluated
      · exact .inl ⟨neutral value rested, silent⟩
      · cases e
      · cases e
    · cases same
      obtain ⟨⟨value, e⟩, -⟩ | ⟨d, ⟨threw, e⟩ | ⟨threw, unnamed, e⟩⟩ := evaluate_ends text evaluated
      · cases e
      · exact .inr ⟨d, .inl ⟨threw, Except.error.inj e⟩⟩
      · exact .inr ⟨d, .inr ⟨threw, unnamed, Except.error.inj e⟩⟩
  exact
    { nul := fun d text => by
        rw [bind_error (evaluate_nul text)]
        exact ⟨_, rfl⟩
      compilation := fun failure v text h => by
        obtain ⟨neutral, silent⟩ | ⟨d, ⟨named, rfl⟩ | ⟨-, unnamed, rfl⟩⟩ := fails text h
        · exact ⟨fun ⟨d, e⟩ => absurd e (neutral _ d).1, fun named => absurd named.throws silent⟩
        · exact ⟨fun _ => named, fun _ => ⟨d, rfl⟩⟩
        · exact ⟨nofun, fun named => absurd named unnamed⟩
      exception := fun failure v text h => by
        obtain ⟨neutral, silent⟩ | ⟨d, ⟨named, rfl⟩ | ⟨threw, unnamed, rfl⟩⟩ := fails text h
        · exact ⟨fun ⟨d, e⟩ => absurd e (neutral _ d).2, fun threw => absurd threw.1 silent⟩
        · exact ⟨nofun, fun threw => absurd named threw.2⟩
        · exact ⟨fun _ => ⟨threw, unnamed⟩, fun _ => ⟨d, rfl⟩⟩ }

end Blames

/-! ## Operations that change nothing -/

/-- An operation gives a value, and neither the context nor the host notices. -/
def Inside.Tells (m : Inside E K α) (c : E.Context) (a : α) : Prop :=
  ∀ link w, m.run c link w = .done (.ok a, c) w

namespace Inside.Tells

variable {a : α} {b : β}

theorem pure (a : α) : Tells (Pure.pure a : Inside E K α) c a := fun _ _ => rfl

theorem inspect (f : E.Context → α) : Tells (Inside.inspect f : Inside E K α) c (f c) := fun _ _ => rfl

theorem run_bind {m : Inside E K α} (hm : Tells m c a) (f : α → Inside E K β) :
    (m >>= f).run c link w = (f a).run c link w := by
  rw [Inside.run_bind, Act.bind_apply, hm link w]
  rfl

theorem bind {m : Inside E K α} {f : α → Inside E K β} (hm : Tells m c a) (hf : Tells (f a) c b) :
    Tells (m >>= f) c b := fun link w => (hm.run_bind f).trans (hf link w)

theorem perform {run : E.Context → Run E.Context E.Value (E.Context × α)} (h : run c = .done (c, a)) :
    Tells (Inside.perform s run : Inside E K α) c a := by
  intro link w
  rw [run_perform, h]
  rfl

variable {v read : E.Value} {name : String} (h : E.property v name c = .done (c, .ok read))
include h

theorem stringProperty : Tells (Inside.stringProperty s v name : Inside E K _) c (E.text? read) :=
  (perform h).bind (pure _)

theorem numberProperty : Tells (Inside.numberProperty s v name : Inside E K _) c ((E.integer? read).bind Int.toNat?) :=
  (perform h).bind (pure _)

theorem textProperty (there : E.isAbsent read = false) {text : Option String}
    (written : E.toText read c = .done (c, text)) : Tells (Inside.textProperty s v name : Inside E K _) c text := by
  refine (perform h).bind ?_
  dsimp only
  rw [there]
  exact perform written

omit h in
theorem blame {d : Diagnostic}
    (named : Tells (Inside.isSyntaxError s v : Inside E K Bool) c true)
    (told : Tells (Inside.diagnose s v fun _ => some source : Inside E K Diagnostic) c d) (link : Link E K)
    (w : World E K) : (Inside.blame s compiling running source v : Inside E K α).run c link w =
      .done (.error (.script (.compilation compiling d)), c) w := by
  unfold Inside.blame
  dsimp only
  rw [named.run_bind, if_pos rfl, Inside.failWith, told.run_bind]
  rfl

end Inside.Tells

end BrainHost
