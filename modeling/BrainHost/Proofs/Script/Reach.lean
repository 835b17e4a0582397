import BrainHost.Proofs.Script.Gives

/-! # Where scripts lead

However a script is run, jobs only come to those that wait, and host memory that is lent changes by what is
written to it. This is so wherever it asks something of the host, and where it ends. -/

namespace BrainHost.Script

variable {α : Type} {r₀ r : Realm}

/-! ## The machine -/

/-- The running code was reached from a realm. What code that waits goes on with is reached from where it goes on. -/
def Running.From (r₀ : Realm) : Running α → Prop
  | .main res _ => res.From r₀
  | .callee res _ _ => res.From r₀

theorem Running.From.call (h : r₀.Reaches r) (m : Act Value) (w : Waiting α) : (Running.call m r w).From r₀ :=
  .trans h (m.reaches r)

theorem Waiting.answer_from (w : Waiting α) (reply : Reply) (h : r₀.Reaches r) : (w.answer reply r).From r₀ := by
  have left (calls : List Call) : r.Reaches { r with calls } := .of_still (.of_objects rfl rfl)
  cases w with
  | base f => exact .trans (h.trans (left f.calls)) ((f.resume reply).reaches _)
  | callee f depth rest => exact .trans (h.trans (left f.calls)) ((f.resume reply).reaches _)

namespace Machine

/-- Runs in which the realm is always one that is reached. -/
abbrev Reaching (r₀ : Realm) : Run Context Value (Context × Except Value α) → Prop :=
  Run.Shows fun c => r₀.Reaches c.realm

theorem serve_from (h : r₀.Reaches r) (wait : Option Nat → Waiting α) (threads : Array Thread) (query : Query) :
    (serve threads r wait query).Steps (Running.From r₀) (Reaching r₀) :=
  serve_steps (fun t m _ reached => .call (h.trans reached) m (wait t)) (fun t reply => (wait t).answer_from reply h)
    (fun _ _ goes => ⟨h.trans (.of_still (.of_objects rfl rfl)), goes⟩) query

theorem turn_from (threads : Array Thread) {state : Running α} (h : state.From r₀) :
    (turn threads state).Steps (Running.From r₀) (Reaching r₀) := by
  cases state with
  | main res sound =>
    cases res with
    | ok a r => exact h
    | thrown v r => exact h
    | left v r => exact h
    | ask query r resume => exact serve_from h.1 (fun _ => .base _) threads query
    | stuck => trivial
  | callee res sound w =>
    cases res with
    | ok v r => exact w.answer_from _ h
    | thrown v r => exact w.answer_from _ h
    | left v r => exact w.answer_from _ h
    | ask query r resume =>
      rw [turn]
      split
      · next threads' state hs =>
        obtain ⟨reply, r', rfl, reached⟩ := suspending?_eq hs
        exact w.answer_from reply (h.1.trans reached)
      · exact serve_from h.1 _ threads query
    | stuck => trivial

end Machine

namespace Context

theorem run_reaches (c : Context) (m : Act α) : (c.run m).Shows fun c' => c.realm.Reaches c'.realm :=
  Machine.run_steps trivial Machine.turn_from _ _ (m.reaches c.realm)

theorem runTotal_reaches (c : Context) (fallback : α) (m : Act α) :
    (c.runTotal fallback m).Shows fun c' => c.realm.Reaches c'.realm := by
  refine (c.run_reaches m).bind fun p reached => ?_
  obtain ⟨c', result⟩ := p
  cases result <;> exact reached

end Context

/-! ## The engine -/

theorem operates_shows {jobs : Prop} {R : Context → Context → Prop}
    (reached : ∀ {c c' : Context}, c.realm.Reaches c'.realm → R c c') (job : jobs → ∀ c, (engine.runJob c).Shows (R c))
    {run : engine.Context → Run engine.Context engine.Value (engine.Context × α)} (h : engine.Operates jobs run)
    (c : Context) : (run c).Shows (R c) := by
  have ran {β : Type} (m : Act β) : (c.run m).Shows (R c) := (c.run_reaches m).mono fun _ => reached
  cases h with
  | call f args => exact ran (Act.call f .undefined args.toArray >>= fun _ => pure ())
  | start m => exact ran (Act.call (.object (Compiled.main m)) .undefined #[])
  | headline v => exact (c.runTotal_reaches _ _).mono fun _ => reached
  | toText v => exact (c.runTotal_reaches _ _).mono fun _ => reached
  | namespaceOf m => exact reached (.refl c.realm)
  | job h => exact job h c
  | _ => exact ran _

theorem isUndefined_ofJson (r : Realm) (j : Json) : (r.ofJson j).1.isUndefined = false := by
  cases j <;> rw [Realm.ofJson] <;> rfl

theorem readJson_still (s : Str) (r : Realm) :
    ∃ r', r.Still r' ∧
      ((∃ v, readJson s r = .ok v r' ∧ v.isUndefined = false) ∨ ∃ e, readJson s r = .thrown e r') := by
  unfold readJson
  dsimp only
  cases Json.ofUnits? s.units.toList with
  | ok j => exact ⟨_, r.ofJson_still j, .inl ⟨_, rfl, isUndefined_ofJson r j⟩⟩
  | error fault =>
    obtain ⟨fault, rest⟩ := fault
    cases fault with
    | tooDeep => exact ⟨_, r.newError_still _ _, .inr ⟨_, rfl⟩⟩
    | _ => exact ⟨_, .allocate r rfl, .inr ⟨_, rfl⟩⟩

/-- To read JSON no script is run. -/
theorem parseJson_still (text : String) (c : Context) : c.realm.Still (engine.parseJson text c).1.realm := by
  obtain ⟨r', still, ⟨v, read, -⟩ | ⟨e, read⟩⟩ := readJson_still (.ofString text) c.realm
  · have same : engine.parseJson text c = (⟨r', c.threads⟩, .ok v) := Context.runAlone_done (Context.run_ok read)
    rw [same]
    exact still
  · have same : engine.parseJson text c = (⟨r', c.threads⟩, .error e) :=
      Context.runAlone_done (Context.run_thrown read)
    rw [same]
    exact still

theorem detachBuffer_jobs (v : Value) (r : Realm) : (detachBuffer v r).2.jobs = r.jobs := by
  unfold detachBuffer
  split
  · split <;> rfl
  · rfl

theorem runJob_reaches {c : Context} {job : Job} {rest : List Job} (waiting : c.realm.jobs = job :: rest) :
    (engine.runJob c).Shows fun c' => Realm.Reaches { c.realm with jobs := rest } c'.realm := by
  change c.runJob.Shows _
  unfold Context.runJob
  rw [waiting]
  exact Context.run_reaches ⟨{ c.realm with jobs := rest }, c.threads⟩ job.perform

theorem runJob_idle {c : Context} (idle : c.realm.jobs = []) : engine.runJob c = .done (c, .ok ()) := by
  change c.runJob = _
  unfold Context.runJob
  rw [idle]
  rfl

end BrainHost.Script
