import BrainHost.Proofs.Act.Plain
import BrainHost.Script.Engine

/-! # What actions give

A property of all that an action can give. A rest changes nothing; whatever else is asked for can be
answered in every way, and meanwhile everything can be changed. A finer property is one of all that an
action can end with while the host gives answers that fit. The machine keeps to both, so what a run of
an action ends with has the property. -/

namespace BrainHost.Script

variable {α β : Type}

namespace Res

/-- What an action gives, and the realm then, have a property, whatever is answered. -/
def Gives (P : α → Realm → Prop) : Res α → Prop
  | ok a r => P a r
  | thrown _ _ => True
  | left _ _ => True
  | ask query r resume =>
    (query = .rest → (resume (.value .undefined) r).Gives P)
      ∧ (query ≠ .rest → ∀ reply r, (resume reply r).Gives P)
  | stuck => True

theorem Gives.mono {P Q : α → Realm → Prop} {x : Res α} (h : x.Gives P) (imp : ∀ a r, P a r → Q a r) : x.Gives Q := by
  induction x with
  | ok a r => exact imp a r h
  | thrown v r => trivial
  | left v r => trivial
  | ask query r resume ih => exact ⟨fun rest => ih _ _ (h.1 rest), fun other reply r => ih _ _ (h.2 other reply r)⟩
  | stuck => trivial

theorem Gives.and {P Q : α → Realm → Prop} {x : Res α} (h : x.Gives P) (h' : x.Gives Q) :
    x.Gives fun a r => P a r ∧ Q a r := by
  induction x with
  | ok a r => exact ⟨h, h'⟩
  | thrown v r => trivial
  | left v r => trivial
  | ask query r resume ih =>
    exact ⟨fun rest => ih _ _ (h.1 rest) (h'.1 rest),
      fun other reply r => ih _ _ (h.2 other reply r) (h'.2 other reply r)⟩
  | stuck => trivial

theorem gives_true (x : Res α) : x.Gives fun _ _ => True := by
  induction x with
  | ask query r resume ih => exact ⟨fun _ => ih _ _, fun _ reply r => ih _ _⟩
  | _ => trivial

theorem gives_bind {P : β → Realm → Prop} {x : Res α} {f : α → Realm → Res β} :
    (x.bind f).Gives P ↔ x.Gives fun a r => (f a r).Gives P := by
  induction x with
  | ok a r => exact Iff.rfl
  | thrown v r => exact Iff.rfl
  | left v r => exact Iff.rfl
  | ask query r resume ih =>
    exact and_congr (imp_congr_right fun _ => ih _ _)
      (imp_congr_right fun _ => forall_congr' fun reply => forall_congr' fun r => ih _ _)
  | stuck => exact Iff.rfl

end Res

namespace Act

variable {r r' : Realm} {m : Act α} {f : α → Act β} {P : β → Realm → Prop}

theorem gives_bind : ((m >>= f) r).Gives P ↔ (m r).Gives fun a r => (f a r).Gives P := Res.gives_bind

theorem gives_of_all (h : ∀ a r, (f a r).Gives P) : ((m >>= f) r).Gives P :=
  gives_bind.mpr ((Res.gives_true _).mono fun a r _ => h a r)

/-- What one round comes to: a result with a property, or a state that keeps an invariant. -/
def Round {σ : Type} (I : σ → Realm → Prop) (P : α → Realm → Prop) : Except σ α → Realm → Prop
  | .ok a => P a
  | .error s => I s

theorem gives_forever {σ : Type} {body : σ → Act (Except σ α)} {I : σ → Realm → Prop} {P : α → Realm → Prop}
    (step : ∀ s r, I s r → (body s r).Gives (Round I P)) (rounds : Nat) {s : σ} (h : I s r) :
    (forever body rounds s r).Gives P := by
  induction rounds generalizing s r with
  | zero => trivial
  | succ rounds ih =>
    refine ⟨fun _ => ?_, fun other => absurd rfl other⟩
    change ((body s r).bind _).Gives P
    refine Res.gives_bind.mpr ((step s r h).mono fun result r hr => ?_)
    cases result with
    | ok a => exact hr
    | error s => exact ih hr

theorem gives_loop {σ : Type} {body : σ → Act (Except σ α)} {I : σ → Realm → Prop} {P : α → Realm → Prop}
    (step : ∀ s r, I s r → (body s r).Gives (Round I P)) {s : σ} (h : I s r) : (loop s body r).Gives P :=
  gives_forever step endless h

end Act

theorem Act.ext {m n : Act α} (h : ∀ r, m r = n r) : m = n := by
  obtain ⟨run, reaches⟩ := m
  obtain ⟨run', reaches'⟩ := n
  obtain rfl : run = run' := funext h
  rfl

theorem Act.pure_bind (a : α) (f : α → Act β) : pure a >>= f = f a := Act.ext fun _ => rfl

theorem Act.reaches_of_ok {m : Act α} {a : α} {r s : Realm} (h : m r = .ok a s) : r.Reaches s := by
  have reached := m.reaches r
  rwa [h] at reached

/-! ## What actions end with -/

/-- A rest changes nothing, and the host is asked while all else stands still. Scripts that are called
can do everything. -/
def Query.MayReply (fits : Fitting Value) (r : Realm) : Query → Reply → Realm → Prop
  | .rest, reply, r' => reply = .value .undefined ∧ r' = r
  | .host request, reply, r' => r' = r ∧ ∃ answer, reply = .answered answer ∧ fits request answer
  | _, _, _ => True

namespace Res

/-- What an action ends with, and the realm then, have a property, if the host's answers fit. -/
def Settles (fits : Fitting Value) (P : Except Value α → Realm → Prop) : Res α → Prop
  | ok a r => P (.ok a) r
  | thrown v r => P (.error v) r
  | left v r => P (.error v) r
  | ask query r resume => ∀ reply r', query.MayReply fits r reply r' → (resume reply r').Settles fits P
  | stuck => True

variable {fits : Fitting Value}

theorem Settles.bind {P : Except Value α → Realm → Prop} {Q : Except Value β → Realm → Prop} {x : Res α}
    {f : α → Realm → Res β} (h : x.Settles fits P) (hok : ∀ a r, P (.ok a) r → (f a r).Settles fits Q)
    (herror : ∀ v r, P (.error v) r → Q (.error v) r) : (x.bind f).Settles fits Q := by
  induction x with
  | ok a r => exact hok a r h
  | thrown v r => exact herror v r h
  | left v r => exact herror v r h
  | ask query r resume ih => exact fun reply r' hreply => ih reply r' (h reply r' hreply)
  | stuck => trivial

theorem settles_true (x : Res α) : x.Settles fits fun _ _ => True := by
  induction x with
  | ask query r resume ih => exact fun reply r' _ => ih reply r'
  | _ => trivial

theorem Gives.settles {P : α → Realm → Prop} {x : Res α} (h : x.Gives P) :
    x.Settles fits fun exit r => ∀ a, exit = .ok a → P a r := by
  induction x with
  | ok a r =>
    rintro _ ⟨⟩
    exact h
  | thrown v r => exact nofun
  | left v r => exact nofun
  | ask query r resume ih =>
    intro reply r' hreply
    by_cases hq : query = .rest
    · subst hq
      obtain ⟨rfl, rfl⟩ := hreply
      exact ih _ _ (h.1 rfl)
    · exact ih _ _ (h.2 hq reply r')
  | stuck => trivial

end Res

/-! ## The machine -/

variable {fits : Fitting Value} {P : Except Value α → Realm → Prop}

/-- The code that everything began with ends with something that has a property. -/
def Waiting.Settles (fits : Fitting Value) (P : Except Value α → Realm → Prop) : Waiting α → Prop
  | .base frame => ∀ reply r, (frame.resume reply r).Settles fits P
  | .callee _ _ rest => rest.Settles fits P

def Running.Settles (fits : Fitting Value) (P : Except Value α → Realm → Prop) : Running α → Prop
  | .main res _ => res.Settles fits P
  | .callee _ _ waiting => waiting.Settles fits P

theorem Waiting.Settles.answer {w : Waiting α} (h : w.Settles fits P) (reply : Reply) (r : Realm) :
    (w.answer reply r).Settles fits P := by
  cases w with
  | base frame => exact h reply _
  | callee frame depth rest => exact h

namespace Machine

/-- What a run returns has the property that the action gives. -/
def Returns (P : α → Realm → Prop) (p : Context × Except Value α) : Prop := ∀ a, p.2 = .ok a → P a p.1.realm

/-- Runs that end with a property, if the host's answers fit. -/
abbrev Settling (fits : Fitting Value) (P : Except Value α → Realm → Prop) :
    Run Context Value (Context × Except Value α) → Prop := Run.Settles fits fun p => P p.2 p.1.realm

variable {I : Running α → Prop} {R : Run Context Value (Context × Except Value α) → Prop}

/-- A turn ends or asks as runs of some kind do, as long as the running code that it goes on with leads to such
runs. -/
def Turn.Steps (I : Running α → Prop) (R : Run Context Value (Context × Except Value α) → Prop) : Turn α → Prop
  | .ended result => R (.done result)
  | .running _ state => I state
  | .asks request _ meanwhile resume =>
    ∀ go, (∀ answer, I (resume answer) → R (go answer)) → R (.ask request meanwhile go)
  | .stuck => True

/-- What each turn keeps, a run keeps to its end. -/
theorem run_steps (stuck : R .stuck) (step : ∀ threads {state}, I state → (turn threads state).Steps I R) (n : Nat)
    (threads : Array Thread) {state : Running α} (h : I state) : R (run n threads state) := by
  induction n generalizing threads state with
  | zero => exact stuck
  | succ n ih =>
    have steps := step threads h
    rw [run]
    cases hturn : turn threads state with
    | ended result =>
      rw [hturn] at steps
      exact steps
    | running threads state =>
      rw [hturn] at steps
      exact ih threads steps
    | asks request threads meanwhile resume =>
      rw [hturn] at steps
      exact steps _ fun answer => ih threads
    | stuck => exact stuck

theorem start_eq (r : Realm) (e : Entering) (w : Waiting α) : ∃ m r', start r e w = .call m r' w ∧ r.Reaches r' := by
  unfold start
  split
  · exact ⟨_, _, rfl, .refl r⟩
  · split
    · exact ⟨_, _, rfl, .of_still (.of_objects rfl rfl)⟩
    · exact ⟨_, _, rfl, .refl r⟩

theorem serve_steps {wait : Option Nat → Waiting α} {threads : Array Thread} {r : Realm}
    (started : ∀ t m r', r.Reaches r' → I (.call m r' (wait t)))
    (answered : ∀ t reply, I ((wait t).answer reply r))
    (asked : ∀ request go, (∀ answer, R (go answer)) → R (.ask request (abandoned threads r) go)) (query : Query) :
    (serve threads r wait query).Steps I R := by
  have starts (e : Entering) (t : Option Nat) : I (start r e (wait t)) := by
    obtain ⟨m, r', heq, reached⟩ := start_eq r e (wait t)
    rw [heq]
    exact started t m r' reached
  unfold serve
  split
  · exact starts _ _
  · exact starts _ _
  · exact answered _ _
  · split
    · exact starts _ _
    · trivial
  · exact fun go goes => asked _ go fun answer => goes answer (answered _ _)
  · trivial

theorem suspending?_eq {w : Waiting α} {threads threads' : Array Thread} {r : Realm}
    {resume : Continuation Value} {query : Query} {state : Running α}
    (hs : suspending? threads r resume w query = some (threads', state)) :
    ∃ reply r', state = w.answer reply r' ∧ r.Reaches r' := by
  unfold suspending? at hs
  split at hs
  · dsimp only at hs
    split at hs
    · next hset =>
      injection hs with hs
      injection hs with _ hs
      exact ⟨_, _, hs.symm, Act.reaches_of_ok hset⟩
    · cases hs
  · injection hs with hs
    injection hs with _ hs
    exact ⟨_, _, hs.symm, .refl r⟩
  · dsimp only at hs
    split at hs
    · next hfollow =>
      injection hs with hs
      injection hs with _ hs
      exact ⟨_, _, hs.symm, Act.reaches_of_ok hfollow⟩
    · cases hs
  · cases hs

theorem serve_settles {wait : Option Nat → Waiting α} (h : ∀ t, (wait t).Settles fits P) (threads : Array Thread)
    (r : Realm) (query : Query) :
    (serve threads r wait query).Steps (Running.Settles fits P) (Settling fits P) :=
  serve_steps (fun t _ _ _ => h t) (fun t _ => (h t).answer _ _) (fun _ _ goes answer _ => goes answer) query

theorem serve_main_settles (resume : Continuation α) {query : Query} {r : Realm}
    (h : (Res.ask query r fun reply => resume reply).Settles fits P) (threads : Array Thread) :
    (serve threads r (fun t => .base ⟨resume, r.calls, t⟩) query).Steps (Running.Settles fits P)
      (Settling fits P) := by
  -- Scripts that are called reply anything, in any realm.
  have anyway (hquery : ∀ reply r', query.MayReply fits r reply r') (t : Option Nat) :
      Waiting.Settles fits P (.base ⟨resume, r.calls, t⟩) := fun reply r' => h reply r' (hquery reply r')
  cases query with
  | rest => exact h _ _ ⟨rfl, rfl⟩
  | host request => exact fun go goes answer hfits => goes answer (h _ _ ⟨rfl, answer, rfl, hfits⟩)
  | call f this args => exact serve_settles (anyway fun _ _ => trivial) threads r _
  | construct f args newTarget => exact serve_settles (anyway fun _ _ => trivial) threads r _
  | resume thread how v => exact serve_settles (anyway fun _ _ => trivial) threads r _
  | begin => trivial
  | await promise => trivial
  | yield v => trivial

theorem turn_settles (threads : Array Thread) {state : Running α} (h : state.Settles fits P) :
    (turn threads state).Steps (Running.Settles fits P) (Settling fits P) := by
  cases state with
  | main res sound =>
    cases res with
    | ok a r => exact h
    | thrown v r => exact h
    | left v r => exact h
    | ask query r resume => exact serve_main_settles (fun reply => ⟨resume reply, sound reply⟩) h threads
    | stuck => trivial
  | callee res sound w =>
    -- A callee may throw: that is a reply to the code that waits for it.
    cases res with
    | ok v r => exact h.answer _ _
    | thrown v r => exact h.answer _ _
    | left v r => exact h.answer _ _
    | stuck => trivial
    | ask query r resume =>
      rw [turn]
      split
      · next threads' state hs =>
        obtain ⟨reply, r', rfl, -⟩ := suspending?_eq hs
        exact h.answer reply r'
      · have waits (t : Option Nat) : Waiting.Settles fits P
            (.callee ⟨fun reply => ⟨resume reply, sound reply⟩, r.calls, t⟩ (w.depth + 1) w) := h
        exact serve_settles waits threads r query

end Machine

theorem Running.enter_eq {m : Act α} {r : Realm} {x : Res α} (h : m r = x) :
    Running.enter m r = .main x (h ▸ m.sound r) := by
  subst h
  rfl

theorem exists_endless : ∃ n, Act.endless = n + 1 := ⟨Act.endless - 1, by decide⟩

theorem Context.run_ok {c : Context} {m : Act α} {a : α} {r : Realm} (h : m c.realm = .ok a r) :
    c.run m = .done (⟨r, c.threads⟩, .ok a) := by
  obtain ⟨n, hn⟩ := exists_endless
  unfold Context.run
  rw [hn, Running.enter_eq h, Machine.run, Machine.turn]

theorem Context.run_thrown {c : Context} {m : Act α} {v : Value} {r : Realm} (h : m c.realm = .thrown v r) :
    c.run m = .done (⟨r, c.threads⟩, .error v) := by
  obtain ⟨n, hn⟩ := exists_endless
  unfold Context.run
  rw [hn, Running.enter_eq h, Machine.run, Machine.turn]

theorem Context.run_settles (c : Context) {m : Act α} (h : (m c.realm).Settles fits P) :
    (c.run m).Settles fits fun p => P p.2 p.1.realm := by
  have settles : (Running.enter m c.realm).Settles fits P := h
  exact Machine.run_steps trivial Machine.turn_settles _ _ settles

theorem Context.run_ends {P : α → Realm → Prop} (c : Context) {m : Act α} (h : (m c.realm).Gives P) :
    (c.run m).Ends (Machine.Returns P) := Run.settles_iff_ends.mp (c.run_settles h.settles)

theorem Context.runAlone_done {c : Context} {m : Act α} {result : Context × Except Value α}
    (h : c.run m = .done result) : c.runAlone m = result := by
  unfold Context.runAlone
  rw [h]

end BrainHost.Script
