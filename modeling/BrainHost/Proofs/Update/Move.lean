import BrainHost.Proofs.Act.Basic

/-! # Moves

An operation inside a context is a sequence of moves: each has the engine do one thing, with
something that comes of it. A course says which moves an operation makes and what it gives then. -/

namespace BrainHost

/-- One thing that is done with a context, and what came of it. -/
inductive Move (E : Engine)
  | attach (bytes : ByteArray) (view : E.Value)
  | parse (text : String) (result : Except E.Value E.Value)
  | call (f : E.Value) (args : List E.Value) (result : Except E.Value Unit)
  | look (pending : Bool)
  | job (result : Except E.Value Unit)
  | write (v : E.Value) (result : Except E.Value (Option String))
  | diagnose (thrown : E.Value) (diagnostic : Diagnostic)
  | headline (thrown : E.Value) (reason : String)
  | detach (view : E.Value) (bytes : ByteArray)

/-- A context and the state around it. -/
abbrev Scene (E : Engine) (K : HostKind) := E.Context × World E K

variable {E : Engine} {K : HostKind} {α β : Type}

/-- A move leads from one scene to another. The scripts that run in it reach the host by a link. -/
def Move.Leads (b : Brain E) (link : Link E K) (p q : Scene E K) : Move E → Prop
  | attach bytes view => E.attach bytes p.1 = (q.1, view) ∧ q.2 = p.2
  | parse text result => E.parseJson text p.1 = (q.1, result) ∧ q.2 = p.2
  | call f args result => Act.carryOut b.surroundings (E.call f args p.1) link p.2 =
      .done (q.1, result) q.2
  | look pending => E.jobPending p.1 = pending ∧ q = p
  | job result => Act.carryOut b.surroundings (E.runJob p.1) link p.2 = .done (q.1, result) q.2
  | write v result => Act.carryOut b.surroundings (E.stringify v p.1) link p.2 =
      .done (q.1, result) q.2
  | diagnose thrown d =>
    (Inside.diagnose b.surroundings thrown b.sourceOf).run p.1 link p.2 = .done (.ok d, q.1) q.2
  | headline thrown reason => Act.carryOut b.surroundings (E.headline thrown p.1) link p.2 =
      .done (q.1, reason) q.2
  | detach view bytes => E.detach view p.1 = (q.1, bytes) ∧ q.2 = p.2

def Path (b : Brain E) (link : Link E K) : List (Move E) → Scene E K → Scene E K → Prop
  | [], p, q => q = p
  | move :: moves, p, q => ∃ x, move.Leads b link p x ∧ Path b link moves x q

theorem Path.append {b : Brain E} {link : Link E K} {first second : List (Move E)}
    {p q : Scene E K} :
    Path b link (first ++ second) p q ↔ ∃ x, Path b link first p x ∧ Path b link second x q := by
  induction first generalizing p with
  | nil => simp [Path]
  | cons move moves ih =>
    simp only [List.cons_append, Path, ih]
    constructor
    · rintro ⟨x, hx, y, hy, hq⟩
      exact ⟨y, ⟨x, hx, hy⟩, hq⟩
    · rintro ⟨y, ⟨x, hx, hy⟩, hq⟩
      exact ⟨x, hx, y, hy, hq⟩

theorem Path.single {b : Brain E} {link : Link E K} {move : Move E} {p q : Scene E K} :
    Path b link [move] p q ↔ move.Leads b link p q := by
  simp [Path]

/-! ## Courses -/

/-- The moves that an operation may make, and what it gives with them. -/
abbrev Course (E : Engine) (α : Type) := List (Move E) → Except Failure α → Prop

namespace Course

def still (r : Except Failure α) : Course E α := fun moves r' => moves = [] ∧ r' = r

/-- One move that tells the result. -/
def one (move : α → Move E) : Course E α := fun moves r => ∃ a, moves = [move a] ∧ r = .ok a

/-- One course and then another, unless the first one fails. -/
def andThen (first : Course E α) (second : α → Course E β) : Course E β := fun moves r =>
  (∃ failure, first moves (.error failure) ∧ r = .error failure) ∨
    ∃ a before after, first before (.ok a) ∧ second a after r ∧ moves = before ++ after

theorem one_andThen {move : α → Move E} {second : α → Course E β} {moves : List (Move E)}
    {r : Except Failure β} :
    (one move).andThen second moves r ↔ ∃ a after, moves = move a :: after ∧ second a after r := by
  constructor
  · rintro (⟨failure, ⟨a, -, ha⟩, -⟩ | ⟨a, before, after, ⟨a', rfl, ha⟩, hsecond, rfl⟩)
    · cases ha
    · cases ha
      exact ⟨a, after, rfl, hsecond⟩
  · rintro ⟨a, after, rfl, hsecond⟩
    exact .inr ⟨a, [move a], after, ⟨a, rfl, rfl⟩, hsecond, rfl⟩

end Course

namespace Inside

variable {b : Brain E} {link : Link E K}

/-- An operation goes by a course: that is how it ends, where it ends. -/
def Goes (b : Brain E) (link : Link E K) (m : Inside E K α) (course : Course E α) : Prop :=
  ∀ p q r, m.run p.1 link p.2 = .done (r, q.1) q.2 ↔ ∃ moves, course moves r ∧ Path b link moves p q

namespace Goes

theorem congr {m : Inside E K α} {course course' : Course E α} (h : Goes b link m course)
    (hiff : ∀ moves r, course moves r ↔ course' moves r) : Goes b link m course' := by
  intro p q r
  simp only [h p q r, hiff]

theorem still {m : Inside E K α} {r : Except Failure α}
    (h : ∀ c w, m.run c link w = .done (r, c) w) :
    Goes b link m (.still r) := by
  rintro ⟨c, w⟩ ⟨c', w'⟩ r'
  rw [h c w]
  constructor
  · intro heq
    cases heq
    exact ⟨[], ⟨rfl, rfl⟩, rfl⟩
  · rintro ⟨_, ⟨rfl, rfl⟩, hpath⟩
    cases hpath
    rfl

theorem pure (a : α) : Goes b link (Pure.pure a : Inside E K α) (.still (.ok a)) :=
  still fun _ _ => rfl

theorem throw (failure : Failure) :
    Goes b link (throw failure : Inside E K α) (.still (.error failure)) :=
  still fun _ _ => rfl

theorem one {m : Inside E K α} {move : α → Move E}
    (h : ∀ p q r, m.run p.1 link p.2 = .done (r, q.1) q.2 ↔ ∃ a, r = .ok a ∧ (move a).Leads b link p q) :
    Goes b link m (.one move) := by
  intro p q r
  rw [h p q r]
  constructor
  · rintro ⟨a, rfl, hlead⟩
    exact ⟨[move a], ⟨a, rfl, rfl⟩, Path.single.mpr hlead⟩
  · rintro ⟨_, ⟨a, rfl, rfl⟩, hpath⟩
    exact ⟨a, rfl, Path.single.mp hpath⟩

theorem perform {run : E.Context → Run E.Context E.Value (E.Context × α)} {move : α → Move E}
    (h : ∀ p q a, (move a).Leads b link p q ↔
      Act.carryOut b.surroundings (run p.1) link p.2 = .done (q.1, a) q.2) :
    Goes b link (Inside.perform b.surroundings run) (.one move) := by
  refine one fun p q r => ?_
  rw [run_perform, Act.bind_apply, Outcome.bind_eq_done]
  constructor
  · rintro ⟨⟨c, a⟩, w, hrun, heq⟩
    cases heq
    exact ⟨a, rfl, (h p q a).mpr hrun⟩
  · rintro ⟨a, rfl, hlead⟩
    exact ⟨(q.1, a), q.2, (h p q a).mp hlead, rfl⟩

theorem change {f : E.Context → E.Context × α} {move : α → Move E}
    (h : ∀ p q a, (move a).Leads b link p q ↔ f p.1 = (q.1, a) ∧ q.2 = p.2) :
    Goes b link (Inside.change f : Inside E K α) (.one move) := by
  refine one fun p q r => ?_
  change Outcome.done (Except.ok (f p.1).2, (f p.1).1) p.2 = _ ↔ _
  constructor
  · intro heq
    simp only [Outcome.done.injEq, Prod.mk.injEq] at heq
    obtain ⟨⟨rfl, hc⟩, hw⟩ := heq
    exact ⟨(f p.1).2, rfl, (h p q _).mpr ⟨Prod.ext hc rfl, hw.symm⟩⟩
  · rintro ⟨a, rfl, hlead⟩
    obtain ⟨hf, hw⟩ := (h p q a).mp hlead
    rw [hf, hw]

theorem bind {m : Inside E K α} {f : α → Inside E K β} {first : Course E α}
    {second : α → Course E β} (hm : Goes b link m first) (hf : ∀ a, Goes b link (f a) (second a)) :
    Goes b link (m >>= f) (first.andThen second) := by
  intro p q r
  rw [run_bind, Act.bind_apply, Outcome.bind_eq_done]
  constructor
  · rintro ⟨⟨r', c⟩, w, hrun, hrest⟩
    obtain ⟨before, hbefore, hpath⟩ := (hm p (c, w) r').mp hrun
    -- A first operation that fails is the whole of it, and the second one makes no move.
    cases r' with
    | ok a =>
      obtain ⟨after, hafter, hpath'⟩ := (hf a (c, w) q r).mp hrest
      exact ⟨before ++ after, .inr ⟨a, before, after, hbefore, hafter, rfl⟩,
        Path.append.mpr ⟨(c, w), hpath, hpath'⟩⟩
    | error failure =>
      cases hrest
      exact ⟨before, .inl ⟨failure, hbefore, rfl⟩, hpath⟩
  · rintro ⟨moves, ⟨failure, hfirst, rfl⟩ | ⟨a, before, after, hbefore, hafter, rfl⟩, hpath⟩
    · exact ⟨(.error failure, q.1), q.2, (hm p q _).mpr ⟨moves, hfirst, hpath⟩, rfl⟩
    · obtain ⟨x, hx, hq⟩ := Path.append.mp hpath
      exact ⟨(.ok a, x.1), x.2, (hm p x _).mpr ⟨before, hbefore, hx⟩,
        (hf a x q r).mpr ⟨after, hafter, hq⟩⟩

theorem starts {m : Inside E K α} {f : α → Inside E K β} {move : α → Move E} {course : Course E β}
    (hm : Goes b link m (.one move))
    (hf : ∀ a, Goes b link (f a) fun after r => course (move a :: after) r)
    (hstart : ∀ moves r, course moves r → ∃ a after, moves = move a :: after) :
    Goes b link (m >>= f) course := by
  refine (hm.bind hf).congr fun moves r => Course.one_andThen.trans ⟨?_, fun h => ?_⟩
  · rintro ⟨a, after, rfl, h⟩
    exact h
  · obtain ⟨a, after, rfl⟩ := hstart moves r h
    exact ⟨a, after, rfl, h⟩

end Goes

end Inside

end BrainHost
