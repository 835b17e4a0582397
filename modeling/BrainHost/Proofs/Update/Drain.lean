import BrainHost.Proofs.Update.Queue
import Mathlib.Data.ENat.Basic

/-! # Drains under a limit

Every job may leave more jobs, so that scripts say how long a drain without a limit goes on. Under a
limit a drain is the beginning of that one, and what it does not get to is left for the next drain. -/

namespace BrainHost

variable {E : Engine} {K : HostKind} {b : Brain E} {link : Link E K} {p q r : Scene E K}

/-- A brain with another limit for its jobs. -/
def Brain.under (b : Brain E) (limit : Option Nat) : Brain E := { b with maxPendingJobs := limit }

/-- The first `n` jobs lead to a scene where no job waits: that is how many there are to do. -/
def Exhausts (b : Brain E) (link : Link E K) (n : Nat) (p q : Scene E K) : Prop :=
  Path b link (jobs n) p q ∧ E.jobPending q.1 = false

/-- The first `n` jobs lead to a scene where another one waits: there are more to do. -/
def Outlasts (b : Brain E) (link : Link E K) (n : Nat) (p q : Scene E K) : Prop :=
  Path b link (jobs n) p q ∧ E.jobPending q.1 = true

/-- After the first `n` jobs another one waits, and throws. No drain goes on after that. -/
def Breaks (b : Brain E) (link : Link E K) (n : Nat) (thrown : E.Value) (reason : String) (p q : Scene E K) :
    Prop := Path b link (jobs n ++ failingJob thrown reason) p q

/-- How many jobs there are to do, with those that jobs leave, up to one that throws. -/
inductive Amounts (b : Brain E) (link : Link E K) (p : Scene E K) : ℕ∞ → Prop
  | finite {n : Nat} {q : Scene E K} (h : Exhausts b link n p q) : Amounts b link p n
  | broken {n : Nat} {thrown : E.Value} {reason : String} {q : Scene E K} (h : Breaks b link n thrown reason p q) :
    Amounts b link p (n + 1 : Nat)
  | endless (h : ∀ n, ∃ q, Outlasts b link n p q) : Amounts b link p ⊤

/-! ## Jobs in a row -/

theorem jobs_add (m n : Nat) : (jobs (m + n) : List (Move E)) = jobs m ++ jobs n := by
  unfold jobs
  rw [← List.replicate_append_replicate, List.flatten_append]

theorem Path.jobs_succ {n : Nat} {rest : List (Move E)} :
    Path b link (jobs (n + 1) ++ rest) p q ↔
      E.jobPending p.1 = true ∧ ∃ x, (Move.job (.ok ())).Leads b link p x ∧ Path b link (jobs n ++ rest) x q := by
  constructor
  · rintro ⟨_, ⟨hpending, rfl⟩, hrest⟩
    exact ⟨hpending, hrest⟩
  · rintro ⟨hpending, hrest⟩
    exact ⟨p, ⟨hpending, rfl⟩, hrest⟩

theorem Path.jobs_nil {n : Nat} : Path b link (jobs n ++ []) p q ↔ Path b link (jobs n) p q := by
  rw [List.append_nil]

theorem Path.under {limit : Option Nat} {n : Nat} {rest : List (Move E)}
    (hrest : ∀ x, Path (b.under limit) link rest x q ↔ Path b link rest x q) :
    Path (b.under limit) link (jobs n ++ rest) p q ↔ Path b link (jobs n ++ rest) p q := by
  induction n generalizing p with
  | zero => exact hrest p
  | succ n ih =>
    rw [Path.jobs_succ, Path.jobs_succ]
    apply and_congr_right
    intro _
    apply exists_congr
    intro x
    exact and_congr Iff.rfl ih

theorem Path.outlasts {m n : Nat} {rest : List (Move E)} (h : Path b link (jobs n ++ rest) p q) (hlt : m < n) :
    ∃ x, Outlasts b link m p x := by
  obtain ⟨k, rfl⟩ := Nat.exists_eq_add_of_lt hlt
  rw [Nat.add_assoc, jobs_add, List.append_assoc, Path.append] at h
  obtain ⟨x, hfirst, hrest⟩ := h
  exact ⟨x, hfirst, (Path.jobs_succ.mp hrest).1⟩

theorem Breaks.outlasts {n : Nat} {thrown : E.Value} {reason : String} (h : Breaks b link n thrown reason p q) :
    ∃ x, Outlasts b link n p x := by
  obtain ⟨x, hjobs, y, ⟨hpending, -⟩, -⟩ := Path.append.mp h
  exact ⟨x, hjobs, hpending⟩

theorem Amounts.outlasts {m : Nat} {N : ℕ∞} (h : Amounts b link p N) (hlt : m < N) :
    ∃ q, Outlasts b link m p q := by
  cases h with
  | finite h => exact (Path.jobs_nil.mpr h.1).outlasts (Nat.cast_lt.mp hlt)
  | broken h =>
    obtain hlt | rfl := Nat.lt_succ_iff_lt_or_eq.mp (Nat.cast_lt.mp hlt)
    · exact Path.outlasts h hlt
    · exact h.outlasts
  | endless h => exact h m

/-! ## Drains -/

/-- How a drain goes on that has done `before` jobs and may do `left` more. It has no result where one of
the jobs has none. -/
inductive DrainEnds (b : Brain E) (link : Link E K) (before left : Nat) (p : Scene E K) :
    Outcome (World E K) (Except Failure Nat × E.Context) → Prop
  | emptied {n : Nat} {q : Scene E K} (hn : n ≤ left) (h : Exhausts b link n p q) :
    DrainEnds b link before left p (.done (.ok (n + before), q.1) q.2)
  | limited {q : Scene E K} (h : Outlasts b link left p q) :
    DrainEnds b link before left p
      (.done (.error (.script (.pendingJobLimit (left + before))), q.1) q.2)
  | failed {n : Nat} {thrown : E.Value} {reason : String} {q : Scene E K} (hn : n < left)
    (h : Breaks b link n thrown reason p q) :
    DrainEnds b link before left p (.done (.error (jobFailure reason), q.1) q.2)
  | faulted {n : Nat} {q : Scene E K} {w : World E K} (hn : n < left) (h : Outlasts b link n p q)
    (hjob : (Brain.doJob b.surroundings).run q.1 link q.2 = .fault w) :
    DrainEnds b link before left p (.fault w)
  | hung {n : Nat} {q : Scene E K} (hn : n < left) (h : Outlasts b link n p q)
    (hjob : (Brain.doJob b.surroundings).run q.1 link q.2 = .stuck) :
    DrainEnds b link before left p .stuck

theorem DrainEnds.job {before left : Nat} {o : Outcome (World E K) (Except Failure Nat × E.Context)}
    (hpending : E.jobPending p.1 = true) (hjob : (Move.job (.ok ())).Leads b link p q)
    (h : DrainEnds b link (before + 1) left q o) : DrainEnds b link before (left + 1) p o := by
  have first {n : Nat} {x : Scene E K} {rest : List (Move E)} (hpath : Path b link (jobs n ++ rest) q x) :
      Path b link (jobs (n + 1) ++ rest) p x := Path.jobs_succ.mpr ⟨hpending, q, hjob, hpath⟩
  have outlasts {n : Nat} {x : Scene E K} (h : Outlasts b link n q x) : Outlasts b link (n + 1) p x :=
    ⟨Path.jobs_nil.mp (first (Path.jobs_nil.mpr h.1)), h.2⟩
  cases h with
  | @emptied n _ hn h =>
    rw [← Nat.add_assoc, Nat.add_right_comm]
    exact .emptied (Nat.succ_le_succ hn) ⟨Path.jobs_nil.mp (first (Path.jobs_nil.mpr h.1)), h.2⟩
  | limited h =>
    rw [← Nat.add_assoc, Nat.add_right_comm]
    exact .limited (outlasts h)
  | failed hn h => exact .failed (Nat.succ_lt_succ hn) (first h)
  | faulted hn h hfault => exact .faulted (Nat.succ_lt_succ hn) (outlasts h) hfault
  | hung hn h hstuck => exact .hung (Nat.succ_lt_succ hn) (outlasts h) hstuck

theorem Draining.within {m : Nat} {moves : List (Move E)} {r : Except Failure Nat}
    (h : Draining (b.under (some m)) moves r) : jobsDone moves ≤ m := by
  cases h with
  | emptied n hn =>
    rw [jobsDone_append, jobsDone_jobs]
    exact Nat.le_of_lt_succ hn
  | limited max hmax =>
    cases hmax
    rw [jobsDone_append, jobsDone_jobs]
    exact Nat.le_refl m
  | failed n hn hbelow thrown reason =>
    rw [jobsDone_append, jobsDone_jobs]
    exact hbelow m rfl

theorem Cycle.within {m : Nat} {state : String} {view : E.Value} {last : Phase}
    {moves : List (Move E)} {r : Except Failure String}
    (h : Cycle (b.under (some m)) state view last moves r) : jobsDone moves ≤ m := by
  cases h with
  | decodeFails hread => simp [hread.jobsDone]
  | updateFails hread hcall => simp [jobsDone_append, hread.jobsDone, hcall.jobsDone]
  | drainFails hread hcall hdrain =>
    simp [jobsDone_append, hread.jobsDone, hcall.jobsDone, hdrain.within]
  | flushFails hread hcall hdrain hflush =>
    simp [jobsDone_append, hread.jobsDone, hcall.jobsDone, hdrain.within, hflush.jobsDone]
  | encodes hread hcall hdrain hflush hwrite =>
    simp [jobsDone_append, hread.jobsDone, hcall.jobsDone, hdrain.within, hflush.jobsDone,
      hwrite.jobsDone]

theorem Updating.within {m : Nat} {state : String} {buffer : ByteArray} {moves : List (Move E)}
    {r : Except Failure (Except Failure String × ByteArray)}
    (h : Updating (b.under (some m)) state buffer moves r) : jobsDone moves ≤ m := by
  cases h with
  | ends bytes hcycle =>
    rw [jobsDone_append]
    exact hcycle.within

end BrainHost
