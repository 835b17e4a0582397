import BrainHost.Proofs.Act.Plain
import BrainHost.Proofs.Script.Reach
import BrainHost.Proofs.Update.Cycle

/-! # Jobs of an update

Jobs wait in a queue. Scripts put jobs at its end, and it is only the drain in the middle of an update
that takes jobs from its front. -/

namespace BrainHost

variable {E : Engine} {K : HostKind}

/-- The jobs that wait in the contexts of an engine, the first of them first. -/
structure Engine.Queue (E : Engine) where
  Job : Type
  jobs : E.Context → List Job
  pending : ∀ c, E.jobPending c = true ↔ jobs c ≠ []
  attached : ∀ bytes c, jobs (E.attach bytes c).1 = jobs c
  detached : ∀ v c, jobs (E.detach v c).1 = jobs c
  parsed : ∀ text c, jobs (E.parseJson text c).1 = jobs c
  /-- Scripts that run only schedule more jobs. -/
  ran : ∀ {α : Type} {run : E.Context → Run E.Context E.Value (E.Context × α)}, E.Operates False run →
    ∀ c, (run c).Shows fun c' => jobs c <+: jobs c'
  /-- A job that is done makes way for the next one, also if it throws. -/
  did : ∀ c, (E.runJob c).Shows fun c' => (jobs c).tail <+: jobs c'

namespace Engine.Queue

variable (Q : E.Queue)

theorem onward : E.Onward False fun c c' => Q.jobs c <+: Q.jobs c' where
  refl _ := List.prefix_rfl
  trans h₁ h₂ := h₁.trans h₂
  operates hop c := Q.ran hop c
  parse text c := (Q.parsed text c).symm ▸ List.prefix_rfl

end Engine.Queue

/-- The jobs of promises. -/
def Script.queue : Script.engine.Queue where
  Job := Script.Job
  jobs c := c.realm.jobs
  pending c := by simp [Script.engine]
  attached _ _ := rfl
  detached v c := Script.detachBuffer_jobs v c.realm
  parsed text c := (Script.parseJson_still text c).jobs
  ran := Script.operates_shows (fun reached => reached.jobs) False.elim
  did c := by
    cases waiting : c.realm.jobs with
    | nil =>
      rw [Script.runJob_idle waiting]
      exact List.nil_prefix (l := c.realm.jobs)
    | cons job rest => exact (Script.runJob_reaches waiting).mono fun _ reached => reached.jobs

/-! ## Moves -/

/-- Whether a move does the first job that waits. -/
def Move.isJob : Move E → Bool
  | job _ => true
  | _ => false

def jobsDone (moves : List (Move E)) : Nat := moves.countP Move.isJob

theorem jobsDone_append (first second : List (Move E)) :
    jobsDone (first ++ second) = jobsDone first + jobsDone second := List.countP_append

variable {Q : E.Queue} {b : Brain E} {link : Link E K} {p q : Scene E K}

namespace Move.Leads

theorem attached {bytes : ByteArray} {view : E.Value} (h : (attach bytes view).Leads b link p q) :
    Q.jobs q.1 = Q.jobs p.1 := by
  rw [← Q.attached bytes p.1, h.1]

theorem parsed {text : String} {result : Except E.Value E.Value}
    (h : (parse text result).Leads b link p q) : Q.jobs q.1 = Q.jobs p.1 := by
  rw [← Q.parsed text p.1, h.1]

theorem detached {view : E.Value} {bytes : ByteArray} (h : (detach view bytes).Leads b link p q) :
    Q.jobs q.1 = Q.jobs p.1 := by
  rw [← Q.detached view p.1, h.1]

theorem schedules {move : Move E} (h : move.Leads b link p q) (hjob : move.isJob = false) :
    Q.jobs p.1 <+: Q.jobs q.1 := by
  cases move with
  | attach bytes view => exact h.attached ▸ List.prefix_rfl
  | parse text result => exact h.parsed ▸ List.prefix_rfl
  | call f args result => exact (Q.ran (.call f args) p.1).ends.carryOut h
  | look pending => exact h.2 ▸ List.prefix_rfl
  | job result => cases hjob
  | write v result => exact (Q.ran (.stringify v) p.1).ends.carryOut h
  | diagnose thrown d => exact (Inside.Plain.onward Q.onward (.diagnose thrown b.sourceOf)).done h
  | headline thrown reason => exact (Q.ran (.headline thrown) p.1).ends.carryOut h
  | detach view bytes => exact h.detached ▸ List.prefix_rfl

end Move.Leads

/-- No job is lost and none is done twice: the jobs that waited and those that were scheduled are those
that were done and those that wait, in their order. -/
def Conserved (Q : E.Queue) (done : Nat) (c c' : E.Context) : Prop :=
  ∃ scheduled executed, Q.jobs c ++ scheduled = executed ++ Q.jobs c' ∧ executed.length = done

namespace Conserved

variable {c c' c'' : E.Context}

theorem trans {m n : Nat} (h₁ : Conserved Q m c c') (h₂ : Conserved Q n c' c'') :
    Conserved Q (m + n) c c'' := by
  obtain ⟨scheduled, executed, hbalance, hlength⟩ := h₁
  obtain ⟨scheduled', executed', hbalance', hlength'⟩ := h₂
  refine ⟨scheduled ++ scheduled', executed ++ executed', ?_, ?_⟩
  · calc Q.jobs c ++ (scheduled ++ scheduled')
        = executed ++ (Q.jobs c' ++ scheduled') := by rw [← List.append_assoc, hbalance, List.append_assoc]
      _ = executed ++ executed' ++ Q.jobs c'' := by rw [hbalance', List.append_assoc]
  · rw [List.length_append, hlength, hlength']

theorem of_schedules (h : Q.jobs c <+: Q.jobs c') : Conserved Q 0 c c' := by
  obtain ⟨scheduled, hscheduled⟩ := h
  exact ⟨scheduled, [], hscheduled, rfl⟩

theorem of_did (hpending : Q.jobs c ≠ []) (h : (Q.jobs c).tail <+: Q.jobs c') :
    Conserved Q 1 c c' := by
  obtain ⟨scheduled, hscheduled⟩ := h
  refine ⟨scheduled, [(Q.jobs c).head hpending], ?_, rfl⟩
  rw [← hscheduled, List.singleton_append, ← List.cons_append, List.cons_head_tail]

end Conserved

theorem Path.schedules {moves : List (Move E)} (h : Path b link moves p q) (hjobs : jobsDone moves = 0) :
    Q.jobs p.1 <+: Q.jobs q.1 := by
  induction moves generalizing p with
  | nil => exact (show q = p from h) ▸ List.prefix_rfl
  | cons move moves ih =>
    obtain ⟨x, hlead, hrest⟩ := h
    rw [jobsDone, List.countP_eq_zero] at hjobs
    have hmove : move.isJob = false := by simpa using hjobs move List.mem_cons_self
    refine (hlead.schedules hmove).trans (ih hrest ?_)
    rw [jobsDone, List.countP_eq_zero]
    exact fun other hother => hjobs other (List.mem_cons_of_mem _ hother)

theorem jobsDone_jobs (n : Nat) : jobsDone (jobs n : List (Move E)) = n := by
  induction n with
  | zero => rfl
  | succ n ih =>
    rw [jobs, List.replicate_succ, List.flatten_cons, jobsDone_append, ← jobs, ih, Nat.add_comm]
    rfl

theorem Path.did {n : Nat} (h : Path b link (jobs n) p q) : Conserved Q n p.1 q.1 := by
  induction n generalizing p with
  | zero =>
    rw [show q = p from h]
    exact .of_schedules List.prefix_rfl
  | succ n ih =>
    obtain ⟨x, ⟨hpending, rfl⟩, y, hjob, hrest⟩ := h
    have first := Conserved.of_did ((Q.pending x.1).mp hpending) ((Q.did x.1).ends.carryOut hjob)
    rw [Nat.add_comm]
    exact first.trans (ih hrest)

theorem Path.did_failing {n : Nat} {thrown : E.Value} {reason : String}
    (h : Path b link (jobs n ++ failingJob thrown reason) p q) : Conserved Q (n + 1) p.1 q.1 := by
  obtain ⟨x, hjobs, _, ⟨hlook, rfl⟩, y, hjob, htold⟩ := Path.append.mp h
  have last := Conserved.of_did ((Q.pending _).mp hlook) ((Q.did _).ends.carryOut hjob)
  exact (Path.did hjobs).trans (last.trans (.of_schedules (htold.schedules rfl)))

/-! ## Accounts of phases -/

/-- Wherever moves lead, they conserve the jobs. -/
def Accounted (Q : E.Queue) (b : Brain E) (link : Link E K) (moves : List (Move E)) : Prop :=
  ∀ p q, Path b link moves p q → Conserved Q (jobsDone moves) p.1 q.1

namespace Accounted

theorem of_none {moves : List (Move E)} (h : jobsDone moves = 0) : Accounted Q b link moves := by
  intro p q hpath
  rw [h]
  exact .of_schedules (hpath.schedules h)

theorem append {first second : List (Move E)} (h₁ : Accounted Q b link first)
    (h₂ : Accounted Q b link second) : Accounted Q b link (first ++ second) := by
  intro p q hpath
  obtain ⟨x, hfirst, hsecond⟩ := Path.append.mp hpath
  rw [jobsDone_append]
  exact (h₁ p x hfirst).trans (h₂ x q hsecond)

end Accounted

theorem Decoding.jobsDone {text : String} {moves : List (Move E)} {r : Except Failure E.Value}
    (h : Decoding text moves r) : jobsDone moves = 0 := by
  cases h <;> rfl

theorem Calling.jobsDone {activity : String} {f : E.Value} {args : List E.Value}
    {moves : List (Move E)} {r : Except Failure Unit} (h : Calling activity f args moves r) :
    jobsDone moves = 0 := by
  cases h <;> rfl

theorem Draining.accounted {moves : List (Move E)} {r : Except Failure Nat} (h : Draining b moves r) :
    Accounted Q b link moves := by
  intro p q hpath
  cases h with
  | emptied n hn =>
    obtain ⟨x, hjobs, _, ⟨-, rfl⟩, rfl⟩ := Path.append.mp hpath
    rw [jobsDone_append, jobsDone_jobs]
    exact Path.did hjobs
  | limited max hmax =>
    obtain ⟨x, hjobs, _, ⟨-, rfl⟩, rfl⟩ := Path.append.mp hpath
    rw [jobsDone_append, jobsDone_jobs]
    exact Path.did hjobs
  | failed n hn hbelow thrown reason =>
    rw [jobsDone_append, jobsDone_jobs]
    exact hpath.did_failing

theorem Draining.emptied_jobs {moves : List (Move E)} {n : Nat} (h : Draining b moves (.ok n))
    (hpath : Path b link moves p q) : Q.jobs q.1 = [] := by
  cases h with
  | emptied n hn =>
    obtain ⟨x, -, _, ⟨hlook, rfl⟩, rfl⟩ := Path.append.mp hpath
    refine Decidable.of_not_not fun hjobs => ?_
    rw [(Q.pending _).mpr hjobs] at hlook
    cases hlook

/-- How a drain fails, and after how many jobs: at the limit, where another job waits, or with a job that
throws. -/
inductive Stopped (Q : E.Queue) (b : Brain E) (done : Nat) (c : E.Context) : Failure → Prop
  | limited (hlimit : b.maxPendingJobs = some done) (hwaits : Q.jobs c ≠ []) :
    Stopped Q b done c (.script (.pendingJobLimit done))
  | failed (hsome : 0 < done) (hwithin : ∀ max ∈ b.maxPendingJobs, done ≤ max) (reason : String) :
    Stopped Q b done c (jobFailure reason)

theorem Stopped.congr {done : Nat} {c c' : E.Context} {failure : Failure} (h : Stopped Q b done c failure)
    (hsame : Q.jobs c' = Q.jobs c) : Stopped Q b done c' failure := by
  cases h with
  | limited hlimit hwaits => exact .limited hlimit (hsame ▸ hwaits)
  | failed hsome hwithin reason => exact .failed hsome hwithin reason

theorem Draining.stopped {moves : List (Move E)} {failure : Failure}
    (h : Draining b moves (.error failure)) (hpath : Path b link moves p q) :
    Stopped Q b (jobsDone moves) q.1 failure := by
  cases h with
  | limited max hmax =>
    obtain ⟨x, -, _, ⟨hlook, rfl⟩, rfl⟩ := Path.append.mp hpath
    have all : jobsDone (jobs max ++ [.look true] : List (Move E)) = max := by
      rw [jobsDone_append, jobsDone_jobs]
      rfl
    rw [all]
    exact .limited hmax ((Q.pending _).mp hlook)
  | failed n hn hbelow thrown reason =>
    have all : jobsDone (jobs n ++ failingJob thrown reason) = n + 1 := by
      rw [jobsDone_append, jobsDone_jobs]
      rfl
    rw [all]
    exact .failed (Nat.succ_pos n) hbelow reason

theorem Flushing.jobsDone {v view : E.Value} {moves : List (Move E)} {r : Except Failure Unit}
    (h : Flushing b v view moves r) : jobsDone moves = 0 := by
  cases h with
  | absent hflush => rfl
  | present flush hflush hcall => exact hcall.jobsDone

theorem Encoding.jobsDone {v : E.Value} {moves : List (Move E)} {r : Except Failure String}
    (h : Encoding v moves r) : jobsDone moves = 0 := by
  cases h <;> rfl

theorem Cycle.accounted {state : String} {view : E.Value} {last : Phase} {moves : List (Move E)}
    {r : Except Failure String} (h : Cycle b state view last moves r) : Accounted Q b link moves :=
  h.closed (.of_none rfl) .append (fun hread => .of_none hread.jobsDone)
    (fun hcall => .of_none hcall.jobsDone) (fun hdrain => hdrain.accounted)
    fun hwrite => .of_none hwrite.jobsDone

/-! ## Updates -/

theorem Cycle.unread {state : String} {view : E.Value} {moves : List (Move E)}
    {r : Except Failure String} (h : Cycle b state view .decode moves r) (hpath : Path b link moves p q) :
    Q.jobs q.1 = Q.jobs p.1 := by
  cases h with
  | decodeFails hread => cases hread with
    | invalid thrown => exact (Path.single.mp hpath).parsed

theorem Cycle.stopped {state : String} {view : E.Value} {moves : List (Move E)}
    {r : Except Failure String} (h : Cycle b state view .drain moves r) (hpath : Path b link moves p q) :
    ∃ failure, r = .error failure ∧ Stopped Q b (jobsDone moves) q.1 failure := by
  cases h with
  | drainFails hread hcall hdrain =>
    obtain ⟨x, -, hdrained⟩ := Path.append.mp hpath
    rw [jobsDone_append, jobsDone_append, hread.jobsDone, hcall.jobsDone, Nat.zero_add]
    exact ⟨_, rfl, hdrain.stopped hdrained⟩

/-- An update that gets past the drain had no job left there, and does none after it. -/
def Drained (Q : E.Queue) (b : Brain E) (link : Link E K) (view : E.Value) (moves : List (Move E))
    (p q : Scene E K) : Prop :=
  ∃ v before after x, moves = before ++ after ∧ Path b link before p x ∧ Path b link after x q ∧
    callsOf before = b.callsUpTo v view .drain ∧ Q.jobs x.1 = [] ∧ jobsDone after = 0

theorem Cycle.drained {state : String} {view : E.Value} {last : Phase} {moves : List (Move E)}
    {r : Except Failure String} (h : Cycle b state view last moves r) (hpath : Path b link moves p q)
    (hlast : last = .flush ∨ last = .encode) : Drained Q b link view moves p q := by
  cases h with
  | decodeFails | updateFails | drainFails => simp at hlast
  | @flushFails v _ read called drained flushed _ hread hcall hdrain hflush =>
    obtain ⟨x, hbefore, hafter⟩ := Path.append.mp hpath
    obtain ⟨y, -, hdrained⟩ := Path.append.mp hbefore
    refine ⟨v, _, flushed, x, rfl, hbefore, hafter, ?_, hdrain.emptied_jobs hdrained, hflush.jobsDone⟩
    rw [callsOf_append, callsOf_append, hread.calls, hcall.calls, hdrain.calls]
    rfl
  | @encodes v _ read called drained flushed written _ hread hcall hdrain hflush hwrite =>
    rw [List.append_assoc] at hpath
    obtain ⟨x, hbefore, hafter⟩ := Path.append.mp hpath
    obtain ⟨y, -, hdrained⟩ := Path.append.mp hbefore
    refine ⟨v, _, flushed ++ written, x, List.append_assoc .., hbefore, hafter, ?_,
      hdrain.emptied_jobs hdrained, ?_⟩
    · rw [callsOf_append, callsOf_append, hread.calls, hcall.calls, hdrain.calls]
      rfl
    · rw [jobsDone_append, hflush.jobsDone, hwrite.jobsDone]

/-- **Jobs of an update.** Where the update of a brain ends, with whatever result, each job that waited
before or was scheduled meanwhile has been done or waits still, in the order in which they were scheduled. A
state that cannot be read leaves the queue as it was. An update that fails in its drain has done as
many jobs as the limit allows while another one waits, or the last of the jobs that it did threw. One that
gets any further had an empty queue before it flushed, so that the jobs it leaves are those that were
scheduled since. -/
theorem update_jobs (Q : E.Queue) (b : Brain E) (state : String) (buffer : ByteArray) (link : Link E K)
    {c c' : E.Context} {w w' : World E K} {r : Except Failure (Except Failure String × ByteArray)}
    (h : (b.updateInside state buffer).run c link w = .done (r, c') w') :
    (Limit.buffer.maxBytes < buffer.size ∧ c' = c) ∨
      ∃ view last moves result bytes, r = .ok (result, bytes) ∧ Cycle b state view last moves result ∧
        Conserved Q (jobsDone moves) c c' ∧
        (last = .decode → Q.jobs c' = Q.jobs c) ∧
        (last = .drain → ∃ failure, result = .error failure ∧ Stopped Q b (jobsDone moves) c' failure) ∧
        (last = .flush ∨ last = .encode → Drained Q b link view
          (.attach buffer view :: moves ++ [.detach view bytes]) (c, w) (c', w')) := by
  rcases Nat.lt_or_ge Limit.buffer.maxBytes buffer.size with hlarge | hsize
  · rw [b.updateInside_tooLarge state hlarge] at h
    cases h
    exact .inl ⟨hlarge, rfl⟩
  · obtain ⟨_, ⟨bytes, hcycle⟩, hpath⟩ :=
      (Inside.Goes.updateInside state hsize (c, w) (c', w') r).mp h
    obtain ⟨p, hattach, hrest⟩ := hpath
    obtain ⟨q, hmoves, hlast⟩ := Path.append.mp hrest
    have hdetach := Path.single.mp hlast
    refine .inr ⟨_, _, _, _, bytes, rfl, hcycle, ?_, ?_, ?_, fun hlate => ?_⟩
    · obtain ⟨scheduled, executed, hbalance, hlength⟩ := hcycle.accounted p q hmoves
      exact ⟨scheduled, executed, by rw [← hattach.attached, hdetach.detached, hbalance], hlength⟩
    · rintro rfl
      rw [hdetach.detached, hcycle.unread hmoves, hattach.attached]
    · rintro rfl
      obtain ⟨failure, hfailure, hstopped⟩ := hcycle.stopped (Q := Q) hmoves
      exact ⟨failure, hfailure, hstopped.congr hdetach.detached⟩
    · obtain ⟨v, before, after, x, rfl, hbefore, hafter, hcalls, hempty, hdone⟩ :=
        hcycle.drained hmoves hlate
      refine ⟨v, _ :: before, after ++ [_], x, ?_, ⟨p, hattach, hbefore⟩,
        Path.append.mpr ⟨q, hafter, hlast⟩, hcalls, hempty, ?_⟩
      · rw [List.cons_append, List.append_assoc, List.cons_append]
      · rw [jobsDone_append, hdone]
        rfl

/-- An engine without scripts, in which every call leaves a job. -/
def queueingEngine : Engine :=
  { Engine.idle (List String) String [] id id with
    call := fun (f : String) _ (c : List String) => .done (c ++ [f], .ok ())
    jobPending := fun (c : List String) => !c.isEmpty
    runJob := fun (c : List String) => .done (c.tail, .ok ()) }

def queueingEngine.queue : queueingEngine.Queue where
  Job := String
  jobs c := c
  pending c := by cases c <;> simp [queueingEngine]
  attached _ _ := rfl
  detached _ _ := rfl
  parsed _ _ := rfl
  ran hop c := by
    cases hop with
    | call f args => exact List.prefix_append c [f]
    | job h => cases h
    | _ => exact List.prefix_rfl (l := c)
  did c := List.prefix_rfl (l := c.tail)

def queueingBrain : Brain queueingEngine :=
  { context := some [], source := "", bridge := 0, updateAgent := updateAgentName
    postMessageFlush := some postMessageFlushName, maxPendingJobs := some 3 }

/-- The context of a script that flushes by resolving a promise that something waits for:
`new Promise(f => { postMessageFlush = f; }).then();`. -/
def resolving : Script.Context :=
  { realm :=
    { objects := #[{ kind := .primitive (.bool false) },
        { kind := .promise (.pending #[⟨.undefined, none⟩] #[]) },
        { kind := .native (.promise (.settle 1 false 0)) }, { kind := .native (.function .prototype) }] } }

def resolvingBrain : Brain Script.engine :=
  { context := some resolving, source := "", bridge := 0, updateAgent := .object 3
    postMessageFlush := some (.object 2), maxPendingJobs := none }

theorem parseJson_emptyText : Script.engine.parseJson "\"\"" = fun c => (c, .ok (.string ⟨#[]⟩)) := by
  have units : Script.Str.ofString "\"\"" = ⟨#[34, 34]⟩ := by
    rw [Script.Str.ofString, String.foldl_eq_foldl_toList]
    decide
  change (fun c : Script.Context => c.runAlone (Script.readJson (.ofString "\"\""))) = _
  rw [units]
  rfl

theorem resolvingBrain_updates {buffer : ByteArray} (hsize : buffer.size ≤ Limit.buffer.maxBytes)
    (link : Link Script.engine K) (w : World Script.engine K) : ∃ c',
      (resolvingBrain.updateInside "\"\"" buffer).run resolving link w = .done (.ok (.ok "\"\"", buffer), c') w ∧
      Script.engine.jobPending c' = true := by
  rw [Inside.Goes.updateInside_eq resolvingBrain _ hsize]
  unfold Inside.Goes.viewed Brain.updateWith Inside.decodeState
  rw [parseJson_emptyText]
  exact ⟨_, rfl, rfl⟩

def deaf {E : Engine} : World E ⟨Unit, Empty⟩ := { host := () }

/-- The call of the brain's function leaves a job that is done, and the flush leaves one that waits. So does the
flush of the script. -/
theorem update_jobs_flushed :
    ((queueingBrain.updateInside "1" .empty).run [] (fun _ w => .done .none w) deaf =
      .done (.ok (.ok "1", .empty), [postMessageFlushName]) deaf ∧
    ∃ view moves bytes,
      Conserved queueingEngine.queue (jobsDone moves) [] [postMessageFlushName] ∧
      Drained queueingEngine.queue queueingBrain (fun _ w => .done .none w) view
        (.attach .empty view :: moves ++ [.detach view bytes]) ([], deaf) ([postMessageFlushName], deaf)) ∧
    ∃ c', (resolvingBrain.updateInside "\"\"" .empty).run resolving (fun _ w => .done .none w) deaf =
        .done (.ok (.ok "\"\"", .empty), c') deaf ∧
      ∃ view moves bytes, Conserved Script.queue (jobsDone moves) resolving c' ∧
        Drained Script.queue resolvingBrain (fun _ w => .done .none w) view
          (.attach .empty view :: moves ++ [.detach view bytes]) (resolving, deaf) (c', deaf) := by
  have queued : (queueingBrain.updateInside "1" .empty).run [] (fun _ w => .done .none w) deaf =
      .done (.ok (.ok "1", .empty), [postMessageFlushName]) deaf := rfl
  obtain ⟨c', resolved, -⟩ := resolvingBrain_updates (by decide : ByteArray.empty.size ≤ _)
    (fun _ w => .done .none w) deaf
  refine ⟨⟨queued, ?_⟩, c', resolved, ?_⟩
  · obtain ⟨hlarge, -⟩ | ⟨view, last, moves, result, bytes, hr, hcycle, hconserved, -, -, hdrained⟩ :=
      update_jobs queueingEngine.queue queueingBrain "1" .empty (fun _ w => .done .none w) queued
    · exact absurd hlarge (by decide)
    · cases hr
      exact ⟨view, moves, .empty, hconserved, hdrained (.inr hcycle.ok)⟩
  · obtain ⟨hlarge, -⟩ | ⟨view, last, moves, result, bytes, hr, hcycle, hconserved, -, -, hdrained⟩ :=
      update_jobs Script.queue resolvingBrain "\"\"" .empty (fun _ w => .done .none w) resolved
    · exact absurd hlarge (by decide)
    · cases hr
      exact ⟨view, moves, .empty, hconserved, hdrained (.inr hcycle.ok)⟩

/-- An update that goes well can leave a job where none waited before. -/
theorem update_leaves_job :
    ∃ c', (resolvingBrain.updateInside "\"\"" .empty).run resolving (fun _ w => .done .none w)
        ({ host := () } : World Script.engine ⟨Unit, Empty⟩) =
      .done (.ok (.ok "\"\"", .empty), c') { host := () } ∧
    Script.engine.jobPending resolving = false ∧ Script.engine.jobPending c' = true := by
  obtain ⟨c', updated, left⟩ := resolvingBrain_updates (by decide : ByteArray.empty.size ≤ _) (fun _ w => .done .none w)
    ({ host := () } : World Script.engine ⟨Unit, Empty⟩)
  exact ⟨c', updated, rfl, left⟩

end BrainHost
