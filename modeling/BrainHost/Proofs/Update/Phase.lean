import BrainHost.Brain
import BrainHost.Proofs.Message.Preview
import BrainHost.Proofs.Update.Move

/-! # The phases of an update

The course of each phase: the moves it makes and what it gives, where it goes well and where it
fails. -/

namespace BrainHost

variable {E : Engine} {K : HostKind} {α β : Type}

/-! ## Diagnosis -/

namespace Inside

/-- An operation that gives something, if it ends. -/
def Infallible (m : Inside E K α) : Prop :=
  ∀ c link w p v, m.run c link w = .done p v → ∃ a, p.1 = .ok a

namespace Infallible

theorem pure (a : α) : Infallible (Pure.pure a : Inside E K α) := by
  intro c link w p v h
  cases h
  exact ⟨a, rfl⟩

theorem inspect (f : E.Context → α) : Infallible (Inside.inspect f : Inside E K α) := by
  intro c link w p v h
  cases h
  exact ⟨f c, rfl⟩

theorem perform (s : Surroundings E) (run : E.Context → Run E.Context E.Value (E.Context × α)) :
    Infallible (Inside.perform s run : Inside E K α) := by
  intro c link w p v h
  rw [run_perform, Act.bind_apply, Outcome.bind_eq_done] at h
  obtain ⟨q, u, -, heq⟩ := h
  cases heq
  exact ⟨q.2, rfl⟩

theorem bind {m : Inside E K α} {f : α → Inside E K β} (hm : Infallible m)
    (hf : ∀ a, Infallible (f a)) :
    Infallible (m >>= f) := by
  intro c link w p v h
  rw [run_bind, Act.bind_apply, Outcome.bind_eq_done] at h
  obtain ⟨⟨r, c'⟩, u, hrun, hrest⟩ := h
  obtain ⟨a, ha⟩ := hm c link w _ u hrun
  obtain rfl : r = .ok a := ha
  exact hf a c' link u p v hrest

theorem stringProperty (s : Surroundings E) (v : E.Value) (name : String) :
    Infallible (Inside.stringProperty s v name : Inside E K _) :=
  (perform s _).bind fun r => by cases r <;> exact pure _

theorem textProperty (s : Surroundings E) (v : E.Value) (name : String) :
    Infallible (Inside.textProperty s v name : Inside E K _) := by
  refine (perform s _).bind fun r => ?_
  cases r with
  | ok w =>
    dsimp only
    split
    · exact pure _
    · exact perform s _
  | error thrown => exact pure _

theorem numberProperty (s : Surroundings E) (v : E.Value) (name : String) :
    Infallible (Inside.numberProperty s v name : Inside E K _) :=
  (perform s _).bind fun r => by cases r <;> exact pure _

theorem describe (s : Surroundings E) (error : E.Value) :
    Infallible (Inside.describe s error : Inside E K _) :=
  (textProperty s error _).bind fun _ => (stringProperty s error _).bind fun _ =>
    (numberProperty s error _).bind fun _ => (numberProperty s error _).bind fun _ =>
      (perform s _).bind fun _ => pure _

theorem diagnose (s : Surroundings E) (thrown : E.Value) (lookup : Option String → Option String) :
    Infallible (Inside.diagnose s thrown lookup : Inside E K _) := by
  refine (inspect _).bind fun isError => ?_
  split
  · exact (describe s thrown).bind fun _ => pure _
  · exact (perform s _).bind fun _ => pure _

end Infallible

end Inside

/-! ## Courses of phases -/

inductive Decoding (text : String) : List (Move E) → Except Failure E.Value → Prop
  | read (v : E.Value) : Decoding text [.parse text (.ok v)] (.ok v)
  | invalid (thrown : E.Value) :
    Decoding text [.parse text (.error thrown)] (.error (.marshal (.invalidState (preview text))))

inductive Calling (activity : String) (f : E.Value) (args : List E.Value) :
    List (Move E) → Except Failure Unit → Prop
  | returned : Calling activity f args [.call f args (.ok ())] (.ok ())
  | threw (thrown : E.Value) (d : Diagnostic) :
    Calling activity f args [.call f args (.error thrown), .diagnose thrown d]
      (.error (.script (.exception activity d)))

def jobs (n : Nat) : List (Move E) := (List.replicate n [.look true, .job (.ok ())]).flatten

/-- What a drain fails with after a job that throws. No more than a line is told of what was thrown. -/
def jobFailure (reason : String) : Failure :=
  .script (.exception "Exception caught while pumping pending jobs: " { message := reason })

/-- A job that throws, and what is made of that. -/
def failingJob (thrown : E.Value) (reason : String) : List (Move E) :=
  [.look true, .job (.error thrown), .headline thrown reason]

inductive Working : List (Move E) → Except Failure Unit → Prop
  | returned : Working [.job (.ok ())] (.ok ())
  | threw (thrown : E.Value) (reason : String) :
    Working [.job (.error thrown), .headline thrown reason] (.error (jobFailure reason))

/-- How jobs are done: until none is left, until there is one left at the limit, or until one throws. -/
inductive Draining (b : Brain E) : List (Move E) → Except Failure Nat → Prop
  | emptied (n : Nat) (hn : n < drainRounds b.maxPendingJobs) :
    Draining b (jobs n ++ [.look false]) (.ok n)
  | limited (max : Nat) (hmax : b.maxPendingJobs = some max) :
    Draining b (jobs max ++ [.look true]) (.error (.script (.pendingJobLimit max)))
  | failed (n : Nat) (hn : n < drainRounds b.maxPendingJobs) (hbelow : ∀ max ∈ b.maxPendingJobs, n < max)
    (thrown : E.Value) (reason : String) :
    Draining b (jobs n ++ failingJob thrown reason) (.error (jobFailure reason))

/-- How a state is flushed, where the brain has a function for that. -/
inductive Flushing (b : Brain E) (v view : E.Value) : List (Move E) → Except Failure Unit → Prop
  | absent (hflush : b.postMessageFlush = none) : Flushing b v view [] (.ok ())
  | present (flush : E.Value) (hflush : b.postMessageFlush = some flush) {moves : List (Move E)}
    {r : Except Failure Unit}
    (hcall : Calling "Error while calling postMessageFlush: " flush [v, view] moves r) :
    Flushing b v view moves r

inductive Encoding (v : E.Value) : List (Move E) → Except Failure String → Prop
  | written (text : String) (hsize : text.utf8ByteSize ≤ Limit.json.maxBytes) :
    Encoding v [.write v (.ok (some text))] (.ok text)
  | tooLarge (text : String) (hsize : Limit.json.maxBytes < text.utf8ByteSize) :
    Encoding v [.write v (.ok (some text))]
      (.error (.marshal (.resultTooLarge text.utf8ByteSize Limit.json.maxBytes)))
  | absent :
    Encoding v [.write v (.ok none)]
      (.error (.marshal (.unserializable "value has no JSON representation")))
  | threw (thrown : E.Value) (reason : String) :
    Encoding v [.write v (.error thrown), .headline thrown reason]
      (.error (.marshal (.unserializable reason)))

namespace Inside.Goes

variable {b : Brain E} {link : Link E K}

theorem diagnose (thrown : E.Value) :
    Goes b link (Inside.diagnose b.surroundings thrown b.sourceOf) (.one (Move.diagnose thrown)) := by
  refine one fun p q r => ?_
  constructor
  · intro h
    obtain ⟨d, rfl⟩ := Infallible.diagnose b.surroundings thrown b.sourceOf p.1 link p.2 _ _ h
    exact ⟨d, rfl, h⟩
  · rintro ⟨d, rfl, h⟩
    exact h

theorem decodeState (text : String) : Goes b link (Inside.decodeState text) (Decoding text) := by
  rw [Inside.decodeState_eq]
  have parsed : Goes b link (Inside.change (E.parseJson text)) (.one (Move.parse text)) :=
    change fun _ _ _ => Iff.rfl
  refine parsed.starts (fun result => ?_) fun moves r h => ?_
  · cases result with
    | ok v =>
      refine (pure v).congr fun after r => ⟨?_, ?_⟩
      · rintro ⟨rfl, rfl⟩
        exact .read v
      · rintro (_ | _)
        exact ⟨rfl, rfl⟩
    | error thrown =>
      refine (throw _).congr fun after r => ⟨?_, ?_⟩
      · rintro ⟨rfl, rfl⟩
        exact .invalid thrown
      · rintro (_ | _)
        exact ⟨rfl, rfl⟩
  · cases h <;> exact ⟨_, _, rfl⟩

theorem failWith {failure : String → Diagnostic → ScriptFailure} {activity : String}
    (thrown : E.Value) :
    Goes b link (Inside.failWith b.surroundings failure activity b.sourceOf thrown : Inside E K α)
      ((Course.one (Move.diagnose thrown)).andThen fun d => .still (.error (.script (failure activity d)))) :=
  (diagnose thrown).bind fun _ => throw _

theorem callEntry (activity : String) (f : E.Value) (args : List E.Value) :
    Goes b link (b.callEntry activity f args) (Calling activity f args) := by
  have called : Goes b link (Inside.perform b.surroundings (E.call f args)) (.one (Move.call f args)) :=
    perform fun _ _ _ => Iff.rfl
  refine called.starts (fun result => ?_) fun moves r h => ?_
  · cases result with
    | ok u =>
      refine (pure ()).congr fun after r => ⟨?_, ?_⟩
      · rintro ⟨rfl, rfl⟩
        exact .returned
      · rintro (_ | _)
        exact ⟨rfl, rfl⟩
    | error thrown =>
      refine (failWith thrown).congr fun after r => Course.one_andThen.trans ⟨?_, ?_⟩
      · rintro ⟨d, _, rfl, rfl, rfl⟩
        exact .threw thrown d
      · rintro (_ | ⟨_, d⟩)
        exact ⟨d, [], rfl, rfl, rfl⟩
  · cases h <;> exact ⟨_, _, rfl⟩

/-! ### Jobs -/

/-- How jobs are done where some were done before. -/
inductive DrainingFrom (limit : Option Nat) (rounds executed : Nat) : List (Move E) → Except Failure Nat → Prop
  | emptied (n : Nat) (hn : n < rounds) (hlimit : ∀ max ∈ limit, executed + n ≤ max) :
    DrainingFrom limit rounds executed (jobs n ++ [.look false]) (.ok (executed + n))
  | limited (n max : Nat) (hn : n < rounds) (hlimit : limit = some max) (hmax : executed + n = max) :
    DrainingFrom limit rounds executed (jobs n ++ [.look true]) (.error (.script (.pendingJobLimit max)))
  | failed (n : Nat) (hn : n < rounds) (hbelow : ∀ max ∈ limit, executed + n < max) (thrown : E.Value)
    (reason : String) :
    DrainingFrom limit rounds executed (jobs n ++ failingJob thrown reason) (.error (jobFailure reason))

theorem look : Goes b link (Inside.inspect E.jobPending : Inside E K Bool) (.one Move.look) := by
  refine one fun p q r => ?_
  change Outcome.done (Except.ok (E.jobPending p.1), p.1) p.2 = _ ↔ _
  constructor
  · intro heq
    simp only [Outcome.done.injEq, Prod.mk.injEq] at heq
    obtain ⟨⟨rfl, hc⟩, hw⟩ := heq
    exact ⟨_, rfl, rfl, Prod.ext hc.symm hw.symm⟩
  · rintro ⟨pending, rfl, rfl, rfl⟩
    rfl

theorem doJob : Goes b link (Brain.doJob b.surroundings) Working := by
  have ran : Goes b link (Inside.perform b.surroundings E.runJob) (.one .job) := perform fun _ _ _ => Iff.rfl
  refine ran.starts (fun result => ?_) fun moves r h => ?_
  · cases result with
    | ok u =>
      refine (pure ()).congr fun after r => ⟨?_, ?_⟩
      · rintro ⟨rfl, rfl⟩
        exact .returned
      · rintro (_ | _)
        exact ⟨rfl, rfl⟩
    | error thrown =>
      have told : Goes b link (Inside.perform b.surroundings (E.headline thrown)) (.one (Move.headline thrown)) :=
        perform fun _ _ _ => Iff.rfl
      refine (told.bind fun _ => throw _).congr fun after r => Course.one_andThen.trans ⟨?_, ?_⟩
      · rintro ⟨reason, _, rfl, rfl, rfl⟩
        exact .threw thrown reason
      · rintro (_ | ⟨_, reason⟩)
        exact ⟨reason, [], rfl, rfl, rfl⟩
  · cases h <;> exact ⟨_, _, rfl⟩

theorem drainingFrom_succ {limit : Option Nat} {rounds executed : Nat} {moves : List (Move E)}
    {r : Except Failure Nat} (hbelow : ∀ max ∈ limit, executed < max) :
    DrainingFrom limit (rounds + 1) executed moves r ↔
      (moves = [.look false] ∧ r = .ok executed) ∨
        (∃ after, moves = .look true :: .job (.ok ()) :: after ∧
          DrainingFrom limit rounds (executed + 1) after r) ∨
        ∃ thrown reason, moves = failingJob thrown reason ∧ r = .error (jobFailure reason) := by
  constructor
  · rintro (⟨n, hn, hmax⟩ | ⟨n, max, hn, hlimit, hmax⟩ | ⟨n, hn, hmax, thrown, reason⟩)
    · cases n with
      | zero => exact .inl ⟨rfl, rfl⟩
      | succ n =>
        rw [Nat.add_comm n, ← Nat.add_assoc] at hmax ⊢
        rw [Nat.add_comm 1 n]
        exact .inr (.inl ⟨_, rfl, .emptied n (Nat.lt_of_succ_lt_succ hn) hmax⟩)
    · have := hbelow max hlimit
      cases n with
      | zero => omega
      | succ n => exact .inr (.inl ⟨_, rfl, .limited n max (Nat.lt_of_succ_lt_succ hn) hlimit (by omega)⟩)
    · cases n with
      | zero => exact .inr (.inr ⟨thrown, reason, rfl, rfl⟩)
      | succ n =>
        refine .inr (.inl ⟨_, rfl, .failed n (Nat.lt_of_succ_lt_succ hn) (fun max hm => ?_) thrown reason⟩)
        have := hmax max hm
        omega
  · rintro (⟨rfl, rfl⟩ | ⟨after, rfl, h⟩ | ⟨thrown, reason, rfl, rfl⟩)
    · exact .emptied 0 (Nat.succ_pos rounds) fun max hm => Nat.le_of_lt (hbelow max hm)
    · cases h with
      | emptied n hn hmax =>
        rw [Nat.add_assoc, Nat.add_comm 1] at hmax ⊢
        exact .emptied (n + 1) (Nat.succ_lt_succ hn) hmax
      | limited n max hn hlimit hmax =>
        exact .limited (n + 1) max (Nat.succ_lt_succ hn) hlimit (by omega)
      | failed n hn hmax thrown reason =>
        refine .failed (n + 1) (Nat.succ_lt_succ hn) (fun max hm => ?_) thrown reason
        have := hmax max hm
        omega
    · exact .failed 0 (Nat.succ_pos rounds) hbelow thrown reason

theorem drainingFrom_limit {max rounds : Nat} {moves : List (Move E)} {r : Except Failure Nat} :
    DrainingFrom (some max) (rounds + 1) max moves r ↔
      (moves = [.look false] ∧ r = .ok max) ∨
        moves = [.look true] ∧ r = .error (.script (.pendingJobLimit max)) := by
  constructor
  · rintro (⟨n, hn, hmax⟩ | ⟨n, max', hn, hlimit, hmax⟩ | ⟨n, hn, hmax, -⟩)
    · obtain rfl : n = 0 := by have := hmax max rfl; omega
      exact .inl ⟨rfl, rfl⟩
    · cases hlimit
      obtain rfl : n = 0 := by omega
      exact .inr ⟨rfl, rfl⟩
    · have := hmax max rfl
      omega
  · rintro (⟨rfl, rfl⟩ | ⟨rfl, rfl⟩)
    · exact .emptied 0 (Nat.succ_pos rounds) (by simp)
    · exact .limited 0 max (Nat.succ_pos rounds) rfl rfl

theorem drainFrom (limit : Option Nat) (rounds executed : Nat)
    (hexecuted : ∀ max ∈ limit, executed ≤ max) :
    Goes b link (Brain.drainFrom b.surroundings limit rounds executed)
      (DrainingFrom limit rounds executed) := by
  -- No more jobs than the limit are ever done, so each round starts at the limit or below it.
  induction rounds generalizing executed with
  | zero =>
    intro p q r
    constructor
    · intro h
      cases h
    · rintro ⟨moves, ⟨n, hn⟩ | ⟨n, max, hn⟩ | ⟨n, hn⟩, -⟩ <;> omega
  | succ rounds ih =>
    cases hfilter : limit.filter (· ≤ executed) with
    | some max =>
      obtain ⟨rfl, hle⟩ : limit = some max ∧ max ≤ executed := by
        simpa [Option.filter_eq_some_iff] using hfilter
      obtain rfl : executed = max := Nat.le_antisymm (hexecuted max rfl) hle
      rw [Brain.drainFrom]
      simp only [hfilter]
      refine look.starts (fun pending => ?_) fun moves r h => ?_
      · cases pending with
        | true =>
          refine (throw _).congr fun after r => ?_
          rw [drainingFrom_limit]
          simp [Course.still]
        | false =>
          refine (pure _).congr fun after r => ?_
          rw [drainingFrom_limit]
          simp [Course.still]
      · rcases drainingFrom_limit.mp h with ⟨rfl, -⟩ | ⟨rfl, -⟩
        · exact ⟨false, [], rfl⟩
        · exact ⟨true, [], rfl⟩
    | none =>
      have hbelow : ∀ max ∈ limit, executed < max := by
        intro max hmax
        rw [Option.mem_def] at hmax
        simpa [hmax, Option.filter_some] using hfilter
      rw [Brain.drainFrom]
      simp only [hfilter]
      refine look.starts (fun pending => ?_) fun moves r h => ?_
      · cases pending with
        | true =>
          refine (doJob.bind fun _ => ih (executed + 1) hbelow).congr fun after r => ?_
          rw [drainingFrom_succ hbelow]
          constructor
          · rintro (⟨failure, _ | ⟨thrown, reason⟩, rfl⟩ | ⟨_, _, rest, ⟨⟩, h, rfl⟩)
            · exact .inr (.inr ⟨thrown, reason, rfl, rfl⟩)
            · exact .inr (.inl ⟨rest, rfl, h⟩)
          · rintro (⟨heq, -⟩ | ⟨rest, heq, h⟩ | ⟨thrown, reason, heq, rfl⟩) <;> cases heq
            · exact .inr ⟨(), [.job (.ok ())], rest, .returned, h, rfl⟩
            · exact .inl ⟨_, .threw thrown reason, rfl⟩
        | false =>
          refine (pure _).congr fun after r => ?_
          rw [drainingFrom_succ hbelow]
          simp [Course.still, failingJob]
      · rcases (drainingFrom_succ hbelow).mp h with ⟨rfl, -⟩ | ⟨after, rfl, -⟩ | ⟨thrown, reason, rfl, -⟩
        · exact ⟨false, [], rfl⟩
        · exact ⟨true, _, rfl⟩
        · exact ⟨true, _, rfl⟩

theorem drain : Goes b link b.drain (Draining b) := by
  refine (drainFrom b.maxPendingJobs _ 0 fun max _ => Nat.zero_le max).congr fun moves r => ?_
  constructor
  · rintro (⟨n, hn, -⟩ | ⟨n, max, -, hlimit, hmax⟩ | ⟨n, hn, hbelow, thrown, reason⟩)
    · rw [Nat.zero_add]
      exact .emptied n hn
    · obtain rfl : n = max := by omega
      exact .limited n hlimit
    · simp only [Nat.zero_add] at hbelow
      exact .failed n hn hbelow thrown reason
  · rintro (⟨n, hn⟩ | ⟨max, hmax⟩ | ⟨n, hn, hbelow, thrown, reason⟩)
    · -- There is one round more than the limit allows jobs: the last one only looks.
      have within : ∀ max ∈ b.maxPendingJobs, 0 + n ≤ max := by
        intro max hm
        rw [Option.mem_def.mp hm] at hn
        have hlt : n < max + 1 := hn
        omega
      have h := DrainingFrom.emptied (E := E) n hn within
      rwa [Nat.zero_add] at h
    · refine .limited max max ?_ hmax (Nat.zero_add max)
      rw [hmax]
      exact Nat.lt_succ_self max
    · exact .failed n hn (fun max hm => by rw [Nat.zero_add]; exact hbelow max hm) thrown reason

/-! ### Flush and result -/

theorem flush (v view : E.Value) : Goes b link
    (match b.postMessageFlush with
      | some flush => b.callEntry "Error while calling postMessageFlush: " flush [v, view]
      | none => Pure.pure ())
    (Flushing b v view) := by
  split
  · next flush hflush =>
    refine (callEntry _ flush [v, view]).congr fun moves r => ⟨.present flush hflush, ?_⟩
    rintro (habsent | ⟨flush', hflush', hcall⟩)
    · rw [hflush] at habsent
      cases habsent
    · rw [hflush] at hflush'
      cases hflush'
      exact hcall
  · next hflush =>
    refine (pure ()).congr fun moves r => ⟨?_, ?_⟩
    · rintro ⟨rfl, rfl⟩
      exact .absent hflush
    · rintro (_ | ⟨flush, hflush', hcall⟩)
      · exact ⟨rfl, rfl⟩
      · rw [hflush] at hflush'
        cases hflush'

theorem encodeState (v : E.Value) :
    Goes b link (Inside.encodeState b.surroundings v) (Encoding v) := by
  have wrote : Goes b link (Inside.perform b.surroundings (E.stringify v)) (.one (Move.write v)) :=
    perform fun _ _ _ => Iff.rfl
  have told (thrown : E.Value) : Goes b link (Inside.perform b.surroundings (E.headline thrown))
      (.one (Move.headline thrown)) := perform fun _ _ _ => Iff.rfl
  refine wrote.starts (fun result => ?_) fun moves r h => ?_
  · rcases result with thrown | _ | text
    · refine ((told thrown).bind fun reason => throw _).congr fun moves r' =>
        Course.one_andThen.trans ⟨?_, ?_⟩
      · rintro ⟨reason, after, rfl, rfl, rfl⟩
        exact .threw thrown reason
      · rintro (_ | _ | _ | ⟨_, reason⟩)
        exact ⟨reason, [], rfl, rfl, rfl⟩
    · refine (throw _).congr fun moves r' => ⟨?_, ?_⟩
      · rintro ⟨rfl, rfl⟩
        exact .absent
      · rintro (_ | _ | _ | _)
        exact ⟨rfl, rfl⟩
    · dsimp only
      split
      · next hlong =>
        refine (throw _).congr fun moves r' => ⟨?_, ?_⟩
        · rintro ⟨rfl, rfl⟩
          exact .tooLarge text hlong
        · rintro (⟨_, hfits⟩ | _ | _ | _)
          · exact absurd hlong (Nat.not_lt.mpr hfits)
          · exact ⟨rfl, rfl⟩
      · next hfits =>
        refine (pure _).congr fun moves r' => ⟨?_, ?_⟩
        · rintro ⟨rfl, rfl⟩
          exact .written text (Nat.not_lt.mp hfits)
        · rintro (_ | ⟨_, hlong⟩ | _ | _)
          · exact ⟨rfl, rfl⟩
          · exact absurd hlong hfits
  · cases h <;> exact ⟨_, _, rfl⟩

end Inside.Goes

end BrainHost
