import BrainHost.Proofs.Update.Phase

/-! # The update cycle

An update goes through its phases in order and stops at the first one that fails. -/

namespace BrainHost

variable {E : Engine} {K : HostKind}

inductive Phase
  | decode | update | drain | flush | encode
  deriving DecidableEq, Repr

/-- How an update goes, up to a phase: it reads the state, calls the brain's function, does jobs,
flushes, and writes the value that it read. What the first phase that fails gives is what the update
gives. -/
inductive Cycle (b : Brain E) (state : String) (view : E.Value) :
    Phase → List (Move E) → Except Failure String → Prop
  | decodeFails {read : List (Move E)} {failure : Failure}
    (hread : Decoding state read (.error failure)) :
    Cycle b state view .decode read (.error failure)
  | updateFails {v : E.Value} {read called : List (Move E)} {failure : Failure}
    (hread : Decoding state read (.ok v))
    (hcall : Calling "Error while calling updateAgent: " b.updateAgent [v, view] called (.error failure)) :
    Cycle b state view .update (read ++ called) (.error failure)
  | drainFails {v : E.Value} {read called drained : List (Move E)} {failure : Failure}
    (hread : Decoding state read (.ok v))
    (hcall : Calling "Error while calling updateAgent: " b.updateAgent [v, view] called (.ok ()))
    (hdrain : Draining b drained (.error failure)) :
    Cycle b state view .drain (read ++ called ++ drained) (.error failure)
  | flushFails {v : E.Value} {n : Nat} {read called drained flushed : List (Move E)}
    {failure : Failure} (hread : Decoding state read (.ok v))
    (hcall : Calling "Error while calling updateAgent: " b.updateAgent [v, view] called (.ok ()))
    (hdrain : Draining b drained (.ok n)) (hflush : Flushing b v view flushed (.error failure)) :
    Cycle b state view .flush (read ++ called ++ drained ++ flushed) (.error failure)
  | encodes {v : E.Value} {n : Nat} {read called drained flushed written : List (Move E)}
    {r : Except Failure String} (hread : Decoding state read (.ok v))
    (hcall : Calling "Error while calling updateAgent: " b.updateAgent [v, view] called (.ok ()))
    (hdrain : Draining b drained (.ok n)) (hflush : Flushing b v view flushed (.ok ()))
    (hwrite : Encoding v written r) :
    Cycle b state view .encode (read ++ called ++ drained ++ flushed ++ written) r

namespace Inside.Goes

variable {b : Brain E} {link : Link E K}

def phases (b : Brain E) (state : String) (view : E.Value) : Course E String :=
  Course.andThen (Decoding state) fun v =>
    Course.andThen (Calling "Error while calling updateAgent: " b.updateAgent [v, view]) fun _ =>
      Course.andThen (Draining b) fun _ => Course.andThen (Flushing b v view) fun _ => Encoding v

theorem phases_iff {state : String} {view : E.Value} {moves : List (Move E)}
    {r : Except Failure String} :
    phases b state view moves r ↔ ∃ last, Cycle b state view last moves r := by
  -- Each failing phase ends the course at its own depth, and one case is left for the last phase.
  constructor
  · rintro (⟨failure, hread, rfl⟩ | ⟨v, read, _, hread, hrest, rfl⟩)
    · exact ⟨_, .decodeFails hread⟩
    obtain ⟨failure, hcall, rfl⟩ | ⟨_, called, _, hcall, hrest, rfl⟩ := hrest
    · exact ⟨_, .updateFails hread hcall⟩
    obtain ⟨failure, hdrain, rfl⟩ | ⟨n, drained, _, hdrain, hrest, rfl⟩ := hrest
    · rw [← List.append_assoc]
      exact ⟨_, .drainFails hread hcall hdrain⟩
    obtain ⟨failure, hflush, rfl⟩ | ⟨_, flushed, written, hflush, hwrite, rfl⟩ := hrest
    · rw [← List.append_assoc, ← List.append_assoc]
      exact ⟨_, .flushFails hread hcall hdrain hflush⟩
    · rw [← List.append_assoc, ← List.append_assoc, ← List.append_assoc]
      exact ⟨_, .encodes hread hcall hdrain hflush hwrite⟩
  · rintro ⟨last, h⟩
    cases h with
    | decodeFails hread => exact .inl ⟨_, hread, rfl⟩
    | updateFails hread hcall => exact .inr ⟨_, _, _, hread, .inl ⟨_, hcall, rfl⟩, rfl⟩
    | drainFails hread hcall hdrain =>
      exact .inr ⟨_, _, _, hread, .inr ⟨_, _, _, hcall, .inl ⟨_, hdrain, rfl⟩, rfl⟩,
        List.append_assoc ..⟩
    | flushFails hread hcall hdrain hflush =>
      refine .inr ⟨_, _, _, hread,
        .inr ⟨_, _, _, hcall, .inr ⟨_, _, _, hdrain, .inl ⟨_, hflush, rfl⟩, rfl⟩, rfl⟩, ?_⟩
      rw [List.append_assoc, List.append_assoc]
    | encodes hread hcall hdrain hflush hwrite =>
      refine .inr ⟨_, _, _, hread, .inr ⟨_, _, _, hcall, .inr ⟨_, _, _, hdrain,
        .inr ⟨_, _, _, hflush, hwrite, rfl⟩, rfl⟩, rfl⟩, ?_⟩
      rw [List.append_assoc, List.append_assoc, List.append_assoc]

theorem updateWith_eq (b : Brain E) (state : String) (view : E.Value) :
    (b.updateWith state view : Inside E K String) =
      Inside.decodeState state >>= fun v =>
        b.callEntry "Error while calling updateAgent: " b.updateAgent [v, view] >>= fun _ =>
          b.drain >>= fun _ =>
            (match b.postMessageFlush with
              | some flush => b.callEntry "Error while calling postMessageFlush: " flush [v, view]
              | none => Pure.pure ()) >>= fun _ => Inside.encodeState b.surroundings v := by
  unfold Brain.updateWith
  cases b.postMessageFlush <;> rfl

theorem updateWith (state : String) (view : E.Value) :
    Goes b link (b.updateWith state view) fun moves r =>
      ∃ last, Cycle b state view last moves r := by
  rw [updateWith_eq]
  have whole : Goes b link _ (phases b state view) :=
    (decodeState state).bind fun v => (callEntry _ _ _).bind fun _ =>
      drain.bind fun _ => (flush v view).bind fun _ => encodeState v
  exact whole.congr fun _ _ => phases_iff

theorem closing {α β : Type} {m : Inside E K α} {course : Course E α} (hm : Goes b link m course)
    (close : E.Context → E.Context × β) (move : β → Move E)
    (hclose : ∀ p q a, (move a).Leads b link p q ↔ close p.1 = (q.1, a) ∧ q.2 = p.2) :
    Goes b link (Inside.closing m close) fun moves r =>
      ∃ before r' a, course before r' ∧ moves = before ++ [move a] ∧ r = .ok (r', a) := by
  rintro p ⟨c', w'⟩ r
  rw [run_closing, Act.bind_apply, Outcome.bind_eq_done]
  constructor
  · rintro ⟨⟨r', c⟩, w, hrun, heq⟩
    cases heq
    obtain ⟨before, hbefore, hpath⟩ := (hm p (c, w') r').mp hrun
    have last : (move (close c).2).Leads b link (c, w') ((close c).1, w') := (hclose _ _ _).mpr ⟨rfl, rfl⟩
    exact ⟨_, ⟨before, r', _, hbefore, rfl, rfl⟩, Path.append.mpr ⟨_, hpath, Path.single.mpr last⟩⟩
  · rintro ⟨_, ⟨before, r', a, hbefore, rfl, rfl⟩, hpath⟩
    obtain ⟨x, hfirst, hlast⟩ := Path.append.mp hpath
    obtain ⟨hcut, rfl⟩ : close x.1 = (c', a) ∧ w' = x.2 := (hclose _ _ _).mp (Path.single.mp hlast)
    refine ⟨(r', x.1), x.2, (hm p x r').mpr ⟨before, hbefore, hfirst⟩, ?_⟩
    dsimp only
    rw [hcut]
    rfl

end Inside.Goes

/-- How an update goes as a whole: the view is made before the cycle and cut off after it, however
the cycle ends. -/
inductive Updating (b : Brain E) (state : String) (buffer : ByteArray) :
    List (Move E) → Except Failure (Except Failure String × ByteArray) → Prop
  | ends {view : E.Value} {last : Phase} {moves : List (Move E)} {r : Except Failure String}
    (bytes : ByteArray) (hcycle : Cycle b state view last moves r) :
    Updating b state buffer (.attach buffer view :: moves ++ [.detach view bytes]) (.ok (r, bytes))

namespace Inside.Goes

variable {b : Brain E} {link : Link E K}

/-- The part of an update after its bytes were checked. -/
def viewed (b : Brain E) (state : String) (buffer : ByteArray) :
    Inside E K (Except Failure String × ByteArray) := do
  let view ← Inside.change (E.attach buffer)
  Inside.closing (b.updateWith state view) (E.detach view)

theorem viewed_goes (state : String) (buffer : ByteArray) :
    Goes b link (viewed b state buffer) (Updating b state buffer) := by
  have attached : Goes b link (Inside.change (E.attach buffer)) (.one (Move.attach buffer)) :=
    change fun _ _ _ => Iff.rfl
  have cycle (view : E.Value) : Goes b link (b.updateWith state view) _ := updateWith state view
  have closed (view : E.Value) := (cycle view).closing (E.detach view) (Move.detach view) fun _ _ _ => Iff.rfl
  refine (attached.bind closed).congr fun moves r => Course.one_andThen.trans ⟨?_, ?_⟩
  · rintro ⟨view, _, rfl, before, r', bytes, ⟨last, hcycle⟩, rfl, rfl⟩
    exact .ends bytes hcycle
  · rintro ⟨bytes, hcycle⟩
    exact ⟨_, _, rfl, _, _, bytes, ⟨_, hcycle⟩, rfl, rfl⟩

theorem updateInside_eq (b : Brain E) (state : String) {buffer : ByteArray}
    (h : buffer.size ≤ Limit.buffer.maxBytes) :
    (b.updateInside state buffer : Inside E K _) = viewed b state buffer := by
  have hcheck : Limit.buffer.checkLength buffer.size = .ok () := if_neg (Nat.not_lt.mpr h)
  have hpure : (Act.checkLength .buffer buffer.size : Act E K _) = Pure.pure (.ok ()) := by
    rw [Act.checkLength, hcheck]
    rfl
  unfold Brain.updateInside
  rw [hpure]
  rfl

theorem updateInside (state : String) {buffer : ByteArray}
    (h : buffer.size ≤ Limit.buffer.maxBytes) :
    Goes b link (b.updateInside state buffer) (Updating b state buffer) := by
  rw [updateInside_eq b state h]
  exact viewed_goes state buffer

end Inside.Goes

theorem Brain.updateInside_tooLarge (b : Brain E) (state : String) {buffer : ByteArray}
    (h : Limit.buffer.maxBytes < buffer.size) (c : E.Context) (link : Link E K) (w : World E K) :
    (b.updateInside state buffer).run c link w =
      .done (.ok (.error (.marshal (.bufferTooLarge buffer.size Limit.buffer.maxBytes)), buffer), c)
        (Act.checked (.error (.tooLong .buffer buffer.size)) w) := by
  have hcheck : Limit.buffer.checkLength buffer.size = .error (.tooLong .buffer buffer.size) := if_pos h
  have hwarn : (Act.checkLength .buffer buffer.size : Act E K _) =
      Act.warnOf (.error (.tooLong .buffer buffer.size)) := congrArg Act.warnOf hcheck
  unfold Brain.updateInside
  rw [hwarn]
  rfl

/-! ## Calls of a cycle -/

def Move.call? : Move E → Option (E.Value × List E.Value)
  | call f args _ => some (f, args)
  | _ => none

def callsOf (moves : List (Move E)) : List (E.Value × List E.Value) := moves.filterMap Move.call?

theorem callsOf_append (first second : List (Move E)) :
    callsOf (first ++ second) = callsOf first ++ callsOf second := List.filterMap_append

theorem Decoding.calls {text : String} {moves : List (Move E)} {r : Except Failure E.Value}
    (h : Decoding text moves r) :
    callsOf moves = [] := by
  cases h <;> rfl

theorem Calling.calls {activity : String} {f : E.Value} {args : List E.Value}
    {moves : List (Move E)} {r : Except Failure Unit} (h : Calling activity f args moves r) :
    callsOf moves = [(f, args)] := by
  cases h <;> rfl

theorem callsOf_jobs (n : Nat) (rest : List (Move E)) :
    callsOf (jobs n ++ rest) = callsOf rest := by
  induction n with
  | zero => rfl
  | succ n ih => exact ih

theorem Draining.calls {b : Brain E} {moves : List (Move E)} {r : Except Failure Nat}
    (h : Draining b moves r) :
    callsOf moves = [] := by
  cases h <;> exact callsOf_jobs ..

theorem Flushing.calls {b : Brain E} {v view : E.Value} {moves : List (Move E)}
    {r : Except Failure Unit} (h : Flushing b v view moves r) :
    callsOf moves = (b.postMessageFlush.map fun flush => (flush, [v, view])).toList := by
  cases h with
  | absent hflush => rw [hflush]; rfl
  | present flush hflush hcall => rw [hflush, hcall.calls]; rfl

theorem Encoding.writes {v : E.Value} {moves : List (Move E)} {r : Except Failure String}
    (h : Encoding v moves r) :
    ∃ result, .write v result ∈ moves := by
  cases h <;> exact ⟨_, List.mem_cons_self⟩

theorem Encoding.calls {v : E.Value} {moves : List (Move E)} {r : Except Failure String}
    (h : Encoding v moves r) :
    callsOf moves = [] := by
  cases h <;> rfl

/-- The calls of a brain's functions in an update that gets to a phase. -/
def Brain.callsUpTo (b : Brain E) (v view : E.Value) : Phase → List (E.Value × List E.Value)
  | .decode => []
  | .update | .drain => [(b.updateAgent, [v, view])]
  | .flush | .encode =>
      (b.updateAgent, [v, view]) :: (b.postMessageFlush.map fun flush => (flush, [v, view])).toList

/-- All functions are called on the value that was read, and it is this value that is written. -/
theorem Cycle.calls {b : Brain E} {state : String} {view : E.Value} {last : Phase}
    {moves : List (Move E)} {r : Except Failure String} (h : Cycle b state view last moves r) :
    ∃ v, callsOf moves = b.callsUpTo v view last ∧ (last ≠ .decode → .parse state (.ok v) ∈ moves) ∧
      (last = .encode → ∃ result, .write v result ∈ moves) := by
  have reads {v : E.Value} {moves : List (Move E)} (h : Decoding state moves (.ok v)) :
      .parse state (.ok v) ∈ moves := by
    cases h
    exact List.mem_singleton_self _
  cases h with
  | decodeFails hread => exact ⟨view, hread.calls, by simp, by simp⟩
  | @updateFails v _ _ _ hread hcall =>
    refine ⟨v, ?_, by simp [reads hread], by simp⟩
    rw [callsOf_append, hread.calls, hcall.calls]
    rfl
  | @drainFails v _ _ _ _ hread hcall hdrain =>
    refine ⟨v, ?_, by simp [reads hread], by simp⟩
    rw [callsOf_append, callsOf_append, hread.calls, hcall.calls, hdrain.calls]
    rfl
  | @flushFails v _ _ _ _ _ _ hread hcall hdrain hflush =>
    refine ⟨v, ?_, by simp [reads hread], by simp⟩
    rw [callsOf_append, callsOf_append, callsOf_append, hread.calls, hcall.calls, hdrain.calls,
      hflush.calls]
    rfl
  | @encodes v _ _ _ _ _ _ _ hread hcall hdrain hflush hwrite =>
    obtain ⟨result, hresult⟩ := hwrite.writes
    refine ⟨v, ?_, by simp [reads hread], fun _ => ⟨result, List.mem_append_right _ hresult⟩⟩
    rw [callsOf_append, callsOf_append, callsOf_append, callsOf_append, hread.calls, hcall.calls,
      hdrain.calls, hflush.calls, hwrite.calls, List.append_nil]
    rfl

theorem mem_jobs {n : Nat} {move : Move E} (h : move ∈ jobs n) : move = .look true ∨ move = .job (.ok ()) := by
  simp only [jobs, List.mem_flatten, List.mem_replicate] at h
  obtain ⟨_, ⟨-, rfl⟩, hmove⟩ := h
  simpa using hmove

theorem Cycle.closed {b : Brain E} {state : String} {view : E.Value} {last : Phase}
    {moves : List (Move E)} {r : Except Failure String} (h : Cycle b state view last moves r)
    {P : List (Move E) → Prop} (hnil : P [])
    (happend : ∀ {first second}, P first → P second → P (first ++ second))
    (hread : ∀ {moves r}, Decoding state moves r → P moves)
    (hcall : ∀ {activity f args moves r}, Calling activity f args moves r → P moves)
    (hdrain : ∀ {moves r}, Draining b moves r → P moves)
    (hwrite : ∀ {v moves r}, Encoding v moves r → P moves) : P moves := by
  have flushed {v r} {moves : List (Move E)} (h : Flushing b v view moves r) : P moves := by
    cases h with
    | absent _ => exact hnil
    | present _ _ h => exact hcall h
  cases h with
  | decodeFails read => exact hread read
  | updateFails read called => exact happend (hread read) (hcall called)
  | drainFails read called drained => exact happend (happend (hread read) (hcall called)) (hdrain drained)
  | flushFails read called drained flush =>
    exact happend (happend (happend (hread read) (hcall called)) (hdrain drained)) (flushed flush)
  | encodes read called drained flush written =>
    exact happend (happend (happend (happend (hread read) (hcall called)) (hdrain drained))
      (flushed flush)) (hwrite written)

theorem Cycle.begins {b : Brain E} {state : String} {view : E.Value} {last : Phase}
    {moves : List (Move E)} {r : Except Failure String} (h : Cycle b state view last moves r)
    (hlast : last ≠ .decode) :
    ∃ v result rest, moves = .parse state (.ok v) :: .call b.updateAgent [v, view] result :: rest := by
  have first {v : E.Value} {r : Except Failure Unit} {read called : List (Move E)} (rest : List (Move E))
      (hread : Decoding state read (.ok v))
      (hcall : Calling "Error while calling updateAgent: " b.updateAgent [v, view] called r) :
      ∃ v result after, read ++ called ++ rest =
        .parse state (.ok v) :: .call b.updateAgent [v, view] result :: after := by
    cases hread
    cases hcall <;> exact ⟨_, _, _, rfl⟩
  cases h with
  | decodeFails hread => exact absurd rfl hlast
  | updateFails hread hcall => simpa using first [] hread hcall
  | drainFails hread hcall hdrain => exact first _ hread hcall
  | flushFails hread hcall hdrain hflush =>
    rw [List.append_assoc]
    exact first _ hread hcall
  | encodes hread hcall hdrain hflush hwrite =>
    rw [List.append_assoc, List.append_assoc]
    exact first _ hread hcall

/-! ## How a cycle ends -/

theorem Cycle.ok {b : Brain E} {state json : String} {view : E.Value} {last : Phase}
    {moves : List (Move E)} (h : Cycle b state view last moves (.ok json)) : last = .encode := by
  cases h
  rfl

/-- The phase of an update that a failure tells of. -/
def Failure.phase? : Failure → Option Phase
  | marshal (.invalidState _) => some .decode
  | script (.exception activity _) =>
    if activity = "Error while calling updateAgent: " then some .update
    else if activity = "Exception caught while pumping pending jobs: " then some .drain
    else if activity = "Error while calling postMessageFlush: " then some .flush
    else none
  | script (.pendingJobLimit _) => some .drain
  | marshal (.unserializable _) => some .encode
  | marshal (.resultTooLarge _ _) => some .encode
  | _ => none

theorem Cycle.failure {b : Brain E} {state : String} {view : E.Value} {last : Phase}
    {moves : List (Move E)} {failure : Failure}
    (h : Cycle b state view last moves (.error failure)) : failure.phase? = some last := by
  cases h with
  | decodeFails hread => cases hread; rfl
  | updateFails hread hcall => cases hcall; rfl
  | drainFails hread hcall hdrain => cases hdrain <;> rfl
  | flushFails hread hcall hdrain hflush =>
    cases hflush with
    | present flush hflush hcall => cases hcall; rfl
  | encodes hread hcall hdrain hflush hwrite => cases hwrite <;> rfl

end BrainHost
