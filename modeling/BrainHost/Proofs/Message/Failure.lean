import BrainHost.Proofs.Message.Size
import BrainHost.Proofs.Table.Fails

/-! # Failures and what they quote

Every operation fails with texts that were measured where they were made: the preview of a state is cut
off, and so no failure is long but for what it quotes. -/

namespace BrainHost

variable {E : Engine} {K : HostKind} {α β : Type} {P : Failure → Prop}

namespace Inside.Fails

theorem infallible {m : Inside E K α} (hm : Infallible m) : Fails P m := by
  intro c link w failure c' v h
  obtain ⟨a, ha⟩ := hm c link w _ v h
  cases ha

theorem pure (a : α) : Fails P (Pure.pure a : Inside E K α) := infallible (.pure a)

theorem throw {failure : Failure} (h : P failure) : Fails P (throw failure : Inside E K α) := by
  intro c link w failure' c' v hrun
  cases hrun
  exact h

theorem bind_of {m : Inside E K α} {f : α → Inside E K β} (hm : Fails P m)
    (hf : ∀ a, (∃ c link w c' v, m.run c link w = .done (.ok a, c') v) → Fails P (f a)) : Fails P (m >>= f) := by
  intro c link w failure c' v h
  obtain ⟨a, c₁, w₁, hfirst, hrest⟩ | ⟨failure', hfirst, heq⟩ := run_bind_eq_done h
  · exact hf a ⟨c, link, w, c₁, w₁, hfirst⟩ hrest
  · cases heq
    exact hm hfirst

theorem bind {m : Inside E K α} {f : α → Inside E K β} (hm : Fails P m) (hf : ∀ a, Fails P (f a)) :
    Fails P (m >>= f) := bind_of hm fun a _ => hf a

theorem throw_bind {failure : Failure} (h : P failure) (f : α → Inside E K β) :
    Fails P (MonadExcept.throw failure >>= f : Inside E K β) := throw h

theorem perform (s : Surroundings E) (run : E.Context → Run E.Context E.Value (E.Context × α)) :
    Fails P (Inside.perform s run : Inside E K α) := infallible (.perform s run)

theorem inspect (f : E.Context → α) : Fails P (Inside.inspect f : Inside E K α) := infallible (.inspect f)

theorem stuck : Fails P (Inside.stuck : Inside E K α) := by
  intro c link w failure c' v h
  cases h

/-! ## Scripts -/

variable {s : Surroundings E}

theorem failWith {failure : String → Diagnostic → ScriptFailure} {activity : String}
    (h : ∀ d, P (.script (failure activity d))) (lookup : Option String → Option String) (thrown : E.Value) :
    Fails P (Inside.failWith s failure activity lookup thrown : Inside E K α) :=
  bind (infallible (.diagnose s thrown lookup)) fun d => throw (h d)

theorem isSyntaxError (thrown : E.Value) : Fails P (Inside.isSyntaxError s thrown : Inside E K Bool) := by
  refine bind (inspect _) fun isError => ?_
  split
  · exact bind (infallible (.stringProperty s thrown "name")) fun _ => pure _
  · exact pure _

theorem evaluate (compiling running source : String) :
    Fails Failure.Measured (Inside.evaluate s compiling running source : Inside E K E.Value) := by
  unfold Inside.evaluate
  split
  · exact throw_bind trivial _
  · refine bind (perform s _) fun r => ?_
    cases r with
    | ok v => exact pure _
    | error thrown =>
      refine bind (isSyntaxError thrown) fun isSyntaxError => ?_
      split <;> exact failWith (fun _ => trivial) _ _

theorem encodeState (v : E.Value) :
    Fails Failure.Measured (Inside.encodeState s v : Inside E K String) := by
  have max : Limit.json.maxBytes < 2 ^ 64 := by decide
  unfold Inside.encodeState
  apply bind (perform s _)
  intro r
  split
  · dsimp only
    split
    · exact throw max
    · exact pure _
  · exact throw trivial
  · exact bind (perform s _) fun _ => throw trivial

theorem readGlobal (h : P (.engine unexpectedException)) (name : String) :
    Fails P (Brain.readGlobal s name : Inside E K E.Value) := by
  refine bind (perform s _) fun r => ?_
  cases r with
  | ok v => exact pure _
  | error thrown => exact throw h

theorem entryPoints (source : String) :
    Fails Failure.Measured (Brain.entryPoints s source : Inside E K (E.Value × Option E.Value)) := by
  refine bind (evaluate _ _ source) fun _ => bind (readGlobal trivial _) fun update => ?_
  refine bind (inspect _) fun callable => ?_
  dsimp only
  split
  · exact throw_bind trivial _
  · exact bind (readGlobal trivial _) fun _ => bind (inspect _) fun _ => pure _

theorem finishFrom (promise : E.Value) (rounds : Nat) :
    Fails P (Brain.finishFrom s promise rounds : Inside E K _) := by
  induction rounds with
  | zero => exact stuck
  | succ rounds ih =>
    refine bind (inspect _) fun outcome => ?_
    cases outcome with
    | some outcome => exact pure _
    | none =>
      refine bind (inspect _) fun pending => ?_
      split
      · exact bind (perform s _) fun _ => ih
      · exact pure _

theorem runModule (b : Brain E) (id source : String) :
    Fails Failure.Measured (b.runModule id source : Inside E K E.Value) := by
  unfold Brain.runModule
  dsimp only
  split
  · exact throw_bind trivial _
  · refine bind (perform _ _) fun compiled => ?_
    cases compiled with
    | error thrown => exact failWith (fun _ => trivial) _ _
    | ok m =>
      refine bind (perform _ _) fun started => ?_
      cases started with
      | error thrown => exact failWith (fun _ => trivial) _ _
      | ok promise =>
        refine bind (finishFrom promise _) fun finished => ?_
        split
        · refine bind (perform _ _) fun r => ?_
          cases r with
          | ok namespaceObject => exact pure _
          | error thrown => exact failWith (fun _ => trivial) _ _
        · exact failWith (fun _ => trivial) _ _
        · exact throw trivial

theorem namespaceInside (b : Brain E) (id : String) :
    Fails Failure.Measured (b.namespaceInside id : Inside E K (Option String)) := by
  unfold Brain.namespaceInside
  split
  · exact bind (encodeState _) fun _ => pure _
  · exact pure _

theorem integerOf (source : String) :
    Fails Failure.Measured (Scratch.integerOf s source : Inside E K Int) := by
  refine bind (evaluate _ _ source) fun v => bind (perform s _) fun r => ?_
  cases r with
  | ok n => exact pure _
  | error thrown => exact throw trivial

end Inside.Fails

/-! ## Updates -/

theorem Cycle.measured {b : Brain E} {state : String} {view : E.Value} {last : Phase} {moves : List (Move E)}
    {failure : Failure} (hstate : state.utf8ByteSize ≤ Limit.json.maxBytes)
    (h : Cycle b state view last moves (.error failure)) : failure.Measured := by
  have max : Limit.json.maxBytes < 2 ^ 64 := by decide
  cases h with
  | decodeFails hread => cases hread with | invalid thrown => exact ⟨state, rfl, hstate⟩
  | updateFails hread hcall => cases hcall; trivial
  | drainFails hread hcall hdrain => cases hdrain <;> trivial
  | flushFails hread hcall hdrain hflush =>
    cases hflush with
    | present flush hflush hcall => cases hcall; trivial
  | encodes hread hcall hdrain hflush hwrite =>
    cases hwrite with
    | tooLarge text hsize => exact max
    | absent => trivial
    | threw thrown reason => trivial

theorem Brain.runUpdate_measured {number : Nat} {state : String} {buffer bytes : ByteArray} {failure : Failure}
    {link : Link E K} {w v : World E K} (hstate : state.utf8ByteSize ≤ Limit.json.maxBytes)
    (h : Brain.runUpdate number state buffer link w = .done (.error failure, bytes) v) : failure.Measured := by
  obtain ⟨b, c, ⟨c', u⟩, -, -, hrun, -⟩ := Brain.runUpdate_done h
  rcases Nat.lt_or_ge Limit.buffer.maxBytes buffer.size with hlarge | hsize
  · cases hrun.symm.trans (b.updateInside_tooLarge state hlarge c link (busy number w))
    exact (by decide : Limit.buffer.maxBytes < 2 ^ 64)
  · obtain ⟨_, ⟨bytes, hcycle⟩, -⟩ :=
      (Inside.Goes.updateInside state hsize (c, busy number w) (c', u) _).mp hrun
    exact hcycle.measured hstate

/-! ## Attempts -/

namespace Attempt.Fails

theorem throw {failure : Failure} (h : P failure) : Fails P (throw failure : Attempt E K α) :=
  finish (r := .error failure) fun _ heq => by cases heq; exact h

theorem orReject_of (h : ∀ cause, P (.rejected cause)) (check : Act E K (Except Rejection Unit)) :
    Fails P (Attempt.orReject check) :=
  (lift check).bind fun r => by
    cases r with
    | ok u => exact pure _
    | error cause => exact throw (h cause)

theorem orReject (check : Act E K (Except Rejection Unit)) : Fails Failure.Measured (Attempt.orReject check) :=
  orReject_of (fun _ => trivial) check

theorem life : Fails Failure.Measured (Session.life : Attempt E K (Life E)) := by
  refine (lift _).bind fun w => ?_
  split
  · exact pure _
  · exact throw trivial

theorem engineConfig : Fails P (Session.engineConfig : Attempt E K EngineConfig) :=
  (lift _).bind fun _ => pure _

theorem find (id : String) : Fails Failure.Measured (Registry.find id : Attempt E K Nat) := by
  refine (lift _).bind fun w => ?_
  split
  · exact pure _
  · exact throw trivial

theorem validateConfig : Fails Failure.Measured (Session.validateConfig : Attempt E K Unit) := by
  have short (config : EngineConfig) (cause : ConfigFailure) (h : config.validate = .error cause) :
      IsShort cause.message := by
    unfold EngineConfig.validate at h
    split at h
    · cases h; decide
    split at h
    · cases h; decide
    split at h
    · cases h; decide
    · cases h
  refine engineConfig.bind fun config => ?_
  cases hvalid : config.validate with
  | ok u => exact pure _
  | error cause => exact throw (short config cause hvalid)

theorem scratchMake (config : EngineConfig) :
    Fails Failure.Measured (Scratch.make config : Attempt E K E.Context) := by
  unfold Scratch.make
  split
  · exact pure _
  · exact throw trivial

theorem scratchRun (source : String) (life : Life E) :
    Fails Failure.Measured (Scratch.run source life : Attempt E K Unit) := by
  refine (orReject _).bind fun _ => ?_
  split
  · exact fault
  · exact (lift _).bind fun _ => (lend (Inside.Fails.evaluate _ _ source) _ _).bind fun _ => pure _

theorem integer (source : String) (config : EngineConfig) :
    Fails Failure.Measured (Scratch.integer source config : Attempt E K Int) :=
  (orReject _).bind fun _ => (scratchMake config).bind fun context =>
    inside (Inside.Fails.integerOf source) (fun _ _ h => finish h) context

theorem make (source : String) (config : EngineConfig) :
    Fails Failure.Measured (Brain.make source config : Attempt E K (Brain E)) := by
  unfold Brain.make
  split
  · exact throw trivial
  · refine (lift _).bind fun bridge => inside (Inside.Fails.entryPoints source) (fun r c h => ?_) _
    exact (finish h).bind fun _ => pure _

theorem reset (id source : String) (config : EngineConfig) :
    Fails Failure.Measured (Registry.reset id source config : Attempt E K Unit) := by
  refine (orReject _).bind fun _ => (orReject _).bind fun _ => lift_bind ?_
  rintro r ⟨link, w, v, hmake⟩
  cases r with
  | ok b => exact (lift _).bind fun _ => lift _
  | error cause => exact throw (make source config link w cause v hmake)

theorem setModule (number : Nat) (id source : String) :
    Fails Failure.Measured (Brain.setModule number id source : Attempt E K Unit) :=
  (orReject _).bind fun _ => (orReject _).bind fun _ =>
    (enter fun b => Inside.Fails.runModule b id source).bind fun _ => lift _

theorem namespaceJson (number : Nat) (id : String) :
    Fails Failure.Measured (Brain.namespaceJson number id : Attempt E K (Option String)) :=
  enter fun b => Inside.Fails.namespaceInside b id

theorem findForUpdate (id agent state : String) (buffer : ByteArray) :
    Fails Failure.Measured (Session.findForUpdate id agent state buffer : Attempt E K Nat) :=
  (orReject _).bind fun _ => (orReject _).bind fun _ => (orReject _).bind fun _ =>
    (orReject _).bind fun _ => life.bind fun _ => find id

end Attempt.Fails

theorem Attempt.insistText_ok {limit : Limit} {text : String} {link : Link E K} {w v : World E K} {u : Unit}
    (h : (Attempt.insistText limit text : Attempt E K Unit).run link w = .done (.ok u) v) :
    limit.check text = .ok () := by
  obtain ⟨r, w₁, hcheck, hrest⟩ := Attempt.bind_ok h
  have checked := (Attempt.Fails.lift_apply (Act.checkText limit text) link w).symm.trans hcheck
  rw [Act.checkText_apply] at checked
  cases checked
  cases hresult : limit.check text with
  | ok u => rfl
  | error cause =>
    rw [hresult] at hrest
    cases hrest

theorem Session.findForUpdate_ok {id agent state : String} {buffer : ByteArray} {link : Link E K}
    {w v : World E K} {number : Nat}
    (h : (Session.findForUpdate id agent state buffer).run link w = .done (.ok number) v) :
    state.utf8ByteSize ≤ Limit.json.maxBytes := by
  obtain ⟨_, w₁, -, h⟩ := Attempt.bind_ok h
  obtain ⟨_, w₂, -, h⟩ := Attempt.bind_ok h
  obtain ⟨_, w₃, hstate, -⟩ := Attempt.bind_ok h
  exact le_of_check (Attempt.insistText_ok hstate)

theorem Session.runUpdate_measured {id agent state : String} {buffer bytes : ByteArray} {failure : Failure}
    {link : Link E K} {w v : World E K}
    (h : Session.runUpdate id agent state buffer link w = .done (.error failure, bytes) v) :
    failure.Measured := by
  obtain ⟨r, w₁, hfind, hrest⟩ := Outcome.bind_eq_done.mp ((Act.bind_apply ..).symm.trans h)
  cases r with
  | ok number => exact Brain.runUpdate_measured (findForUpdate_ok hfind) hrest
  | error failure' =>
    cases hrest
    exact Attempt.Fails.findForUpdate id agent state buffer link w failure v hfind

end BrainHost
