import BrainHost.Proofs.Json.Inclusion
import BrainHost.Proofs.Json.Result
import BrainHost.Proofs.Script.Reach
import BrainHost.Proofs.Service.Play

/-! # Accepted results

What a reporter accepts as a result is strict JSON. The engine reads it back for the script, so a
script whose host reported gets a value. -/

namespace BrainHost

/-- A text that reporters accept. -/
structure Acceptable (result : String) : Prop where
  fits : Limit.json.check result = .ok ()
  strict : Document.isJson result = true

/-- Whether a text nests no deeper than the engine's stack. -/
def Shallow (result : String) : Prop :=
  ∀ d, Document.ofJson? result = some d → d.nesting ≤ Script.Json.maxDepth

theorem Acceptable.exists_ofUnits? {result : String} (h : Acceptable result) (shallow : Shallow result) :
    ∃ j, Script.Json.ofUnits? (Script.unitsOf result.toList) = .ok j := by
  obtain ⟨d, hd⟩ := Option.isSome_iff_exists.mp h.strict
  exact Script.Json.exists_ofUnits? hd (shallow d hd)

namespace Script

open Script.Act

/-! ## What a script's call does -/

theorem Res.bind_assoc {α β γ : Type} (x : Res α) (f : α → Realm → Res β) (g : β → Realm → Res γ) :
    (x.bind f).bind g = x.bind fun a r => (f a r).bind g := by
  induction x with
  | ask query r resume ih =>
    show Res.ask query r _ = Res.ask query r _
    congr 1
    funext reply r
    exact ih reply r
  | _ => rfl

theorem Act.bind_assoc {α β γ : Type} (m : Act α) (f : α → Act β) (g : β → Act γ) :
    (m >>= f) >>= g = m >>= fun a => f a >>= g :=
  Act.ext fun r => Res.bind_assoc (m r) (fun a => f a) fun b => g b

/-- The service and the arguments that a script asks for, unless it is told that they are no texts. -/
def serviceRequest (name args : Value) : Act (Option (String × String)) := do
  match ← textOf name with
  | none => do
    let _ ← host .unnamedService
    pure none
  | some service =>
    match ← (writeJson args .undefined .undefined).capture with
    | .thrown e | .left e => do
      let reason ← headline e
      let _ ← host (.unwritableArgs service reason)
      pure none
    | .ok json => pure (some (service, (json.map Str.toText).getD "null"))

/-- What a script gets for the answer to its call. -/
def received : Answer Value → Act Value
  | .service result => do
    match ← (readJson (.ofString result)).capture with
    | .ok v => pure v
    | _ => do
      let _ ← host (.unreadableResult result)
      pure .undefined
  | _ => pure .undefined

/-- What a script gets for its request. -/
def requested : Option (String × String) → Act Value
  | none => pure .undefined
  | some (service, json) => do received (← host (.service service json))

theorem callService_eq (name args : Value) : callService name args = serviceRequest name args >>= requested := by
  unfold serviceRequest
  rw [Act.bind_assoc]
  refine congrArg (textOf name >>= ·) (funext fun text => ?_)
  cases text with
  | none => rw [Act.bind_assoc]; rfl
  | some service =>
    dsimp only
    rw [Act.bind_assoc]
    refine congrArg (capture _ >>= ·) (funext fun exit => ?_)
    -- Whatever keeps the arguments from being written is told to the host in one way.
    have unwritable (e : Value) : ((headline e >>= fun reason => host (.unwritableArgs service reason) >>=
        fun _ => pure none) >>= requested) = headline e >>= fun reason =>
          host (.unwritableArgs service reason) >>= fun _ => pure .undefined := by
      rw [Act.bind_assoc]
      refine congrArg (headline e >>= ·) (funext fun reason => ?_)
      rw [Act.bind_assoc]
      rfl
    cases exit with
    | ok json => rfl
    | thrown e => exact (unwritable e).symm
    | left e => exact (unwritable e).symm

theorem received_ok {result : String} (h : Acceptable result) (shallow : Shallow result) (r : Realm) :
    ∃ v r', received (.service result) r = .ok v r' ∧ v.isUndefined = false := by
  obtain ⟨j, hj⟩ := h.exists_ofUnits? shallow
  refine ⟨(r.ofJson j).1, (r.ofJson j).2, ?_, isUndefined_ofJson r j⟩
  change (((readJson (.ofString result)) r).capture).bind _ = _
  rw [readJson_ok hj]
  rfl

end Script

/-! ## What the runtime keeps -/

section

variable {E : Engine} {K : HostKind}

/-- Every result that a bridge has was accepted. -/
def AllAccepted (w : World E K) : Prop := ∀ bridge result, resultIn w.results bridge = some result → Acceptable result

theorem AllAccepted.of_same {v w : World E K} (h : v.results = w.results) (hw : AllAccepted w) : AllAccepted v := by
  intro bridge result hr
  rw [h] at hr
  exact hw bridge result hr

theorem AllAccepted.stored {w : World E K} (hw : AllAccepted w) (bridge : Nat) {result : Option String}
    (accepted : ∀ text, result = some text → Acceptable text) : AllAccepted (Act.stored bridge result w) := by
  intro other text ht
  by_cases same : other = bridge
  · subst same
    unfold resultIn Act.stored at ht
    rw [Array.getElem?_modify, if_pos rfl] at ht
    cases hx : w.results[other]? with
    | none =>
      rw [hx] at ht
      cases ht
    | some old =>
      rw [hx] at ht
      exact accepted text ht
  · refine hw other text ?_
    rwa [← resultIn_modify_of_ne w.results same fun _ => result]

theorem Act.callService_ok {link : Link E K} {w v : World E K} {bridge : Nat} {service args : String}
    {result : Option String} (h : callService bridge service args link w = .done (.ok result) v) :
    resultIn v.results bridge = result := by
  rw [callService_apply] at h
  cases hr : refusal? w service args with
  | some failure =>
    rw [hr] at h
    cases h
  | none =>
    rw [hr] at h
    dsimp only at h
    obtain ⟨reply, u, -, h⟩ := Outcome.bind_eq_done.mp h
    rw [conclude_apply] at h
    obtain ⟨⟨⟩, x, -, h⟩ := Outcome.bind_eq_done.mp h
    cases h
    rfl

theorem Act.report_ok {link : Link E K} {w v : World E K} {reporter : Nat} {result : String}
    (h : report reporter result link w = .done (.ok ()) v) : Acceptable result := by
  have fails {failure : ServiceFailure} {u : World E K} (h : logService failure link u = .done (.ok ()) v) : False := by
    rw [logService, bind_apply, Outcome.bind_eq_done] at h
    obtain ⟨_, x, -, h⟩ := h
    cases h
  cases hcheck : Limit.json.check result with
  | error cause =>
    rw [report_rejected link w reporter result hcheck] at h
    exact (fails h).elim
  | ok u =>
    by_cases hopen : IsOpenIn w.reporters reporter
    · obtain ⟨⟨awaiting, isOpen, bridge⟩, hx, rfl⟩ := hopen
      rw [report_open link w reporter result hcheck hx] at h
      split at h
      · rename_i strict
        exact ⟨hcheck, strict⟩
      · exact (fails h).elim
    · rw [report_closed link w reporter result hcheck hopen] at h
      exact (fails h).elim

end

variable {S : Type} {E : Engine}

/-- Conduct: all results have been accepted still. -/
def accepting (S : Type) (E : Engine) : Conduct E (Minded S) where
  admits link := ∀ callback w, (link callback w).Ends fun v => AllAccepted w → AllAccepted v
  rel w v := AllAccepted w → AllAccepted v
  refl _ h := h
  trans h₁ h₂ h := h₂ (h₁ h)

namespace accepting

theorem rel_of_same {v w : World E (Minded S)} (h : v.results = w.results) : (accepting S E).rel w v :=
  fun hw => hw.of_same h

theorem attending : (accepting S E).Attending where
  logged _ _ := rel_of_same rfl
  invoke callback _ hl w := hl callback w
  attended _ _ _ := rel_of_same rfl

theorem report (reporter : Nat) (result : String) :
    Act.Keeps (accepting S E) (Act.report reporter result : Act E (Minded S) _) := by
  intro link hl w
  have logs (failure : ServiceFailure) {v : World E (Minded S)} (hv : (accepting S E).rel w v) :
      (Act.logService failure link v : Outcome _ (Except ServiceFailure Unit)).Ends ((accepting S E).rel w) :=
    (attending.loud.logService failure link hl v).mono fun u hu => (accepting S E).trans hv hu
  cases hcheck : Limit.json.check result with
  | error cause =>
    rw [Act.report_rejected link w reporter result hcheck]
    exact logs _ (rel_of_same rfl)
  | ok u =>
    by_cases hopen : IsOpenIn w.reporters reporter
    · obtain ⟨⟨awaiting, isOpen, bridge⟩, hx, rfl⟩ := hopen
      rw [Act.report_open link w reporter result hcheck hx]
      split
      · rename_i strict
        exact fun hw => (hw.of_same (v := Act.heard reporter w) rfl).stored bridge (by
          rintro _ ⟨⟩
          exact ⟨hcheck, strict⟩)
      · exact logs _ fun hw => (hw.of_same (v := Act.heard reporter w) rfl).stored bridge fun _ h => nomatch h
    · rw [Act.report_closed link w reporter result hcheck hopen]
      exact logs _ (rel_of_same rfl)

theorem fair : (accepting S E).Fair where
  toFree := .of_table attending.loud attending.callService (fun _ _ _ _ => rel_of_same rfl)
    (fun w hw bridge result h => hw bridge result (by rwa [resultIn_push] at h)) fun _ _ => trivial
  think _ _ := rel_of_same rfl
  assign _ _ := rel_of_same rfl
  note _ _ _ := rel_of_same rfl
  report reporter result := by
    have asked : Act.Keeps (accepting S E) (note (.asked (.report reporter result))) :=
      Act.Keeps.modify fun _ => rel_of_same rfl
    exact asked.bind fun _ => report reporter result

theorem link (host : Host S) (depth : Nat) : (accepting S E).admits (host.link depth) :=
  fair.link (fun _ h => h) (fun _ _ _ hv => hv) host depth

theorem run (host : Host S) (depth : Nat) (plan : Plan S) {w : World E (Minded S)} (hw : AllAccepted w) :
    (plan.act (host.link depth) w).Ends AllAccepted :=
  (fair.plan plan (host.link depth) (link host depth) w).mono fun _ hv => hv hw

theorem serve (host : Host S) (depth : Nat) {s : Surroundings E} {name args result : String}
    {w v : World E (Minded S)} (hw : AllAccepted w)
    (h : Act.serve s (.service name args) (host.link depth) w = .done (.service result) v) : Acceptable result := by
  obtain ⟨bridge, hcall⟩ := Act.serve_service h
  have kept := attending.callService bridge name args (host.link depth) (link host depth) w
  rw [hcall] at kept
  exact kept hw bridge result (Act.callService_ok hcall)

end accepting

/-- **Accepted results are read.** The engine reads every text that reporters accept, in every
context, if the text does not nest deeper than the engine's stack. A script's call is a request, and
then what is received for the answer: for a result that was accepted it is a value, and the script
does not tell that it cannot read the result. In every run of every host, what scripts are answered
are results that were accepted. -/
theorem accepted_results_are_read (host : Host S) (depth : Nat) :
    (∀ result, Acceptable result → Shallow result →
      (∀ c, ∃ c' v, Script.engine.parseJson result c = (c', .ok v)) ∧
      ∀ r, ∃ v r', Script.received (.service result) r = .ok v r' ∧ v.isUndefined = false) ∧
    (∀ name args, Script.callService name args = Script.serviceRequest name args >>= Script.requested) ∧
    (∀ (link : Link E (Minded S)) w v reporter result,
      Act.report reporter result link w = .done (.ok ()) v → Acceptable result) ∧
    (∀ (w : World E (Minded S)) (plan : Plan S), AllAccepted w → (plan.act (host.link depth) w).Ends AllAccepted) ∧
    ∀ (s : Surroundings E) (w v : World E (Minded S)) name args result, AllAccepted w →
      Act.serve s (.service name args) (host.link depth) w = .done (.service result) v → Acceptable result := by
  refine ⟨fun result accepted shallow => ⟨fun c => ?_, Script.received_ok accepted shallow⟩, Script.callService_eq,
    fun _ _ _ _ _ => Act.report_ok, fun _ plan hw => accepting.run host depth plan hw,
    fun _ _ _ _ _ _ hw h => accepting.serve host depth hw h⟩
  obtain ⟨j, hj⟩ := accepted.exists_ofUnits? shallow
  exact ⟨_, _, Script.parseJson_ok hj c⟩

/-- A result with spellings that few writers use. -/
def oddResult : String := " [-0.5E+400, \"\\uD800\\/\", \x7b\"\":1e-0\x7d]\n"

theorem accepted_results_are_read_odd :
    Acceptable oddResult ∧ Shallow oddResult ∧
    (∀ c, ∃ c' v, Script.engine.parseJson oddResult c = (c', .ok v)) ∧
    ∀ r, ∃ v r', Script.received (.service oddResult) r = .ok v r' ∧ v.isUndefined = false := by
  have accepted : Acceptable oddResult := ⟨by decide +kernel, by decide +kernel⟩
  have nesting : (Document.ofJson? oddResult).map Document.nesting = some 2 := by decide +kernel
  have shallow : Shallow oddResult := by
    intro d hd
    rw [hd] at nesting
    injection nesting with nesting
    rw [nesting]
    decide
  have host : Host Unit := fun _ => .finish .none
  obtain ⟨parsed, received⟩ := (accepted_results_are_read (E := Script.engine) host 1).1 oddResult accepted shallow
  exact ⟨accepted, shallow, parsed, received⟩

end BrainHost
