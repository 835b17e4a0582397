import BrainHost.Proofs.Act.Outward
import BrainHost.Proofs.Act.Plain
import BrainHost.Proofs.Service.Call

/-! # States that look alike to scripts

Scripts find out about the runtime by calling services, and by what is logged to the host. Two states
with the same hooks and the same service result look alike to them, whatever the numbers of the bridges
are and whatever other brains there are. Where the host answers from what it is asked alone, scripts
that start in such states do the same and leave such states behind. -/

namespace BrainHost

variable {E : Engine} {K : HostKind} {α β : Type}

/-! ## Outcomes -/

/-- Two operations end in the same way with the same result, in states that are related. -/
inductive Outcome.Twin {σ : Type} (R : σ → σ → Prop) : Outcome σ α → Outcome σ α → Prop
  | done (a : α) {w v : σ} (h : R w v) : Twin R (.done a w) (.done a v)
  | fault {w v : σ} (h : R w v) : Twin R (.fault w) (.fault v)
  | stuck : Twin R .stuck .stuck

namespace Outcome.Twin

variable {σ : Type} {R Q : σ → σ → Prop} {o o' : Outcome σ α}

theorem mono (h : Twin R o o') (hQ : ∀ w v, R w v → Q w v) : Twin Q o o' := by
  cases h with
  | done a h => exact .done a (hQ _ _ h)
  | fault h => exact .fault (hQ _ _ h)
  | stuck => exact .stuck

theorem both {P P' : σ → Prop} (h : Twin R o o') (hP : o.Ends P) (hP' : o'.Ends P') :
    Twin (fun w v => R w v ∧ P w ∧ P' v) o o' := by
  cases h with
  | done a h => exact .done a ⟨h, hP, hP'⟩
  | fault h => exact .fault ⟨h, hP, hP'⟩
  | stuck => exact .stuck

theorem bind {f g : α → σ → Outcome σ β} (h : Twin R o o')
    (hf : ∀ a w v, R w v → Twin Q (f a w) (g a v)) (hQ : ∀ w v, R w v → Q w v) :
    Twin Q (o.bind f) (o'.bind g) := by
  cases h with
  | done a h => exact hf a _ _ h
  | fault h => exact .fault (hQ _ _ h)
  | stuck => exact .stuck

theorem settle {τ : Type} {S : τ → τ → Prop} {f g : σ → τ} (h : Twin R o o')
    (hS : ∀ w v, R w v → S (f w) (g v)) : Twin S (o.settle f) (o'.settle g) := by
  cases h with
  | done a h => exact .done a (hS _ _ h)
  | fault h => exact .fault (hS _ _ h)
  | stuck => exact .stuck

theorem of_done {a : α} {w : σ} (h : Twin R (.done a w) o') : ∃ v, o' = .done a v ∧ R w v := by
  cases h with
  | done a h => exact ⟨_, rfl, h⟩

theorem meet {o₀ : Outcome σ α} (h : Twin R o o₀) (h' : Twin R o' o₀) : Twin (fun _ _ => True) o o' := by
  cases h <;> cases h'
  · exact .done _ trivial
  · exact .fault trivial
  · exact .stuck

end Outcome.Twin

/-- Two operations do the same in states that are related. -/
def Act.Twins (link : Link E K) (R : World E K → World E K → Prop) (m m' : Act E K α) : Prop :=
  ∀ w v, R w v → (m link w).Twin R (m' link v)

namespace Act.Twins

variable {link : Link E K} {R : World E K → World E K → Prop}

theorem pure (a : α) : Twins link R (Pure.pure a) (Pure.pure a) := fun _ _ h => .done a h

theorem bind {m m' : Act E K α} {f f' : α → Act E K β} (hm : Twins link R m m')
    (hf : ∀ a, Twins link R (f a) (f' a)) : Twins link R (m >>= f) (m' >>= f') := by
  intro w v h
  rw [bind_apply, bind_apply]
  exact (hm w v h).bind (fun a w v h => hf a w v h) fun _ _ h => h

end Act.Twins

/-- Two contexts that are the same in states that are related. -/
def Alongside (R : World E K → World E K → Prop) (p q : E.Context × World E K) : Prop := p.1 = q.1 ∧ R p.2 q.2

/-- Two operations inside a context do the same in states that are related. -/
def Inside.Twins (link : Link E K) (R : World E K → World E K → Prop) (m m' : Inside E K α) : Prop :=
  ∀ c w v, R w v → (m c link w).Twin (Alongside R) (m' c link v)

namespace Inside.Twins

variable {link : Link E K} {R : World E K → World E K → Prop}

theorem pure (a : α) : Twins link R (Pure.pure a) (Pure.pure a) := fun _ _ _ h => .done _ ⟨rfl, h⟩

theorem bind {m m' : Inside E K α} {f f' : α → Inside E K β} (hm : Twins link R m m')
    (hf : ∀ a, Twins link R (f a) (f' a)) : Twins link R (m >>= f) (m' >>= f') := by
  intro c w v h
  rw [bind_apply, bind_apply]
  refine (hm c w v h).bind (fun r p q h => ?_) fun _ _ h => h
  obtain ⟨c₁, w₁⟩ := p
  obtain ⟨c₂, w₂⟩ := q
  obtain ⟨rfl, h⟩ : c₁ = c₂ ∧ R w₁ w₂ := h
  cases r with
  | ok a => exact hf a c₁ w₁ w₂ h
  | error failure => exact .done _ ⟨rfl, h⟩

theorem lift {m m' : Act E K α} (hm : Act.Twins link R m m') :
    Twins link R (liftM m) (liftM m') := fun c w v h => by
  rw [lift_apply, lift_apply]
  have settled := (hm w v h).settle (S := Alongside R) (f := fun w => (c, w)) (g := fun w => (c, w))
    fun _ _ h => ⟨rfl, h⟩
  exact settled.bind (fun _ _ _ h => .done _ h) fun _ _ h => h

theorem change (f : E.Context → E.Context × α) : Twins link R (Inside.change f) (Inside.change f) :=
  fun _ _ _ h => .done _ ⟨rfl, h⟩

theorem closing {m m' : Inside E K α} (hm : Twins link R m m') (close : E.Context → E.Context × β) :
    Twins link R (Inside.closing m close) (Inside.closing m' close) := by
  intro c w v h
  have twin := hm c w v h
  unfold Inside.closing
  generalize m c link w = o, m' c link v = o' at twin
  cases twin with
  | done r h =>
    obtain ⟨same, h⟩ := h
    dsimp only
    rw [same]
    exact .done _ ⟨rfl, h⟩
  | fault h => exact .fault ⟨congrArg (fun c => (close c).1) h.1, h.2⟩
  | stuck => exact .stuck

theorem run {m m' : Inside E K α} (hm : Twins link R m m') (c : E.Context) :
    Act.Twins link R (m.run c) (m'.run c) := by
  intro w v h
  have twin := hm c w v h
  rw [run_apply, run_apply]
  generalize m c link w = o, m' c link v = o' at twin
  cases twin with
  | done r h =>
    dsimp only
    rw [h.1]
    exact .done _ h.2
  | fault h => exact .fault h.2
  | stuck => exact .stuck

end Inside.Twins

/-- States that an operation which looks outward cannot tell apart. -/
structure Outside (link : Link E K) (R : World E K → World E K → Prop) : Prop where
  hooks : ∀ {w v}, R w v → v.hooks = w.hooks
  logged : ∀ {w v}, R w v → ∀ journal journal', R { w with journal } { v with journal := journal' }
  invoke : ∀ {callback}, (∀ service args reporter, callback ≠ .callService service args reporter) →
    Act.Twins link R (Act.invoke callback) (Act.invoke callback)

theorem Act.Outward.twins {link : Link E K} {R : World E K → World E K → Prop} (h : Outside link R)
    {m : Act E K α} (hm : m.Outward) : Act.Twins link R m m := by
  induction hm with
  | pure a => exact .pure a
  | bind hm hf ihm ihf => exact ihm.bind ihf
  | record severity target message => exact fun w v hR => .done () (h.logged hR _ _)
  | isSet hook =>
    intro w v hR
    rw [Act.isSet_apply, Act.isSet_apply, h.hooks hR]
    exact .done _ hR
  | invoke hc _ => exact h.invoke hc

/-! ## Hosts -/

/-- A host without state that starts nothing: what its functions do follows from what they are given,
the number of a reporter apart. -/
structure Manners where
  /-- What is reported to a service call, one thing after the other. -/
  reports : (service args : String) → List String
  /-- What a function gives back, unless it panics. -/
  reply : Callback → Option Reply
  blind : ∀ service args reporter other,
    reply (.callService service args reporter) = reply (.callService service args other)

def reportAll (reporter : Nat) : List String → Act E K Unit
  | [] => pure ()
  | text :: texts => do
    let _ ← Act.report reporter text
    reportAll reporter texts

namespace Manners

/-- A host that gives its replies and does nothing else. -/
def quiet (host : Manners) : Link E K := fun callback w =>
  match host.reply callback with
  | some reply => .done reply w
  | none => .fault w

def attend (host : Manners) : Callback → Act E K Reply
  | .callService service args reporter => do
    reportAll reporter (host.reports service args)
    Act.invoke (.callService service args reporter)
  | callback => Act.invoke callback

/-- The sink that is told of a report that failed gives its reply and does nothing else. -/
def link (host : Manners) : Link E K := fun callback w => host.attend callback host.quiet w

variable {host : Manners}

theorem link_of_other {callback : Callback}
    (h : ∀ service args reporter, callback ≠ .callService service args reporter) :
    (host.link callback : World E K → _) = host.quiet callback := by
  cases callback with
  | callService service args reporter => exact absurd rfl (h service args reporter)
  | _ => rfl

theorem quiet_twin {R : World E K → World E K → Prop} (callback : Callback) {w v : World E K}
    (h : R w v) : (host.quiet callback w).Twin R (host.quiet callback v) := by
  unfold quiet
  cases host.reply callback with
  | some reply => exact .done reply h
  | none => exact .fault h

end Manners

/-! ## States that look alike -/

/-- Two states look alike to scripts that call services by a bridge, one in each of the states. -/
structure Echo (bridge bridge' : Nat) (w v : World E K) : Prop where
  hooks : v.hooks = w.hooks
  inFlight : v.inFlight = w.inFlight
  result : resultIn v.results bridge' = resultIn w.results bridge
  stands : bridge < w.results.size
  stands' : bridge' < v.results.size

/-- A call is open in each of the states, and as much was reported to the one as to the other. -/
structure Called (bridge bridge' reporter reporter' : Nat) (w v : World E K) : Prop
    extends Echo bridge bridge' w v where
  opened : ∃ awaiting, w.reporters[reporter]? = some ⟨awaiting, true, bridge⟩ ∧
    v.reporters[reporter']? = some ⟨awaiting, true, bridge'⟩

variable {host : Manners} {bridge bridge' reporter reporter' : Nat} {w v : World E K}

theorem Echo.of_journal (h : Echo bridge bridge' w v) (journal journal' : Array (Entry K.Note)) :
    Echo bridge bridge' { w with journal } { v with journal := journal' } :=
  ⟨h.hooks, h.inFlight, h.result, h.stands, h.stands'⟩

theorem Echo.outside : Outside host.link (Echo (E := E) (K := K) bridge bridge') where
  hooks h := h.hooks
  logged h := h.of_journal
  invoke hc w v h := by
    rw [Act.invoke_apply, Act.invoke_apply, Manners.link_of_other hc]
    exact Manners.quiet_twin _ h

theorem Called.of_journal (h : Called bridge bridge' reporter reporter' w v)
    (journal journal' : Array (Entry K.Note)) :
    Called bridge bridge' reporter reporter' { w with journal } { v with journal := journal' } :=
  ⟨h.toEcho.of_journal journal journal', h.opened⟩

theorem Called.outside :
    Outside host.quiet (Called (E := E) (K := K) bridge bridge' reporter reporter') where
  hooks h := h.hooks
  logged h := h.of_journal
  invoke _ _ _ h := Manners.quiet_twin _ h

/-! ## Service calls -/

theorem resultIn_modify {results : Array (Option String)} {bridge : Nat} (h : bridge < results.size)
    (result : Option String) : resultIn (results.modify bridge fun _ => result) bridge = result := by
  rw [resultIn, Array.getElem?_modify, if_pos rfl]
  simp [h]

namespace Called

theorem heard (h : Called bridge bridge' reporter reporter' w v) :
    Called bridge bridge' reporter reporter' (Act.heard reporter w) (Act.heard reporter' v) where
  toEcho := ⟨h.hooks, h.inFlight, h.result, h.stands, h.stands'⟩
  opened := by
    obtain ⟨awaiting, hw, hv⟩ := h.opened
    exact ⟨false, by simp [Act.heard, Array.getElem?_modify, hw],
      by simp [Act.heard, Array.getElem?_modify, hv]⟩

theorem stored (h : Called bridge bridge' reporter reporter' w v) (result : Option String) :
    Called bridge bridge' reporter reporter' (Act.stored bridge result w) (Act.stored bridge' result v) where
  hooks := h.hooks
  inFlight := h.inFlight
  result := (resultIn_modify h.stands' result).trans (resultIn_modify h.stands result).symm
  stands := by simpa [Act.stored] using h.stands
  stands' := by simpa [Act.stored] using h.stands'
  opened := h.opened

theorem report (text : String) :
    Act.Twins host.quiet (Called (E := E) (K := K) bridge bridge' reporter reporter')
      (Act.report reporter text) (Act.report reporter' text) := by
  intro w v h
  have fails (failure : ServiceFailure) {w v : World E K}
      (h : Called bridge bridge' reporter reporter' w v) :
      (Act.logService failure host.quiet w : Outcome _ (Except ServiceFailure Unit)).Twin
        (Called bridge bridge' reporter reporter') (Act.logService failure host.quiet v) :=
    (Act.Outward.logService failure).twins outside w v h
  obtain ⟨awaiting, hw, hv⟩ := h.opened
  cases hcheck : Limit.json.check text with
  | error cause =>
    rw [Act.report_rejected _ w reporter text hcheck, Act.report_rejected _ v reporter' text hcheck]
    exact fails _ (h.of_journal _ _)
  | ok u =>
    rw [Act.report_open _ w reporter text hcheck hw, Act.report_open _ v reporter' text hcheck hv]
    split
    · exact .done _ (h.heard.stored _)
    · exact fails _ (h.heard.stored _)

theorem reportAll (texts : List String) :
    Act.Twins host.quiet (Called (E := E) (K := K) bridge bridge' reporter reporter')
      (BrainHost.reportAll reporter texts) (BrainHost.reportAll reporter' texts) := by
  induction texts with
  | nil => exact .pure ()
  | cons text texts ih => exact (report text).bind fun _ => ih

theorem attended (service args : String) (h : Called bridge bridge' reporter reporter' w v) :
    (host.link (.callService service args reporter) w).Twin (Called bridge bridge' reporter reporter')
      (host.link (.callService service args reporter') v) := by
  refine (reportAll (host.reports service args)).bind (fun _ w v h => ?_) w v h
  rw [Act.invoke_apply, Act.invoke_apply]
  have same : (host.quiet (.callService service args reporter') v : Outcome (World E K) Reply) =
      host.quiet (.callService service args reporter) v := by
    unfold Manners.quiet
    rw [host.blind service args reporter' reporter]
  rw [same]
  exact Manners.quiet_twin _ h

theorem closed (h : Called bridge bridge' reporter reporter' w v) :
    Echo bridge bridge' (Act.closed reporter w) (Act.closed reporter' v) ∧
      Act.isAwaiting reporter' (Act.closed reporter' v) = Act.isAwaiting reporter (Act.closed reporter w) := by
  obtain ⟨awaiting, hw, hv⟩ := h.opened
  refine ⟨⟨h.hooks, rfl, h.result, h.stands, h.stands'⟩, ?_⟩
  simp [Act.isAwaiting, Act.closed, Array.getElem?_modify, hw, hv]

end Called

namespace Echo

theorem refusal? (h : Echo bridge bridge' w v) (service args : String) :
    Act.refusal? v service args = Act.refusal? w service args := by
  unfold Act.refusal?
  rw [h.hooks, h.inFlight]

theorem opened (h : Echo bridge bridge' w v) :
    Called bridge bridge' w.reporters.size v.reporters.size (Act.opened bridge w)
      (Act.opened bridge' v) where
  hooks := h.hooks
  inFlight := rfl
  result := h.result
  stands := h.stands
  stands' := h.stands'
  opened := ⟨true, by simp [Act.opened], by simp [Act.opened]⟩

theorem callService (service args : String) :
    Act.Twins host.link (Echo (E := E) (K := K) bridge bridge') (Act.callService bridge service args)
      (Act.callService bridge' service args) := by
  intro w v h
  -- Hooks and flag agree, so that both calls are refused, for the same reason, or neither is.
  rw [Act.callService_apply, Act.callService_apply, h.refusal?]
  cases Act.refusal? w service args with
  | some failure =>
    refine .done _ ?_
    cases failure with
    | invalidRequest cause => exact h.of_journal _ _
    | _ => exact h
  | none =>
    have called : (host.link (.callService service args w.reporters.size) (Act.opened bridge w)).Twin _ _ :=
      h.opened.attended service args
    have settled := called.settle (f := Act.closed w.reporters.size) (g := Act.closed v.reporters.size)
      (S := fun x y => Echo bridge bridge' x y ∧
        Act.isAwaiting v.reporters.size y = Act.isAwaiting w.reporters.size x) fun _ _ h => h.closed
    refine settled.bind (fun _ w v h => ?_) fun _ _ h => h.1
    obtain ⟨h, hawaiting⟩ := h
    rw [Act.conclude_apply, Act.conclude_apply, hawaiting]
    refine Outcome.Twin.bind ?_ (fun _ w v h => ?_) fun _ _ h => h
    · split
      · exact (Act.Outward.logError _).twins outside w v h
      · exact .done () h
    · rw [h.result]
      exact .done _ h

theorem serveScript (service args : String) :
    Act.Twins host.link (Echo (E := E) (K := K) bridge bridge') (Act.serveScript bridge service args)
      (Act.serveScript bridge' service args) := by
  refine (callService service args).bind fun r => ?_
  have complains (message : String) : (do Act.logError message; pure none : Act E K (Option String)).Outward :=
    (Act.Outward.logError message).bind fun _ => .pure none
  split
  · exact .pure _
  · exact (complains _).twins outside
  · exact .pure _
  · exact (complains _).twins outside

/-! ## Scripts -/

variable {modules : List (String × StoredModule E.Value)}

theorem serve (request : Request) :
    Act.Twins host.link (Echo (E := E) (K := K) bridge bridge')
      (Act.serve { bridge := some bridge, modules } request)
      (Act.serve { bridge := some bridge', modules } request) := by
  by_cases hservice : ∃ name args, request = .service name args
  · obtain ⟨name, args, rfl⟩ := hservice
    refine (serveScript name args).bind fun r => ?_
    cases r <;> exact .pure _
  · have hother : ∀ name args, request ≠ .service name args := fun name args heq => hservice ⟨name, args, heq⟩
    have same : (Act.serve { bridge := some bridge', modules } request : Act E K _) =
        Act.serve { bridge := some bridge, modules } request := by
      cases request with
      | service name args => exact absurd rfl (hother name args)
      | _ => rfl
    rw [same]
    exact (Act.Outward.serve hother).twins outside

theorem carryOut (run : Run E.Context E.Value (E.Context × α)) :
    Inside.Twins host.link (Echo (E := E) (K := K) bridge bridge')
      (Inside.carryOut { bridge := some bridge, modules } run)
      (Inside.carryOut { bridge := some bridge', modules } run) := by
  induction run with
  | done p => exact .change _
  | ask request meanwhile resume ih =>
    exact (Inside.Twins.change _).bind fun _ => (Inside.Twins.lift (serve request)).bind ih
  | stuck => exact fun _ _ _ _ => .stuck

theorem uniform {m : Nat → Inside E K α}
    (hm : Inside.Uniform (fun n => { bridge := some n, modules }) True m) :
    Inside.Twins host.link (Echo bridge bridge') (m bridge) (m bridge') := by
  induction hm with
  | pure a => exact .pure a
  | throw hinner => exact fun _ _ _ h => .done _ ⟨rfl, h⟩
  | bind hm hf ihm ihf => exact ihm.bind ihf
  | perform hop => exact fun c => carryOut _ c
  | inspect f => exact fun _ _ _ h => .done _ ⟨rfl, h⟩
  | parse text => exact .change _
  | stuck => exact fun _ _ _ _ => .stuck

theorem updateInside (b : Brain E) (state : String) (buffer : ByteArray) :
    Inside.Twins host.link (Echo (E := E) (K := K) bridge bridge')
      ((b.linked bridge).updateInside state buffer) ((b.linked bridge').updateInside state buffer) := by
  refine (Inside.Twins.lift ((Act.Outward.checkLength _ _).twins outside)).bind fun r => ?_
  cases r with
  | error cause => exact .pure _
  | ok u =>
    exact (Inside.Twins.change _).bind fun view => (uniform (.updateWith b state view)).closing _

end Echo

end BrainHost
