import BrainHost.Proofs.Service.Play

/-! # What is told through a reporter

While a call is in flight, the result of its bridge is what the reports through its reporter make of
it, one after the other. Reports through other reporters do not count, nor do calls, which are all
refused then. -/

namespace BrainHost

def isSizeRejected (text : String) : Bool := !(Limit.json.check text).isOk

/-- The result of a bridge after a text is reported for it. -/
def accept (result : Option String) (text : String) : Option String :=
  if isSizeRejected text then result else if Document.isJson text then some text else none

/-- The text whose report through a reporter begins. -/
def Moment.told? (reporter : Nat) (m : Moment) : Option String :=
  match m.turn with
  | .asked (.report r text) => if r = reporter then some text else none
  | _ => none

/-- The texts that are reported through a reporter in a part of a chronicle, the first one first. -/
def told (reporter : Nat) (moments : List Moment) : List String :=
  (moments.filterMap (Moment.told? reporter)).reverse

theorem told_append (reporter : Nat) (later earlier : List Moment) :
    told reporter (later ++ earlier) = told reporter earlier ++ told reporter later := by
  simp [told]

theorem told_single (reporter : Nat) (m : Moment) :
    told reporter [m] = (m.told? reporter).toList := by
  cases h : m.told? reporter <;> simp [told, h]

theorem isSizeRejected_of_error {text : String} {cause : Rejection}
    (h : Limit.json.check text = .error cause) :
    isSizeRejected text = true := by
  simp [isSizeRejected, h, Except.isOk, Except.toBool]

theorem isSizeRejected_of_ok {text : String} (h : Limit.json.check text = .ok ()) :
    isSizeRejected text = false := by
  simp [isSizeRejected, h, Except.isOk, Except.toBool]

theorem accept_rejected (result : Option String) {text : String} (h : isSizeRejected text = true) :
    accept result text = result := by
  simp [accept, h]

theorem accept_fitting (result : Option String) {text : String} (h : isSizeRejected text = false) :
    accept result text = if Document.isJson text then some text else none := by
  simp [accept, h]

variable {S : Type} {E : Engine}

/-- A call of a bridge is in flight, and its reporter is the only open one. -/
structure Flying (bridge reporter : Nat) (w : World E (Minded S)) : Prop where
  inFlight : w.inFlight = true
  own : ∃ awaiting, w.reporters[reporter]? = some ⟨awaiting, true, bridge⟩
  stands : bridge < w.results.size
  only : ∀ other, IsOpenIn w.reporters other → other = reporter

/-- From one state to a later one, the result of the bridge became what the texts make of it that
were told meanwhile, and the reporter waits as long as all of them are rejected. -/
def Tells (bridge reporter : Nat) (w v : World E (Minded S)) : Prop :=
  ∃ moments, v.host.chronicle = moments ++ w.host.chronicle ∧
    resultIn v.results bridge = (told reporter moments).foldl accept (resultIn w.results bridge) ∧
    Act.isAwaiting reporter v =
      (Act.isAwaiting reporter w && (told reporter moments).all isSizeRejected)

namespace Tells

variable {bridge reporter : Nat} {u v w : World E (Minded S)}

theorem trans (h₁ : Tells bridge reporter u v) (h₂ : Tells bridge reporter v w) :
    Tells bridge reporter u w := by
  obtain ⟨first, hc₁, hr₁, ha₁⟩ := h₁
  obtain ⟨second, hc₂, hr₂, ha₂⟩ := h₂
  refine ⟨second ++ first, ?_, ?_, ?_⟩
  · rw [hc₂, hc₁, List.append_assoc]
  · rw [hr₂, hr₁, told_append, List.foldl_append]
  · rw [ha₂, ha₁, told_append, List.all_append, Bool.and_assoc]

theorem of_same (hchron : v.host.chronicle = w.host.chronicle)
    (hres : resultIn v.results bridge = resultIn w.results bridge)
    (hawait : Act.isAwaiting reporter v = Act.isAwaiting reporter w) : Tells bridge reporter w v :=
  ⟨[], by simpa using hchron, by simpa [told] using hres, by simpa [told] using hawait⟩

theorem noted (turn : Turn) (h : ∀ text, turn ≠ .asked (.report reporter text))
    (w : World E (Minded S)) :
    Tells bridge reporter w (BrainHost.noted turn w) := by
  have nothing : told reporter [w.moment turn] = [] := by
    rw [told_single]
    unfold Moment.told?
    split
    · next r text hturn =>
      split
      · next hr => exact absurd (hr ▸ hturn) (h text)
      · rfl
    · rfl
  exact ⟨[w.moment turn], rfl, by rw [nothing]; rfl,
    by simp [nothing, Act.isAwaiting, BrainHost.noted]⟩

theorem text {text : String}
    (hchron : v.host.chronicle = w.moment (.asked (.report reporter text)) :: w.host.chronicle)
    (hres : resultIn v.results bridge = accept (resultIn w.results bridge) text)
    (hawait : Act.isAwaiting reporter v = (Act.isAwaiting reporter w && isSizeRejected text)) :
    Tells bridge reporter w v := by
  have one : told reporter [w.moment (.asked (.report reporter text))] = [text] := by
    simp [told_single, Moment.told?, World.moment]
  exact ⟨[_], hchron, by rw [one]; exact hres, by rw [one]; simpa using hawait⟩

end Tells

/-! ## Reports while a call is in flight -/

theorem resultIn_modify_self {results : Array (Option String)} {bridge : Nat}
    (h : bridge < results.size) (result : Option String) :
    resultIn (results.modify bridge fun _ => result) bridge = result := by
  rw [resultIn, Array.getElem?_modify, if_pos rfl, Array.getElem?_eq_getElem h]
  rfl

theorem Act.isAwaiting_heard (reporter other : Nat) (w : World E (Minded S)) :
    isAwaiting reporter (heard other w) = (isAwaiting reporter w && other ≠ reporter) := by
  unfold isAwaiting heard
  rw [Array.getElem?_modify]
  by_cases h : other = reporter
  · cases w.reporters[reporter]? <;> simp [h]
  · simp [h]

namespace Flying

variable {bridge reporter : Nat} {w : World E (Minded S)}

theorem noted (h : Flying bridge reporter w) (turn : Turn) :
    Flying bridge reporter (BrainHost.noted turn w) :=
  ⟨h.inFlight, h.own, h.stands, h.only⟩

theorem logged (h : Flying bridge reporter w) (severity : Severity) (target message : String) :
    Flying bridge reporter (Act.logged severity target message w) :=
  ⟨h.inFlight, h.own, h.stands, h.only⟩

theorem heard (h : Flying bridge reporter w) (other : Nat) :
    Flying bridge reporter (Act.heard other w) where
  inFlight := h.inFlight
  own := by
    obtain ⟨awaiting, hown⟩ := h.own
    rw [Act.heard, Array.getElem?_modify, hown]
    split
    · exact ⟨false, rfl⟩
    · exact ⟨awaiting, rfl⟩
  stands := h.stands
  only r hr := h.only r ((isOpenIn_hear w.reporters other r).mp hr)

theorem stored (h : Flying bridge reporter w) (result : Option String) :
    Flying bridge reporter (Act.stored bridge result w) where
  inFlight := h.inFlight
  own := h.own
  stands := by
    rw [Act.stored, Array.size_modify]
    exact h.stands
  only := h.only

end Flying

/-- Conduct: while a call is in flight, it stays so, and its bridge has what its reporter is told. -/
def telling (S : Type) (E : Engine) (bridge reporter : Nat) : Conduct E (Minded S) where
  admits link := ∀ callback w, (link callback w).Ends fun v =>
    Flying bridge reporter w → Flying bridge reporter v ∧ Tells bridge reporter w v
  rel w v := Flying bridge reporter w → Flying bridge reporter v ∧ Tells bridge reporter w v
  refl _ h := ⟨h, .of_same rfl rfl rfl⟩
  trans h₁ h₂ h := ⟨(h₂ (h₁ h).1).1, (h₁ h).2.trans (h₂ (h₁ h).1).2⟩

namespace telling

variable {bridge reporter : Nat}

theorem rel_of_same {v w : World E (Minded S)} (hchron : v.host.chronicle = w.host.chronicle)
    (hflag : v.inFlight = w.inFlight) (hrep : v.reporters = w.reporters)
    (hres : v.results = w.results) :
    (telling S E bridge reporter).rel w v := fun h =>
  ⟨⟨hflag.trans h.inFlight, hrep ▸ h.own, hres ▸ h.stands, hrep ▸ h.only⟩,
    .of_same hchron (by rw [hres]) (by rw [Act.isAwaiting, hrep]; rfl)⟩

theorem loud : (telling S E bridge reporter).Loud where
  logged _ _ := rel_of_same rfl rfl rfl rfl
  invoke callback _ _ hl w := hl callback w

theorem bridged (w : World E (Minded S)) :
    (telling S E bridge reporter).rel w { w with results := w.results.push none } := by
  intro h
  refine ⟨⟨h.inFlight, h.own, ?_, h.only⟩, .of_same rfl (resultIn_push w.results bridge) rfl⟩
  rw [Array.size_push]
  exact Nat.lt_succ_of_lt h.stands

theorem callService (other : Nat) (service args : String) :
    Act.Keeps (telling S E bridge reporter) (Act.callService other service args) := by
  intro link hl w
  refine Outcome.Ends.imp fun h => ?_
  cases hr : Act.refusal? w service args with
  | some failure =>
    rw [Act.callService_refused link w other service args hr]
    have same : (telling S E bridge reporter).rel w (Act.refused failure w) := by
      cases failure <;> exact rel_of_same rfl rfl rfl rfl
    exact same h
  | none =>
    -- A call that is not refused finds the flag down.
    have idle := Act.inFlight_of_refusal?_none w service args hr
    rw [h.inFlight] at idle
    cases idle

theorem report (other : Nat) (text : String) :
    Act.Keeps (telling S E bridge reporter) (do
      note (.asked (.report other text))
      Act.report other text : Act E (Minded S) _) := by
  intro link hl w
  refine Outcome.Ends.imp fun h => ?_
  have fails (failure : ServiceFailure) {v : World E (Minded S)}
      (hv : Flying bridge reporter v ∧ Tells bridge reporter w v) :
      (Act.logService failure link v : Outcome _ (Except ServiceFailure Unit)).Ends
        fun x => Flying bridge reporter x ∧ Tells bridge reporter w x :=
    (loud.logService failure link hl v).mono fun x hx => ⟨(hx hv.1).1, hv.2.trans (hx hv.1).2⟩
  have hnoted : Flying bridge reporter (noted (.asked (.report other text)) w) := h.noted _
  have elsewhere (hne : other ≠ reporter) :
      Tells bridge reporter w (noted (.asked (.report other text)) w) :=
    .noted _ (by simp [hne]) w
  rw [Act.bind_apply, note, Act.modify_apply, Outcome.bind_done]
  cases hcheck : Limit.json.check text with
  | error cause =>
    -- The text is told all the same if the reporter is that of the call, and then changes nothing.
    have rejected := isSizeRejected_of_error hcheck
    rw [Act.report_rejected link _ other text hcheck]
    refine fails _ ⟨hnoted.logged _ _ _, ?_⟩
    by_cases hother : other = reporter
    · subst hother
      refine .text rfl ?_ ?_
      · rw [accept_rejected _ rejected]
        rfl
      · rw [rejected, Bool.and_true]
        rfl
    · exact (elsewhere hother).trans (.of_same rfl rfl rfl)
  | ok u =>
    have fitting := isSizeRejected_of_ok hcheck
    by_cases hother : other = reporter
    · subst hother
      obtain ⟨awaiting, hown⟩ := h.own
      have tells (result : Option String)
          (hresult : result = if Document.isJson text then some text else none) :
          Tells bridge other w
            (Act.stored bridge result (Act.heard other (noted (.asked (.report other text)) w))) := by
        refine .text rfl ?_ ?_
        · rw [accept_fitting _ fitting, ← hresult]
          exact resultIn_modify_self h.stands result
        · rw [fitting, Bool.and_false]
          exact (Act.isAwaiting_heard other other w).trans (by simp)
      rw [Act.report_open link (noted _ w) other text hcheck hown]
      split
      · next hjson => exact ⟨(hnoted.heard other).stored _, tells _ (by rw [if_pos hjson])⟩
      · next hjson => exact fails _ ⟨(hnoted.heard other).stored _, tells _ (by rw [if_neg hjson])⟩
    · -- Any other reporter is closed while the call is in flight.
      have hclosed : ¬ IsOpenIn w.reporters other := fun hopen => hother (h.only other hopen)
      rw [Act.report_closed link (noted _ w) other text hcheck hclosed]
      refine fails _ ⟨hnoted.heard other, (elsewhere hother).trans (.of_same rfl rfl ?_)⟩
      rw [Act.isAwaiting_heard]
      simp [hother]

theorem fair : (telling S E bridge reporter).Fair where
  toFree := .of_table loud callService (fun _ _ _ _ => rel_of_same rfl rfl rfl rfl) bridged fun _ _ => trivial
  think _ _ := rel_of_same rfl rfl rfl rfl
  assign _ _ := rel_of_same rfl rfl rfl rfl
  note turn hturn w := fun h => ⟨h.noted turn, .noted turn (hturn reporter) w⟩
  report := report

theorem link (host : Host S) (depth : Nat) :
    (telling S E bridge reporter).admits (host.link depth) := by
  refine fair.link (fun _ h => h) (fun callback w v hv => ?_) host depth
  have enters : (telling S E bridge reporter).rel w (entering callback w) :=
    rel_of_same rfl rfl rfl rfl
  have leaves : (telling S E bridge reporter).rel v (leaving callback v) :=
    rel_of_same rfl rfl rfl rfl
  exact (telling S E bridge reporter).trans ((telling S E bridge reporter).trans enters hv) leaves

end telling

end BrainHost
