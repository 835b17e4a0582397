import BrainHost.Proofs.Message.Bounded
import BrainHost.Proofs.Message.Operation
import BrainHost.Proofs.Text.Lossy
import BrainHost.Proofs.Update.Closing

/-! # Results at the C boundary

A native host hands over a function for the result of an update. The function gets the text as bytes up
to the first NUL, so that a text with a NUL inside cannot be told to it. The text of a result holds
none: whatever strings and keys a script makes, control characters are escaped. So the function is
called once for an update that goes well, with all of its text, and never for another one. -/

namespace BrainHost

variable {E : Engine} {K : HostKind} {α β : Type}

/-! ## Operations that keep results to themselves

Nothing that an update does before it has its result calls the host's function for results. What such
an operation does is the same whatever that function does. -/

/-- Two links that call host functions in the same way, that for results apart. -/
def AlikeElsewhere (link link' : Link E K) : Prop :=
  ∀ callback, (∀ json, callback ≠ .result json) → link callback = link' callback

/-- An operation that does not depend on how the function for results is called. -/
def Act.Reticent (m : Act E K α) : Prop := ∀ link link', AlikeElsewhere link link' → m link = m link'

theorem candid_elsewhere : Candid fun callback => ∀ json, callback ≠ .result json where
  debug _ _ _ := by simp
  error _ _ _ := by simp
  service _ _ _ _ := by simp
  getField _ _ _ _ := by simp
  fillString _ _ _ _ := by simp
  setField _ _ _ _ := by simp
  quoting _ _ _ := by simp

namespace Session

theorem runUpdate_reticent (id agent state : String) (buffer : ByteArray) :
    Act.Reticent (runUpdate id agent state buffer : Act E K _) :=
  candid_elsewhere.sessionRunUpdate id agent state buffer

theorem report_reticent (failure : Failure) : Act.Reticent (report failure : Act E K Unit) := by
  have logs (message : String) : Act.Reticent (Act.logError message : Act E K Unit) :=
    Act.Calls.logError fun _ => by simp
  induction failure with
  | rejected cause => exact Act.Calls.pure _
  | alreadyInitialized => exact Act.Calls.modify _
  | notInitialized => exact Act.Calls.modify _
  | resetFailed listing cause ih => exact Act.Calls.bind ih fun _ => logs _
  | _ => exact logs _

end Session

theorem Session.updateAgent_alike {link link' : Link E K} (h : AlikeElsewhere link link') (id agent state : String)
    (buffer : ByteArray) (deliver : String → Act E K Unit) (w : World E K) :
    Session.updateAgent id agent state buffer deliver link w =
      Session.updateAgent id agent state buffer (fun json _ => deliver json link) link' w := by
  refine (Session.updateAgent_apply ..).trans (Eq.trans ?_ (Session.updateAgent_apply ..).symm)
  rw [Session.runUpdate_reticent id agent state buffer link link' h]
  congr 1
  funext p v
  cases p.1 with
  | ok json => rfl
  | error failure =>
    dsimp only
    rw [Session.report_reticent failure link link' h]

namespace Boundary

/-! ## Texts in C -/

/-- What native code finds at a pointer to the bytes of a text and a NUL. -/
def cString (text : String) : ByteArray := upToNul (text.toUTF8.push 0)

theorem findIdx?_loop (bytes : ByteArray) (p : UInt8 → Bool) (i : Nat) :
    ByteArray.findIdx?.loop bytes p i = ((bytes.data.toList.drop i).findIdx? p).map (· + i) := by
  have drop {i : Nat} (h : i < bytes.size) : bytes.data.toList.drop i = bytes[i] :: bytes.data.toList.drop (i + 1) :=
    List.drop_eq_getElem_cons h
  induction i using ByteArray.findIdx?.loop.induct bytes p with
  | case1 i hi found =>
    rw [ByteArray.findIdx?.loop, dif_pos hi, if_pos found, drop hi, List.findIdx?_cons, if_pos found]
    simp
  | case2 i hi other ih =>
    rw [ByteArray.findIdx?.loop, dif_pos hi, if_neg other, ih, drop hi, List.findIdx?_cons, if_neg other,
      Option.map_map]
    congr 1
    funext n
    exact Nat.add_right_comm n i 1
  | case3 i hi =>
    have none : bytes.data.toList.drop i = [] := List.drop_eq_nil_of_le (Nat.not_lt.mp hi)
    rw [ByteArray.findIdx?.loop, dif_neg hi, none]
    rfl

theorem upToNul_toList (bytes : ByteArray) :
    (upToNul bytes).data.toList = bytes.data.toList.takeWhile (· ≠ 0) := by
  have found : bytes.findIdx? (· = 0) = bytes.data.toList.findIdx? (· = 0) := by
    unfold ByteArray.findIdx?
    rw [findIdx?_loop, List.drop_zero]
    simp
  unfold upToNul
  rw [found, List.takeWhile_eq_take_findIdx_not, List.findIdx_eq_getD_findIdx?]
  simp

theorem zero_notMem_utf8EncodeChar {c : Char} (h : 0 < c.toNat) : (0 : UInt8) ∉ String.utf8EncodeChar c := by
  have value : c.toNat = c.val.toNat := rfl
  have nonzero (n : Nat) (hn : n % 256 ≠ 0) : (0 : UInt8) ≠ UInt8.ofNat n := by
    intro e
    have eq := congrArg UInt8.toNat e
    rw [UInt8.toNat_ofNat'] at eq
    exact hn eq.symm
  unfold String.utf8EncodeChar
  dsimp only
  split
  · exact fun hm => nonzero _ (by omega) (List.mem_singleton.mp hm)
  · split
    · simp only [List.mem_cons, List.not_mem_nil, or_false, not_or]
      exact ⟨nonzero _ (by omega), nonzero _ (by omega)⟩
    · split
      · simp only [List.mem_cons, List.not_mem_nil, or_false, not_or]
        exact ⟨nonzero _ (by omega), nonzero _ (by omega), nonzero _ (by omega)⟩
      · simp only [List.mem_cons, List.not_mem_nil, or_false, not_or]
        exact ⟨nonzero _ (by omega), nonzero _ (by omega), nonzero _ (by omega), nonzero _ (by omega)⟩

theorem nonzero_of_positive {text : String} (h : ∀ c ∈ text.toList, 0 < c.toNat) :
    ∀ b ∈ text.toUTF8.data.toList, decide (b ≠ 0) = true := by
  intro b hb
  rw [Text.toUTF8_data, List.mem_flatMap] at hb
  obtain ⟨c, hc, hmem⟩ := hb
  exact decide_eq_true fun e => zero_notMem_utf8EncodeChar (h c hc) (e ▸ hmem)

theorem hasNul_of_positive {text : String} (h : ∀ c ∈ text.toList, 0 < c.toNat) : hasNul text = false := by
  have whole : upToNul text.toUTF8 = text.toUTF8 := by
    apply ByteArray.ext
    apply Array.toList_inj.mp
    rw [upToNul_toList, List.takeWhile_eq_self_iff]
    exact nonzero_of_positive h
  rw [hasNul, whole]
  exact decide_eq_false (Nat.lt_irrefl _)

theorem cString_of_positive {text : String} (h : ∀ c ∈ text.toList, 0 < c.toNat) : cString text = text.toUTF8 := by
  apply ByteArray.ext
  apply Array.toList_inj.mp
  have pushed : (text.toUTF8.push 0).data.toList = text.toUTF8.data.toList ++ [0] := by simp
  rw [cString, upToNul_toList, pushed, List.takeWhile_append_of_pos (nonzero_of_positive h)]
  simp

/-! ## Functions for results -/

/-- A native function for results. It gets the bytes of a text, and it returns and leaves some state
behind or never returns. -/
def ResultFunction (E : Engine) (K : HostKind) := ByteArray → World E K → Option (World E K)

def ResultFunction.call (f : ResultFunction E K) (bytes : ByteArray) (w : World E K) : Outcome (World E K) Reply :=
  match f bytes w with
  | some v => .done .none v
  | none => .stuck

/-- The host's functions, with the one that was handed over for the result. -/
def handed (f : ResultFunction E K) (link : Link E K) : Link E K
  | .result json => f.call (cString json)
  | callback => link callback

theorem handed_alikeElsewhere (f : ResultFunction E K) (link : Link E K) :
    AlikeElsewhere (handed f link) link := by
  intro callback h
  cases callback with
  | result json => exact absurd rfl (h json)
  | _ => rfl

theorem relay_alikeElsewhere {link link' : Link E K} (h : AlikeElsewhere link link') :
    AlikeElsewhere (relay link) (relay link') := relay_alikeOn candid_elsewhere h

/-! ## Results -/

theorem relay_result {json : String} (h : ∀ c ∈ json.toList, 0x20 ≤ c.toNat) (f : ResultFunction E K)
    (link : Link E K) (w : World E K) :
    relay (handed f link) (.result json) w = f.call json.toUTF8 w := by
  have positive : ∀ c ∈ json.toList, 0 < c.toNat := fun c hc => Nat.lt_of_lt_of_le (by decide) (h c hc)
  show forward [json] _ _ (.result json) (handed f link) w = _
  unfold forward
  rw [List.any_cons, hasNul_of_positive positive, List.any_nil]
  show f.call (cString json) w = _
  rw [cString_of_positive positive]

/-- The part of the host's memory that an update is given. -/
def lent (memory : Option ByteArray) (length : Int) : ByteArray :=
  (memory.map fun m => m.extract 0 length.toNat).getD .empty

/-- The state in which the work of an update begins that was let in. -/
def admitted (id agent state : Bytes) (w : World E K) : World E K :=
  hold (taken .sharing w.boundary.holding) (noticed state (noticed agent (noticed id w)))

theorem updateWork_apply {length : Int} (h : outOfRange length = false) (id agent state : Bytes)
    (memory : Option ByteArray) (wanted : Bool) (link : Link E K) (w : World E K) :
    updateWork id agent state memory length wanted link w =
      (Session.updateAgent (decoded id) (decoded agent) (decoded state) (lent memory length) (deliver wanted) link
        w).bind fun p v => .done (p.1.isOk, memory.map fun m => overwrite m p.2) v := by
  unfold updateWork
  rw [h]
  exact Act.bind_apply ..

/-- A call hands a text over: it calls the function for results once, in the state that it has got to and
with these bytes, and succeeds once the function returns. -/
def HandsOver (call : ResultFunction E K → Outcome (World E K) α) (succeeds : α → Bool) (bytes : ByteArray)
    (v : World E K) : Prop :=
  ∃ a, succeeds a = true ∧ ∀ f, call f = (f.call bytes v).bind fun _ u => .done a (release u)

/-- A call leaves the function for results alone: it ends as it does whatever the function is, and does
not succeed. -/
def LeavesAlone (call : ResultFunction E K → Outcome (World E K) α) (succeeds : α → Bool) : Prop :=
  ∃ o, (∀ f, call f = o) ∧ ∀ a u, o = .done a u → succeeds a = false

/-- A call hands over the text that there is, or leaves the function for results alone; and it succeeds
where, and only where, it hands the text over. -/
structure ReportsOnce (call : ResultFunction E K → Outcome (World E K) α) (succeeds : α → Bool)
    (gives : String → World E K → Prop) : Prop where
  cases : (∃ json v, gives json v ∧ HandsOver call succeeds json.toUTF8 v) ∨ LeavesAlone call succeeds
  succeeds_iff : ∀ {f a u}, call f = .done a u →
    (succeeds a = true ↔ ∃ json v, gives json v ∧ HandsOver call succeeds json.toUTF8 v)

theorem HandsOver.succeeds {call : ResultFunction E K → Outcome (World E K) α} {succeeds : α → Bool} {bytes : ByteArray}
    {v : World E K} (h : HandsOver call succeeds bytes v) {f : ResultFunction E K} {a : α} {u : World E K}
    (hcall : call f = .done a u) : succeeds a = true := by
  obtain ⟨b, hb, hover⟩ := h
  rw [hover f, Outcome.bind_eq_done] at hcall
  obtain ⟨reply, x, -, heq⟩ := hcall
  cases heq
  exact hb

theorem ReportsOnce.of_or {call : ResultFunction E K → Outcome (World E K) α} {succeeds : α → Bool}
    {gives : String → World E K → Prop}
    (h : (∃ json v, gives json v ∧ HandsOver call succeeds json.toUTF8 v) ∨ LeavesAlone call succeeds) :
    ReportsOnce call succeeds gives := by
  refine ⟨h, fun hcall => ⟨fun htrue => ?_, fun ⟨_, _, _, hover⟩ => hover.succeeds hcall⟩⟩
  obtain hover | ⟨o, same, hfails⟩ := h
  · exact hover
  · have hfalse := hfails _ _ ((same _).symm.trans hcall)
    rw [htrue] at hfalse
    cases hfalse

theorem ReportsOnce.map {call : ResultFunction E K → Outcome (World E K) α} {succeeds : α → Bool}
    {gives : String → World E K → Prop} (h : ReportsOnce call succeeds gives) {part : α → β} {succeeds' : β → Bool}
    (hpart : ∀ a, succeeds' (part a) = succeeds a) :
    ReportsOnce (fun f => (call f).bind fun a u => .done (part a) u) succeeds' gives := by
  refine .of_or ?_
  obtain ⟨json, v, hgives, a, ha, hover⟩ | ⟨o, same, hfails⟩ := h.cases
  · refine .inl ⟨json, v, hgives, part a, (hpart a).trans ha, fun f => ?_⟩
    dsimp only
    rw [hover f, Outcome.bind_assoc]
    rfl
  · refine .inr ⟨o.bind fun a u => .done (part a) u, fun f => by dsimp only; rw [same f], fun b u heq => ?_⟩
    obtain ⟨a, x, ho, hb⟩ := Outcome.bind_eq_done.mp heq
    cases hb
    exact (hpart a).trans (hfails a _ ho)

section

variable (link : Link Script.engine K) (w : World Script.engine K) (id agent state : Bytes)
  (memory : Option ByteArray) (length : Int)

/-- The runtime's update gives a text, whatever the function for results does, and has got to a state. -/
def Gives (json : String) (v : World Script.engine K) : Prop :=
  ∃ bytes, ∀ f, Session.Delivers (decoded id) (decoded agent) (decoded state) (lent memory length)
    (relay (handed f link)) (admitted id agent state w) json bytes v

/-- The call of an update as one of the function for results. -/
def updateCall (f : ResultFunction Script.engine K) : Outcome (World Script.engine K) (Bool × Option ByteArray) :=
  updateBytes id agent state memory length true (handed f link) w

theorem reportsOnce_of_refused (v : World Script.engine K)
    (h : ∀ f, updateCall link w id agent state memory length f = .done (false, memory) v) :
    ReportsOnce (updateCall link w id agent state memory length) Prod.fst
      (Gives link w id agent state memory length) :=
  .of_or (.inr ⟨_, h, fun a u heq => by cases heq; rfl⟩)

theorem reportsOnce_of_granted
    (h : ∀ f, updateCall link w id agent state memory length f =
      (((Session.updateAgent (decoded id) (decoded agent) (decoded state) (lent memory length) (deliver true)
        (relay (handed f link)) (admitted id agent state w)).bind fun p v =>
          .done (p.1.isOk, memory.map fun m => overwrite m p.2) v).settle release).caught (false, memory) panicked) :
    ReportsOnce (updateCall link w id agent state memory length) Prod.fst
      (Gives link w id agent state memory length) := by
  have alike (f : ResultFunction Script.engine K) := relay_alikeElsewhere (handed_alikeElsewhere f link)
  refine .of_or ?_
  obtain ⟨number, b, c, view, moves, json, bytes, q, -, -, -, hcycle, hpath, hdelivers⟩ | ⟨o, hwithholds, hfails⟩ :=
    Session.updateAgent_delivers (relay link) (admitted id agent state w) (decoded id) (decoded agent)
      (decoded state) (lent memory length)
  · have delivers (f : ResultFunction Script.engine K) : Session.Delivers (decoded id) (decoded agent) (decoded state)
        (lent memory length) (relay (handed f link)) (admitted id agent state w) json bytes (rested number q.1 q.2) :=
      fun deliver => (Session.updateAgent_alike (alike f) ..).trans (hdelivers _)
    refine .inl ⟨json, _, ⟨bytes, delivers⟩, (true, memory.map fun m => overwrite m bytes), rfl, fun f => ?_⟩
    have told : deliver true json (relay (handed f link)) (rested number q.1 q.2) =
        (f.call json.toUTF8 (rested number q.1 q.2)).bind fun _ u => .done () u := by
      rw [← relay_result (hcycle.isState hpath).visible f link]
      exact Act.bind_apply ..
    rw [h, delivers f, told]
    unfold ResultFunction.call
    cases f json.toUTF8 (rested number q.1 q.2) <;> rfl
  · have same (f : ResultFunction Script.engine K) := (Session.updateAgent_alike (alike f) (decoded id) (decoded agent)
      (decoded state) (lent memory length) (deliver true) (admitted id agent state w)).trans (hwithholds _)
    refine .inr ⟨_, fun f => (h f).trans (by rw [same f]), fun a u heq => ?_⟩
    cases o with
    | done r v =>
      obtain ⟨failure, hr⟩ := hfails r v rfl
      cases heq
      simp [hr, Except.isOk, Except.toBool]
    | fault v =>
      cases heq
      rfl
    | stuck => cases heq

theorem updateCall_reportsOnce :
    ReportsOnce (updateCall link w id agent state memory length) Prod.fst
      (Gives link w id agent state memory length) := by
  cases hout : outOfRange length with
  | true =>
    refine reportsOnce_of_refused link w id agent state memory length
      (Act.logged .warn "brain.ffi" "buffer length out of range. Doing nothing."
        (noticed state (noticed agent (noticed id w)))) fun f => ?_
    rw [updateCall, updateBytes_apply, if_pos hout, withRuntime_granted rfl]
    unfold updateWork
    rw [if_pos hout]
    rfl
  | false =>
    have calls (f : ResultFunction Script.engine K) : updateCall link w id agent state memory length f =
        withRuntime .sharing (false, memory) (updateWork id agent state memory length true) (handed f link)
          (noticed state (noticed agent (noticed id w))) := by
      rw [updateCall, updateBytes_apply, hout]
      rfl
    cases hbusy : busy .sharing w.boundary.holding with
    | true =>
      refine reportsOnce_of_refused link w id agent state memory length
        (turnedAway (noticed state (noticed agent (noticed id w)))) fun f => ?_
      rw [calls, withRuntime_refused (by simpa using hbusy)]
    | false =>
      refine reportsOnce_of_granted link w id agent state memory length fun f => ?_
      rw [calls, withRuntime_granted (by simpa using hbusy), updateWork_apply hout]
      simp only [noticed_boundary]
      rfl

/-- **No result is lost.** Whatever the brain, its script, the state and the memory are, an update of
native code calls the function for results once and with all bytes of the text that the runtime's
update gives, and succeeds, or it does not call the function at all and does not succeed. This is so
with bytes and without. -/
theorem results_are_handed_over :
    ReportsOnce (fun f => updateBytes id agent state memory length true (handed f link) w) Prod.fst
      (Gives link w id agent state memory length) ∧
    ReportsOnce (fun f => update id agent state true (handed f link) w) (·)
      (Gives link w id agent state none 0) := by
  refine ⟨updateCall_reportsOnce link w id agent state memory length, ?_⟩
  have plain (f : ResultFunction Script.engine K) : update id agent state true (handed f link) w =
      (updateCall link w id agent state none 0 f).bind fun a u => .done a.1 u := Act.bind_apply ..
  rw [funext plain]
  exact (updateCall_reportsOnce link w id agent state none 0).map fun _ => rfl

end

end Boundary

end BrainHost
