import BrainHost.Proofs.Boundary.Sight
import BrainHost.Proofs.Message.Run

/-! # The buffer for strings

Native getters of strings write into one buffer, which is lent to them and blanked when they are through. A
getter that calls the runtime again may have another one called, which gets a buffer of its own. What host code
finds of the buffer at each moment is put down, with the functions that run. -/

namespace BrainHost

/-- A call of a native getter of strings, which writes into a buffer. -/
def Callback.fills : Callback → Bool
  | .fillString .. => true
  | _ => false

theorem Callback.blunt_other : Blunt fun callback => callback.fills = false where
  debug _ _ := rfl
  error _ _ := rfl
  service _ _ _ := rfl
  getField _ _ _ := rfl
  setField _ _ _ := rfl
  quoting _ _ := rfl

namespace Boundary

variable {E : Engine} {K : HostKind} {S α : Type}

/-! ## Reading a string -/

/-- The buffer is there to be lent: it was never used, or it is blank. -/
def Spare (buffer : Option ByteArray) : Prop := buffer = some .empty ∨ buffer = some blankBuffer

def lending (w : World E K) : World E K := { w with boundary := { w.boundary with buffer := none } }

def returned (kept : Option ByteArray) (w : World E K) : World E K :=
  { w with boundary := { w.boundary with buffer := kept.map fun _ => blankBuffer } }

/-- The text that is read when a getter is through. -/
def readBack : Reply → String
  | .filled buffer => filledText buffer
  | _ => ""

/-- The buffer that a getter is handed. -/
def offered (kept : Option ByteArray) : ByteArray :=
  match kept with
  | some buffer => if buffer.size = bufferSize then buffer else blankBuffer
  | none => blankBuffer

theorem offered_eq {kept : Option ByteArray} (h : Spare kept ∨ kept = none) : offered kept = blankBuffer := by
  have unused : ¬ ByteArray.empty.size = bufferSize := Nat.ne_of_lt (by decide : 0 < 1024 * 1024)
  rcases h with (rfl | rfl) | rfl
  · rw [offered, if_neg unused]
  · rw [offered]
    split <;> rfl
  · rw [offered]

theorem readString_eq (actor field : Nat) :
    (readString actor field : Act E K Reply) = (do
      let kept := (← Act.get).boundary.buffer
      setBuffer none
      let reply ← Act.invoke (.fillString actor field (offered kept))
      setBuffer (kept.map fun _ => blankBuffer)
      pure (.value (.string (readBack reply)))) := by
  unfold readString
  refine bind_congr fun w => bind_congr fun _ => bind_congr fun reply => ?_
  cases reply <;> rfl

/-- A getter is handed a blank buffer, and the one that is kept is blanked once the getter is through. -/
theorem readString_apply {w : World E K} (h : Spare w.boundary.buffer ∨ w.boundary.buffer = none)
    (actor field : Nat) (link : Link E K) :
    readString actor field link w =
      (link (.fillString actor field blankBuffer) (lending w)).bind fun reply v =>
        .done (.value (.string (readBack reply))) (returned w.boundary.buffer v) := by
  rw [readString_eq, Act.bind_apply, Act.get_apply, Outcome.bind_done, offered_eq h, Act.bind_apply,
    setBuffer, Act.modify_apply, Outcome.bind_done, Act.bind_apply, Act.invoke_apply]
  rfl

/-! ## What there is to see -/

/-- What there is to see of the buffer at a moment at which host code runs. -/
structure Glimpse where
  cue : Cue
  /-- The host functions that are running, the innermost first. -/
  running : List Callback
  buffer : Option ByteArray

structure Vigil (S : Type) where
  own : S
  running : List Callback := []
  /-- The glimpses so far, the latest first. -/
  glimpses : List Glimpse := []

abbrev Vigilant (S : Type) : HostKind := ⟨Vigil S, Empty⟩

def glimpsed (cue : Cue) (w : World E (Vigilant S)) : World E (Vigilant S) :=
  { w with host := { w.host with glimpses := ⟨cue, w.host.running, w.boundary.buffer⟩ :: w.host.glimpses } }

def glance (cue : Cue) : Act E (Vigilant S) Unit := Act.modify (glimpsed cue)

def vigilantCall (call : Call) : Act E (Vigilant S) call.Answer := do
  glance (.called call)
  let answer ← call.act
  glance (.returned call)
  pure answer

def Code.vigilant : Code S → Act E (Vigilant S) Reply
  | .finish reply => pure reply
  | .think change next => do
    Act.modify fun w => { w with host := { w.host with own := change w.host.own } }
    (next (← Act.get).host.own).vigilant
  | .call asked next => do
    let answer ← vigilantCall asked
    (next answer).vigilant

def entering (callback : Callback) (w : World E (Vigilant S)) : World E (Vigilant S) :=
  { w with host := { w.host with running := callback :: w.host.running } }

def leaving (w : World E (Vigilant S)) : World E (Vigilant S) :=
  { w with host := { w.host with running := w.host.running.tail } }

def Code.serving (callback : Callback) (code : Code S) : Act E (Vigilant S) Reply := do
  glance (.entered callback)
  let reply ← code.vigilant
  glance (.left callback)
  pure reply

/-- Calls the functions of a host, which may be nested up to a depth. -/
def guarding (host : Callback → Code S) : Nat → Link E (Vigilant S)
  | 0 => fun _ _ => .stuck
  | depth + 1 => fun callback w =>
    ((host callback).serving callback (guarding host depth) (entering callback w)).settle leaving

/-! ## What is kept -/

/-- Every getter that runs was handed a blank buffer. While none runs the buffer is there to be lent, and
while one runs it is not there. -/
structure Clean (running : List Callback) (buffer : Option ByteArray) : Prop where
  outside : running.any Callback.fills = false → Spare buffer
  inside : running.any Callback.fills = true → buffer = none
  handed : ∀ actor field given, .fillString actor field given ∈ running → given = blankBuffer

/-- The buffer is clean, and was at every glimpse. -/
structure Guarded (w : World E (Vigilant S)) : Prop where
  now : Clean w.host.running w.boundary.buffer
  past : ∀ g ∈ w.host.glimpses, Clean g.running g.buffer

namespace Clean

variable {running : List Callback} {buffer : Option ByteArray}

theorem usable (h : Clean running buffer) : Spare buffer ∨ buffer = none := by
  cases hany : running.any Callback.fills with
  | true => exact .inr (h.inside hany)
  | false => exact .inl (h.outside hany)

theorem cons_iff {callback : Callback} (hother : callback.fills = false) :
    Clean (callback :: running) buffer ↔ Clean running buffer := by
  have same : (callback :: running).any Callback.fills = running.any Callback.fills := by
    rw [List.any_cons, hother, Bool.false_or]
  constructor
  · intro h
    exact ⟨fun hany => h.outside (same.trans hany), fun hany => h.inside (same.trans hany),
      fun actor field given hmem => h.handed actor field given (List.mem_cons_of_mem _ hmem)⟩
  · intro h
    refine ⟨fun hany => h.outside (same.symm.trans hany), fun hany => h.inside (same.symm.trans hany), ?_⟩
    intro actor field given hmem
    rcases List.mem_cons.mp hmem with rfl | hmem
    · cases hother
    · exact h.handed actor field given hmem

theorem lends (h : Clean running buffer) (actor field : Nat) :
    Clean (.fillString actor field blankBuffer :: running) none where
  outside hany := by cases hany
  inside _ := rfl
  handed actor' field' given hmem := by
    rcases List.mem_cons.mp hmem with heq | hmem
    · cases heq
      rfl
    · exact h.handed actor' field' given hmem

theorem returns (h : Clean running buffer) : Clean running (buffer.map fun _ => blankBuffer) where
  outside hany := by
    rcases h.outside hany with hbuffer | hbuffer
    · exact .inr (by rw [hbuffer]; rfl)
    · exact .inr (by rw [hbuffer]; rfl)
  inside hany := by rw [h.inside hany]; rfl
  handed := h.handed

end Clean

namespace Guarded

variable {w v : World E (Vigilant S)}

theorem of_same (h : Guarded w) (hrunning : v.host.running = w.host.running)
    (hglimpses : v.host.glimpses = w.host.glimpses) (hbuffer : v.boundary.buffer = w.boundary.buffer) :
    Guarded v where
  now := by rw [hrunning, hbuffer]; exact h.now
  past := by rw [hglimpses]; exact h.past

theorem glimpsed (h : Guarded w) (cue : Cue) : Guarded (glimpsed cue w) where
  now := h.now
  past := List.forall_mem_cons.mpr ⟨h.now, h.past⟩

theorem enters_iff {callback : Callback} (hother : callback.fills = false) :
    Guarded (entering callback w) ↔ Guarded w :=
  ⟨fun h => ⟨(Clean.cons_iff hother).mp h.now, h.past⟩, fun h => ⟨(Clean.cons_iff hother).mpr h.now, h.past⟩⟩

end Guarded

/-- The buffer stays clean, and the functions that run are the same afterwards. -/
def Minding (w v : World E (Vigilant S)) : Prop := Guarded w → Guarded v ∧ v.host.running = w.host.running

namespace Minding

variable {u v w : World E (Vigilant S)}

theorem refl (w : World E (Vigilant S)) : Minding w w := fun h => ⟨h, rfl⟩

theorem trans (h₁ : Minding u v) (h₂ : Minding v w) : Minding u w := by
  intro hu
  obtain ⟨hv, hrunning⟩ := h₁ hu
  obtain ⟨hw, hrunning'⟩ := h₂ hv
  exact ⟨hw, hrunning'.trans hrunning⟩

theorem of_same (hrunning : v.host.running = w.host.running) (hglimpses : v.host.glimpses = w.host.glimpses)
    (hbuffer : v.boundary.buffer = w.boundary.buffer) : Minding w v :=
  fun h => ⟨h.of_same hrunning hglimpses hbuffer, hrunning⟩

end Minding

/-! ## Under the boundary -/

/-- Conduct: what the runtime does leaves the buffer clean. -/
def minding (E : Engine) (S : Type) : Conduct E (Vigilant S) where
  admits link := ∀ callback w, (link callback w).Ends (Minding w)
  rel := Minding
  refl := .refl
  trans := .trans

namespace minding

theorem lax : (minding E S).Lax where
  logged _ _ := .of_same rfl rfl rfl
  invoke callback _ hl w := hl callback w
  serving _ _ _ _ := .of_same rfl rfl rfl

theorem free : (minding E S).Free :=
  .of_table lax.loud lax.callService (fun _ _ _ _ => Minding.of_same rfl rfl rfl)
    (fun _ => Minding.of_same rfl rfl rfl) fun _ _ => trivial

theorem work (lastReporter : Option Nat) (call : Call) :
    Act.Keeps (minding E S) (call.work lastReporter : Act E (Vigilant S) call.Answer) :=
  Call.work_keeps_of_free free (fun _ _ _ _ => .of_same rfl rfl rfl) fun _ _ _ _ => lax.report _ _

end minding

/-! ## On the boundary -/

/-- Conduct: what is done on the boundary leaves the buffer clean. A host function does not panic, and is
called where the buffer is clean while the function runs. -/
def vigil (E : Engine) (S : Type) : Conduct E (Vigilant S) where
  admits link := (∀ callback w v, link callback w ≠ .fault v) ∧
    ∀ callback w, Guarded (entering callback w) → (link callback w).Ends fun v =>
      Guarded (entering callback v) ∧ v.host.running = w.host.running
  rel := Minding
  refl := .refl
  trans := .trans

namespace vigil

variable {link : Link E (Vigilant S)} (hl : (vigil E S).admits link)
include hl

theorem invoke {callback : Callback} (hother : callback.fills = false) (w : World E (Vigilant S)) :
    (link callback w).Ends (Minding w) := by
  refine Outcome.Ends.imp fun h => ?_
  have called := hl.2 callback w ((Guarded.enters_iff hother).mpr h)
  exact called.mono fun v hv => ⟨(Guarded.enters_iff hother).mp hv.1, hv.2⟩

theorem forward (texts : List String) (target message : String) {callback : Callback}
    (hother : callback.fills = false) (w : World E (Vigilant S)) :
    (Boundary.forward texts target message callback link w).Ends (Minding w) := by
  unfold Boundary.forward
  split
  · exact Minding.of_same rfl rfl rfl
  · exact invoke hl hother w

theorem readString (actor field : Nat) (w : World E (Vigilant S)) :
    (Boundary.readString actor field link w).Ends (Minding w) := by
  refine Outcome.Ends.imp fun h => ?_
  rw [readString_apply h.now.usable]
  have enters : Guarded (entering (.fillString actor field blankBuffer) (lending w)) :=
    ⟨h.now.lends actor field, h.past⟩
  refine (hl.2 _ _ enters).bind_of_calm (hl.1 _ _) fun reply v hv => ?_
  obtain ⟨guarded, hrunning⟩ := hv
  have running : v.host.running = w.host.running := hrunning
  refine ⟨⟨?_, guarded.past⟩, running⟩
  change Clean v.host.running (w.boundary.buffer.map fun _ => blankBuffer)
  rw [running]
  exact h.now.returns

theorem relayed {callback : Callback} (hother : callback.fills = false) (w : World E (Vigilant S)) :
    (Boundary.relayed callback link w).Ends (Minding w) := by
  have relayed := relays (E := E) (K := Vigilant S) callback
  generalize Boundary.relayed callback = m at relayed ⊢
  cases relayed with
  | invoked => exact invoke hl hother w
  | forwarded texts target message => exact forward hl texts target message hother w
  | read actor field => exact readString hl actor field w
  | service service args reporter =>
    split
    · rw [Act.bind_apply]
      have kept : Minding w { w with boundary := { w.boundary with lastReporter := some reporter } } :=
        .of_same rfl rfl rfl
      exact (forward hl _ _ _ hother _).mono fun v hv => kept.trans hv
    · exact forward hl _ _ _ hother w

theorem work (lastReporter : Option Nat) (call : Call) (w : World E (Vigilant S)) :
    (call.work lastReporter (relay link) w).Ends (Minding w) := by
  rw [(work_calls Callback.blunt_other (fun _ => rfl) lastReporter call).only]
  exact minding.work lastReporter call _ (Link.only_ends fun callback hother w => relayed hl hother w) w

theorem call (call : Call) (w : World E (Vigilant S)) : (call.act link w).Ends (Minding w) := by
  cases hbusy : busy (call.use w.boundary.lastReporter) w.boundary.holding with
  | true =>
    obtain ⟨journal, hrefused⟩ := Call.act_refused link hbusy
    rw [hrefused]
    exact Minding.of_same rfl rfl rfl
  | false =>
    rw [Call.act_granted link hbusy]
    obtain ⟨journal, hread⟩ := call.read_eq w
    unfold Call.letIn
    rw [hread]
    have begins : Minding w (hold (taken (call.use w.boundary.lastReporter) w.boundary.holding)
        { w with journal }) := .of_same rfl rfl rfl
    refine ((work hl w.boundary.lastReporter call _).settle fun v hv => ?_).caught _ fun v hv => ?_
    · have back : Minding v (released (call.use w.boundary.lastReporter) v) := by
        cases call.use w.boundary.lastReporter with
        | nothing => exact .refl v
        | _ =>
          unfold released release
          dsimp only
          split <;> exact .of_same rfl rfl rfl
      exact (begins.trans hv).trans back
    · exact hv.trans (.of_same rfl rfl rfl)

omit hl

theorem glance (cue : Cue) : Act.Keeps (vigil E S) (Boundary.glance cue) :=
  Act.Keeps.modify fun _ h => ⟨h.glimpsed cue, rfl⟩

theorem code (code : Code S) : Act.Keeps (vigil E S) (code.vigilant : Act E (Vigilant S) Reply) := by
  induction code with
  | finish reply => exact Act.Keeps.pure reply
  | think change next ih =>
    have thinks (w : World E (Vigilant S)) :
        Minding w { w with host := { w.host with own := change w.host.own } } := .of_same rfl rfl rfl
    exact (Act.Keeps.modify thinks).bind fun _ => Act.Keeps.get.bind fun _ => ih _
  | call asked next ih =>
    have called : Act.Keeps (vigil E S) (vigilantCall asked) :=
      (glance _).bind fun _ => Act.Keeps.bind (fun _ hl w => vigil.call hl asked w) fun _ =>
        (glance _).bind fun _ => .pure _
    exact called.bind fun answer => ih answer

theorem serving (callback : Callback) (code : Code S) :
    Act.Keeps (vigil E S) (code.serving callback : Act E (Vigilant S) Reply) :=
  (glance _).bind fun _ => (vigil.code code).bind fun _ => (glance _).bind fun _ => .pure _

end vigil

theorem vigilantCall_ne_fault (call : Call) (link : Link E (Vigilant S)) (w v : World E (Vigilant S)) :
    vigilantCall call link w ≠ .fault v := by
  rw [vigilantCall, Act.bind_apply, glance, Act.modify_apply, Outcome.bind_done, Act.bind_apply]
  exact Outcome.bind_ne_fault (Call.act_ne_fault call link _) (fun _ _ _ h => by cases h) v

theorem Code.vigilant_ne_fault (code : Code S) (link : Link E (Vigilant S)) (w v : World E (Vigilant S)) :
    code.vigilant link w ≠ .fault v := by
  induction code generalizing w v with
  | finish reply => exact nofun
  | think change next ih => exact ih _ _ _
  | call asked next ih =>
    rw [Code.vigilant, Act.bind_apply]
    exact Outcome.bind_ne_fault (vigilantCall_ne_fault asked link w) ih v

theorem Code.serving_ne_fault (callback : Callback) (code : Code S) (link : Link E (Vigilant S))
    (w v : World E (Vigilant S)) : code.serving callback link w ≠ .fault v := by
  rw [Code.serving, Act.bind_apply, glance, Act.modify_apply, Outcome.bind_done, Act.bind_apply]
  exact Outcome.bind_ne_fault (code.vigilant_ne_fault link _) (fun _ _ _ h => by cases h) v

theorem guarding_admits (host : Callback → Code S) (depth : Nat) :
    (vigil E S).admits (guarding host depth) := by
  -- Functions at depth 0 do not return, and one that is one deeper is code over those below it.
  induction depth with
  | zero => exact ⟨fun _ _ _ => nofun, fun _ _ _ => trivial⟩
  | succ depth ih =>
    refine ⟨fun callback w v => ?_, fun callback w h => ?_⟩
    · have calm := (host callback).serving_ne_fault callback (guarding host depth) (entering callback w)
      exact Outcome.settle_ne_fault calm v
    · have served := vigil.serving callback (host callback) _ ih (entering callback w)
      refine (served.mono fun v hv => hv h).settle fun v hv => ?_
      obtain ⟨guarded, hrunning⟩ := hv
      have around : v.host.running = callback :: w.host.running := hrunning
      have left : v.host.running.tail = w.host.running := by rw [around, List.tail_cons]
      refine ⟨guarded.of_same ?_ rfl rfl, left⟩
      change callback :: v.host.running.tail = v.host.running
      rw [left, around]

/-- No function runs, nothing was seen yet, and the buffer is there to be lent. -/
structure Unread (w : World E (Vigilant S)) : Prop where
  running : w.host.running = []
  glimpses : w.host.glimpses = []
  spare : Spare w.boundary.buffer

theorem Unread.guarded {w : World E (Vigilant S)} (h : Unread w) : Guarded w where
  now := by
    rw [h.running]
    exact ⟨fun _ => h.spare, nofun, fun _ _ _ => nofun⟩
  past := by simp [h.glimpses]

end Boundary

end BrainHost
