import BrainHost.Proofs.Service.Lasting
import BrainHost.Proofs.Update.Cycle

/-! # Delivery

What an update of the runtime does with the state that a brain's update gives: it is delivered once,
after the script's view of the bytes was cut off. -/

namespace BrainHost

section Captured

variable {S : Type} {E : Engine}

/-! ## Captured entry points

Every brain has the entry points that were captured when it was made, whatever scripts and host code
do. -/

def AllCaptured (w : World E (Minded S)) : Prop := ∀ b ∈ w.brains, b.Captured (Minded S)

theorem Brain.captured_lasting :
    Brain.Lasting S (fun _ _ => True) (Brain.Captured (E := E) (Minded S)) where
  made hb := hb.captured
  emptied _ hb := hb
  stored _ _ hb := hb
  rested _ _ _ hb' := hb'

theorem AllCaptured.run (host : Host S) (depth : Nat) (plan : Plan S) {w : World E (Minded S)}
    (h : AllCaptured w) : (plan.act (host.link depth) w).Ends AllCaptured :=
  lasting.run Brain.captured_lasting (.of_true fun _ _ => trivial) host depth plan h

end Captured

variable {E : Engine} {K : HostKind} {α : Type} {link : Link E K} {w v : World E K}

namespace Attempt

theorem orReject_ok {r : Except Rejection Unit}
    (h : (Attempt.orReject (Act.warnOf r)).run link w = .done (.ok ()) v) :
    r = .ok () ∧ v = w := by
  cases r with
  | ok u =>
    cases h
    exact ⟨rfl, rfl⟩
  | error cause => cases h

theorem life_ok {life : Life E}
    (h : (Session.life : Attempt E K (Life E)).run link w = .done (.ok life) v) : v = w := by
  obtain ⟨w', w₁, hget, h⟩ := bind_ok h
  cases hget
  cases hlife : w.life with
  | none =>
    rw [hlife] at h
    cases h
  | some life =>
    rw [hlife] at h
    cases h
    rfl

theorem find_ok {id : String} {number : Nat}
    (h : (Registry.find id : Attempt E K Nat).run link w = .done (.ok number) v) :
    w.registry.lookup id = some number ∧ v = w := by
  obtain ⟨w', w₁, hget, h⟩ := bind_ok h
  cases hget
  cases hfind : w.registry.lookup id with
  | none =>
    rw [hfind] at h
    cases h
  | some found =>
    rw [hfind] at h
    cases h
    exact ⟨rfl, rfl⟩

theorem findForUpdate_ok {id agent state : String} {buffer : ByteArray} {number : Nat}
    (h : (Session.findForUpdate id agent state buffer : Attempt E K Nat).run link w = .done (.ok number) v) :
    buffer.size ≤ Limit.buffer.maxBytes ∧ w.registry.lookup id = some number ∧ v = w := by
  obtain ⟨⟨⟩, w₁, hid, h₁⟩ := bind_ok h
  obtain ⟨⟨⟩, w₂, hagent, h₂⟩ := bind_ok h₁
  obtain ⟨⟨⟩, w₃, hstate, h₃⟩ := bind_ok h₂
  obtain ⟨⟨⟩, w₄, hbuffer, h₄⟩ := bind_ok h₃
  obtain ⟨life, w₅, hlife, h₅⟩ := bind_ok h₄
  obtain ⟨hfind, rfl⟩ := find_ok h₅
  obtain rfl := life_ok hlife
  obtain ⟨hsize, rfl⟩ := orReject_ok hbuffer
  obtain ⟨-, rfl⟩ := orReject_ok hstate
  obtain ⟨-, rfl⟩ := orReject_ok hagent
  obtain ⟨-, rfl⟩ := orReject_ok hid
  refine ⟨?_, hfind, rfl⟩
  unfold Limit.checkLength at hsize
  split at hsize
  · cases hsize
  · next hle => exact Nat.not_lt.mp hle

end Attempt

theorem Brain.updateInside_returns (b : Brain E) {state : String} {buffer : ByteArray} {c c' : E.Context}
    {r : Except Failure (Except Failure String × ByteArray)}
    (h : (b.updateInside state buffer).run c link w = .done (r, c') v) : ∃ p, r = .ok p := by
  rcases Nat.lt_or_ge Limit.buffer.maxBytes buffer.size with hlarge | hsize
  · rw [b.updateInside_tooLarge state hlarge] at h
    cases h
    exact ⟨_, rfl⟩
  · obtain ⟨_, ⟨bytes, hcycle⟩, -⟩ := (Inside.Goes.updateInside state hsize (c, w) (c', v) r).mp h
    exact ⟨_, rfl⟩

theorem Brain.runUpdate_done {number : Nat} {state : String} {buffer bytes : ByteArray}
    {r : Except Failure String} (h : Brain.runUpdate number state buffer link w = .done (r, bytes) v) :
    ∃ (b : Brain E) (c : E.Context) (q : Scene E K), w.brains[number]? = some b ∧ b.context = some c ∧
      (b.updateInside state buffer).run c link (busy number w) = .done (.ok (r, bytes), q.1) q.2 ∧
      v = rested number q.1 q.2 := by
  unfold Brain.runUpdate at h
  rw [Act.bind_apply, Outcome.bind_eq_done] at h
  obtain ⟨r', u, henter, hrest⟩ := h
  rw [Brain.enter_apply] at henter
  cases hfound : w.brains[number]?.bind fun b => b.context.map (b, ·) with
  | none =>
    rw [hfound] at henter
    cases henter
  | some p =>
    obtain ⟨b, c⟩ := p
    rw [hfound] at henter
    obtain ⟨⟨c', u'⟩, hran, rfl⟩ := Outcome.settle_eq_done.mp henter
    have hrun := Inside.run_eq_done.mpr hran
    obtain ⟨b', hb', hc'⟩ := Option.bind_eq_some_iff.mp hfound
    obtain ⟨c'', hc'', hpair⟩ := Option.map_eq_some_iff.mp hc'
    cases hpair
    obtain ⟨p, rfl⟩ := b.updateInside_returns hrun
    cases hrest
    exact ⟨b, c, (c', u'), hb', hc'', hrun, rfl⟩

theorem Session.runUpdate_done {id agent state : String} {buffer bytes : ByteArray}
    {r : Except Failure String}
    (h : Session.runUpdate id agent state buffer link w = .done (r, bytes) v) :
    (bytes = buffer ∧ ∃ failure, r = .error failure) ∨
      ∃ (number : Nat) (b : Brain E) (c : E.Context) (q : Scene E K),
        buffer.size ≤ Limit.buffer.maxBytes ∧ w.registry.lookup id = some number ∧
        w.brains[number]? = some b ∧ b.context = some c ∧
        (b.updateInside state buffer).run c link (busy number w) = .done (.ok (r, bytes), q.1) q.2 ∧
        v = rested number q.1 q.2 := by
  unfold Session.runUpdate at h
  rw [Act.bind_apply, Outcome.bind_eq_done] at h
  obtain ⟨r', u, hfind, hrest⟩ := h
  cases r' with
  | error failure =>
    cases hrest
    exact .inl ⟨rfl, failure, rfl⟩
  | ok number =>
    obtain ⟨hsize, hlookup, rfl⟩ := Attempt.findForUpdate_ok hfind
    obtain ⟨b, c, q, hb, hc, hrun, hv⟩ := Brain.runUpdate_done hrest
    exact .inr ⟨number, b, c, q, hsize, hlookup, hb, hc, hrun, hv⟩

theorem Session.runUpdate_ok {id agent state json : String} {buffer bytes : ByteArray}
    (h : Session.runUpdate id agent state buffer link w = .done (.ok json, bytes) v) :
    ∃ number b c view moves q, w.registry.lookup id = some number ∧ w.brains[number]? = some b ∧
      b.context = some c ∧
      Cycle b state view .encode moves (.ok json) ∧
      Path b link (.attach buffer view :: moves ++ [.detach view bytes]) (c, busy number w) q ∧
      v = rested number q.1 q.2 := by
  obtain ⟨-, failure, hr⟩ | ⟨number, b, c, q, hsize, hlookup, hb, hc, hrun, hv⟩ :=
    Session.runUpdate_done h
  · cases hr
  · obtain ⟨_, ⟨_, hcycle⟩, hpath⟩ :=
      (Inside.Goes.updateInside state hsize (c, busy number w) q _).mp hrun
    obtain rfl := hcycle.ok
    exact ⟨number, b, c, _, _, q, hlookup, hb, hc, hcycle, hpath, hv⟩

theorem Session.updateAgent_apply (id agent state : String) (buffer : ByteArray)
    (deliver : String → Act E K Unit) (link : Link E K) (w : World E K) :
    Session.updateAgent id agent state buffer deliver link w =
      (Session.runUpdate id agent state buffer link w).bind fun p v =>
        match p.1 with
        | .ok json => (deliver json link v).bind fun _ u => .done (.ok (), p.2) u
        | .error failure => (Session.report failure link v).bind fun _ u =>
            .done (.error failure, p.2) u := by
  unfold Session.updateAgent
  rw [Act.bind_apply]
  congr 1
  funext ⟨r, bytes⟩ v
  cases r with
  | ok json => exact Act.bind_apply ..
  | error failure => exact Act.bind_apply ..

/-- An update of the runtime goes well: it delivers a text, once and in some state, and nothing else
is done after that. -/
def Session.Delivers (id agent state : String) (buffer : ByteArray) (link : Link E K)
    (w : World E K) (json : String) (bytes : ByteArray) (v : World E K) : Prop :=
  ∀ deliver, Session.updateAgent id agent state buffer deliver link w =
    (deliver json link v).bind fun _ u => .done (.ok (), bytes) u

/-- An update of the runtime delivers nothing, and fails if it ends. -/
def Session.Withholds (id agent state : String) (buffer : ByteArray) (link : Link E K)
    (w : World E K) : Prop :=
  ∃ o, (∀ deliver, Session.updateAgent id agent state buffer deliver link w = o) ∧
    ∀ r u, o = .done r u → ∃ failure, r.1 = .error failure

theorem Session.updateAgent_delivers (link : Link E K) (w : World E K) (id agent state : String)
    (buffer : ByteArray) :
    (∃ number b c view moves json bytes q, w.registry.lookup id = some number ∧
      w.brains[number]? = some b ∧
      b.context = some c ∧ Cycle b state view .encode moves (.ok json) ∧
      Path b link (.attach buffer view :: moves ++ [.detach view bytes]) (c, busy number w) q ∧
      Session.Delivers id agent state buffer link w json bytes (rested number q.1 q.2)) ∨
    Session.Withholds id agent state buffer link w := by
  cases hrun : Session.runUpdate id agent state buffer link w with
  | stuck =>
    refine .inr ⟨.stuck, fun deliver => ?_, fun r u ho => by cases ho⟩
    rw [Session.updateAgent_apply, hrun, Outcome.bind_stuck]
  | fault v =>
    refine .inr ⟨.fault v, fun deliver => ?_, fun r u ho => by cases ho⟩
    rw [Session.updateAgent_apply, hrun, Outcome.bind_fault]
  | done p v =>
    obtain ⟨r, bytes⟩ := p
    cases r with
    | ok json =>
      obtain ⟨number, b, c, view, moves, q, hlookup, hb, hc, hcycle, hpath, rfl⟩ :=
        Session.runUpdate_ok hrun
      refine .inl ⟨number, b, c, view, moves, json, bytes, q, hlookup, hb, hc, hcycle, hpath,
        fun deliver => ?_⟩
      rw [Session.updateAgent_apply, hrun, Outcome.bind_done]
    | error failure =>
      refine .inr ⟨(Session.report failure link v).bind fun _ u => .done (.error failure, bytes) u,
        fun deliver => ?_, fun r u ho => ?_⟩
      · rw [Session.updateAgent_apply, hrun, Outcome.bind_done]
      · obtain ⟨_, x, -, heq⟩ := Outcome.bind_eq_done.mp ho
        cases heq
        exact ⟨failure, rfl⟩

/-- An engine without scripts. Values are texts, and a context tells what was done to it, the latest
first. One job waits after a call of the update function. -/
def notingEngine : Engine where
  Context := List String
  Value := String
  Module := Unit
  create _ _ := .ok []
  evaluate _ source c := .done ("run" :: c, .ok source)
  global name c := .done (c, .ok name)
  isFunction _ _ := true
  call f _ c := .done (f :: c, .ok ())
  parseJson text c := ("parse" :: c, .ok text)
  stringify v c := .done ("write" :: c, .ok (some v))
  attach _ c := ("attach" :: c, "view")
  detach _ c := ("detach" :: c, .empty)
  jobPending c := c.head? == some updateAgentName
  runJob c := .done ("job" :: c, .ok ())
  compile _ _ c := .done (c, .ok ())
  start _ c := .done (c, .ok "")
  outcome? _ v := some (.ok v)
  namespaceOf _ c := .done (c, .ok "")
  isError _ _ := false
  property v _ c := .done (c, .ok v)
  text? v := some v
  integer? _ := none
  isAbsent _ := false
  headline v c := .done (c, v)
  toText v c := .done (c, some v)
  toInt32 _ c := .done (c, .ok 0)

def notingBrain : Brain notingEngine :=
  { context := some [], source := "", bridge := 0, updateAgent := updateAgentName
    postMessageFlush := some postMessageFlushName, maxPendingJobs := some 3 }

def noting : World notingEngine ⟨Unit, Empty⟩ :=
  { brains := #[notingBrain], registry := [("a", 0)], life := some ⟨"", none⟩, host := () }

end BrainHost
