import BrainHost.Proofs.Boundary.Call

/-! # Host code behind the C boundary

Native host code is a sequence of calls of the boundary, each chosen by what came of those before.
Host functions are such code as well, and may call the runtime again while it runs. What host code
finds at each moment is kept in a chronicle. -/

namespace BrainHost.Boundary

/-- Host code with a state of its own. It does not panic, because panics do not cross into C. -/
inductive Code (S : Type)
  | finish (reply : Reply)
  | think (change : S → S) (next : S → Code S)
  | call (call : Call) (next : call.Answer → Code S)

/-- The set of brains with their sources, and whether the runtime is initialized. -/
structure Standing where
  path : Option String
  registry : List (String × Nat)
  sources : List String
  deriving DecidableEq

/-- What a host has the runtime keep for it. -/
structure Shown (E : Engine) extends Standing where
  modules : List (List (String × StoredModule E.Value))
  hooks : Hooks
  results : Array (Option String)

variable {E : Engine} {S : Type}

def shown {K : HostKind} (w : World E K) : Shown E where
  path := w.life.map Life.path
  registry := w.registry
  sources := w.brains.toList.map Brain.source
  modules := w.brains.toList.map Brain.modules
  hooks := w.hooks
  results := w.results

/-- A call that is running: what it needs, whether it was turned away, and what it found. -/
structure Stay (E : Engine) where
  call : Call
  use : Use
  refused : Bool
  found : Shown E

/-- How a call holds the runtime. -/
def Stay.holds (stay : Stay E) : Use := if stay.refused then .nothing else stay.use

/-- How the runtime is held while calls run, the innermost first. -/
def holdingOf : List (Stay E) → Holding
  | [] => .shared 0
  | stay :: rest => taken stay.holds (holdingOf rest)

inductive Turn (E : Engine)
  | entered (callback : Callback)
  | left (callback : Callback)
  | called (stay : Stay E)
  | returned (stay : Stay E) (answer : stay.call.Answer)

/-- What there is at a moment at which host code runs. -/
structure Moment (E : Engine) where
  turn : Turn E
  /-- The calls that are running, the innermost first. -/
  running : List (Stay E)
  holding : Holding
  shown : Shown E

structure Mind (E : Engine) (S : Type) where
  own : S
  running : List (Stay E) := []
  /-- The moments so far, the latest first. -/
  chronicle : List (Moment E) := []

abbrev Coded (E : Engine) (S : Type) : HostKind := ⟨Mind E S, Empty⟩

def moment (turn : Turn E) (w : World E (Coded E S)) : Moment E :=
  ⟨turn, w.host.running, w.boundary.holding, shown w⟩

def noted (turn : Turn E) (w : World E (Coded E S)) : World E (Coded E S) :=
  { w with host := { w.host with chronicle := moment turn w :: w.host.chronicle } }

def staying (call : Call) (w : World E (Coded E S)) : Stay E :=
  let use := call.use w.boundary.lastReporter
  { call, use, refused := busy use w.boundary.holding, found := shown w }

def begun (stay : Stay E) (w : World E (Coded E S)) : World E (Coded E S) :=
  let w := noted (.called stay) w
  { w with host := { w.host with running := stay :: w.host.running } }

def ended (stay : Stay E) (answer : stay.call.Answer) (w : World E (Coded E S)) :
    World E (Coded E S) :=
  noted (.returned stay answer) { w with host := { w.host with running := w.host.running.tail } }

def ask (call : Call) : Act E (Coded E S) call.Answer := fun link w =>
  let stay := staying call w
  (call.act link (begun stay w)).bind fun answer v => .done answer (ended stay answer v)

def Code.act : Code S → Act E (Coded E S) Reply
  | .finish reply => pure reply
  | .think change next => do
    Act.modify fun w => { w with host := { w.host with own := change w.host.own } }
    (next (← Act.get).host.own).act
  | .call asked next => do
    let answer ← ask asked
    (next answer).act

/-- Calls the functions of a host, which may be nested up to a depth. -/
def link (host : Callback → Code S) : Nat → Link E (Coded E S)
  | 0 => fun _ _ => .stuck
  | depth + 1 => fun callback w =>
    ((host callback).act (link host depth) (noted (.entered callback) w)).bind fun reply v =>
      .done reply (noted (.left callback) v)

/-! ## Order -/

/-- Each call that is running was let in or turned away as those around it demanded. -/
def Ordered : List (Stay E) → Prop
  | [] => True
  | stay :: rest => stay.refused = busy stay.use (holdingOf rest) ∧ Ordered rest

theorem holds_cons {stay : Stay E} {rest : List (Stay E)} (h : Ordered (stay :: rest)) :
    stay.holds = if busy stay.use (holdingOf rest) then .nothing else stay.use := by
  rw [Stay.holds, h.1]

theorem holds_of_free {running : List (Stay E)} (hfree : holdingOf running = .shared 0) :
    ∀ stay ∈ running, stay.holds = .nothing := by
  induction running with
  | nil => simp
  | cons stay rest ih =>
    rw [holdingOf] at hfree
    cases hholds : stay.holds with
    | nothing =>
      rw [hholds] at hfree
      exact List.forall_mem_cons.mpr ⟨hholds, ih hfree⟩
    | sharing =>
      rw [hholds] at hfree
      cases hrest : holdingOf rest <;> simp [hrest, taken] at hfree
    | owning =>
      rw [hholds] at hfree
      cases hfree

theorem holds_of_exclusive {running : List (Stay E)} (hordered : Ordered running)
    (howned : holdingOf running = .exclusive) : ∀ stay ∈ running, stay.holds ≠ .sharing := by
  induction running with
  | nil => simp
  | cons stay rest ih =>
    rw [holdingOf] at howned
    have hself := holds_cons hordered
    cases hholds : stay.holds with
    | nothing =>
      rw [hholds] at howned
      exact List.forall_mem_cons.mpr ⟨by simp [hholds], ih hordered.2 howned⟩
    | sharing =>
      -- It would have been turned away, for someone around it owns the runtime.
      rw [hholds] at howned hself
      cases hrest : holdingOf rest with
      | shared count => simp [hrest, taken] at howned
      | exclusive =>
        split at hself
        · cases hself
        · next hbusy => simp [← hself, hrest, busy] at hbusy
    | owning =>
      rw [hholds] at hself
      have hfree : holdingOf rest = .shared 0 := by
        split at hself
        · cases hself
        · next hbusy =>
          rw [← hself] at hbusy
          cases hrest : holdingOf rest with
          | shared count => simpa [hrest, busy] using hbusy
          | exclusive => simp [hrest, busy] at hbusy
      refine List.forall_mem_cons.mpr ⟨by simp [hholds], fun other hother => ?_⟩
      rw [holds_of_free hfree other hother]
      simp

theorem holdingOf_owned {running : List (Stay E)} (hordered : Ordered running) {stay : Stay E}
    (hmem : stay ∈ running) (howns : stay.holds = .owning) : holdingOf running = .exclusive := by
  induction running with
  | nil => cases hmem
  | cons head rest ih =>
    rw [holdingOf]
    rcases List.mem_cons.mp hmem with rfl | hrest
    · rw [howns]
      rfl
    · rw [ih hordered.2 hrest]
      cases head.holds <;> rfl

theorem busy_of_holds {running : List (Stay E)} {stay : Stay E} (hmem : stay ∈ running)
    (hholds : stay.holds ≠ .nothing) : busy .owning (holdingOf running) = true := by
  cases hheld : holdingOf running with
  | shared count =>
    cases count with
    | zero => exact absurd (holds_of_free hheld stay hmem) hholds
    | succ count => rfl
  | exclusive => rfl

/-! ## What host code keeps -/

/-- Host code makes no calls but those allowed. -/
def Code.Only (allowed : Call → Prop) : Code S → Prop
  | .finish _ => True
  | .think _ next => ∀ own, (next own).Only allowed
  | .call asked next => allowed asked ∧ ∀ answer, (next answer).Only allowed

theorem Code.only_of_all {allowed : Call → Prop} (h : ∀ call, allowed call) (code : Code S) :
    code.Only allowed := by
  induction code with
  | finish reply => trivial
  | think change next ih => exact ih
  | call asked next ih => exact ⟨h asked, ih⟩

/-- A conduct by which host code has its own state and notes the calls that it makes. -/
structure Noting (D : Conduct E (Coded E S)) : Prop where
  own : ∀ w own running, D.rel w { w with host := { w.host with own, running } }
  noted : ∀ w turn, (∀ callback, turn ≠ .entered callback) → D.rel w (noted turn w)

namespace Noting

variable {D : Conduct E (Coded E S)} (h : Noting D)
include h

theorem ask {call : Call} (hcall : Act.Keeps D (call.act : Act E (Coded E S) call.Answer)) :
    Act.Keeps D (Boundary.ask call) := by
  intro link hl w
  have begins : D.rel w (begun (staying call w) w) :=
    D.trans (h.noted w (.called (staying call w)) (by simp)) (h.own _ _ _)
  have ends (answer : call.Answer) (v : World E (Coded E S)) : D.rel v (ended (staying call w) answer v) :=
    D.trans (h.own v _ _) (h.noted _ _ (by simp))
  have called := (hcall link hl (begun (staying call w) w)).mono fun v hv => D.trans begins hv
  exact called.bind (fun answer v hv => D.trans hv (ends answer v)) fun v hv => hv

theorem code {allowed : Call → Prop}
    (hcalls : ∀ call, allowed call → Act.Keeps D (call.act : Act E (Coded E S) call.Answer)) {code : Code S}
    (hcode : code.Only allowed) : Act.Keeps D code.act := by
  induction code with
  | finish reply => exact Act.Keeps.pure reply
  | think change next ih =>
    exact (Act.Keeps.modify fun w => h.own w _ _).bind fun _ => Act.Keeps.get.bind fun w => ih _ (hcode _)
  | call asked next ih =>
    exact (h.ask (hcalls asked hcode.1)).bind fun answer => ih answer (hcode.2 answer)

end Noting

end BrainHost.Boundary
