import BrainHost.Proofs.Boundary.Code
import BrainHost.Proofs.Service.Order

/-! # What host code sees of service calls

A host function for services is called by way of C, and the reporter of its call is kept for it
meanwhile. What host code sees of the protocol at each moment is put down: the functions that run,
the reporter that is kept, and the results of the brains. -/

namespace BrainHost.Boundary

variable {E : Engine} {S : Type}

inductive Cue
  | entered (callback : Callback)
  | left (callback : Callback)
  | called (call : Call)
  | returned (call : Call)

/-- What there is to see of service calls at a moment at which host code runs. -/
structure Sight where
  cue : Cue
  /-- The reporters of the host's call-service functions that are running, the innermost first. -/
  functions : List Nat
  inFlight : Bool
  lastReporter : Option Nat
  reporters : Array Reporter
  results : Array (Option String)

structure Watch (S : Type) where
  own : S
  functions : List Nat := []
  /-- The sights so far, the latest first. -/
  sights : List Sight := []

abbrev Watched (S : Type) : HostKind := ⟨Watch S, Empty⟩

def sight (cue : Cue) (w : World E (Watched S)) : Sight :=
  ⟨cue, w.host.functions, w.inFlight, w.boundary.lastReporter, w.reporters, w.results⟩

def seen (cue : Cue) (w : World E (Watched S)) : World E (Watched S) :=
  { w with host := { w.host with sights := sight cue w :: w.host.sights } }

def see (cue : Cue) : Act E (Watched S) Unit := Act.modify (seen cue)

def watchedCall (call : Call) : Act E (Watched S) call.Answer := do
  see (.called call)
  let answer ← call.act
  see (.returned call)
  pure answer

def Code.watched : Code S → Act E (Watched S) Reply
  | .finish reply => pure reply
  | .think change next => do
    Act.modify fun w => { w with host := { w.host with own := change w.host.own } }
    (next (← Act.get).host.own).watched
  | .call asked next => do
    let answer ← watchedCall asked
    (next answer).watched

def stepIn (callback : Callback) (w : World E (Watched S)) : World E (Watched S) :=
  { w with host := { w.host with functions := callback.reporter?.toList ++ w.host.functions } }

def stepOut (callback : Callback) (w : World E (Watched S)) : World E (Watched S) :=
  { w with
    host := { w.host with functions := w.host.functions.drop callback.reporter?.toList.length } }

def Code.attend (callback : Callback) (code : Code S) : Act E (Watched S) Reply := do
  see (.entered callback)
  let reply ← code.watched
  see (.left callback)
  pure reply

/-- Calls the functions of a host, which may be nested up to a depth. -/
def watching (host : Callback → Code S) : Nat → Link E (Watched S)
  | 0 => fun _ _ => .stuck
  | depth + 1 => fun callback w =>
    ((host callback).attend callback (watching host depth) (stepIn callback w)).settle (stepOut callback)

/-! ## The protocol -/

namespace Sight

/-- Something is reported while a call-service function runs whose call was made through a bridge. -/
def IsReportFor (m : Sight) (bridge : Nat) : Prop :=
  ∃ result reporter, m.cue = .called (.reportResult result) ∧ m.functions = [reporter] ∧
    m.lastReporter = some reporter ∧ ownerIn m.reporters reporter = some bridge

/-- One call-service function runs at most, its call is the one in flight and the only one whose
reporter is open, and that reporter is the one that is kept. -/
structure Sound (m : Sight) : Prop where
  single : m.functions.length ≤ 1
  flag : m.inFlight = true ↔ m.functions ≠ []
  opened : ∀ reporter, IsOpenIn m.reporters reporter ↔ reporter ∈ m.functions
  kept : ∀ reporter ∈ m.functions, m.lastReporter = some reporter

/-- A sight follows from the one before: the result of a bridge changed only if a report for it began. -/
structure Follows (later earlier : Sight) : Prop where
  results : ∀ bridge, resultIn later.results bridge ≠ resultIn earlier.results bridge →
    earlier.IsReportFor bridge
  owners : ∀ reporter bridge, ownerIn earlier.reporters reporter = some bridge →
    ownerIn later.reporters reporter = some bridge

end Sight

/-- The protocol is in order now, and was at every sight. A call that is being opened has its reporter
already, but the host's function does not run yet, or does not run at all. -/
structure Orderly (opening : Option Nat) (w : World E (Watched S)) : Prop where
  single : (opening.toList ++ w.host.functions).length ≤ 1
  flag : w.inFlight = true ↔ opening.toList ++ w.host.functions ≠ []
  opened : ∀ reporter, IsOpenIn w.reporters reporter ↔ reporter ∈ opening.toList ++ w.host.functions
  kept : ∀ reporter ∈ w.host.functions, w.boundary.lastReporter = some reporter
  past : ∀ m ∈ w.host.sights, m.Sound
  chain : w.host.sights.IsChain Sight.Follows
  linked : ∀ m ∈ w.host.sights.head?, ∀ cue, (sight cue w).Follows m

namespace Orderly

variable {opening : Option Nat} {w v : World E (Watched S)}

theorem sound (h : Orderly none w) (cue : Cue) : (sight cue w).Sound :=
  ⟨h.single, h.flag, h.opened, h.kept⟩

theorem idle (h : Orderly none w) (hflag : w.inFlight = false) : w.host.functions = [] := by
  by_contra hne
  have := h.flag.mpr hne
  rw [hflag] at this
  cases this

theorem congr (h : Orderly opening w) (hhost : v.host.functions = w.host.functions)
    (hsights : v.host.sights = w.host.sights) (hflag : v.inFlight = w.inFlight)
    (hkept : v.boundary.lastReporter = w.boundary.lastReporter)
    (hopen : ∀ reporter, IsOpenIn v.reporters reporter ↔ IsOpenIn w.reporters reporter)
    (howner : ∀ reporter, ownerIn v.reporters reporter = ownerIn w.reporters reporter)
    (hresults : ∀ bridge, resultIn v.results bridge = resultIn w.results bridge) :
    Orderly opening v where
  single := by rw [hhost]; exact h.single
  flag := by rw [hhost, hflag]; exact h.flag
  opened reporter := by rw [hhost, hopen]; exact h.opened reporter
  kept reporter hmem := by
    rw [hkept]
    rw [hhost] at hmem
    exact h.kept reporter hmem
  past := by rw [hsights]; exact h.past
  chain := by rw [hsights]; exact h.chain
  linked := by
    intro m hm cue
    rw [hsights] at hm
    have old := h.linked m hm cue
    exact
      { results := fun bridge hne => old.results bridge (by simpa [sight, hresults bridge] using hne)
        owners := fun reporter bridge hbridge => (howner reporter).trans (old.owners reporter bridge hbridge) }

theorem of_same (h : Orderly opening w) (hhost : v.host.functions = w.host.functions)
    (hsights : v.host.sights = w.host.sights) (hflag : v.inFlight = w.inFlight)
    (hkept : v.boundary.lastReporter = w.boundary.lastReporter) (hreporters : v.reporters = w.reporters)
    (hresults : v.results = w.results) : Orderly opening v :=
  h.congr hhost hsights hflag hkept (fun _ => by rw [hreporters]) (fun _ => by rw [hreporters])
    fun _ => by rw [hresults]

theorem seen (h : Orderly none w) (cue : Cue) : Orderly none (seen cue w) where
  single := h.single
  flag := h.flag
  opened := h.opened
  kept := h.kept
  past := List.forall_mem_cons.mpr ⟨h.sound cue, h.past⟩
  chain := by
    change (sight cue w :: w.host.sights).IsChain Sight.Follows
    cases hsights : w.host.sights with
    | nil => exact List.isChain_singleton _
    | cons m rest =>
      refine List.isChain_cons_cons.mpr ⟨h.linked m (by simp [hsights]) cue, ?_⟩
      rw [← hsights]
      exact h.chain
  linked := by
    intro m hm cue'
    obtain rfl : sight cue w = m := by simpa [Boundary.seen] using hm
    exact ⟨fun bridge hne => absurd rfl hne, fun _ _ howner => howner⟩

theorem opens (h : Orderly none w) (hflag : w.inFlight = false) (bridge : Nat) :
    Orderly (some w.reporters.size) (Act.opened bridge w) := by
  have hidle := h.idle hflag
  refine
    { single := by simp [Act.opened, hidle]
      flag := by simp [Act.opened]
      opened := fun reporter => ?_
      kept := h.kept
      past := h.past
      chain := h.chain
      linked := fun m hm cue => ?_ }
  · have closed := h.opened reporter
    simp only [hidle, Option.toList_none, List.append_nil, List.not_mem_nil, iff_false] at closed
    simp [Act.opened, isOpenIn_push, hidle, closed]
  · have old := h.linked m hm cue
    exact ⟨old.results, fun reporter bridge howner => ownerIn_push (old.owners reporter bridge howner) _⟩

theorem closes {reporter : Nat} (h : Orderly (some reporter) w) : Orderly none (Act.closed reporter w) := by
  have hidle : w.host.functions = [] := by simpa using h.single
  refine
    { single := by simp [Act.closed, hidle]
      flag := by simp [Act.closed, hidle]
      opened := fun other => ?_
      kept := h.kept
      past := h.past
      chain := h.chain
      linked := fun m hm cue => ?_ }
  · have open_iff := h.opened other
    simp only [hidle, Option.toList_some, List.append_nil, List.mem_singleton] at open_iff
    simp only [Act.closed, isOpenIn_close, open_iff, hidle, Option.toList_none, List.append_nil,
      List.not_mem_nil, iff_false]
    exact fun hboth => hboth.1 hboth.2
  · have old := h.linked m hm cue
    refine ⟨old.results, fun other bridge howner => ?_⟩
    have same := ownerIn_modify (f := fun r => { r with isOpen := false }) (fun _ => rfl)
      w.reporters reporter other
    exact same.trans (old.owners other bridge howner)

theorem enters {service args : String} {reporter : Nat} (h : Orderly (some reporter) w) :
    Orderly none (stepIn (.callService service args reporter)
      { w with boundary := { w.boundary with lastReporter := some reporter } }) where
  single := h.single
  flag := h.flag
  opened := h.opened
  kept other hother := by
    have hidle : w.host.functions = [] := by simpa using h.single
    simp [stepIn, Callback.reporter?, hidle] at hother
    rw [hother]
    rfl
  past := h.past
  chain := h.chain
  linked m hm cue := ⟨(h.linked m hm cue).results, (h.linked m hm cue).owners⟩

theorem leaves {service args : String} {reporter : Nat}
    (h : Orderly none (stepIn (.callService service args reporter) w)) : Orderly (some reporter) w where
  single := h.single
  flag := h.flag
  opened := h.opened
  kept other hother := h.kept other (List.mem_append_right _ hother)
  past := h.past
  chain := h.chain
  linked m hm cue := ⟨(h.linked m hm cue).results, (h.linked m hm cue).owners⟩

theorem heard (h : Orderly opening w) (reporter : Nat) : Orderly opening (Act.heard reporter w) :=
  h.congr rfl rfl rfl rfl (isOpenIn_hear w.reporters reporter)
    (ownerIn_modify (f := fun r => { r with awaiting := false }) (fun _ => rfl) w.reporters reporter)
    fun _ => rfl

theorem stored (h : Orderly opening w) {m : Sight} {bridge : Nat} (hm : w.host.sights.head? = some m)
    (hreport : m.IsReportFor bridge) (result : Option String) :
    Orderly opening (Act.stored bridge result w) where
  single := h.single
  flag := h.flag
  opened := h.opened
  kept := h.kept
  past := h.past
  chain := h.chain
  linked m' hm' cue := by
    obtain rfl : m = m' := by simpa [Act.stored, hm] using hm'
    have old := h.linked m hm cue
    refine ⟨fun other hne => ?_, old.owners⟩
    by_cases hother : other = bridge
    · subst hother
      exact hreport
    · refine old.results other ?_
      simpa [sight, Act.stored, resultIn_modify_of_ne _ hother] using hne

end Orderly

end BrainHost.Boundary
