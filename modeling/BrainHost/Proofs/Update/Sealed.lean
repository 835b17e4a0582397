import BrainHost.Proofs.Update.Delivery
import BrainHost.Proofs.Update.Memory
import BrainHost.Proofs.Update.Queue

/-! # Host memory outside of updates

While no update of a brain runs, nothing that its scripts may have kept shows host memory. The view of an
update is cut off however the update ends, and the brain has its context back, so this also holds after
panics. -/

namespace BrainHost

variable {S : Type} {E : Engine} {K : HostKind} {M : E.Memory}

/-- How an update uses host memory: which view it makes, and what that shows at each of its moves. -/
structure Lends (M : E.Memory) (b : Brain E) (state : String) (buffer : ByteArray) (link : Link E K)
    (p q : Scene E K) (view : E.Value) (last : Phase) (moves : List (Move E)) (r : Except Failure String)
    (bytes : ByteArray) : Prop where
  cycle : Cycle b state view last moves r
  path : Path b link (.attach buffer view :: moves ++ [.detach view bytes]) p q
  /-- Wherever the update has got to, its view shows host memory and no other one does, also while scripts
  that run there wait for the host. -/
  shows : ∀ before after x, moves = before ++ after → Path b link (.attach buffer view :: before) p x →
    M.Shows view buffer x.1 ∧
      ∀ {α : Type} {run : E.Context → Run E.Context E.Value (E.Context × α)}, E.Operates True run →
        (run x.1).Shows (M.Shows view buffer)
  /-- The brain's function finds the bytes of the host in its view. -/
  begins : last ≠ .decode → ∃ v result rest x,
    moves = .parse state (.ok v) :: .call b.updateAgent [v, view] result :: rest ∧
    Path b link [.attach buffer view, .parse state (.ok v)] p x ∧ M.bytes? x.1 view = some buffer
  /-- The host gets its bytes back with what was written to the view. -/
  returns : bytes = overwrite buffer (M.writes q.1 view)
  made : ∀ u, M.isView q.1 u ↔ u = view ∨ M.isView p.1 u
  cut : M.Sealed q.1

theorem Brain.updateInside_lends (M : E.Memory) (b : Brain E) {state : String} {buffer : ByteArray}
    {link : Link E K} {p q : Scene E K} {r : Except Failure String} {bytes : ByteArray}
    (hsize : buffer.size ≤ Limit.buffer.maxBytes) (hsealed : M.Sealed p.1)
    (h : (b.updateInside state buffer).run p.1 link p.2 = .done (.ok (r, bytes), q.1) q.2) :
    ∃ view last moves, Lends M b state buffer link p q view last moves r bytes := by
  obtain ⟨_, ⟨_, hcycle⟩, hpath⟩ := (Inside.Goes.updateInside state hsize p q _).mp h
  obtain ⟨returns, made, cut⟩ := Path.ends hsealed hcycle.keepsViews hpath
  refine ⟨_, _, _, hcycle, hpath, fun before after x heq hbefore => ?_, fun hlast => ?_, returns, made,
    cut⟩
  · have keep := hcycle.keepsViews
    rw [heq] at keep
    have shows := (Path.shows hsealed (List.forall_mem_append.mp keep).1 hbefore).1
    exact ⟨shows, fun hop => (M.ran hop x.1).mono fun _ wrote => shows.wrote wrote⟩
  · obtain ⟨v, result, rest, rfl⟩ := hcycle.begins hlast
    obtain ⟨x, hattach, y, hparse, -⟩ := hpath
    have first : Path b link [.attach buffer _, .parse state (.ok v)] p y := ⟨x, hattach, y, hparse, rfl⟩
    exact ⟨v, result, rest, y, rfl, first, first.begins⟩

/-- However an update ends, and if it panics, it has made one view, and no view is left that shows host
memory. -/
theorem Brain.updateInside_cuts (M : E.Memory) (b : Brain E) (state : String) {buffer : ByteArray}
    (hsize : buffer.size ≤ Limit.buffer.maxBytes) {c : E.Context} (hsealed : M.Sealed c) (link : Link E K)
    (w : World E K) : ((b.updateInside state buffer) c link w).Ends fun scene =>
      M.Sealed scene.1 ∧ ∀ u, M.isView scene.1 u ↔ u = (E.attach buffer c).2 ∨ M.isView c u := by
  have made := M.attached buffer c
  have shows : M.Shows (E.attach buffer c).2 buffer (E.attach buffer c).1 := hsealed.made made
  rw [Inside.Goes.updateInside_eq b state hsize, Inside.Goes.viewed, Inside.bind_apply]
  -- The guard is around all that scripts do, and so it does not matter how that ends.
  refine Inside.closing_ends _ (Inside.Plain.onward M.onward (.updateWith b state _) _ link w) fun c' v wrote => ?_
  have left := shows.wrote wrote
  have cut := (M.detached left.made left.shown).2
  exact ⟨left.cut cut, fun u => (cut.views u).trans ((wrote.views u).trans (made.views u))⟩

theorem Brain.updateInside_seals (M : E.Memory) (b : Brain E) (state : String) (buffer : ByteArray) {c : E.Context}
    (hsealed : M.Sealed c) (link : Link E K) (w : World E K) :
    ((b.updateInside state buffer) c link w).Ends fun scene => M.Sealed scene.1 := by
  rcases Nat.lt_or_ge Limit.buffer.maxBytes buffer.size with hlarge | hsize
  · rw [Inside.run_eq_done.mp (b.updateInside_tooLarge state hlarge c link w)]
    exact hsealed
  · exact (b.updateInside_cuts M state hsize hsealed link w).mono fun _ ends => ends.1

/-- No context that rests shows host memory. -/
def Brain.Sealed (M : E.Memory) (b : Brain E) : Prop := ∀ c, b.context = some c → M.Sealed c

theorem Brain.Made.sealed (M : E.Memory) {b : Brain E} (h : b.Made K) : b.Sealed M := by
  obtain ⟨source, config, link, w, v, hmake⟩ := h
  obtain ⟨c, c', w₁, hcreate, hran, hb⟩ := Brain.make_ok hmake
  have fresh : M.Sealed c := fun view hview => absurd hview (M.created hcreate view)
  have left : M.Sealed c' := fresh.wrote ((Inside.Plain.onward M.onward (.entryPoints source)).done hran)
  intro c'' hc
  rw [hb] at hc
  cases hc
  exact left

theorem Brain.sealed_lasting (S : Type) (M : E.Memory) :
    Brain.Lasting S (fun c c' => M.Sealed c → M.Sealed c') (Brain.Sealed M) where
  made hb := hb.sealed M
  emptied _ _ _ hc := by cases hc
  stored _ _ hb := hb
  rested hb hc hon _ _ hc' := by
    cases hc'
    exact hon (hb _ hc)

theorem works_sealed (S : Type) (M : E.Memory) :
    (lasting S (fun c c' => M.Sealed c → M.Sealed c') (Brain.Sealed M)).Works where
  update b state buffer _ link w := .imp fun hsealed => b.updateInside_seals M state buffer hsealed link w
  runModule b id source c link w := (Inside.Plain.onward M.onward (.runModule b id source) c link w).mono
    fun _ wrote hsealed => hsealed.wrote wrote
  namespaceInside b id c link w := (Inside.Plain.onward M.onward (.namespaceInside b id) c link w).mono
    fun _ wrote hsealed => hsealed.wrote wrote

def AllSealed (M : E.Memory) (w : World E K) : Prop := ∀ b ∈ w.brains, b.Sealed M

/-- No script of a brain runs: every brain that can be found has its context, and no view in it shows host
memory. -/
structure AtRest (M : E.Memory) (w : World E K) : Prop where
  tidy : w.Tidy
  sealed : AllSealed M w
  there : ∀ number, ¬ w.Lacks number

theorem AtRest.context {w : World E K} (h : AtRest M w) {id : String} {b : Brain E} (hb : w.found id = some b) :
    ∃ c, b.context = some c ∧ M.Sealed c := by
  obtain ⟨number, hid, hb⟩ := Option.bind_eq_some_iff.mp hb
  cases hc : b.context with
  | none => exact absurd ⟨id, b, hid, hb, hc⟩ (h.there number)
  | some c => exact ⟨c, rfl, h.sealed b (Array.mem_of_getElem? hb) c hc⟩

theorem AtRest.returned {w v : World E K} (h : AtRest M w) (hsealed : AllSealed M v) (hback : Returned w v) :
    AtRest M v where
  tidy := (hback h.tidy).1
  sealed := hsealed
  there number lacks := h.there number ((hback h.tidy).2 number lacks)

theorem AtRest.run (M : E.Memory) (host : Host S) (depth : Nat) (plan : Plan S) {w : World E (Minded S)}
    (h : AtRest M w) : (plan.act (host.link depth) w).Ends (AtRest M) :=
  ((lasting.run (Brain.sealed_lasting S M) (works_sealed S M) host depth plan h.sealed).and
    (returning.run host depth plan w)).mono fun _ ends => h.returned ends.1 ends.2

/-- **Host memory.** In every run of every host no brain that rests has a view that shows host memory, also
where host functions are called, and when the run is over, or panics, all its brains rest. Scripts that run
outside of an update show none either. An update in a context without such a view makes one, which is the
only one that shows host memory until the update ends, and which has the bytes of the host when the brain's
function is called. However the update ends, it gives back these bytes with what scripts wrote to the
view, in order, and no view is left that shows host memory; nor is one when it panics. An update of the
runtime gives its bytes back untouched or is such an update of a brain. -/
theorem host_memory {S : Type} (M : E.Memory) :
    (∀ (operation : Operation) (link : Link E (Minded S)) (w : World E (Minded S)),
      (∀ callback u, AllSealed M u → (link callback u).Ends (AllSealed M)) → AllSealed M w →
      (operation.act link w).Ends (AllSealed M)) ∧
    (∀ (host : Host S) (depth : Nat) (plan : Plan S) (w : World E (Minded S)),
      (AllSealed M w → (plan.act (host.link depth) w).Ends (AllSealed M)) ∧
      (AtRest M w → (plan.act (host.link depth) w).Ends fun v =>
        AtRest M v ∧ ∀ id b, v.found id = some b → ∃ c, b.context = some c ∧ M.Sealed c)) ∧
    (∀ {α : Type} {run : E.Context → Run E.Context E.Value (E.Context × α)}, E.Operates True run →
      ∀ c, M.Sealed c → (run c).Shows M.Sealed) ∧
    (∀ (b : Brain E) (state : String) (buffer : ByteArray) (link : Link E K) (p q : Scene E K)
      (r : Except Failure (Except Failure String × ByteArray)), M.Sealed p.1 →
      (b.updateInside state buffer).run p.1 link p.2 = .done (r, q.1) q.2 →
      (Limit.buffer.maxBytes < buffer.size ∧ q.1 = p.1 ∧ ∃ failure, r = .ok (.error failure, buffer)) ∨
        ∃ result bytes view last moves, r = .ok (result, bytes) ∧
          Lends M b state buffer link p q view last moves result bytes) ∧
    (∀ (b : Brain E) (state : String) (buffer : ByteArray) (link : Link E K) (c : E.Context) (w : World E K),
      M.Sealed c → buffer.size ≤ Limit.buffer.maxBytes →
      ∃ view, ((b.updateInside state buffer) c link w).Ends fun scene =>
        M.Sealed scene.1 ∧ ∀ u, M.isView scene.1 u ↔ u = view ∨ M.isView c u) ∧
    ∀ (id agent state : String) (buffer bytes : ByteArray) (link : Link E K) (w v : World E K)
      (r : Except Failure String),
      Session.runUpdate id agent state buffer link w = .done (r, bytes) v →
      (bytes = buffer ∧ ∃ failure, r = .error failure) ∨
        ∃ (number : Nat) (b : Brain E) (c : E.Context) (q : Scene E K),
          w.registry.lookup id = some number ∧ w.brains[number]? = some b ∧ b.context = some c ∧
          (b.updateInside state buffer).run c link (busy number w) = .done (.ok (r, bytes), q.1) q.2 ∧
          v = rested number q.1 q.2 := by
  have kept := Brain.sealed_lasting S M
  have works := works_sealed S M
  refine ⟨fun operation link w hlink hw => ?_, fun host depth plan w => ⟨fun hw => ?_, fun hw => ?_⟩,
    fun hop c hsealed => (M.ran hop c).mono fun _ wrote => hsealed.wrote wrote,
    fun b state buffer link p q r hsealed h => ?_,
    fun b state buffer link c w hsealed hsize => ⟨_, b.updateInside_cuts M state hsize hsealed link w⟩,
    fun id agent state buffer bytes link w v r h => ?_⟩
  · have admitted : (lasting S (fun c c' => M.Sealed c → M.Sealed c') (Brain.Sealed M)).admits link :=
      fun callback u => Outcome.Ends.imp (hlink callback u)
    exact (operation.keeps (lasting.fair kept works).toFree link admitted w).mono fun _ hv => hv hw
  · exact lasting.run kept works host depth plan hw
  · exact (AtRest.run M host depth plan hw).mono fun _ hv => ⟨hv, fun _ _ hb => hv.context hb⟩
  · rcases Nat.lt_or_ge Limit.buffer.maxBytes buffer.size with hlarge | hsize
    · rw [b.updateInside_tooLarge state hlarge] at h
      simp only [Outcome.done.injEq, Prod.mk.injEq] at h
      exact .inl ⟨hlarge, h.1.2.symm, _, h.1.1.symm⟩
    · obtain ⟨⟨result, bytes⟩, rfl⟩ := b.updateInside_returns h
      obtain ⟨view, last, moves, hlends⟩ := b.updateInside_lends M hsize hsealed h
      exact .inr ⟨result, bytes, view, last, moves, rfl, hlends⟩
  · obtain hrefused | ⟨number, b, c, q, -, hlookup, hb, hc, hrun, hv⟩ := Session.runUpdate_done h
    · exact .inl hrefused
    · exact .inr ⟨number, b, c, q, hlookup, hb, hc, hrun, hv⟩

/-! ## An engine with buffers -/

/-- What a buffer shows, until it is cut off, and what was written to it. -/
structure Page where
  bytes : Option ByteArray
  writes : List (Nat × UInt8) := []

def Page.scribble (page : Page) : Page :=
  { bytes := page.bytes.map (overwrite · [(0, 7)]), writes := page.writes ++ [(0, 7)] }

def withPage (bytes : ByteArray) (pages : List Page) : List Page := pages ++ [{ bytes := some bytes }]

/-- An engine without scripts, in which every call writes to all the buffers that there are and then tells
the host. Values are texts, and buffers by number. -/
def scribblingEngine : Engine :=
  { Engine.idle (List Page) (String ⊕ Nat) [] .inl (Sum.elim id fun _ => "") with
    call := fun _ _ (pages : List Page) =>
      .ask (.debug "written") (pages.map Page.scribble) fun _ => .done (pages.map Page.scribble, .ok ())
    attach := fun bytes (pages : List Page) => (withPage bytes pages, .inr pages.length)
    detach := fun (v : String ⊕ Nat) (pages : List Page) => match v with
      | .inl _ => (pages, .empty)
      | .inr n => (pages.modify n fun page => { page with bytes := none }, (pages[n]?.bind Page.bytes).getD .empty) }

def scribblingEngine.views : scribblingEngine.Views where
  isView := fun (pages : List Page) (v : String ⊕ Nat) => ∃ n < pages.length, .inr n = v
  bytes? := fun (pages : List Page) (v : String ⊕ Nat) => match v with
    | .inl _ => none
    | .inr n => pages[n]?.bind Page.bytes
  writes := fun (pages : List Page) (v : String ⊕ Nat) => match v with
    | .inl _ => []
    | .inr n => (pages[n]?.map Page.writes).getD []

namespace scribblingEngine

theorem isView_congr {pages pages' : List Page} (h : pages'.length = pages.length) (v : String ⊕ Nat) :
    views.isView pages' v ↔ views.isView pages v := by
  change (∃ n < pages'.length, _) ↔ ∃ n < pages.length, _
  rw [h]

theorem scribbled (pages : List Page) : views.Wrote pages (pages.map Page.scribble) where
  views := isView_congr (List.length_map _)
  wrote v := by
    rintro ⟨n, hn, rfl⟩
    exact ⟨[(0, 7)], by simp [views, hn, Page.scribble], by simp [views, hn, Page.scribble]⟩

theorem added (bytes : ByteArray) (pages : List Page) :
    views.Made bytes (.inr pages.length) pages (withPage bytes pages) where
  fresh := by
    rintro ⟨n, hn, heq⟩
    cases heq
    exact Nat.lt_irrefl _ hn
  views u := by
    have grown : (withPage bytes pages).length = pages.length + 1 := by simp [withPage]
    constructor
    · rintro ⟨n, hn, rfl⟩
      obtain hlt | rfl := Nat.lt_succ_iff_lt_or_eq.mp (grown ▸ hn)
      · exact .inr ⟨n, hlt, rfl⟩
      · exact .inl rfl
    · rintro (rfl | ⟨n, hn, rfl⟩)
      · exact ⟨_, grown ▸ Nat.lt_succ_self _, rfl⟩
      · exact ⟨n, grown ▸ Nat.lt_succ_of_lt hn, rfl⟩
  shown := by simp [views, withPage]
  unwritten := by simp [views, withPage]
  others v := by
    rintro ⟨n, hn, rfl⟩
    simp [views, withPage, List.getElem?_append_left hn]

theorem cut {pages : List Page} {n : Nat} (hn : n < pages.length) :
    views.Cut (.inr n) pages (pages.modify n fun page => { page with bytes := none }) where
  views := isView_congr (List.length_modify ..)
  gone := by simp [views, hn]
  writes := by simp [views, hn]
  others v := by
    rintro ⟨m, hm, rfl⟩ hne
    have hother : n ≠ m := fun heq => hne (heq ▸ rfl)
    simp [views, hother]

def memory : scribblingEngine.Memory where
  toViews := views
  created h := by
    cases h
    rintro v ⟨n, hn, -⟩
    exact Nat.not_lt_zero n hn
  attached := added
  detached := by
    rintro _ pages bytes ⟨n, hn, rfl⟩ hbytes
    exact ⟨congrArg (fun bytes => bytes.getD ByteArray.empty) hbytes, cut hn⟩
  parsed text pages := ⟨fun _ => Iff.rfl, fun _ _ => rfl, fun _ _ => rfl⟩
  ran hop pages := by
    cases hop with
    | call f args => exact ⟨scribbled pages, fun _ => scribbled pages⟩
    | _ => exact .refl pages

end scribblingEngine

def scribblingBrain : Brain scribblingEngine :=
  { context := some [], source := "", bridge := 0, updateAgent := .inl updateAgentName
    postMessageFlush := some (.inl postMessageFlushName), maxPendingJobs := none }

/-- Host code listens to what scripts tell. -/
def scribbling : World scribblingEngine (Minded Unit) :=
  { hooks := ⟨[.debugLog]⟩, brains := #[scribblingBrain], registry := [("a", 0)], life := some ⟨"", none⟩
    host := ⟨(), [], []⟩ }

theorem scribbling_lookup {id : String} {number : Nat} (h : scribbling.registry.lookup id = some number) :
    id = "a" ∧ number = 0 := by
  simp only [scribbling, List.lookup_cons, List.lookup_nil] at h
  split at h
  · next heq => exact ⟨beq_iff_eq.mp heq, (Option.some.inj h).symm⟩
  · cases h

theorem pageless_sealed : scribblingEngine.memory.Sealed [] := by
  rintro v ⟨n, hn, -⟩
  exact absurd hn (Nat.not_lt_zero n)

theorem scribbling_atRest : AtRest scribblingEngine.memory scribbling where
  tidy :=
    { numbers := fun {id number} hid => by
        obtain ⟨-, rfl⟩ := scribbling_lookup hid
        exact ⟨_, rfl⟩
      apart := fun hid hother => (scribbling_lookup hid).1.trans (scribbling_lookup hother).1.symm }
  sealed b hb c hc := by
    obtain rfl := Array.mem_singleton.mp hb
    cases hc
    exact pageless_sealed
  there := by
    rintro number ⟨id, b, hid, hb, hc⟩
    obtain ⟨-, rfl⟩ := scribbling_lookup hid
    cases hb
    cases hc

theorem resolving_sealed : Script.memory.Sealed resolving := by
  intro v isView
  obtain ⟨loan, lent⟩ := Option.isSome_iff_exists.mp isView
  cases v with
  | object ref =>
    obtain ⟨o, found, own⟩ := Option.bind_eq_some_iff.mp lent
    have there := Array.mem_of_getElem? found
    simp only [resolving, List.mem_toArray, List.mem_cons, List.not_mem_nil, or_false] at there
    obtain rfl | rfl | rfl | rfl := there <;> cases own
  | _ => cases lent

/-- A brain of that engine writes to the only byte of its buffer in both of its functions. A host that
panics when it hears of the first leaves the view cut off, and the brain with its context. A brain of the
script engine that writes nothing gives the byte back. -/
theorem host_memory_scribbled :
    AtRest scribblingEngine.memory scribbling ∧
    ((Operation.updateAgent "a" "agent" "1" ⟨#[1]⟩).act (fun _ w => .done .none w) scribbling).Ends
      (AllSealed scribblingEngine.memory) ∧
    ((Plan.ask (.operate (.updateAgent "a" "agent" "1" ⟨#[1]⟩)) fun _ => .finish .none).act
      (Host.link (fun _ => .finish .none) 1) scribbling).Ends (AtRest scribblingEngine.memory) ∧
    ((Plan.ask (.operate (.updateAgent "a" "agent" "1" ⟨#[1]⟩)) fun _ => .finish .none).act
      (Host.link (fun _ => .panic) 1) scribbling).Ends (AtRest scribblingEngine.memory) ∧
    (scribblingEngine.call (.inl "") [] []).Shows scribblingEngine.memory.Sealed ∧
    (∃ q view last moves, Lends scribblingEngine.memory scribblingBrain "1" ⟨#[1]⟩
      (fun _ w => .done .none w) ([], scribbling) q view last moves (.ok "1") ⟨#[7]⟩) ∧
    (∃ c, (scribblingBrain.updateInside "1" ⟨#[1]⟩) [] (fun _ w => .fault w) scribbling = .fault (c, scribbling) ∧
      scribblingEngine.memory.Sealed c) ∧
    (∃ (number : Nat) (b : Brain scribblingEngine) (c : List Page)
      (q : Scene scribblingEngine (Minded Unit)), scribbling.registry.lookup "a" = some number ∧
      scribbling.brains[number]? = some b ∧ b.context = some c ∧
      (b.updateInside "1" ⟨#[1]⟩).run c (fun _ w => .done .none w) (busy number scribbling) =
        .done (.ok (.ok "1", ⟨#[7]⟩), q.1) q.2) ∧
    ∃ q view last moves, Lends Script.memory resolvingBrain "\"\"" ⟨#[1]⟩ (fun _ w => .done .none w)
      (resolving, (deaf : World Script.engine ⟨Unit, Empty⟩)) q view last moves (.ok "\"\"") ⟨#[1]⟩ := by
  obtain ⟨operates, runs, shows, lends, cuts, runtime⟩ :=
    host_memory (K := Minded Unit) (S := Unit) scribblingEngine.memory
  have panicked : (scribblingBrain.updateInside "1" ⟨#[1]⟩) [] (fun _ w => .fault w) scribbling =
      .fault ([{ bytes := none, writes := [(0, 7)] }], scribbling) := rfl
  obtain ⟨_, hcut⟩ := cuts scribblingBrain "1" ⟨#[1]⟩ (fun _ w => .fault w) [] scribbling pageless_sealed (by decide)
  rw [panicked] at hcut
  obtain ⟨hlarge, -⟩ | ⟨result, bytes, view, last, moves, hr, hlends⟩ :=
    lends scribblingBrain "1" ⟨#[1]⟩ (fun _ w => .done .none w) ([], scribbling)
      ([{ bytes := none, writes := [(0, 7), (0, 7)] }], scribbling) _ pageless_sealed rfl
  · exact absurd hlarge (by decide)
  cases hr
  obtain ⟨-, failure, hfailure⟩ | ⟨number, b, c, q, hlookup, hb, hc, hrun, -⟩ :=
    runtime "a" "agent" "1" ⟨#[1]⟩ _ (fun _ w => .done .none w) scribbling _ (.ok "1") rfl
  · cases hfailure
  obtain ⟨c', resolved, -⟩ := resolvingBrain_updates (by decide : (⟨#[1]⟩ : ByteArray).size ≤ _)
    (fun _ w => .done .none w) (deaf : World Script.engine ⟨Unit, Empty⟩)
  obtain ⟨hlarge, -⟩ | ⟨result, bytes, sight, late, steps, hr, hscript⟩ :=
    (host_memory (K := ⟨Unit, Empty⟩) (S := Unit) Script.memory).2.2.2.1 resolvingBrain "\"\"" ⟨#[1]⟩ _
      (resolving, deaf) (c', deaf) _ resolving_sealed resolved
  · exact absurd hlarge (by decide)
  cases hr
  exact ⟨scribbling_atRest, operates _ _ scribbling (fun _ _ hu => hu) scribbling_atRest.sealed,
    ((runs _ 1 _ scribbling).2 scribbling_atRest).mono fun _ ends => ends.1,
    ((runs _ 1 _ scribbling).2 scribbling_atRest).mono fun _ ends => ends.1,
    shows (Engine.Operates.call (E := scribblingEngine) (.inl "") []) [] pageless_sealed,
    ⟨_, view, last, moves, hlends⟩, ⟨_, panicked, hcut.1⟩, ⟨number, b, c, q, hlookup, hb, hc, hrun⟩,
    _, sight, late, steps, hscript⟩

end BrainHost
