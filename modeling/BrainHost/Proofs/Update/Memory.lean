import BrainHost.Proofs.Script.Reach
import BrainHost.Proofs.Script.Setup
import BrainHost.Proofs.Update.Cycle

/-! # Host memory in an update

A buffer over host bytes is made when an update begins and cut off when it ends. Between the two it is
the only one that shows anything, and what it shows is what the host gave with what scripts wrote to
it. -/

namespace BrainHost

variable {E : Engine} {K : HostKind}

/-- The buffers over host bytes in the contexts of an engine. -/
structure Engine.Views (E : Engine) where
  /-- Whether a value is a buffer that was ever made in a context. -/
  isView : E.Context → E.Value → Prop
  /-- The bytes that a buffer shows, unless it is cut off. -/
  bytes? : E.Context → E.Value → Option ByteArray
  /-- What scripts wrote to a buffer so far: the places and their bytes. -/
  writes : E.Context → E.Value → List (Nat × UInt8)

namespace Engine.Views

variable (V : E.Views)

/-- All buffers are as they were. -/
structure Kept (c c' : E.Context) : Prop where
  views : ∀ v, V.isView c' v ↔ V.isView c v
  bytes : ∀ v, V.isView c v → V.bytes? c' v = V.bytes? c v
  writes : ∀ v, V.isView c v → V.writes c' v = V.writes c v

/-- No buffer is made or cut off, and what one shows has changed by what was written to it. -/
structure Wrote (c c' : E.Context) : Prop where
  views : ∀ v, V.isView c' v ↔ V.isView c v
  wrote : ∀ v, V.isView c v → ∃ new, V.writes c' v = V.writes c v ++ new ∧
    V.bytes? c' v = (V.bytes? c v).map (overwrite · new)

/-- A new buffer shows the given bytes. -/
structure Made (bytes : ByteArray) (v : E.Value) (c c' : E.Context) : Prop where
  fresh : ¬ V.isView c v
  views : ∀ u, V.isView c' u ↔ u = v ∨ V.isView c u
  shown : V.bytes? c' v = some bytes
  unwritten : V.writes c' v = []
  others : ∀ u, V.isView c u → V.bytes? c' u = V.bytes? c u

/-- A buffer is cut off: from now on it shows nothing. -/
structure Cut (v : E.Value) (c c' : E.Context) : Prop where
  views : ∀ u, V.isView c' u ↔ V.isView c u
  gone : V.bytes? c' v = none
  writes : V.writes c' v = V.writes c v
  others : ∀ u, V.isView c u → u ≠ v → V.bytes? c' u = V.bytes? c u

/-- No buffer shows host memory. -/
def Sealed (c : E.Context) : Prop := ∀ v, V.isView c v → V.bytes? c v = none

/-- One buffer shows host memory and no other one does: it shows the bytes that it was made of, with
what scripts wrote to it. -/
structure Shows (v : E.Value) (buffer : ByteArray) (c : E.Context) : Prop where
  made : V.isView c v
  shown : V.bytes? c v = some (overwrite buffer (V.writes c v))
  others : ∀ u, V.isView c u → u ≠ v → V.bytes? c u = none

variable {V} {c c' c'' : E.Context} {v : E.Value} {buffer : ByteArray}

theorem Kept.wrote (h : V.Kept c c') : V.Wrote c c' where
  views := h.views
  wrote v hv := ⟨[], by rw [h.writes v hv, List.append_nil], by
    rw [h.bytes v hv]
    exact Option.map_id'.symm⟩

theorem Wrote.refl (c : E.Context) : V.Wrote c c :=
  Kept.wrote ⟨fun _ => Iff.rfl, fun _ _ => rfl, fun _ _ => rfl⟩

theorem Wrote.trans (h₁ : V.Wrote c c') (h₂ : V.Wrote c' c'') : V.Wrote c c'' where
  views v := (h₂.views v).trans (h₁.views v)
  wrote v hv := by
    obtain ⟨first, hwrites, hbytes⟩ := h₁.wrote v hv
    obtain ⟨second, hwrites', hbytes'⟩ := h₂.wrote v ((h₁.views v).mpr hv)
    refine ⟨first ++ second, by rw [hwrites', hwrites, List.append_assoc], ?_⟩
    rw [hbytes', hbytes, Option.map_map]
    congr 1
    funext bytes
    exact (overwrite_append bytes first second).symm

theorem Sealed.wrote (h : V.Sealed c) (hwrote : V.Wrote c c') : V.Sealed c' := by
  intro v hv
  have old := (hwrote.views v).mp hv
  obtain ⟨new, -, hbytes⟩ := hwrote.wrote v old
  rw [hbytes, h v old]
  rfl

theorem Sealed.made (h : V.Sealed c) (hmade : V.Made buffer v c c') : V.Shows v buffer c' where
  made := (hmade.views v).mpr (.inl rfl)
  shown := by
    rw [hmade.shown, hmade.unwritten]
    rfl
  others u hu hne := by
    have old : V.isView c u := ((hmade.views u).mp hu).resolve_left hne
    rw [hmade.others u old, h u old]

theorem Shows.wrote (h : V.Shows v buffer c) (hwrote : V.Wrote c c') : V.Shows v buffer c' where
  made := (hwrote.views v).mpr h.made
  shown := by
    obtain ⟨new, hwrites, hbytes⟩ := hwrote.wrote v h.made
    rw [hbytes, h.shown, hwrites, overwrite_append]
    rfl
  others u hu hne := by
    have old := (hwrote.views u).mp hu
    obtain ⟨new, -, hbytes⟩ := hwrote.wrote u old
    rw [hbytes, h.others u old hne]
    rfl

theorem Shows.cut (h : V.Shows v buffer c) (hcut : V.Cut v c c') : V.Sealed c' := by
  intro u hu
  by_cases heq : u = v
  · rw [heq, hcut.gone]
  · have old := (hcut.views u).mp hu
    rw [hcut.others u old heq, h.others u old heq]

end Engine.Views

/-- What an engine does with host memory. Scripts change it only by writing to buffers that show it, and
what is cut off stays so. -/
structure Engine.Memory (E : Engine) extends E.Views where
  created : ∀ {config names c}, E.create config names = .ok c → ∀ v, ¬ isView c v
  attached : ∀ bytes c, toViews.Made bytes (E.attach bytes c).2 c (E.attach bytes c).1
  detached : ∀ {v c bytes}, isView c v → bytes? c v = some bytes →
    (E.detach v c).2 = bytes ∧ toViews.Cut v c (E.detach v c).1
  parsed : ∀ text c, toViews.Kept c (E.parseJson text c).1
  ran : ∀ {α : Type} {run : E.Context → Run E.Context E.Value (E.Context × α)}, E.Operates True run →
    ∀ c, (run c).Shows (toViews.Wrote c)

theorem Engine.Memory.onward (M : E.Memory) : E.Onward True M.Wrote where
  refl := .refl
  trans := .trans
  operates hop c := M.ran hop c
  parse text c := (M.parsed text c).wrote

/-! ## Buffers of scripts -/

namespace Script

/-- The host memory that a value shows, if it ever showed any. -/
def Realm.lent? (r : Realm) : Value → Option Loan
  | .object ref => r.loan? ref
  | _ => none

/-- The objects of scripts that were made over host bytes. -/
def views : engine.Views where
  isView (c : Context) v := (c.realm.lent? v).isSome
  bytes? (c : Context) v := (c.realm.lent? v).bind Loan.bytes
  writes (c : Context) v := ((c.realm.lent? v).map fun loan => loan.writes.toList).getD []

theorem bytes?_of_isView {c : Context} {ref : Nat} (h : views.isView c (.object ref)) :
    c.realm.bytes? ref = views.bytes? c (.object ref) := by
  obtain ⟨loan, lent⟩ := Option.isSome_iff_exists.mp h
  obtain ⟨o, found, own⟩ := Option.bind_eq_some_iff.mp lent
  change _ = (c.realm.lent? (.object ref)).bind Loan.bytes
  rw [lent, Option.bind_some, Realm.bytes?, Realm.object, found]
  simp only [Option.getD_some, own]

theorem views_wrote {c c' : Context}
    (h : ∀ ref, ∃ new, c'.realm.loan? ref = (c.realm.loan? ref).map (Loan.written · new)) : views.Wrote c c' := by
  have lent (v : Value) : ∃ new, c'.realm.lent? v = (c.realm.lent? v).map (Loan.written · new) := by
    cases v with
    | object ref => exact h ref
    | _ => exact ⟨[], rfl⟩
  constructor
  · intro v
    obtain ⟨new, lent⟩ := lent v
    simp [views, lent]
  · intro v isView
    obtain ⟨new, lent⟩ := lent v
    obtain ⟨loan, own⟩ := Option.isSome_iff_exists.mp isView
    refine ⟨new, ?_, ?_⟩ <;> simp [views, lent, own, Loan.written]

theorem views_kept {c c' : Context} (h : ∀ ref, c'.realm.loan? ref = c.realm.loan? ref) : views.Kept c c' := by
  have lent (v : Value) : c'.realm.lent? v = c.realm.lent? v := by
    cases v with
    | object ref => exact h ref
    | _ => rfl
  exact ⟨fun v => by simp [views, lent v], fun v _ => by simp [views, lent v], fun v _ => by simp [views, lent v]⟩

section

variable (bytes : ByteArray) (r : Realm)

theorem lent?_fresh : r.lent? (.object r.objects.size) = none := by
  simp [Realm.lent?, Realm.loan?]

theorem lent?_attached : (attachBuffer bytes r).2.lent? (.object r.objects.size) = some { bytes := some bytes } := by
  simp [Realm.lent?, Realm.loan?, attachBuffer, Realm.allocate]

theorem lent?_attached_of_ne {v : Value} (h : v ≠ .object r.objects.size) :
    (attachBuffer bytes r).2.lent? v = r.lent? v := by
  cases v with
  | object ref =>
    have other : ref ≠ r.objects.size := fun same => h (same ▸ rfl)
    simp [Realm.lent?, Realm.loan?, attachBuffer, Realm.allocate, Array.getElem?_push, other]
  | _ => rfl

end

section

variable {r : Realm} {ref : Nat} {bytes : ByteArray} {writes : Array (Nat × UInt8)}
  (h : r.loan? ref = some ⟨some bytes, writes⟩)
include h

theorem detachBuffer_eq : detachBuffer (.object ref) r =
    (bytes, r.modifyObject ref fun o => { o with lent := some ⟨none, writes⟩ }) := by
  rw [detachBuffer, h]

theorem lent?_detached : (detachBuffer (.object ref) r).2.lent? (.object ref) = some ⟨none, writes⟩ := by
  obtain ⟨o, found, -⟩ := Option.bind_eq_some_iff.mp h
  rw [detachBuffer_eq h]
  simp [Realm.lent?, Realm.loan?, Realm.modifyObject, Array.getElem?_modify, found]

theorem lent?_detached_of_ne {v : Value} (hne : v ≠ .object ref) :
    (detachBuffer (.object ref) r).2.lent? v = r.lent? v := by
  rw [detachBuffer_eq h]
  cases v with
  | object other =>
    have different : ref ≠ other := fun same => hne (same ▸ rfl)
    simp [Realm.lent?, Realm.loan?, Realm.modifyObject, Array.getElem?_modify, different]
  | _ => rfl

end

theorem attached_made (bytes : ByteArray) (c : Context) :
    views.Made bytes (.object c.realm.objects.size) c { c with realm := (attachBuffer bytes c.realm).2 } where
  fresh := by simp [views, lent?_fresh]
  views u := by
    by_cases same : u = .object c.realm.objects.size
    · subst same
      exact iff_of_true (by simp [views, lent?_attached]) (.inl rfl)
    · simp [views, lent?_attached_of_ne bytes c.realm same, same]
  shown := by simp [views, lent?_attached]
  unwritten := by simp [views, lent?_attached]
  others u isView := by
    have old : u ≠ .object c.realm.objects.size := by
      rintro rfl
      simp [views, lent?_fresh] at isView
    simp [views, lent?_attached_of_ne bytes c.realm old]

theorem detached_cut {c : Context} {ref : Nat} {bytes : ByteArray} {writes : Array (Nat × UInt8)}
    (h : c.realm.loan? ref = some ⟨some bytes, writes⟩) :
    views.Cut (.object ref) c { c with realm := (detachBuffer (.object ref) c.realm).2 } := by
  have own : c.realm.lent? (.object ref) = some ⟨some bytes, writes⟩ := h
  constructor
  · intro u
    by_cases same : u = .object ref
    · subst same
      simp [views, lent?_detached h, own]
    · simp [views, lent?_detached_of_ne h same]
  · simp [views, lent?_detached h]
  · simp [views, lent?_detached h, own]
  · intro u _ hne
    simp [views, lent?_detached_of_ne h hne]

theorem runJob_wrote (c : Context) : (engine.runJob c).Shows (views.Wrote c) := by
  cases waiting : c.realm.jobs with
  | nil =>
    rw [runJob_idle waiting]
    exact Engine.Views.Wrote.refl (E := engine) c
  | cons job rest => exact (runJob_reaches waiting).mono fun _ reached => views_wrote reached.loans

/-- What scripts do with host memory. -/
def memory : engine.Memory where
  toViews := views
  created {config names c} h v := by
    cases v with
    | object ref => simp [views, Realm.lent?, Context.create_unlent h ref]
    | _ => nofun
  attached := attached_made
  detached {v c bytes} _ shown := by
    obtain ⟨⟨_, writes⟩, lent, rfl : _ = some bytes⟩ := Option.bind_eq_some_iff.mp shown
    cases v with
    | object ref => exact ⟨congrArg Prod.fst (detachBuffer_eq lent), detached_cut lent⟩
    | _ => cases lent
  parsed text c := views_kept (parseJson_still text c).loans
  ran := operates_shows (fun reached => views_wrote reached.loans) fun _ => runJob_wrote

end Script

/-! ## Moves -/

/-- Whether a move neither makes a buffer nor cuts one off. -/
def Move.keepsViews : Move E → Bool
  | attach _ _ => false
  | detach _ _ => false
  | _ => true

variable {M : E.Memory} {b : Brain E} {link : Link E K} {p q : Scene E K}

theorem Move.Leads.wrote {move : Move E} (h : move.Leads b link p q) (hkeeps : move.keepsViews = true) :
    M.Wrote p.1 q.1 := by
  cases move with
  | attach bytes view => cases hkeeps
  | parse text result =>
    have read := (M.parsed text p.1).wrote
    rwa [h.1] at read
  | call f args result => exact (M.ran (.call f args) p.1).ends.carryOut h
  | look pending =>
    rw [h.2]
    exact .refl p.1
  | job result => exact (M.ran (.job trivial) p.1).ends.carryOut h
  | write v result => exact (M.ran (.stringify v) p.1).ends.carryOut h
  | diagnose thrown d => exact (Inside.Plain.onward M.onward (.diagnose thrown b.sourceOf)).done h
  | headline thrown reason => exact (M.ran (.headline thrown) p.1).ends.carryOut h
  | detach view bytes => cases hkeeps

theorem Path.wrote {moves : List (Move E)} (h : Path b link moves p q)
    (hkeep : ∀ move ∈ moves, move.keepsViews = true) : M.Wrote p.1 q.1 := by
  induction moves generalizing p with
  | nil =>
    rw [show q = p from h]
    exact .refl p.1
  | cons move moves ih =>
    obtain ⟨x, hlead, hrest⟩ := h
    exact (hlead.wrote (hkeep move List.mem_cons_self)).trans
      (ih hrest fun other hother => hkeep other (List.mem_cons_of_mem _ hother))

theorem Cycle.keepsViews {state : String} {view : E.Value} {last : Phase} {moves : List (Move E)}
    {r : Except Failure String} (h : Cycle b state view last moves r) :
    ∀ move ∈ moves, move.keepsViews = true := by
  refine h.closed (P := fun moves => ∀ move ∈ moves, move.keepsViews = true) (by simp)
    (fun h₁ h₂ => List.forall_mem_append.mpr ⟨h₁, h₂⟩) ?_ ?_ ?_ ?_
  · intro moves r hread
    cases hread <;> simp [Move.keepsViews]
  · intro activity f args moves r hcall
    cases hcall <;> simp [Move.keepsViews]
  · intro moves r hdrain
    have after {n : Nat} {last : List (Move E)} (hlast : ∀ move ∈ last, move.keepsViews = true) :
        ∀ move ∈ jobs n ++ last, move.keepsViews = true := by
      refine List.forall_mem_append.mpr ⟨fun move hjobs => ?_, hlast⟩
      rcases mem_jobs hjobs with rfl | rfl <;> rfl
    cases hdrain <;> exact after (by simp [failingJob, Move.keepsViews])
  · intro v moves r hwrite
    cases hwrite <;> simp [Move.keepsViews]

/-! ## Updates -/

variable {buffer bytes : ByteArray} {view : E.Value} {moves : List (Move E)}

theorem Move.Leads.made (h : (attach buffer view).Leads b link p q) : M.Made buffer view p.1 q.1 := by
  have made := M.attached buffer p.1
  rwa [h.1] at made

theorem Path.shows (hsealed : M.Sealed p.1) (hkeep : ∀ move ∈ moves, move.keepsViews = true)
    (h : Path b link (.attach buffer view :: moves) p q) :
    M.Shows view buffer q.1 ∧ ∀ u, M.isView q.1 u ↔ u = view ∨ M.isView p.1 u := by
  obtain ⟨x, hattach, hrest⟩ := h
  have made : M.Made buffer view p.1 x.1 := hattach.made
  have wrote : M.Wrote x.1 q.1 := hrest.wrote hkeep
  exact ⟨(hsealed.made made).wrote wrote, fun u => (wrote.views u).trans (made.views u)⟩

theorem Path.ends (hsealed : M.Sealed p.1) (hkeep : ∀ move ∈ moves, move.keepsViews = true)
    (h : Path b link (.attach buffer view :: moves ++ [.detach view bytes]) p q) :
    bytes = overwrite buffer (M.writes q.1 view) ∧ (∀ u, M.isView q.1 u ↔ u = view ∨ M.isView p.1 u) ∧
      M.Sealed q.1 := by
  obtain ⟨x, hbefore, hlast⟩ := Path.append.mp h
  have hdetach := (Path.single.mp hlast).1
  obtain ⟨shows, views⟩ := Path.shows hsealed hkeep hbefore
  obtain ⟨hbytes, hcut⟩ := M.detached shows.made shows.shown
  rw [hdetach] at hbytes hcut
  exact ⟨by rw [hcut.writes]; exact hbytes, fun u => (hcut.views u).trans (views u), shows.cut hcut⟩

theorem Path.begins {v : E.Value} {state : String}
    (h : Path b link [.attach buffer view, .parse state (.ok v)] p q) : M.bytes? q.1 view = some buffer := by
  obtain ⟨x, hattach, hrest⟩ := h
  have hparse := (Path.single.mp hrest).1
  have made : M.Made buffer view p.1 x.1 := hattach.made
  have kept := M.parsed state x.1
  rw [hparse] at kept
  rw [kept.bytes view ((made.views view).mpr (.inl rfl)), made.shown]

end BrainHost
