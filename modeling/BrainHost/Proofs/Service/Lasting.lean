import BrainHost.Proofs.Table.Sound

/-! # What lasts

A property that every brain is made with and that operations leave to it is one of all brains, in every
run of every host. And a brain has its context whenever none of its scripts runs. -/

namespace BrainHost

variable {S : Type} {E : Engine} {onward : E.Context → E.Context → Prop} {P : Brain E → Prop}

/-- A property that brains are made with and that they keep while their contexts go on. -/
structure Brain.Lasting (S : Type) (onward : E.Context → E.Context → Prop) (P : Brain E → Prop) : Prop where
  made : ∀ {b : Brain E}, b.Made (Minded S) → P b
  emptied : ∀ {b : Brain E} modules, P b → P { b with context := none, modules }
  stored : ∀ {b : Brain E} id m, P b → P (b.store id m)
  /-- The brain that has the number of a brain gets the context back that this one had lent. -/
  rested : ∀ {b b' : Brain E} {c c'}, P b → b.context = some c → onward c c' → P b' →
    P { b' with context := some c' }

/-- Conduct: all brains have the property still. -/
def lasting (S : Type) (onward : E.Context → E.Context → Prop) (P : Brain E → Prop) :
    Conduct E (Minded S) where
  admits link := ∀ callback w, (link callback w).Ends fun v => (∀ b ∈ w.brains, P b) → ∀ b ∈ v.brains, P b
  rel w v := (∀ b ∈ w.brains, P b) → ∀ b ∈ v.brains, P b
  refl _ h := h
  trans h₁ h₂ h := h₂ (h₁ h)
  onward := onward

namespace lasting

theorem rel_of_same {v w : World E (Minded S)} (h : v.brains = w.brains) :
    (lasting S onward P).rel w v := by
  intro hw b hb
  exact hw b (h ▸ hb)

theorem modified {brains : Array (Brain E)} (h : ∀ b ∈ brains, P b) (number : Nat)
    {f : Brain E → Brain E} (hf : ∀ b, P b → P (f b)) : ∀ b ∈ brains.modify number f, P b := by
  intro b hb
  obtain ⟨i, hi, rfl⟩ := Array.mem_iff_getElem.mp hb
  have hsize : i < brains.size := by simpa using hi
  have old := h brains[i] (Array.getElem_mem hsize)
  rw [Array.getElem_modify]
  split
  · exact hf _ old
  · exact old

theorem lax : (lasting S onward P).Lax where
  logged _ _ := rel_of_same rfl
  invoke callback _ hl w := hl callback w
  serving _ _ _ _ := rel_of_same rfl

variable (h : Brain.Lasting S onward P)
include h

theorem removed (id : String) {w : World E (Minded S)} (hw : ∀ b ∈ w.brains, P b) :
    ∀ b ∈ (Registry.remove id w).brains, P b := by
  unfold Registry.remove
  cases w.registry.lookup id with
  | none => exact hw
  | some number => exact modified hw number fun _ hb => h.emptied [] hb

theorem fair (hworks : (lasting S onward P).Works) : (lasting S onward P).Fair where
  toLoud := lax.loud
  rested hb hc hv hon hw := by
    have own := hw _ (Array.mem_of_getElem? hb)
    have others := hv (modified hw _ fun b hb => h.emptied b.modules hb)
    exact modified others _ fun _ hb' => h.rested own hc hon hb'
  works := hworks
  stored w number id m hw := modified hw number fun _ hb => h.stored id m hb
  replaced w id b hb hw b' hb' := by
    rcases Array.mem_push.mp hb' with hold | rfl
    · exact removed h id hw b' hold
    · exact h.made hb
  cleared _ _ := by simp
  life _ _ := rel_of_same rfl
  bridged _ := rel_of_same rfl
  callService := lax.callService
  think _ _ := rel_of_same rfl
  assign _ _ := rel_of_same rfl
  note _ _ _ := rel_of_same rfl
  report reporter result := by
    have asked : Act.Keeps (lasting S onward P) (note (.asked (.report reporter result))) :=
      Act.Keeps.modify fun _ => rel_of_same rfl
    exact asked.bind fun _ => lax.report reporter result

theorem run (hworks : (lasting S onward P).Works) (host : Host S) (depth : Nat) (plan : Plan S)
    {w : World E (Minded S)} (hw : ∀ b ∈ w.brains, P b) :
    (plan.act (host.link depth) w).Ends fun v => ∀ b ∈ v.brains, P b := by
  have kept := fair h hworks
  have link : (lasting S onward P).admits (host.link depth) :=
    kept.link (fun _ h => h) (fun _ _ _ hv => hv) host depth
  exact (kept.plan plan (host.link depth) link w).mono fun _ hv => hv hw

end lasting

/-! ## Contexts come back -/

/-- The brain that has the number can be found, and lacks its context. -/
def World.Lacks {K : HostKind} (w : World E K) (number : Nat) : Prop :=
  ∃ id b, w.registry.lookup id = some number ∧ w.brains[number]? = some b ∧ b.context = none

/-- No more brains lack their contexts than before. -/
def Returned {K : HostKind} (w v : World E K) : Prop :=
  w.Tidy → v.Tidy ∧ ∀ number, v.Lacks number → w.Lacks number

namespace Returned

variable {K : HostKind} {u v w : World E K}

theorem refl (w : World E K) : Returned w w := fun tidy => ⟨tidy, fun _ lacks => lacks⟩

theorem trans (h₁ : Returned u v) (h₂ : Returned v w) : Returned u w := by
  intro tidy
  obtain ⟨tidy₁, back₁⟩ := h₁ tidy
  obtain ⟨tidy₂, back₂⟩ := h₂ tidy₁
  exact ⟨tidy₂, fun number lacks => back₁ number (back₂ number lacks)⟩

theorem of_same (registry : v.registry = w.registry) (brains : v.brains = w.brains) : Returned w v := by
  intro tidy
  refine ⟨⟨fun h => brains ▸ tidy.numbers (registry ▸ h), fun h h' => tidy.apart (registry ▸ h) (registry ▸ h')⟩,
    fun number lacks => ?_⟩
  rwa [World.Lacks, registry, brains] at lacks

theorem modified (w : World E K) (number : Nat) {f : Brain E → Brain E}
    (hf : ∀ b, (f b).context = none → b.context = none) :
    Returned w { w with brains := w.brains.modify number f } := by
  intro tidy
  refine ⟨tidy.modified number f, ?_⟩
  rintro other ⟨id, b, hid, hb, hcontext⟩
  rw [Array.getElem?_modify] at hb
  split at hb
  · obtain ⟨old, hold, rfl⟩ := Option.map_eq_some_iff.mp hb
    exact ⟨id, old, hid, hold, hf old hcontext⟩
  · exact ⟨id, b, hid, hb, hcontext⟩

theorem rested {number : Nat} {c : E.Context} (h : Returned (busy number w) v) :
    Returned w (BrainHost.rested number c v) := by
  intro tidy
  obtain ⟨tidy', back⟩ := h (tidy.modified number _)
  refine ⟨tidy'.modified number _, ?_⟩
  rintro other ⟨id, b, hid, hb, hcontext⟩
  rw [BrainHost.rested, Array.getElem?_modify] at hb
  split at hb
  · obtain ⟨old, -, rfl⟩ := Option.map_eq_some_iff.mp hb
    cases hcontext
  · next hother =>
    obtain ⟨id', b', hid', hb', hcontext'⟩ := back other ⟨id, b, hid, hb, hcontext⟩
    rw [busy, Array.getElem?_modify, if_neg hother] at hb'
    exact ⟨id', b', hid', hb', hcontext'⟩

theorem replaced (w : World E K) (id : String) {b : Brain E} (hb : b.context ≠ none) :
    Returned w (Registry.insert id b (Registry.remove id w)) := by
  intro tidy
  refine ⟨tidy.replaced id b, ?_⟩
  rintro number ⟨other, b', hother, hb', hcontext⟩
  rw [tidy.brains_replaced b hother] at hb'
  rw [World.Tidy.registry_replaced] at hother
  split at hb'
  · cases hb'
    exact absurd hcontext hb
  · next hne =>
    rw [if_neg hne] at hother
    exact ⟨other, b', hother, hb', hcontext⟩

end Returned

/-- Conduct: no more brains lack their contexts than before. -/
def returning (E : Engine) (S : Type) : Conduct E (Minded S) where
  admits link := ∀ callback w, (link callback w).Ends (Returned w)
  rel := Returned
  refl := .refl
  trans := .trans

namespace returning

theorem lax : (returning E S).Lax where
  logged _ _ := .of_same rfl rfl
  invoke callback _ hl w := hl callback w
  serving _ _ _ _ := .of_same rfl rfl

theorem fair : (returning E S).Fair where
  toLoud := lax.loud
  rested _ _ hv _ := hv.rested
  works := .of_true fun _ _ => trivial
  stored w number id m := .modified w number fun _ h => h
  replaced w id b hb := .replaced w id (by
    obtain ⟨source, config, link, u, v, hmake⟩ := hb
    obtain ⟨c, c', x, -, -, made⟩ := Brain.make_ok hmake
    rw [made]
    exact Option.some_ne_none c')
  cleared _ _ := ⟨⟨nofun, nofun⟩, fun _ ⟨_, _, h, _⟩ => nomatch h⟩
  life _ _ := .of_same rfl rfl
  bridged _ := .of_same rfl rfl
  callService := lax.callService
  think _ _ := .of_same rfl rfl
  assign _ _ := .of_same rfl rfl
  note _ _ _ := .of_same rfl rfl
  report reporter result := by
    have asked : Act.Keeps (returning E S) (note (.asked (.report reporter result))) :=
      Act.Keeps.modify fun _ => .of_same rfl rfl
    exact asked.bind fun _ => lax.report reporter result

theorem run (host : Host S) (depth : Nat) (plan : Plan S) (w : World E (Minded S)) :
    (plan.act (host.link depth) w).Ends (Returned w) := by
  have link : (returning E S).admits (host.link depth) := by
    refine fair.link (fun _ h => h) (fun callback w v hv => ?_) host depth
    have entered : Returned w (entering callback w) := .of_same rfl rfl
    have left : Returned v (leaving callback v) := .of_same rfl rfl
    exact (entered.trans hv).trans left
  exact fair.plan plan (host.link depth) link w

end returning

end BrainHost
