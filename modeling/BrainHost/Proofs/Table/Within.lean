import BrainHost.Proofs.Table.Spec

/-! # What can change while an operation runs

Scripts of a brain reach the service bridge of this brain and no other, and a result changes only by a
report to a call that one of them made. So whatever host functions do, an operation leaves alone what
belongs to other brains than those whose scripts run. -/

namespace BrainHost

variable {E : Engine} {K : HostKind} {α β : Type}

theorem lookup_filter_ne {β : Type} (l : List (String × β)) {id other : String} (h : other ≠ id) :
    (l.filter fun p => p.1 ≠ id).lookup other = l.lookup other := by
  induction l with
  | nil => rfl
  | cons p l ih =>
    obtain ⟨key, b⟩ := p
    by_cases hkey : key = id
    · subst hkey
      have hfirst : (other == key) = false := beq_eq_false_iff_ne.mpr h
      rw [List.filter_cons_of_neg (by simp), ih, List.lookup_cons, hfirst]
    · rw [List.filter_cons_of_pos (by simpa using hkey), List.lookup_cons, List.lookup_cons, ih]

theorem lookup_replace {β : Type} (l : List (String × β)) (id : String) (b : β) (other : String) :
    ((id, b) :: l.filter fun p => p.1 ≠ id).lookup other = if other = id then some b else l.lookup other := by
  rw [List.lookup_cons]
  by_cases h : other = id
  · rw [if_pos h, h, beq_self_eq_true]
  · rw [if_neg h, beq_eq_false_iff_ne.mpr h, lookup_filter_ne l h]

theorem Brain.moduleSource_store (b : Brain E) (id : String) (m : StoredModule E.Value) (other : String) :
    (b.store id m).moduleSource other = if other = id then some m.source else b.moduleSource other := by
  unfold Brain.moduleSource Brain.store
  dsimp only
  rw [lookup_replace]
  split <;> rfl

/-- The bridges and modules that may change. Bridges and brains are known by number. -/
structure Scope where
  bridges : Nat → Prop
  modules : Nat → String → Prop

theorem rel_some {r : α → β → Prop} {o : Option α} {b : β} (h : Option.Rel r o (some b)) :
    ∃ a, o = some a ∧ r a b := by
  cases h with
  | some hab => exact ⟨_, rfl, hab⟩

theorem rel_isSome {r : α → β → Prop} {o : Option α} {o' : Option β} (h : Option.Rel r o o') :
    o'.isSome = o.isSome := by
  cases h <;> rfl

/-- Something was reported to the owner of a reporter. -/
def HeardIn (reporters : Array Reporter) (reporter : Nat) : Prop :=
  ∃ x, reporters[reporter]? = some x ∧ x.awaiting = false

theorem heardIn_push {reporters : Array Reporter} {reporter : Nat} (h : HeardIn reporters reporter)
    (x : Reporter) : HeardIn (reporters.push x) reporter := by
  obtain ⟨y, hy, hheard⟩ := h
  obtain ⟨hsize, rfl⟩ := Array.getElem?_eq_some_iff.mp hy
  exact ⟨_, Array.getElem?_push_lt hsize, hheard⟩

theorem heardIn_modify {f : Reporter → Reporter} (hf : ∀ x, x.awaiting = false → (f x).awaiting = false)
    {reporters : Array Reporter} {reporter other : Nat} (h : HeardIn reporters other) :
    HeardIn (reporters.modify reporter f) other := by
  obtain ⟨y, hy, hheard⟩ := h
  rw [HeardIn, Array.getElem?_modify, hy]
  split
  · exact ⟨f y, rfl, hf y hheard⟩
  · exact ⟨y, rfl, hheard⟩

/-- The bridges of the brains whose scripts may run are in scope, and so are the calls that wait. -/
structure Reach.Within (reach : Reach) (scope : Scope) (w : World E K) : Prop where
  bridges : ∀ {id b}, reach.runs id → w.found id = some b → scope.bridges b.bridge
  modules : ∀ {id number moduleId}, reach.sets id moduleId → w.registry.lookup id = some number →
    scope.modules number moduleId
  opened : ∀ {reporter : Nat} {x : Reporter}, w.reporters[reporter]? = some x → x.isOpen = true →
    scope.bridges x.bridge

namespace Scope

/-- A brain is the same but for its context and the modules in scope. -/
structure Spares (scope : Scope) (number : Nat) (b b' : Brain E) : Prop where
  source : b'.source = b.source
  bridge : b'.bridge = b.bridge
  modules : ∀ id, ¬ scope.modules number id → b'.moduleSource id = b.moduleSource id

/-- What calls of services leave behind. -/
structure Served (scope : Scope) (w v : World E K) : Prop where
  size : v.results.size = w.results.size
  results : ∀ bridge, resultIn v.results bridge ≠ resultIn w.results bridge → scope.bridges bridge ∧
    ∃ reporter, HeardIn v.reporters reporter ∧ ownerIn v.reporters reporter = some bridge
  owners : ∀ reporter bridge, ownerIn w.reporters reporter = some bridge →
    ownerIn v.reporters reporter = some bridge
  made : ∀ reporter bridge, ownerIn v.reporters reporter = some bridge →
    ownerIn w.reporters reporter = some bridge ∨ scope.bridges bridge
  heard : ∀ reporter, HeardIn w.reporters reporter → HeardIn v.reporters reporter
  opened : ∀ reporter, IsOpenIn v.reporters reporter → IsOpenIn w.reporters reporter

/-- The same brains are there, and nothing has changed that is out of scope. -/
structure Keeps (scope : Scope) (w v : World E K) : Prop extends scope.Served w v where
  config : v.config = w.config
  registry : v.registry = w.registry
  path : v.life.map Life.path = w.life.map Life.path
  brains : ∀ number, Option.Rel (scope.Spares number) w.brains[number]? v.brains[number]?

variable {scope : Scope}

namespace Spares

theorem refl (number : Nat) (b : Brain E) : scope.Spares number b b := ⟨rfl, rfl, fun _ _ => rfl⟩

theorem trans {number : Nat} {b b' b'' : Brain E} (h : scope.Spares number b b')
    (h' : scope.Spares number b' b'') : scope.Spares number b b'' where
  source := h'.source.trans h.source
  bridge := h'.bridge.trans h.bridge
  modules id hid := (h'.modules id hid).trans (h.modules id hid)

theorem store {number : Nat} {id : String} (hid : scope.modules number id) (b : Brain E)
    (m : StoredModule E.Value) : scope.Spares number b (b.store id m) where
  source := rfl
  bridge := rfl
  modules other hother := by
    rw [b.moduleSource_store, if_neg]
    rintro rfl
    exact hother hid

theorem rel_refl (number : Nat) (found : Option (Brain E)) :
    Option.Rel (scope.Spares number) found found := by
  cases found with
  | none => exact .none
  | some b => exact .some (refl number b)

theorem rel_trans {number : Nat} {found found' found'' : Option (Brain E)}
    (h : Option.Rel (scope.Spares number) found found')
    (h' : Option.Rel (scope.Spares number) found' found'') :
    Option.Rel (scope.Spares number) found found'' := by
  cases h with
  | none => exact h'
  | some hb =>
    cases h' with
    | some hb' => exact .some (hb.trans hb')

end Spares

namespace Served

theorem of_same {w v : World E K} (hreporters : v.reporters = w.reporters)
    (hresults : v.results = w.results) : scope.Served w v where
  size := by rw [hresults]
  results bridge hne := absurd (by rw [hresults]) hne
  owners _ _ h := hreporters ▸ h
  made _ _ h := .inl (hreporters ▸ h)
  heard _ h := hreporters ▸ h
  opened _ h := hreporters ▸ h

theorem trans {u v w : World E K} (h : scope.Served w v) (h' : scope.Served v u) :
    scope.Served w u where
  size := h'.size.trans h.size
  results bridge hne := by
    by_cases hlater : resultIn u.results bridge = resultIn v.results bridge
    · obtain ⟨hscope, reporter, hheard, howner⟩ := h.results bridge (hlater ▸ hne)
      exact ⟨hscope, reporter, h'.heard _ hheard, h'.owners _ _ howner⟩
    · exact h'.results bridge hlater
  owners reporter bridge howner := h'.owners _ _ (h.owners _ _ howner)
  made reporter bridge howner := (h'.made _ _ howner).elim (h.made _ _) .inr
  heard reporter hheard := h'.heard _ (h.heard _ hheard)
  opened reporter hopen := h.opened _ (h'.opened _ hopen)

theorem modified {w v : World E K} {reporter : Nat} {f : Reporter → Reporter}
    (hreporters : v.reporters = w.reporters.modify reporter f) (hresults : v.results = w.results)
    (hbridge : ∀ x, (f x).bridge = x.bridge)
    (hheard : ∀ x, x.awaiting = false → (f x).awaiting = false)
    (hopen : ∀ other, IsOpenIn (w.reporters.modify reporter f) other → IsOpenIn w.reporters other) :
    scope.Served w v where
  size := by rw [hresults]
  results _ hne := absurd (by rw [hresults]) hne
  owners _ _ howner := by rw [hreporters, ownerIn_modify hbridge]; exact howner
  made _ _ howner := by rw [hreporters, ownerIn_modify hbridge] at howner; exact .inl howner
  heard _ h := hreporters ▸ heardIn_modify hheard h
  opened other h := hopen other (hreporters ▸ h)

end Served

namespace Keeps

theorem of_same {w v : World E K} (hconfig : v.config = w.config) (hregistry : v.registry = w.registry)
    (hpath : v.life.map Life.path = w.life.map Life.path) (hbrains : v.brains = w.brains)
    (hserved : scope.Served w v) : scope.Keeps w v where
  toServed := hserved
  config := hconfig
  registry := hregistry
  path := hpath
  brains number := hbrains ▸ Spares.rel_refl number _

theorem refl (w : World E K) : scope.Keeps w w := of_same rfl rfl rfl rfl (.of_same rfl rfl)

theorem trans {u v w : World E K} (h : scope.Keeps w v) (h' : scope.Keeps v u) : scope.Keeps w u where
  toServed := h.toServed.trans h'.toServed
  config := h'.config.trans h.config
  registry := h'.registry.trans h.registry
  path := h'.path.trans h.path
  brains number := Spares.rel_trans (h.brains number) (h'.brains number)

theorem modified (w : World E K) (number : Nat) {f : Brain E → Brain E}
    (hf : ∀ b, scope.Spares number b (f b)) :
    scope.Keeps w { w with brains := w.brains.modify number f } where
  toServed := .of_same rfl rfl
  config := rfl
  registry := rfl
  path := rfl
  brains other := by
    rw [Array.getElem?_modify]
    split
    · next heq =>
      subst heq
      cases w.brains[number]? with
      | none => exact .none
      | some b => exact .some (hf b)
    · exact Spares.rel_refl other _

theorem found_rel {w v : World E K} (h : scope.Keeps w v) {id : String} {number : Nat}
    (hlookup : w.registry.lookup id = some number) :
    Option.Rel (scope.Spares number) (w.found id) (v.found id) := by
  unfold World.found
  rw [h.registry, hlookup]
  exact h.brains number

theorem found {w v : World E K} (h : scope.Keeps w v) {id : String} {b' : Brain E}
    (hb' : v.found id = some b') :
    ∃ b, w.found id = some b ∧ b'.bridge = b.bridge := by
  obtain ⟨number, hlookup, -⟩ := Option.bind_eq_some_iff.mp hb'
  obtain ⟨b, hb, hspares⟩ := rel_some (hb' ▸ h.found_rel (h.registry ▸ hlookup))
  exact ⟨b, hb, hspares.bridge⟩

end Keeps

end Scope

theorem Reach.Within.kept {reach : Reach} {scope : Scope} {w v : World E K} (h : reach.Within scope w)
    (hkeeps : scope.Keeps w v) : reach.Within scope v where
  bridges hruns hfound := by
    obtain ⟨b, hb, hbridge⟩ := hkeeps.found hfound
    exact hbridge ▸ h.bridges hruns hb
  modules hsets hlookup := h.modules hsets (hkeeps.registry ▸ hlookup)
  opened {reporter x} hx hopen := by
    -- A call that waits still has waited before, with the same owner.
    obtain ⟨y, hy, hyopen⟩ := hkeeps.opened reporter ⟨x, hx, hopen⟩
    have howner := hkeeps.owners reporter y.bridge (by rw [ownerIn, hy]; rfl)
    rw [ownerIn, hx, Option.map_some, Option.some.injEq] at howner
    exact howner ▸ h.opened hy hyopen

/-- Conduct: what is out of scope stays as it is. -/
def within (E : Engine) (K : HostKind) (reach : Reach) (scope : Scope) : Conduct E K where
  admits link := ∀ callback w, (link callback w).Ends fun v => reach.Within scope w → scope.Keeps w v
  rel w v := reach.Within scope w → scope.Keeps w v
  refl w _ := .refl w
  trans h₁ h₂ hw := (h₁ hw).trans (h₂ (hw.kept (h₁ hw)))

namespace within

variable {reach : Reach} {scope : Scope} {w v : World E K}

theorem loud : (within E K reach scope).Loud where
  logged _ _ _ := .of_same rfl rfl rfl rfl (.of_same rfl rfl)
  invoke callback _ _ hl w := hl callback w

theorem lending : (within E K reach scope).Lending where
  toLoud := loud
  rested _ _ hv _ :=
    Conduct.rested_of_entered (D := within E K reach scope)
      (fun w number _ _ => .modified w number fun _ => ⟨rfl, rfl, fun _ _ => rfl⟩) hv
  works := .of_true fun _ _ => trivial
  scratched w _ _ := .of_same rfl rfl (by simp [Function.comp_def]) rfl (.of_same rfl rfl)

/-! ## Service calls -/

theorem opened {bridge : Nat} (h : reach.Within scope w) (hbridge : scope.bridges bridge) :
    reach.Within scope (Act.opened bridge w) where
  bridges := h.bridges
  modules := h.modules
  opened {reporter x} hx hopen := by
    rw [Act.opened, Array.getElem?_push] at hx
    split at hx
    · cases hx
      exact hbridge
    · exact h.opened hx hopen

theorem served {bridge : Nat} (hbridge : scope.bridges bridge)
    (h : scope.Served (Act.opened bridge w) v) : scope.Served w (Act.closed w.reporters.size v) := by
  have closed : scope.Served (Act.opened bridge w) (Act.closed w.reporters.size v) :=
    h.trans (.modified (f := fun r => { r with isOpen := false }) rfl rfl (fun _ => rfl) (fun _ hx => hx)
      fun other hopen => ((isOpenIn_close _ _ other).mp hopen).2)
  exact
    { size := closed.size
      results := closed.results
      owners := fun reporter other howner => closed.owners reporter other (ownerIn_push howner _)
      made := fun reporter other howner => by
        refine (closed.made reporter other howner).elim (fun hopened => ?_) .inr
        rw [ownerIn, Act.opened, Array.getElem?_push] at hopened
        split at hopened
        · cases hopened
          exact .inr hbridge
        · exact .inl hopened
      heard := fun reporter hheard => closed.heard reporter (heardIn_push hheard _)
      opened := fun reporter hopen => by
        have hne := ((isOpenIn_close v.reporters w.reporters.size reporter).mp hopen).1
        exact ((isOpenIn_push _ _ _).mp (closed.opened reporter hopen)).resolve_left hne }

theorem callService {bridge : Nat} (hbridge : scope.bridges bridge) (service args : String) :
    Act.Keeps (within E K reach scope) (Act.callService bridge service args) := by
  intro link hl w
  rw [Act.callService_apply]
  cases hr : Act.refusal? w service args with
  | some failure =>
    cases failure with
    | invalidRequest cause => exact loud.logged w _
    | _ => exact (within E K reach scope).refl w
  | none =>
    have called := hl (.callService service args w.reporters.size) (Act.opened bridge w)
    have closes : ((link (.callService service args w.reporters.size) (Act.opened bridge w)).settle
        (Act.closed w.reporters.size)).Ends ((within E K reach scope).rel w) := by
      refine called.settle fun v hv hw => ?_
      have kept := hv (opened hw hbridge)
      exact { kept with toServed := served hbridge kept.toServed }
    refine closes.bind (fun _ v hv => ?_) fun v hv => hv
    exact (loud.conclude bridge _ service link hl v).mono fun u hu =>
      (within E K reach scope).trans hv hu

theorem serving {bridge? : Option Nat} (h : ∀ bridge ∈ bridge?, scope.bridges bridge) :
    (within E K reach scope).Serving bridge? where
  toLoud := loud
  callService bridge hbridge := callService (h bridge hbridge)

/-! ## Reports -/

theorem heard (w : World E K) (reporter : Nat) : scope.Served w (Act.heard reporter w) :=
  .modified (f := fun r => { r with awaiting := false }) rfl rfl (fun _ => rfl) (fun _ _ => rfl)
    fun other hopen => (isOpenIn_hear w.reporters reporter other).mp hopen

theorem stored {reporter bridge : Nat} {awaiting isOpen : Bool}
    (hx : w.reporters[reporter]? = some ⟨awaiting, isOpen, bridge⟩) (hbridge : scope.bridges bridge)
    (result : Option String) : scope.Served w (Act.stored bridge result (Act.heard reporter w)) := by
  have hears : scope.Served w (Act.heard reporter w) := heard w reporter
  refine { hears with size := by simp [Act.stored, Act.heard], results := fun other hne => ?_ }
  obtain rfl : other = bridge := by
    by_contra hother
    exact hne (resultIn_modify_of_ne w.results hother _)
  have hheard : (Act.heard reporter w).reporters[reporter]? = some ⟨false, isOpen, other⟩ := by
    simp [Act.heard, Array.getElem?_modify, hx]
  exact ⟨hbridge, reporter, ⟨_, hheard, rfl⟩, congrArg (Option.map Reporter.bridge) hheard⟩

theorem of_served (h : scope.Served w v) (hbrains : v.brains = w.brains) (hconfig : v.config = w.config)
    (hregistry : v.registry = w.registry) (hlife : v.life = w.life) :
    (within E K reach scope).rel w v :=
  fun _ => .of_same hconfig hregistry (hlife ▸ rfl) hbrains h

theorem report (reporter : Nat) (result : String) :
    Act.Keeps (within E K reach scope) (Act.report reporter result : Act E K _) := by
  intro link hl w
  refine Outcome.Ends.imp fun hw => ?_
  have fails (failure : ServiceFailure) {v : World E K} (hv : (within E K reach scope).rel w v) :
      (Act.logService failure link v : Outcome _ (Except ServiceFailure Unit)).Ends (scope.Keeps w) :=
    (loud.logService failure link hl v).mono fun u hu => (within E K reach scope).trans hv hu hw
  cases hcheck : Limit.json.check result with
  | error cause =>
    rw [Act.report_rejected link w reporter result hcheck]
    exact fails _ (loud.logged w _)
  | ok u =>
    by_cases hopen : IsOpenIn w.reporters reporter
    · obtain ⟨⟨awaiting, isOpen, bridge⟩, hx, rfl⟩ := hopen
      have hstored (r : Option String) :
          (within E K reach scope).rel w (Act.stored bridge r (Act.heard reporter w)) :=
        of_served (stored hx (hw.opened hx rfl) r) rfl rfl rfl rfl
      rw [Act.report_open link w reporter result hcheck hx]
      split
      · exact hstored _ hw
      · exact fails _ (hstored none)
    · rw [Act.report_closed link w reporter result hcheck hopen]
      exact fails _ (of_served (heard w reporter) rfl rfl rfl rfl)

end within

end BrainHost
