import BrainHost.Proofs.Table.Within

/-! # The runtime between operations

Between operations each brain has a bridge of its own and no service call waits. So what an operation
leaves alone in the runtime it leaves alone in the table, and what it does to one brain it does to the
record of one id. -/

namespace BrainHost

variable {E : Engine} {K : HostKind} {w v : World E K}

structure World.Sound (w : World E K) : Prop where
  stopped : w.life = none → w.registry = []
  keys : (w.registry.map Prod.fst).Nodup
  numbers : ∀ {id number}, w.registry.lookup id = some number → ∃ b, w.brains[number]? = some b
  bridges : ∀ {id b}, w.found id = some b → b.bridge < w.results.size
  apart : ∀ {id other b b'}, w.found id = some b → w.found other = some b' → b.bridge = b'.bridge →
    id = other
  owners : ∀ {reporter bridge}, ownerIn w.reporters reporter = some bridge → bridge < w.results.size
  closed : ∀ reporter, ¬ IsOpenIn w.reporters reporter

theorem World.Sound.fresh (config : Config) (hooks : Hooks) (host : K.State) :
    World.Sound ({ config, hooks, host } : World E K) where
  stopped _ := rfl
  keys := List.nodup_nil
  numbers h := nomatch h
  bridges h := nomatch h
  apart h := nomatch h
  owners h := nomatch h
  closed _ := by simp [IsOpenIn]

/-- Every id that is known has a brain of its own, with a bridge of its own. -/
structure World.Rooted (w : World E K) : Prop where
  numbers : ∀ {id number}, w.registry.lookup id = some number → ∃ b, w.brains[number]? = some b
  bridges : ∀ {id b}, w.found id = some b → b.bridge < w.results.size
  apart : ∀ {id other b b'}, w.found id = some b → w.found other = some b' → b.bridge = b'.bridge →
    id = other

theorem World.Sound.rooted (h : w.Sound) : w.Rooted := ⟨h.numbers, h.bridges, h.apart⟩

/-- Each id has a brain, and no other id has it. -/
structure World.Tidy (w : World E K) : Prop where
  numbers : ∀ {id number}, w.registry.lookup id = some number → ∃ b, w.brains[number]? = some b
  apart : ∀ {id other number}, w.registry.lookup id = some number → w.registry.lookup other = some number →
    id = other

theorem World.Rooted.tidy (hw : w.Rooted) : w.Tidy where
  numbers := hw.numbers
  apart {id other number} hid hother := by
    obtain ⟨b, hb⟩ := hw.numbers hid
    have found {id : String} (hid : w.registry.lookup id = some number) : w.found id = some b := by
      rw [World.found, hid]
      exact hb
    exact hw.apart (found hid) (found hother) rfl

namespace World.Tidy

variable {id : String} {b : Brain E}

theorem modified (hw : w.Tidy) (number : Nat) (f : Brain E → Brain E) :
    World.Tidy { w with brains := w.brains.modify number f } where
  numbers {id n} hlookup := by
    obtain ⟨b, hb⟩ := hw.numbers hlookup
    rw [Array.getElem?_modify, hb]
    split <;> exact ⟨_, rfl⟩
  apart := hw.apart

theorem removed_size (id : String) (w : World E K) :
    (Registry.remove id w).brains.size = w.brains.size := by
  unfold Registry.remove
  dsimp only
  split
  · exact Array.size_modify
  · rfl

theorem removed_brain (hw : w.Tidy) {other : String} {number : Nat} (hne : other ≠ id)
    (hlookup : w.registry.lookup other = some number) :
    (Registry.remove id w).brains[number]? = w.brains[number]? := by
  unfold Registry.remove
  dsimp only
  split
  · next n hid =>
    have apart : n ≠ number := by
      rintro rfl
      exact hne (hw.apart hlookup hid)
    rw [Array.getElem?_modify, if_neg apart]
  · rfl

theorem registry_replaced (w : World E K) (id : String) (b : Brain E) (other : String) :
    (Registry.insert id b (Registry.remove id w)).registry.lookup other =
      if other = id then some w.brains.size else w.registry.lookup other := by
  unfold Registry.insert
  rw [removed_size]
  exact lookup_replace ..

theorem brains_replaced (hw : w.Tidy) (b : Brain E) {other : String} {number : Nat}
    (hlookup : (Registry.insert id b (Registry.remove id w)).registry.lookup other = some number) :
    (Registry.insert id b (Registry.remove id w)).brains[number]? =
      if other = id then some b else w.brains[number]? := by
  rw [registry_replaced] at hlookup
  unfold Registry.insert
  split at hlookup
  · next heq =>
    cases hlookup
    rw [if_pos heq, ← removed_size id w, Array.getElem?_push_size]
  · next hne =>
    obtain ⟨b', hb'⟩ := hw.numbers hlookup
    have hsize : number < (Registry.remove id w).brains.size :=
      removed_size id w ▸ (Array.getElem?_eq_some_iff.mp hb').1
    rw [if_neg hne, Array.getElem?_push, if_neg hsize.ne, hw.removed_brain hne hlookup]

theorem replaced (hw : w.Tidy) (id : String) (b : Brain E) :
    (Registry.insert id b (Registry.remove id w)).Tidy where
  numbers hlookup := by
    rw [hw.brains_replaced b hlookup]
    rw [registry_replaced] at hlookup
    split at hlookup
    · next heq => exact ⟨b, if_pos heq⟩
    · next hne => simpa only [if_neg hne] using hw.numbers hlookup
  apart {id₁ id₂ number} h₁ h₂ := by
    rw [registry_replaced] at h₁ h₂
    have fresh {other : String} (h : w.registry.lookup other = some w.brains.size) : False := by
      obtain ⟨b', hb'⟩ := hw.numbers h
      exact Nat.lt_irrefl _ (Array.getElem?_eq_some_iff.mp hb').1
    split at h₁ <;> split at h₂
    · next e₁ e₂ => exact e₁.trans e₂.symm
    · cases h₁
      exact (fresh h₂).elim
    · cases h₂
      exact (fresh h₁).elim
    · exact hw.apart h₁ h₂

end World.Tidy

namespace World.Rooted

theorem found_modify (hw : w.Rooted) {id : String} {number : Nat}
    (hlookup : w.registry.lookup id = some number) (f : Brain E → Brain E) (other : String) :
    World.found { w with brains := w.brains.modify number f } other =
      if other = id then (w.found id).map f else w.found other := by
  unfold World.found
  split
  · next heq =>
    subst heq
    rw [hlookup, Option.bind_some, Option.bind_some, Array.getElem?_modify, if_pos rfl]
  · next hne =>
    cases hother : w.registry.lookup other with
    | none => rfl
    | some n =>
      have apart : number ≠ n := by
        rintro rfl
        exact hne (hw.tidy.apart hother hlookup)
      rw [Option.bind_some, Option.bind_some, Array.getElem?_modify, if_neg apart]

variable {id : String} {b : Brain E}

theorem found_replaced (hw : w.Rooted) (id : String) (b : Brain E) (other : String) :
    (Registry.insert id b (Registry.remove id w)).found other =
      if other = id then some b else w.found other := by
  have found {number : Nat}
      (h : (Registry.insert id b (Registry.remove id w)).registry.lookup other = some number) :=
    hw.tidy.brains_replaced b h
  unfold World.found
  have hlookup := Tidy.registry_replaced w id b other
  split
  · next heq =>
    rw [if_pos heq] at hlookup
    rw [hlookup, Option.bind_some, found hlookup, if_pos heq]
  · next hne =>
    rw [if_neg hne] at hlookup
    rw [hlookup]
    cases hother : w.registry.lookup other with
    | none => rfl
    | some number => rw [Option.bind_some, Option.bind_some, found (hlookup.trans hother), if_neg hne]

theorem replaced (hw : w.Rooted) (hbridge : b.bridge < w.results.size)
    (hown : ∀ {other b'}, w.found other = some b' → b'.bridge ≠ b.bridge) :
    (Registry.insert id b (Registry.remove id w)).Rooted where
  numbers := (hw.tidy.replaced id b).numbers
  bridges {other b'} hfound := by
    rw [hw.found_replaced] at hfound
    split at hfound
    · cases hfound
      exact hbridge
    · exact hw.bridges hfound
  apart {other other' b₁ b₂} hfound hfound' heq := by
    rw [hw.found_replaced] at hfound hfound'
    split at hfound <;> split at hfound'
    · next h h' => exact h.trans h'.symm
    · cases hfound
      exact absurd heq.symm (hown hfound')
    · cases hfound'
      exact absurd heq (hown hfound)
    · exact hw.apart hfound hfound' heq

end World.Rooted

/-! ## The table of a runtime -/

theorem World.table_isSome (w : World E K) : w.table.isSome = w.life.isSome := by
  unfold World.table
  cases w.life <;> rfl

theorem World.table_of_some {life : Life E} (h : w.life = some life) :
    w.table = some { path := life.path, brains := fun id => (w.found id).map (Brain.record w) } := by
  rw [World.table, h, Option.map_some]

theorem World.Sound.found_isSome (h : w.Sound) (id : String) :
    (w.found id).isSome = (w.registry.lookup id).isSome := by
  unfold World.found
  cases hlookup : w.registry.lookup id with
  | none => rfl
  | some number =>
    obtain ⟨b, hb⟩ := h.numbers hlookup
    rw [Option.bind_some, hb]
    rfl

theorem World.Sound.knownIn_table (h : w.Sound) :
    knownIn w.table = fun id => (w.registry.lookup id).isSome := by
  funext id
  cases hlife : w.life with
  | none =>
    have empty := h.stopped hlife
    simp [knownIn, World.table, hlife, empty]
  | some life =>
    rw [World.table_of_some hlife, ← h.found_isSome id]
    simp [knownIn]

theorem World.Sound.count (h : w.Sound) : w.registry.length = (idsOf w.table).ncard := by
  have ids : idsOf w.table = ((w.registry.map Prod.fst).toFinset : Set String) := by
    ext id
    rw [idsOf, Set.mem_ofPred_eq, h.knownIn_table, List.coe_toFinset, Set.mem_ofPred_eq,
      List.lookup_isSome_iff, List.mem_map]
    exact ⟨fun ⟨p, hp, hid⟩ => ⟨p, hp, (beq_iff_eq.mp hid).symm⟩,
      fun ⟨p, hp, hid⟩ => ⟨p, hp, beq_iff_eq.mpr hid.symm⟩⟩
  rw [ids, Set.ncard_coe_finset, List.toFinset_card_of_nodup h.keys, List.length_map]

/-! ## What stays -/

/-- Nothing is in scope that belongs to a brain out of reach. -/
structure Reach.Covers (reach : Reach) (scope : Scope) (w : World E K) : Prop where
  bridges : ∀ {id b}, w.found id = some b → scope.bridges b.bridge → reach.runs id
  modules : ∀ {id number moduleId}, w.registry.lookup id = some number →
    scope.modules number moduleId → reach.sets id moduleId

theorem Scope.Keeps.sound {scope : Scope} (h : scope.Keeps w v) (hw : w.Sound)
    (hscope : ∀ bridge, scope.bridges bridge → bridge < w.results.size) : v.Sound where
  stopped hlife := by
    have hpath := h.path
    rw [hlife, Option.map_none, eq_comm, Option.map_eq_none_iff] at hpath
    rw [h.registry, hw.stopped hpath]
  keys := h.registry ▸ hw.keys
  numbers {id number} hlookup := by
    obtain ⟨b, hb⟩ := hw.numbers (h.registry ▸ hlookup)
    have hrel := h.brains number
    rw [hb] at hrel
    exact Option.isSome_iff_exists.mp (rel_isSome hrel)
  bridges hfound := by
    obtain ⟨b, hb, hbridge⟩ := h.found hfound
    rw [hbridge, h.size]
    exact hw.bridges hb
  apart hfound hother heq := by
    obtain ⟨b, hb, hbridge⟩ := h.found hfound
    obtain ⟨b', hb', hbridge'⟩ := h.found hother
    exact hw.apart hb hb' (hbridge ▸ hbridge' ▸ heq)
  owners howner := by
    rw [h.size]
    exact (h.made _ _ howner).elim hw.owners (hscope _)
  closed reporter hopen := hw.closed reporter (h.opened reporter hopen)

theorem Scope.Keeps.drifts {scope : Scope} {reach : Reach} (h : scope.Keeps w v)
    (hcovers : reach.Covers scope w) : reach.Drifts w.table v.table := by
  have records (id : String) :
      Option.Rel (reach.Spares id) ((w.found id).map (Brain.record w)) ((v.found id).map (Brain.record v)) := by
    cases hlookup : w.registry.lookup id with
    | none =>
      have hother : v.registry.lookup id = none := h.registry ▸ hlookup
      rw [World.found, World.found, hlookup, hother]
      exact .none
    | some number =>
      have hrel := h.found_rel hlookup
      have hruns {b : Brain E} : w.found id = some b → scope.bridges b.bridge → reach.runs id :=
        hcovers.bridges
      generalize w.found id = found, v.found id = found' at hrel hruns
      cases hrel with
      | none => exact .none
      | @some b b' hspares =>
        refine .some ⟨hspares.source, fun moduleId hsets => hspares.modules moduleId fun hscope =>
          hsets (hcovers.modules hlookup hscope), fun hidle => ?_⟩
        change resultIn v.results b'.bridge = resultIn w.results b.bridge
        rw [hspares.bridge]
        by_contra hne
        exact hidle (hruns rfl (h.results _ hne).1)
  unfold World.table
  have hpath := h.path
  cases hw : w.life with
  | none =>
    rw [hw, Option.map_none, Option.map_eq_none_iff] at hpath
    rw [hpath]
    exact .none
  | some life =>
    rw [hw, Option.map_some, Option.map_eq_some_iff] at hpath
    obtain ⟨life', hv, hsame⟩ := hpath
    rw [hv]
    exact .some ⟨hsame, records⟩

/-! ## What changes -/

structure Reach.Le (reach reach' : Reach) : Prop where
  runs : ∀ {id}, reach.runs id → reach'.runs id
  sets : ∀ {id moduleId}, reach.sets id moduleId → reach'.sets id moduleId

instance : LE Reach := ⟨Reach.Le⟩

theorem Reach.le_refl (reach : Reach) : reach ≤ reach := ⟨id, id⟩

theorem Reach.le_during (reach : Reach) (op : Operation) : reach ≤ reach.during op := ⟨.inr, id⟩

/-- What a brain owns is in scope if the brain is within reach. -/
def Reach.scope (reach : Reach) (w : World E K) : Scope where
  bridges bridge := ∃ id b, reach.runs id ∧ w.found id = some b ∧ b.bridge = bridge
  modules number moduleId := ∃ id, reach.sets id moduleId ∧ w.registry.lookup id = some number

namespace World.Sound

theorem scope_within (hw : w.Sound) {reach reach' : Reach} (h : reach ≤ reach') :
    reach.Within (reach'.scope w) w where
  bridges hruns hb := ⟨_, _, h.runs hruns, hb, rfl⟩
  modules hsets hlookup := ⟨_, h.sets hsets, hlookup⟩
  opened hx hopen := absurd ⟨_, hx, hopen⟩ (hw.closed _)

theorem scope_bound (hw : w.Sound) {reach : Reach} {bridge : Nat}
    (h : (reach.scope w).bridges bridge) : bridge < w.results.size := by
  obtain ⟨id, b, -, hb, rfl⟩ := h
  exact hw.bridges hb

theorem scope_covers (hw : w.Sound) (reach : Reach) : reach.Covers (reach.scope w) w where
  bridges hb hscope := by
    obtain ⟨other, b', hruns, hb', hbridge⟩ := hscope
    exact hw.apart hb' hb hbridge ▸ hruns
  modules hlookup hscope := by
    obtain ⟨other, hsets, hother⟩ := hscope
    exact hw.rooted.tidy.apart hother hlookup ▸ hsets

end World.Sound

theorem World.table_put (v : World E K) {t : Table} (ht : w.table = some t) (hlife : v.life = w.life)
    {id : String} {r : BrainRecord} (hfound : ∀ other, (v.found other).map (Brain.record v) =
      if other = id then some r else (w.found other).map (Brain.record w)) :
    v.table = some (t.put id r) := by
  obtain ⟨life, hw, rfl⟩ := Option.map_eq_some_iff.mp ht
  rw [World.table_of_some (hlife.trans hw), Table.put]
  congr 2
  funext other
  exact hfound other

namespace World.Sound

theorem table_stored (hw : w.Sound) (moduleId : String) (m : StoredModule E.Value) {id : String} {number : Nat}
    (hlookup : w.registry.lookup id = some number) {t : Table} (ht : w.table = some t) :
    ∃ r, t.brains id = some r ∧
      World.table { w with brains := w.brains.modify number fun b => b.store moduleId m } =
        some (t.put id (r.putModule moduleId m.source)) := by
  obtain ⟨b, hb⟩ := hw.numbers hlookup
  have hfound : w.found id = some b := by rw [World.found, hlookup]; exact hb
  refine ⟨b.record w, ?_, World.table_put _ ht (by rfl) fun other => ?_⟩
  · obtain ⟨life, -, rfl⟩ := Option.map_eq_some_iff.mp ht
    exact congrArg (Option.map (Brain.record w)) hfound
  · have stored : Brain.record w (b.store moduleId m) = (b.record w).putModule moduleId m.source := by
      unfold Brain.record BrainRecord.putModule
      rw [funext (b.moduleSource_store moduleId m)]
      rfl
    rw [hw.rooted.found_modify hlookup]
    split
    · rw [hfound, ← stored]
      rfl
    · rfl

theorem stored (hw : w.Sound) (number : Nat) (moduleId : String) (m : StoredModule E.Value) :
    World.Sound { w with brains := w.brains.modify number fun b => b.store moduleId m } := by
  have keeps : Scope.Keeps ⟨fun _ => False, fun _ _ => True⟩ w
      { w with brains := w.brains.modify number fun b => b.store moduleId m } :=
    .modified w number fun _ => ⟨rfl, rfl, fun _ h => absurd trivial h⟩
  exact keeps.sound hw fun _ h => h.elim

/-! ### Replaced brains -/

theorem table_replaced (hw : w.Sound) (id : String) (b : Brain E) {t : Table} (ht : w.table = some t) :
    (Registry.insert id b (Registry.remove id w)).table = some (t.put id (b.record w)) := by
  refine World.table_put _ ht (by rfl) fun other => ?_
  rw [hw.rooted.found_replaced]
  split <;> rfl

theorem replaced (hw : w.Sound) {id : String} {b : Brain E} (hlife : w.life ≠ none)
    (hbridge : b.bridge < w.results.size)
    (hown : ∀ {other b'}, w.found other = some b' → b'.bridge ≠ b.bridge) :
    (Registry.insert id b (Registry.remove id w)).Sound :=
  { hw.rooted.replaced hbridge hown with
    stopped := fun hstopped => absurd hstopped hlife
    keys := by
      have hremoved : ((Registry.remove id w).registry.map Prod.fst).Nodup :=
        hw.keys.sublist (List.filter_sublist.map Prod.fst)
      refine List.nodup_cons.mpr ⟨?_, hremoved⟩
      simp [Registry.remove]
    owners := hw.owners
    closed := hw.closed }

end World.Sound

end BrainHost
