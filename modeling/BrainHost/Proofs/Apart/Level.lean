import BrainHost.Proofs.Apart.Errand

/-! # One brain in two runtimes

Two runtimes are level for a brain if they have the same brain, up to the number of its bridge, with the
same last service result. An operation on the brain gives the same answer in both and leaves them level. -/

namespace BrainHost

variable {E : Engine} {K : HostKind} {α : Type}

/-- The brain of an id is the same in two runtimes, and so is its last service result. -/
structure Level (id : String) (w v : World E K) : Prop where
  rooted : w.Rooted
  rooted' : v.Rooted
  config : v.config = w.config
  hooks : v.hooks = w.hooks
  inFlight : v.inFlight = w.inFlight
  found : Option.Rel (fun b b' => ∃ bridge, b' = b.linked bridge ∧
    resultIn v.results bridge = resultIn w.results b.bridge) (w.found id) (v.found id)

namespace Level

variable {host : Manners} {id : String} {u v w x : World E K}

theorem refl (id : String) (hw : w.Rooted) : Level id w w where
  rooted := hw
  rooted' := hw
  config := rfl
  hooks := rfl
  inFlight := rfl
  found := by
    cases w.found id with
    | none => exact .none
    | some b => exact .some ⟨b.bridge, rfl, rfl⟩

theorem spared (h : Level id w v) (hw : Spared id w u) (hv : Spared id v x) : Level id u x where
  rooted := hw.rooted
  rooted' := hv.rooted
  config := hv.config.trans (h.config.trans hw.config.symm)
  hooks := hv.hooks.trans (h.hooks.trans hw.hooks.symm)
  inFlight := hv.inFlight.trans (h.inFlight.trans hw.inFlight.symm)
  found := by
    have hfound := h.found
    have left := hw.result
    have right := hv.result
    rw [hw.found, hv.found]
    generalize w.found id = found, v.found id = found' at hfound left right
    cases hfound with
    | none => exact .none
    | @some b b' hsame =>
      obtain ⟨bridge, rfl, hresult⟩ := hsame
      exact .some ⟨bridge, rfl, (right _ rfl).trans (hresult.trans (left _ rfl).symm)⟩

theorem of_journal (h : Level id w v) (journal journal' : Array (Entry K.Note)) :
    Level id { w with journal } { v with journal := journal' } :=
  h.spared (.of_journal id h.rooted journal) (.of_journal id h.rooted' journal')

theorem known (h : Level id w v) :
    (v.registry.lookup id).isSome = (w.registry.lookup id).isSome := by
  have isSome {w : World E K} (hw : w.Rooted) : (w.registry.lookup id).isSome = (w.found id).isSome := by
    unfold World.found
    cases hlookup : w.registry.lookup id with
    | none => rfl
    | some number =>
      obtain ⟨b, hb⟩ := hw.numbers hlookup
      rw [Option.bind_some, hb]
      rfl
  rw [isSome h.rooted, isSome h.rooted']
  exact rel_isSome h.found

section

variable {b : Brain E} {bridge : Nat}

theorem echo (h : Level id w v) (hb : w.found id = some b) (hb' : v.found id = some (b.linked bridge)) :
    Echo b.bridge bridge w v := by
  have hfound := h.found
  rw [hb, hb'] at hfound
  cases hfound with
  | some hsame =>
    obtain ⟨bridge', hlinked, hresult⟩ := hsame
    have heq : bridge' = bridge := (congrArg Brain.bridge hlinked).symm
    exact ⟨h.hooks, h.inFlight, heq ▸ hresult, h.rooted.bridges hb, h.rooted'.bridges hb'⟩

theorem ran (h : Level id w v) (hb : w.found id = some b) (hb' : v.found id = some (b.linked bridge))
    (hecho : Echo b.bridge bridge u x) (hu : Beside b.bridge w u) (hx : Beside bridge v x) :
    Level id u x where
  rooted := h.rooted.beside hu
  rooted' := h.rooted'.beside hx
  config := hx.config.trans (h.config.trans hu.config.symm)
  hooks := hecho.hooks
  inFlight := hecho.inFlight
  found := by
    have same : u.found id = w.found id := by rw [World.found, World.found, hu.registry, hu.brains]
    have same' : x.found id = v.found id := by rw [World.found, World.found, hx.registry, hx.brains]
    rw [same, same', hb, hb']
    exact .some ⟨bridge, rfl, hecho.result⟩

end

theorem bridge_of_linked {f : Brain E → Brain E} (hf : ∀ b bridge, f (b.linked bridge) = (f b).linked bridge)
    (b : Brain E) : (f b).bridge = b.bridge := by
  have same := congrArg Brain.bridge (hf b b.bridge)
  exact same

theorem touched (h : Level id w v) {i j : Nat} (hi : w.registry.lookup id = some i)
    (hj : v.registry.lookup id = some j) {f : Brain E → Brain E}
    (hf : ∀ b bridge, f (b.linked bridge) = (f b).linked bridge) :
    Level id { w with brains := w.brains.modify i f } { v with brains := v.brains.modify j f } where
  rooted := h.rooted.touched hi (bridge_of_linked hf)
  rooted' := h.rooted'.touched hj (bridge_of_linked hf)
  config := h.config
  hooks := h.hooks
  inFlight := h.inFlight
  found := by
    rw [h.rooted.found_modify hi, h.rooted'.found_modify hj, if_pos rfl, if_pos rfl]
    have hfound := h.found
    generalize w.found id = found, v.found id = found' at hfound
    cases hfound with
    | none => exact .none
    | @some b b' hsame =>
      obtain ⟨bridge, rfl, hresult⟩ := hsame
      exact .some ⟨bridge, hf b bridge, (bridge_of_linked hf b).symm ▸ hresult⟩

/-! ## Operations inside the brain -/

theorem enter (h : Level id w v) {i j : Nat} (hi : w.registry.lookup id = some i)
    (hj : v.registry.lookup id = some j) {m : Brain E → Inside E K α} (hm : Brain.Insular host m) :
    ((Brain.enter i m).run host.link w).Twin
      (fun u x => Level id u x ∧ u.registry = w.registry ∧ x.registry = v.registry)
      ((Brain.enter j m).run host.link v) := by
  rw [Brain.enter_apply, Brain.enter_apply]
  have hfound := h.found
  have foundAt {w : World E K} {i : Nat} (hi : w.registry.lookup id = some i) : w.found id = w.brains[i]? := by
    rw [World.found, hi, Option.bind_some]
  rw [foundAt hi, foundAt hj] at hfound
  cases hb : w.brains[i]? with
  | none =>
    rw [hb] at hfound
    cases hb' : v.brains[j]? with
    | none => exact .fault ⟨h, rfl, rfl⟩
    | some b' => rw [hb'] at hfound; cases hfound
  | some b =>
    rw [hb] at hfound
    cases hb' : v.brains[j]? with
    | none => rw [hb'] at hfound; cases hfound
    | some b' =>
      rw [hb'] at hfound
      cases hfound with
      | some hsame =>
      obtain ⟨bridge, rfl, -⟩ := hsame
      rw [Option.bind_some, Option.bind_some]
      have context : (b.linked bridge).context = b.context := rfl
      rw [context]
      cases b.context with
      | none => exact .fault ⟨h, rfl, rfl⟩
      | some c =>
        -- While its scripts run the brain has lent its context in both.
        have lent : Level id (busy i w) (busy j v) := h.touched hi hj fun _ _ => rfl
        have found : (busy i w).found id = some { b with context := none } := by
          rw [foundAt (w := busy i w) hi, busy, Array.getElem?_modify, if_pos rfl, hb]
          rfl
        have found' : (busy j v).found id = some (Brain.linked { b with context := none } bridge) := by
          rw [foundAt (w := busy j v) hj, busy, Array.getElem?_modify, if_pos rfl, hb']
          rfl
        have echo : Echo b.bridge bridge (busy i w) (busy j v) :=
          lent.echo (b := { b with context := none }) found found'
        have ran := (hm.twins b b.bridge bridge c _ _ echo).both
          ((Inside.run_ends c).mp (hm.keeps b c host.link beside.link (busy i w)))
          ((Inside.run_ends c).mp (hm.keeps (b.linked bridge) c host.link beside.link (busy j v)))
        -- Both have back the same context, however the operation ends.
        refine ran.settle fun p q h => ?_
        obtain ⟨c₁, u⟩ := p
        obtain ⟨c₂, x⟩ := q
        obtain ⟨⟨rfl, hecho⟩, hu, hx⟩ : (c₁ = c₂ ∧ _) ∧ _ ∧ _ := h
        exact ⟨(lent.ran found found' hecho hu hx).touched (hu.registry ▸ hi) (hx.registry ▸ hj)
          fun _ _ => rfl, hu.registry, hx.registry⟩

/-! ## New brains -/

theorem replaced {n m : Nat} (h : Level id w v) (hecho : Echo n m w v) (hn : Founded n w) (hm : Founded m v)
    {b : Nat → Brain E} (hb : ∀ n m, b m = (b n).linked m) (hbridge : ∀ n, (b n).bridge = n) :
    Level id (Registry.insert id (b n) (Registry.remove id w))
      (Registry.insert id (b m) (Registry.remove id v)) where
  rooted := h.rooted.replaced ((hbridge n).symm ▸ hn.stands) fun hfound => (hbridge n).symm ▸ hn.own hfound
  rooted' := h.rooted'.replaced ((hbridge m).symm ▸ hm.stands) fun hfound => (hbridge m).symm ▸ hm.own hfound
  config := h.config
  hooks := h.hooks
  inFlight := h.inFlight
  found := by
    rw [h.rooted.found_replaced, h.rooted'.found_replaced, if_pos rfl, if_pos rfl]
    refine .some ⟨m, hb n m, ?_⟩
    rw [hbridge]
    exact hecho.result

theorem remake (h : Level id w v) (source : String) (config : EngineConfig) :
    ((Registry.remake id source config).run host.link w).Twin (Level id)
      ((Registry.remake id source config).run host.link v) := by
  rw [Registry.remake_apply, Registry.remake_apply]
  cases E.create config brainFunctions with
  | error reason => exact .done _ h
  | ok c =>
    have fresh (w : World E K) : resultIn (bridged w).results w.results.size = none := by
      simp [resultIn, bridged]
    have bridges : Echo w.results.size v.results.size (bridged w) (bridged v) :=
      { hooks := h.hooks
        inFlight := h.inFlight
        result := (fresh v).trans (fresh w).symm
        stands := by simp [bridged]
        stands' := by simp [bridged] }
    have keeps (w : World E K) : ((Brain.entryPoints { bridge := some w.results.size } source :
        Inside E K _).run c host.link (bridged w)).Ends (Beside w.results.size (bridged w)) :=
      beside.serving.plain (s := { bridge := some w.results.size }) (.entryPoints source) c host.link
        beside.link (bridged w)
    have points : Inside.Twins host.link (Echo w.results.size v.results.size)
        (Brain.entryPoints { bridge := some w.results.size } source : Inside E K _)
        (Brain.entryPoints { bridge := some v.results.size } source) :=
      Echo.uniform (m := fun n => Brain.entryPoints { bridge := some n } source)
        (.entryPoints source)
    refine ((points.run c _ _ bridges).both (keeps w) (keeps v)).bind (fun p u x hran => ?_) fun u x hran => ?_
    · obtain ⟨hecho, hu, hx⟩ := hran
      have ran := h.spared (.of_source h.rooted hu id) (.of_source h.rooted' hx id)
      cases p.1 with
      | error cause => exact .done _ ran
      | ok points =>
        have made := ran.replaced hecho (h.rooted.founded hu) (h.rooted'.founded hx)
          (b := Brain.newborn source config points p.2) (fun _ _ => rfl) fun _ => rfl
        exact .done _ (made.of_journal _ _)
    · obtain ⟨-, hu, hx⟩ := hran
      exact h.spared (.of_source h.rooted hu id) (.of_source h.rooted' hx id)

end Level

end BrainHost
