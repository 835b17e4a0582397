import BrainHost.Proofs.Json.RoundTrip

/-! # Values that a prototype replaces

A script may give the prototype of objects the function that writing a value seeks. Then whatever this function
gives is written, and not the value. -/

namespace BrainHost.Script

open Script.Act

variable {r r' : Realm} {f ref : Nat} {o : Obj}

/-! ## Realms that replace objects -/

/-- A realm whose prototype of objects has a function that replaces every object by a truth value. -/
structure Realm.Replaces (r : Realm) (f : Nat) : Prop where
  objects : ∃ o, r.objects[Intrinsic.objectPrototype.ref]? = some o ∧ o.kind.Quiet ∧
    o.properties.get? (.text "toJSON") = some (.plain (.object f))
  function : ∃ o, r.objects[f]? = some o ∧ o.kind = .native (.primitive .boolean)

/-- Gives the prototype of objects such a function, and leaves room for its calls. -/
def Realm.replacing (r : Realm) : Realm :=
  { (r.addNative (.primitive .boolean) "toJSON" 1).2.give Intrinsic.objectPrototype.ref (.text "toJSON")
      (.plain (.object r.objects.size)) with maxDepth := 1000 }

theorem Key.sought_toJSON : (Key.text "toJSON").Sought := .inl rfl

theorem Obj.Bare.store_sought {o : Obj} (h : o.Bare) {k : Key} (sought : k.Sought) (p : Property) :
    (o.store k p).kind.Quiet ∧ (o.store k p).properties.get? k = some p := by
  have added : (o.put k p).properties.get? k = some p := Properties.get?_insert_self o.properties k p
  have noLength := sought.ne_length
  obtain ⟨s, rfl⟩ := sought.exists_name
  have stored : o.store (.name s) p = o.put (.name s) p := by
    unfold Obj.store
    obtain quiet | ⟨dense, length, writable, quiet⟩ := h.quiet
    · simp only [quiet]
    · simp only [quiet, beq_eq_false_iff_ne.mpr noLength]
      rfl
  rw [stored]
  exact ⟨h.quiet, added⟩

theorem Realm.Pristine.replacing {r : Realm} (h : r.Pristine) : r.replacing.Replaces r.objects.size where
  objects := by
    have grown : (r.addNative (.primitive .boolean) "toJSON" 1).2.Pristine := h.grows (.allocate r _)
    obtain ⟨o, found, bare, -⟩ := grown.objects
    obtain ⟨quiet, given⟩ := bare.store_sought Key.sought_toJSON (.plain (.object r.objects.size))
    refine ⟨_, ?_, quiet, given⟩
    show (Array.modify _ _ _)[Intrinsic.objectPrototype.ref]? = _
    rw [Array.getElem?_modify, if_pos rfl, found]
    rfl
  function := by
    refine ⟨nativeObject (.primitive .boolean) "toJSON" 1, ?_, rfl⟩
    obtain ⟨o, found, -⟩ := h.objects
    have earlier := Nat.ne_of_lt (Array.getElem?_eq_some_iff.mp found).1
    show (Array.modify _ _ _)[r.objects.size]? = _
    rw [Array.getElem?_modify, if_neg earlier]
    exact r.getElem?_allocate _

namespace Realm.Replaces

theorem grows (h : r.Replaces f) (h' : r.Grows r') : r'.Replaces f where
  objects := by
    obtain ⟨o, found, rest⟩ := h.objects
    exact ⟨o, h' _ _ found, rest⟩
  function := by
    obtain ⟨o, found, rest⟩ := h.function
    exact ⟨o, h' _ _ found, rest⟩

theorem isCallable (h : r.Replaces f) : r.isCallable (.object f) = true := by
  obtain ⟨o, found, kind⟩ := h.function
  unfold Realm.isCallable
  dsimp only
  rw [Realm.object_of_getElem? found, kind]

theorem start (h : r.Replaces f) {α : Type} {w : Waiting α} (room : w.depth < r.maxDepth) (this : Value) : ∃ calls sound,
    Machine.start r (r.enterCall (.object f) this #[.string .empty]) w =
      .callee (.ok (.bool false) { r with calls }) sound w := by
  obtain ⟨o, found, kind⟩ := h.function
  unfold Realm.enterCall Machine.start
  dsimp only
  rw [Realm.object_of_getElem? found, kind, if_neg (Nat.not_le.mpr room)]
  exact ⟨_, _, rfl⟩

/-! ## What is written -/

variable (h : r.Replaces f) (found : r.objects[ref]? = some o) (bare : o.Bare)
  (proto : o.proto = some Intrinsic.objectPrototype.ref)
include h found bare proto

theorem getOf_object : getOf (.object ref) (.text "toJSON") r = .ok (.object f) r := by
  obtain ⟨p, found', quiet, given⟩ := h.objects
  have own := (ownProperty_sought found' quiet Key.sought_toJSON).trans given
  obtain ⟨n, hn⟩ := exists_reach
  show getFrom reach ref _ _ r = _
  rw [hn, getFrom_unset found bare.quiet (bare.unset _ Key.sought_toJSON) Key.sought_toJSON, proto]
  exact getFrom_data found' quiet own _ _

theorem replacedValue_object (holder : Value) : replacedValue {} holder (.name .empty) (.object ref) r =
    (call (.object f) (.object ref) #[.string .empty] r).bind fun v r => .ok v r := by
  unfold replacedValue
  dsimp only
  rw [Act.bind_of_ok (h.getOf_object found bare proto), Act.read_bind, h.isCallable]
  rfl

theorem writeText_object : ∃ resume, writeText (.object ref) r =
      .ask (.call (.object f) (.object ref) #[.string .empty]) (r.withHolder (.object ref)) resume ∧
    ∀ b r', resume (.value (.bool b)) r' = .ok (some (String.ofList (Json.bool b).chars)) r' := by
  have grows := Realm.Grows.withHolder r (.object ref)
  have written : writeText (.object ref) r =
      (((replacedValue {} (.object r.objects.size) (.name .empty) (.object ref) (r.withHolder (.object ref))).bind
        fun v => (unwrapForJson v >>= treeOf (snapshot {} 3999) [] none)).bind
          fun o r => .ok (o.map (Json.render .empty)) r).bind fun o r => .ok (o.map Str.toText) r := by
    change ((snapshot {} (3999 + 1) [] (.object r.objects.size) (.name .empty) (.object ref)
      (r.withHolder (.object ref))).bind _).bind _ = _
    rw [snapshot]
    rfl
  rw [(h.grows grows).replacedValue_object (grows _ _ found) bare proto] at written
  refine ⟨_, written.trans rfl, fun b r' => ?_⟩
  show Res.ok (some (Json.render .empty (.bool b)).toText) r' = _
  rw [Json.toText_render]

theorem stringify_object (room : 0 < r.maxDepth) (threads : Array Thread) :
    ∃ c', engine.stringify (.object ref) ⟨r, threads⟩ = .done (c', .ok (some "false")) := by
  obtain ⟨resume, written, resumed⟩ := h.writeText_object found bare proto
  obtain ⟨n, fuel⟩ : ∃ n, Act.endless = n + 3 := ⟨Act.endless - 3, (Nat.sub_add_cancel (by decide)).symm⟩
  have sound : (Res.ask (.call (.object f) (.object ref) #[.string .empty]) (r.withHolder (.object ref))
      resume).Sound := written ▸ (writeText (.object ref)).sound r
  obtain ⟨calls, _, started⟩ := (h.grows (.withHolder r (.object ref))).start
    (w := .base ⟨fun reply => ⟨resume reply, sound reply⟩, (r.withHolder (.object ref)).calls, none⟩) room (.object ref)
  have text : String.ofList (Json.bool false).chars = "false" := by
    rw [Json.chars]
    decide
  have ended (r' : Realm) : resume (.value (.bool false)) r' = .ok (some "false") r' :=
    (resumed false r').trans (by rw [text])
  rw [stringify_apply]
  unfold Context.run
  rw [fuel, Running.enter_eq written, Machine.run, Machine.turn, Machine.serve]
  dsimp only
  rw [started, Machine.run, Machine.turn, Waiting.answer]
  dsimp only
  rw [Running.enter_eq (ended _), Machine.run, Machine.turn]
  exact ⟨_, rfl⟩

end Realm.Replaces

theorem Realm.Pristine.replacing_stringify (h : r.Pristine) (threads : Array Thread) :
    ∃ c', engine.stringify (r.replacing.ofJson (.object [])).1 ⟨(r.replacing.ofJson (.object [])).2, threads⟩ =
      .done (c', .ok (some "false")) := by
  have empty : r.replacing.ofJson (.object []) =
      (.object r.replacing.objects.size, (r.replacing.allocate (.ofMembers #[])).2) := by
    rw [Realm.ofJson_object, Realm.ofJsonMembers]
  have bare : (Obj.ofMembers #[]).Bare := ⟨Obj.quiet_ofMembers _, fun _ _ => rfl⟩
  have room : 0 < (r.replacing.allocate (.ofMembers #[])).2.maxDepth := show 0 < 1000 by decide
  rw [empty]
  exact (h.replacing.grows (.allocate _ _)).stringify_object (Realm.getElem?_allocate _ _) bare rfl room threads

end BrainHost.Script
