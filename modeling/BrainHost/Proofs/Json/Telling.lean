import BrainHost.Proofs.Json.Snapshot
import BrainHost.Proofs.Script.Arrives
import BrainHost.Proofs.Script.Pristine

/-! # Telling trees from values

Where no script touched the prototypes, the tree that is told of a value is the one that it shows.
Telling it changes nothing and asks no one; a tree that is not too deep is told with success. -/

namespace BrainHost.Script

open Script.Act

variable {r : Realm} {ref bound : Nat} {k : Key} {v : Value} {ps : Properties} {vs : Array Value}

theorem exists_reach : ∃ n, reach = n + 3 := ⟨99997, rfl⟩

theorem filterM_all {α : Type} {p : α → Act Bool} {as : Array α} (h : ∀ a ∈ as.toList, p a r = .ok true r) :
    (as.filterM p : Act (Array α)) r = .ok as r := by
  have kept (rest : List α) (acc : Array α) (h : ∀ a ∈ rest, p a r = .ok true r) :
      rest.foldlM (fun acc a => do if ← p a then pure (acc.push a) else pure acc : Array α → α → Act (Array α)) acc r
        = .ok (acc ++ rest.toArray) r := by
    induction rest generalizing acc with
    | nil => simp; rfl
    | cons a rest ih =>
      rw [List.foldlM_cons]
      change ((p a r).bind _).bind _ = _
      rw [h a (by simp)]
      refine (ih (acc.push a) fun b hb => h b (by simp [hb])).trans ?_
      simp
  rw [Array.filterM, ← Array.foldlM_toList, kept _ _ h]
  simp

/-! ## Objects that were made of trees -/

theorem Obj.quiet_ofMembers (ps : Properties) : (Obj.ofMembers ps).kind.Quiet := .inl rfl

theorem Obj.quiet_ofItems (vs : Array Value) : (Obj.ofItems vs).kind.Quiet := .inr ⟨vs, vs.size, true, rfl⟩

theorem Realm.not_callable_of_quiet {o : Obj} (found : r.objects[ref]? = some o) (quiet : o.kind.Quiet) :
    r.isCallable (.object ref) = false := by
  unfold Realm.isCallable
  dsimp only
  rw [Realm.object_of_getElem? found]
  obtain quiet | ⟨dense, length, writable, quiet⟩ := quiet <;> rw [quiet]

theorem unwrapForJson_of_quiet {o : Obj} (found : r.objects[ref]? = some o) (quiet : o.kind.Quiet) :
    unwrapForJson (.object ref) r = .ok (.object ref) r := by
  unfold unwrapForJson
  dsimp only
  rw [getObject_bind found]
  obtain quiet | ⟨dense, length, writable, quiet⟩ := quiet <;> rw [quiet] <;> rfl

section Members

variable (found : r.objects[ref]? = some (Obj.ofMembers ps))

include found

theorem Realm.ownProperty_ofMembers (k : Key) : r.ownProperty ref k = ps.get? k := by
  unfold Realm.ownProperty
  rw [Realm.object_of_getElem? found]
  rfl

theorem getProperty_member (own : ps.get? k = some (.plain v)) : getProperty ref k r = .ok v r := by
  obtain ⟨n, hn⟩ := exists_reach
  rw [getProperty, hn]
  exact getFrom_data found (Obj.quiet_ofMembers ps) ((Realm.ownProperty_ofMembers found k).trans own) _ _

theorem isArray_ofMembers : isArray (.object ref) r = .ok false r := by
  obtain ⟨n, hn⟩ := exists_reach
  rw [isArray, hn, isArrayObject]
  dsimp only
  rw [getObject_bind found]
  rfl

theorem enumerableKeys_ofMembers
    (shown : ∀ k ∈ Key.ordered ps.keys, ∃ s v, k = .ofStr s ∧ ps.get? k = some (.plain v)) :
    enumerableKeys ref r = .ok (Key.ordered ps.keys).toArray r := by
  obtain ⟨n, hn⟩ := exists_reach
  have own : ownKeys ref r = .ok (Key.ordered ps.keys).toArray r := by
    have keys : r.ownKeys ref = (Key.ordered ps.keys).toArray := by
      unfold Realm.ownKeys
      rw [Realm.object_of_getElem? found]
      exact Array.toList_inj.mp (Realm.orderKeys_toList ps)
    rw [ownKeys, hn, keysOf, getObject_bind found]
    exact congrArg (Res.ok · r) keys
  unfold enumerableKeys
  change ((ownKeys ref r).bind _) = _
  rw [own]
  refine filterM_all fun k hk => ?_
  obtain ⟨s, v, rfl, property⟩ := shown k hk
  have noSymbol : (Key.ofStr s).isSymbol = false := by
    unfold Key.ofStr
    split <;> rfl
  have there : ownProperty ref (.ofStr s) r = .ok (some (.plain v)) r := by
    rw [ownProperty, hn, getOwn, getObject_bind found]
    exact congrArg (Res.ok · r) ((Realm.ownProperty_ofMembers found _).trans property)
  rw [noSymbol]
  change ((ownProperty ref (.ofStr s) r).bind _) = _
  rw [there]
  rfl

end Members

section Items

variable (found : r.objects[ref]? = some (Obj.ofItems vs))

include found

theorem getProperty_item {i : Nat} (small : i < Key.indices) (item : vs[i]? = some v) :
    getProperty ref (.ofNat i) r = .ok v r := by
  have own : r.ownProperty ref (.index i) = some (.plain v) := by
    unfold Realm.ownProperty
    rw [Realm.object_of_getElem? found]
    dsimp only [Obj.ofItems]
    rw [item]
  obtain ⟨n, hn⟩ := exists_reach
  rw [Key.ofNat_small small, getProperty, hn]
  exact getFrom_data found (Obj.quiet_ofItems vs) own _ _

theorem Realm.Pristine.getFrom_items (h : r.Pristine) (sought : k.Sought) (v : Value) :
    getFrom reach ref k v r = .ok .undefined r := by
  obtain ⟨n, hn⟩ := exists_reach
  rw [hn, getFrom_unset found (Obj.quiet_ofItems vs) rfl sought]
  exact h.getFrom_arrays sought n v

theorem isArray_ofItems : isArray (.object ref) r = .ok true r := by
  obtain ⟨n, hn⟩ := exists_reach
  rw [isArray, hn, isArrayObject]
  dsimp only
  rw [getObject_bind found]
  rfl

theorem lengthOf_ofItems : lengthOf ref r = .ok vs.size r := by
  rw [lengthOf, getObject_bind found]
  rfl

end Items

/-! ## Values that show trees -/

variable {excused : Prop} {n : Nat} {v : Value} {j : Json}

theorem Realm.ShowsMembers.exists_of_mem {members : List (Str × Json)} {ks : List Key}
    (h : r.ShowsMembers bound ps members ks) (hk : k ∈ ks) :
    ∃ s v j, k = .ofStr s ∧ ps.get? k = some (.plain v) ∧ r.Shows bound v j := by
  induction members generalizing ks with
  | nil =>
    rw [Realm.ShowsMembers] at h
    rw [h] at hk
    cases hk
  | cons m members ih =>
    obtain ⟨s, j⟩ := m
    rw [Realm.ShowsMembers] at h
    obtain ⟨v, rest, rfl, found, shown, more⟩ := h
    rcases List.mem_cons.mp hk with rfl | hk
    · exact ⟨s, v, j, rfl, found, shown⟩
    · exact ih more hk

namespace Realm.Shows

theorem exists_quiet (h : r.Shows bound (.object ref) j) : ∃ o, r.objects[ref]? = some o ∧ o.kind.Quiet := by
  cases j with
  | array items =>
    rw [Realm.Shows] at h
    obtain ⟨_, vs, e, -, found, -⟩ := h
    exact ⟨_, Value.object.inj e ▸ found, Obj.quiet_ofItems vs⟩
  | object members =>
    rw [Realm.Shows] at h
    obtain ⟨_, ps, e, -, found, -⟩ := h
    exact ⟨_, Value.object.inj e ▸ found, Obj.quiet_ofMembers ps⟩
  | _ =>
    rw [Realm.Shows] at h
    cases h

theorem not_callable (h : r.Shows bound v j) : r.isCallable v = false := by
  cases v with
  | object ref =>
    obtain ⟨o, found, quiet⟩ := h.exists_quiet
    exact not_callable_of_quiet found quiet
  | _ => rfl

theorem unwrapForJson (h : r.Shows bound v j) : unwrapForJson v r = .ok v r := by
  cases v with
  | object ref =>
    obtain ⟨o, found, quiet⟩ := h.exists_quiet
    exact unwrapForJson_of_quiet found quiet
  | _ => rfl

theorem exists_toJSON (pristine : r.Pristine) (h : r.Shows bound (.object ref) j) :
    ∃ w, getOf (.object ref) (.text "toJSON") r = .ok w r ∧ r.isCallable w = false := by
  have sought : (Key.text "toJSON").Sought := .inl rfl
  have absent : r.isCallable .undefined = false := rfl
  cases j with
  | array items =>
    rw [Realm.Shows] at h
    obtain ⟨_, vs, e, -, found, -⟩ := h
    obtain rfl := Value.object.inj e
    exact ⟨_, pristine.getFrom_items found sought _, absent⟩
  | object members =>
    rw [Realm.Shows] at h
    obtain ⟨_, ps, e, -, found, -, shown⟩ := h
    obtain rfl := Value.object.inj e
    by_cases there : .text "toJSON" ∈ ps.keys
    · obtain ⟨s, w, j, -, own, shown⟩ := shown.exists_of_mem ((Key.ordered_perm _).mem_iff.mpr there)
      exact ⟨w, getProperty_member found own, shown.not_callable⟩
    · obtain ⟨n, hn⟩ := exists_reach
      refine ⟨.undefined, ?_, absent⟩
      rw [getOf, hn, getFrom_unset found (Obj.quiet_ofMembers ps) (Properties.get?_eq_none there) sought]
      exact pristine.getFrom_objects sought (n + 1) _
  | _ =>
    rw [Realm.Shows] at h
    cases h

theorem replacedValue (pristine : r.Pristine) (h : r.Shows bound v j) (holder : Value) (k : Key) :
    replacedValue {} holder k v r = .ok v r := by
  unfold Script.replacedValue
  cases v with
  | object ref =>
    obtain ⟨w, special, noFunction⟩ := h.exists_toJSON pristine
    change (getOf _ _ r).bind _ = _
    rw [special]
    change (if r.isCallable w then _ else _ : Act _) r = _
    rw [noFunction]
    rfl
  | bigint i => cases j <;> rw [Realm.Shows] at h <;> simp at h
  | _ => rfl

end Realm.Shows

/-! ## What is told -/

/-- Values that show trees are told as these with so many levels. Where failing is not excused, the
trees have to be that shallow, and small enough for a loop. -/
def Tells (excused : Prop) (r : Realm) (n : Nat) : Prop :=
  ∀ (bound : Nat) (v : Value) (j : Json), r.Shows bound v j → ∀ (around : List Nat) (holder : Value) (k : Key),
    (∀ a ∈ around, bound ≤ a) → (excused ∨ j.level ≤ n ∧ j.steps ≤ endless) →
      (snapshot {} n around holder k v r).Arrives excused r (some j) j.steps

theorem snapshot_undefined (n : Nat) (around : List Nat) (holder : Value) (k : Key) (r : Realm) :
    snapshot {} (n + 1) around holder k .undefined r = .ok none r := by
  rw [snapshot]
  rfl

theorem Tells.item (tells : Tells excused r n) (pristine : r.Pristine)
    (found : r.objects[ref]? = some (Obj.ofItems vs)) {around : List Nat} (apart : ∀ a ∈ around, ref ≤ a) {i : Nat}
    (item : vs[i]? = some v)
    (shown : if i < Key.indices then r.Shows ref v j else j = .null) (acc : Array Json)
    (room : excused ∨ j.level ≤ n ∧ j.steps ≤ endless) :
    (itemRound (snapshot {} n) around ref vs.size (i, acc) r).Arrives excused r (.error (i + 1, acc.push j)) j.steps := by
  obtain ⟨hi, -⟩ := Array.getElem?_eq_some_iff.mp item
  have further : ∀ a ∈ ref :: around, ref ≤ a := by simpa using apart
  unfold itemRound
  rw [if_neg (Nat.not_le.mpr hi)]
  by_cases small : i < Key.indices
  · rw [if_pos small] at shown
    refine arrives_after (getProperty_item found small item) ?_
    exact arrives_bind (n := 0) (tells ref v j shown (ref :: around) _ _ further room) (Res.arrives_ok 0)
  · rw [if_neg small] at shown
    subst shown
    refine arrives_after (pristine.getFrom_items found (.inr ⟨i, Nat.not_lt.mp small, rfl⟩) _) ?_
    cases n with
    | zero =>
      have thrown : excused := room.resolve_right fun h => by simp [Json.level] at h
      exact thrown
    | succ n => exact arrives_after (snapshot_undefined n _ _ _ r) (Res.arrives_ok _)

theorem Tells.items (tells : Tells excused r n) (pristine : r.Pristine)
    (found : r.objects[ref]? = some (Obj.ofItems vs)) {around : List Nat} (apart : ∀ a ∈ around, ref ≤ a)
    {items : List Json} {i : Nat} (shown : r.ShowsItems ref items i (vs.toList.drop i)) (le : i ≤ vs.size)
    (acc : Array Json) {rounds : Nat}
    (room : excused ∨ Json.itemsLevel items ≤ n ∧ Json.itemsSteps items ≤ rounds) (finite : rounds ≤ endless) :
    (forever (itemRound (snapshot {} n) around ref vs.size) rounds (i, acc) r).Arrives excused r (acc ++ items.toArray)
      (Json.itemsSteps items) := by
  induction items generalizing i acc rounds with
  | nil =>
    rw [Realm.ShowsItems, List.drop_eq_nil_iff, Array.length_toList] at shown
    rw [Json.itemsSteps] at room ⊢
    cases rounds with
    | zero => exact room.resolve_right fun h => by omega
    | succ rounds =>
      have done : (itemRound (snapshot {} n) around ref vs.size (i, acc) r).Arrives excused r (.ok (acc ++ #[])) 0 := by
        unfold itemRound
        rw [if_pos shown]
        exact ⟨by simp, rfl⟩
      exact arrives_stop done rounds
  | cons j items ih =>
    rw [Realm.ShowsItems] at shown
    obtain ⟨v, rest, e, first, more⟩ := shown
    have item : vs[i]? = some v := by
      rw [← Array.getElem?_toList, ← List.head?_drop, e]
      rfl
    have next : vs.toList.drop (i + 1) = rest := by rw [← List.tail_drop, e, List.tail_cons]
    obtain ⟨hi, -⟩ := Array.getElem?_eq_some_iff.mp item
    rw [Json.itemsLevel, Json.itemsSteps] at room
    cases rounds with
    | zero => exact room.resolve_right fun h => by omega
    | succ rounds =>
      have round := tells.item pristine found apart item first acc (room.imp_right fun h => by omega)
      have left : excused ∨ Json.itemsLevel items ≤ n ∧ Json.itemsSteps items ≤ rounds :=
        room.imp_right fun h => by omega
      have others := ih (next ▸ more) hi (acc.push j) left (by omega)
      rw [Json.itemsSteps, Nat.add_comm 1, Nat.add_right_comm]
      rw [show acc.push j ++ items.toArray = acc ++ (j :: items).toArray by simp] at others
      exact arrives_again round others

theorem Tells.members (tells : Tells excused r n) (found : r.objects[ref]? = some (Obj.ofMembers ps))
    {around : List Nat} (apart : ∀ a ∈ around, ref ≤ a) {members : List (Str × Json)} {ks : List Key}
    (shown : r.ShowsMembers ref ps members ks) (acc : Array (Str × Json)) {rounds : Nat}
    (room : excused ∨ Json.membersLevel members ≤ n ∧ Json.membersSteps members ≤ rounds)
    (finite : rounds ≤ endless) :
    (forever (memberRound (snapshot {} n) around ref) rounds (ks, acc) r).Arrives excused r (acc ++ members.toArray)
      (Json.membersSteps members) := by
  induction members generalizing ks acc rounds with
  | nil =>
    rw [Realm.ShowsMembers] at shown
    subst shown
    rw [Json.membersSteps] at room ⊢
    cases rounds with
    | zero => exact room.resolve_right fun h => by omega
    | succ rounds =>
      have done : (memberRound (snapshot {} n) around ref ([], acc) r).Arrives excused r (.ok (acc ++ #[])) 0 :=
        ⟨by simp, rfl⟩
      exact arrives_stop done rounds
  | cons m members ih =>
    obtain ⟨s, j⟩ := m
    rw [Realm.ShowsMembers] at shown
    obtain ⟨v, rest, rfl, own, first, more⟩ := shown
    have further : ∀ a ∈ ref :: around, ref ≤ a := by simpa using apart
    rw [Json.membersLevel, Json.membersSteps] at room
    cases rounds with
    | zero => exact room.resolve_right fun h => by omega
    | succ rounds =>
      have told := tells ref v j first (ref :: around) (.object ref) (.ofStr s) further
        (room.imp_right fun h => by omega)
      have round : (memberRound (snapshot {} n) around ref (.ofStr s :: rest, acc) r).Arrives excused r
          (.error (rest, acc.push (s, j))) j.steps := by
        refine arrives_after (getProperty_member found own) (arrives_bind (n := 0) told ?_)
        rw [Key.toStr?_ofStr]
        exact Res.arrives_ok 0
      have left : excused ∨ Json.membersLevel members ≤ n ∧ Json.membersSteps members ≤ rounds :=
        room.imp_right fun h => by omega
      have others := ih more (acc.push (s, j)) left (by omega)
      rw [show acc.push (s, j) ++ members.toArray = acc ++ ((s, j) :: members).toArray by simp] at others
      exact (arrives_again round others).mono (by rw [Json.membersSteps]; omega)

theorem partsOf_arrives {a : Option Json} {m : Nat} {isArray : Bool} {o : Obj} (found : r.objects[ref]? = some o)
    (quiet : o.kind.Quiet) {around : List Nat} (new : ∀ a ∈ around, ref < a)
    (kind : Script.isArray (.object ref) r = .ok isArray r)
    (h : ((if isArray then do
        let items ← loop (0, #[]) (itemRound (snapshot {} n) around ref (← lengthOf ref))
        pure (some (.array items.toList))
      else do
        let members ← loop ((← enumerableKeys ref).toList, #[]) (memberRound (snapshot {} n) around ref)
        pure (some (.object members.toList)) : Act _) r).Arrives excused r a m) :
    (partsOf (snapshot {} n) around none ref r).Arrives excused r a m := by
  have apart : around.contains ref = false := by
    rw [List.contains_eq_mem, decide_eq_false_iff_not]
    exact fun there => Nat.lt_irrefl _ (new ref there)
  refine arrives_after (congrArg (Res.ok · r) (Realm.not_callable_of_quiet found quiet)) ?_
  rw [if_neg Bool.false_ne_true, if_neg (by rw [apart]; exact Bool.false_ne_true)]
  exact arrives_after kind h

theorem Tells.array (tells : Tells excused r n) (pristine : r.Pristine)
    (found : r.objects[ref]? = some (Obj.ofItems vs)) {around : List Nat} (new : ∀ a ∈ around, ref < a)
    {items : List Json} (shown : r.ShowsItems ref items 0 vs.toList)
    (room : excused ∨ (Json.array items).level ≤ n + 1 ∧ (Json.array items).steps ≤ endless) :
    (partsOf (snapshot {} n) around none ref r).Arrives excused r (some (.array items)) (Json.array items).steps := by
  have steps : Json.itemsSteps items ≤ (Json.array items).steps := by
    cases items with
    | nil => simp [Json.itemsSteps, Json.steps]
    | cons j items => rw [Json.itemsSteps, Json.steps]
  rw [Json.level] at room
  have told := tells.items pristine found (fun a ha => Nat.le_of_lt (new a ha)) (i := 0) shown (Nat.zero_le _) #[]
    (room.imp_right fun h => by omega) (Nat.le_refl _)
  refine partsOf_arrives found (Obj.quiet_ofItems vs) new (isArray_ofItems found) ?_
  rw [if_pos rfl]
  refine arrives_after (lengthOf_ofItems found) ((arrives_bind (n := 0) told ?_).mono steps)
  exact ⟨by simp, rfl⟩

theorem Tells.object (tells : Tells excused r n) (found : r.objects[ref]? = some (Obj.ofMembers ps))
    {around : List Nat} (new : ∀ a ∈ around, ref < a) {members : List (Str × Json)}
    (shown : r.ShowsMembers ref ps members (Key.ordered ps.keys))
    (room : excused ∨ (Json.object members).level ≤ n + 1 ∧ (Json.object members).steps ≤ endless) :
    (partsOf (snapshot {} n) around none ref r).Arrives excused r (some (.object members))
      (Json.object members).steps := by
  have steps : Json.membersSteps members ≤ (Json.object members).steps := by
    cases members with
    | nil => simp [Json.membersSteps, Json.steps]
    | cons m members =>
      obtain ⟨s, j⟩ := m
      rw [Json.membersSteps, Json.steps]
  have keys : enumerableKeys ref r = .ok (Key.ordered ps.keys).toArray r :=
    enumerableKeys_ofMembers found fun k hk => by
      obtain ⟨s, v, j, key, own, -⟩ := shown.exists_of_mem hk
      exact ⟨s, v, key, own⟩
  rw [Json.level] at room
  have told := tells.members found (fun a ha => Nat.le_of_lt (new a ha)) shown #[]
    (room.imp_right fun h => by omega) (Nat.le_refl _)
  refine partsOf_arrives found (Obj.quiet_ofMembers ps) new (isArray_ofMembers found) ?_
  rw [if_neg Bool.false_ne_true]
  refine arrives_after keys ((arrives_bind (n := 0) told ?_).mono steps)
  exact ⟨by simp, rfl⟩

/-- What is told of a value that shows a tree is this tree. -/
theorem tells (pristine : r.Pristine) (n : Nat) : Tells excused r n := by
  induction n with
  | zero =>
    intro bound v j shown around holder k apart room
    exact room.resolve_right fun h => by cases j <;> simp [Json.level] at h
  | succ n ih =>
    intro bound v j shown around holder k apart room
    rw [snapshot]
    refine arrives_after (shown.replacedValue pristine holder k) (arrives_after shown.unwrapForJson ?_)
    cases j with
    | array items =>
      rw [Realm.Shows] at shown
      obtain ⟨ref, vs, rfl, below, found, shown⟩ := shown
      exact ih.array pristine found (fun a ha => Nat.lt_of_lt_of_le below (apart a ha)) shown room
    | object members =>
      rw [Realm.Shows] at shown
      obtain ⟨ref, ps, rfl, below, found, -, shown⟩ := shown
      exact ih.object found (fun a ha => Nat.lt_of_lt_of_le below (apart a ha)) shown room
    | _ =>
      rw [Realm.Shows] at shown
      rw [shown]
      exact ⟨rfl, rfl⟩

/-! ## Texts -/

theorem Realm.Grows.withHolder (r : Realm) (v : Value) : r.Grows (r.withHolder v) := by
  intro ref o found
  obtain ⟨hlt, -⟩ := Array.getElem?_eq_some_iff.mp found
  have other : ref ≠ r.objects.size := Nat.ne_of_lt hlt
  have kept := Realm.Grows.allocate r { proto := some Intrinsic.objectPrototype.ref } ref o found
  show (Array.modify _ _ _)[ref]? = _
  rw [Array.getElem?_modify, if_neg other.symm]
  exact kept

theorem writeJson_arrives (pristine : r.Pristine) (shown : r.Shows bound v j)
    (room : excused ∨ j.level ≤ Json.maxDepth ∧ j.steps ≤ endless) :
    (writeJson v .undefined .undefined r).Arrives excused (r.withHolder v) (some (Json.render .empty j)) j.steps := by
  have grows := Realm.Grows.withHolder r v
  rw [writeJson_apply]
  have told := tells (pristine.grows grows) Json.maxDepth bound v j (shown.mono grows (Nat.le_refl _) j) []
    (.object r.objects.size) (.name .empty) (by simp) room
  exact told.bind (n := 0) (Res.arrives_ok 0)

end BrainHost.Script
