import BrainHost.Proofs.Json.Keys
import BrainHost.Proofs.Json.ReadBack
import BrainHost.Script.Builtin.Json

/-! # Trees that values show

The engine keeps of a tree what its values can hold: the last member of a key, with the keys in their
order. A tree that is in this form already is shown as it is. -/

namespace BrainHost.Script

/-! ## Realms that grow -/

/-- The objects of a realm stay as they are, while others come. -/
def Realm.Grows (r r' : Realm) : Prop := ∀ (ref : Nat) (o : Obj), r.objects[ref]? = some o → r'.objects[ref]? = some o

namespace Realm.Grows

variable {r r' r'' : Realm}

theorem refl (r : Realm) : r.Grows r := fun _ _ found => found

theorem trans (h : r.Grows r') (h' : r'.Grows r'') : r.Grows r'' :=
  fun ref o found => h' ref o (h ref o found)

theorem size_le (h : r.Grows r') : r.objects.size ≤ r'.objects.size := by
  rcases Nat.lt_or_ge r'.objects.size r.objects.size with hlt | hge
  · have found := h _ _ (Array.getElem?_eq_getElem hlt)
    rw [Array.getElem?_eq_none (Nat.le_refl _)] at found
    cases found
  · exact hge

theorem allocate (r : Realm) (o : Obj) : r.Grows (r.allocate o).2 := by
  intro ref o' found
  obtain ⟨hlt, -⟩ := Array.getElem?_eq_some_iff.mp found
  show (r.objects.push o)[ref]? = _
  rw [Array.getElem?_push_lt hlt, ← found, Array.getElem?_eq_getElem hlt]

end Realm.Grows

theorem Realm.getElem?_allocate (r : Realm) (o : Obj) : (r.allocate o).2.objects[r.objects.size]? = some o := by
  show (r.objects.push o)[r.objects.size]? = _
  simp

/-! ## Values and trees -/

/-- The number from which on keys of numbers are names. -/
def Key.indices : Nat := Nat.pow 2 32 - 1

/-- An object that is made for the members of a tree. -/
def Obj.ofMembers (ps : Properties) : Obj := { proto := some Intrinsic.objectPrototype.ref, properties := ps }

def Obj.ofItems (vs : Array Value) : Obj :=
  { kind := .array vs vs.size true, proto := some Intrinsic.arrayPrototype.ref }

mutual

/-- A value shows a tree. The objects of a tree stand below a bound, and the parts of each below itself. -/
def Realm.Shows (r : Realm) (bound : Nat) (v : Value) : Json → Prop
  | .null => v = .null
  | .bool b => v = .bool b
  | .number x => v = .number x
  | .string s => v = .string s
  | .array items => ∃ ref vs, v = .object ref ∧ ref < bound ∧ r.objects[ref]? = some (Obj.ofItems vs) ∧
      r.ShowsItems ref items 0 vs.toList
  | .object members => ∃ ref ps, v = .object ref ∧ ref < bound ∧ r.objects[ref]? = some (Obj.ofMembers ps) ∧
      ps.keys.Nodup ∧ r.ShowsMembers ref ps members (Key.ordered ps.keys)

/-- Values show the items of an array from a place on. Places that are no indices show nothing. -/
def Realm.ShowsItems (r : Realm) (bound : Nat) : List Json → Nat → List Value → Prop
  | [], _, vs => vs = []
  | j :: items, i, vs => ∃ v rest, vs = v :: rest ∧ (if i < Key.indices then r.Shows bound v j else j = .null) ∧
      r.ShowsItems bound items (i + 1) rest

/-- Properties show the members of an object, one for each of its keys. -/
def Realm.ShowsMembers (r : Realm) (bound : Nat) (ps : Properties) : List (Str × Json) → List Key → Prop
  | [], ks => ks = []
  | (s, j) :: members, ks => ∃ v rest, ks = .ofStr s :: rest ∧ ps.get? (.ofStr s) = some (.plain v) ∧
      r.Shows bound v j ∧ r.ShowsMembers bound ps members rest

end

namespace Json

def memberKeys (members : List (Str × Json)) : List Key := members.map fun m => .ofStr m.1

mutual

/-- A tree in the form in which values show it. -/
def Tidy : Json → Prop
  | null => True
  | bool _ => True
  | number _ => True
  | string _ => True
  | array items => ItemsTidy items 0
  | object members => (memberKeys members).Nodup ∧ Key.ordered (memberKeys members) = memberKeys members ∧
      MembersTidy members

def ItemsTidy : List Json → Nat → Prop
  | [], _ => True
  | j :: items, i => (if i < Key.indices then j.Tidy else j = null) ∧ ItemsTidy items (i + 1)

def MembersTidy : List (Str × Json) → Prop
  | [] => True
  | (_, j) :: members => j.Tidy ∧ MembersTidy members

end

end Json

variable {r r' : Realm}

mutual

theorem Realm.Shows.mono {bound bound' : Nat} {v : Value} (grows : r.Grows r') (le : bound ≤ bound') :
    (j : Json) → r.Shows bound v j → r'.Shows bound' v j
  | .null, h => by rwa [Realm.Shows] at h ⊢
  | .bool b, h => by rwa [Realm.Shows] at h ⊢
  | .number x, h => by rwa [Realm.Shows] at h ⊢
  | .string s, h => by rwa [Realm.Shows] at h ⊢
  | .array items, h => by
    rw [Realm.Shows] at h ⊢
    obtain ⟨ref, vs, rfl, below, found, shown⟩ := h
    exact ⟨ref, vs, rfl, Nat.lt_of_lt_of_le below le, grows _ _ found,
      ShowsItems.mono grows (Nat.le_refl _) items 0 _ shown⟩
  | .object members, h => by
    rw [Realm.Shows] at h ⊢
    obtain ⟨ref, ps, rfl, below, found, nodup, shown⟩ := h
    exact ⟨ref, ps, rfl, Nat.lt_of_lt_of_le below le, grows _ _ found, nodup,
      ShowsMembers.mono grows (Nat.le_refl _) members _ shown⟩

theorem Realm.ShowsItems.mono {bound bound' : Nat} (grows : r.Grows r') (le : bound ≤ bound') :
    (items : List Json) → (i : Nat) → (vs : List Value) → r.ShowsItems bound items i vs →
      r'.ShowsItems bound' items i vs
  | [], i, vs, h => by rwa [Realm.ShowsItems] at h ⊢
  | j :: items, i, vs, h => by
    rw [Realm.ShowsItems] at h ⊢
    obtain ⟨v, rest, rfl, first, more⟩ := h
    refine ⟨v, rest, rfl, ?_, ShowsItems.mono grows le items _ _ more⟩
    split
    · rename_i hi
      rw [if_pos hi] at first
      exact Shows.mono grows le j first
    · rename_i hi
      rwa [if_neg hi] at first

theorem Realm.ShowsMembers.mono {bound bound' : Nat} {ps : Properties} (grows : r.Grows r') (le : bound ≤ bound') :
    (members : List (Str × Json)) → (ks : List Key) → r.ShowsMembers bound ps members ks →
      r'.ShowsMembers bound' ps members ks
  | [], ks, h => by rwa [Realm.ShowsMembers] at h ⊢
  | (s, j) :: members, ks, h => by
    rw [Realm.ShowsMembers] at h ⊢
    obtain ⟨v, rest, rfl, found, first, more⟩ := h
    exact ⟨v, rest, rfl, found, Shows.mono grows le j first, ShowsMembers.mono grows le members _ more⟩

end

/-! ## What trees show -/

mutual

theorem Realm.Shows.tidy {bound : Nat} {v : Value} : (j : Json) → r.Shows bound v j → j.Tidy
  | .null, _ => trivial
  | .bool b, _ => trivial
  | .number x, _ => trivial
  | .string s, _ => trivial
  | .array items, h => by
    rw [Realm.Shows] at h
    obtain ⟨ref, vs, -, -, -, shown⟩ := h
    exact ShowsItems.tidy items 0 _ shown
  | .object members, h => by
    rw [Realm.Shows] at h
    obtain ⟨ref, ps, -, -, -, nodup, shown⟩ := h
    obtain ⟨keys, tidy⟩ := ShowsMembers.tidy members _ shown
    rw [Json.Tidy, ← keys]
    exact ⟨(Key.ordered_perm _).nodup_iff.mpr nodup, Key.ordered_ordered _, tidy⟩

theorem Realm.ShowsItems.tidy {bound : Nat} : (items : List Json) → (i : Nat) → (vs : List Value) →
    r.ShowsItems bound items i vs → Json.ItemsTidy items i
  | [], _, _, _ => trivial
  | j :: items, i, vs, h => by
    rw [Realm.ShowsItems] at h
    obtain ⟨v, rest, -, first, more⟩ := h
    refine ⟨?_, ShowsItems.tidy items _ _ more⟩
    split
    · rename_i hi
      rw [if_pos hi] at first
      exact Shows.tidy j first
    · rename_i hi
      rwa [if_neg hi] at first

theorem Realm.ShowsMembers.tidy {bound : Nat} {ps : Properties} : (members : List (Str × Json)) → (ks : List Key) →
    r.ShowsMembers bound ps members ks → ks = Json.memberKeys members ∧ Json.MembersTidy members
  | [], ks, h => by
    rw [Realm.ShowsMembers] at h
    exact ⟨h, trivial⟩
  | (s, j) :: members, ks, h => by
    rw [Realm.ShowsMembers] at h
    obtain ⟨v, rest, rfl, -, first, more⟩ := h
    obtain ⟨keys, tidy⟩ := ShowsMembers.tidy members _ more
    exact ⟨congrArg (Key.ofStr s :: ·) keys, Shows.tidy j first, tidy⟩

end

namespace Json

theorem memberKeys_settled (members : List (Str × Json)) :
    memberKeys (settledMembers members) = memberKeys members := by
  induction members with
  | nil => rw [settledMembers]
  | cons m members ih =>
    obtain ⟨s, j⟩ := m
    rw [settledMembers]
    exact congrArg (Key.ofStr s :: ·) ih

mutual

theorem Tidy.settled : (j : Json) → j.Tidy → j.settled.Tidy
  | null, _ => by rw [Json.settled]; trivial
  | bool b, _ => by rw [Json.settled]; trivial
  | number x, _ => by
    rw [Json.settled]
    split <;> trivial
  | string s, _ => by rw [Json.settled]; trivial
  | array items, h => by
    rw [Json.settled]
    exact ItemsTidy.settled items 0 h
  | object members, h => by
    obtain ⟨nodup, order, tidy⟩ := h
    rw [Json.settled, Tidy, memberKeys_settled]
    exact ⟨nodup, order, MembersTidy.settled members tidy⟩

theorem ItemsTidy.settled : (items : List Json) → (i : Nat) → ItemsTidy items i → ItemsTidy (settledItems items) i
  | [], _, _ => by rw [settledItems]; trivial
  | j :: items, i, h => by
    obtain ⟨first, more⟩ := h
    rw [settledItems]
    refine ⟨?_, ItemsTidy.settled items _ more⟩
    split
    · rename_i hi
      rw [if_pos hi] at first
      exact Tidy.settled j first
    · rename_i hi
      rw [if_neg hi] at first
      rw [first, Json.settled]

theorem MembersTidy.settled : (members : List (Str × Json)) → MembersTidy members →
    MembersTidy (settledMembers members)
  | [], _ => by rw [settledMembers]; trivial
  | (s, j) :: members, h => by
    obtain ⟨first, more⟩ := h
    rw [settledMembers]
    exact ⟨Tidy.settled j first, MembersTidy.settled members more⟩

end

end Json

/-! ## Values that are made of trees -/

/-- Properties that were made for members: no two have one key, and each holds a value that shows a tree. -/
structure Properties.Made (r : Realm) (bound : Nat) (ps : Properties) : Prop where
  nodup : ps.keys.Nodup
  shown : ∀ q ∈ ps.toList, ∃ s v j, q = (.ofStr s, .plain v) ∧ r.Shows bound v j

/-- A property that was made for a member. -/
def Realm.ShowsMember (r : Realm) (bound : Nat) (m : Str × Json) (q : Key × Property) : Prop :=
  ∃ v, q = (.ofStr m.1, .plain v) ∧ r.Shows bound v m.2

namespace Properties.Made

variable {bound bound' : Nat} {ps : Properties}

theorem empty (r : Realm) (bound : Nat) : Made r bound #[] where
  nodup := .nil
  shown _ h := by cases h

theorem mono (h : Made r bound ps) (grows : r.Grows r') (le : bound ≤ bound') : Made r' bound' ps where
  nodup := h.nodup
  shown q hq := by
    obtain ⟨s, v, j, e, shown⟩ := h.shown q hq
    exact ⟨s, v, j, e, Realm.Shows.mono grows le j shown⟩

theorem insert (h : Made r bound ps) (s : Str) {v : Value} {j : Json} (shown : r.Shows bound v j) :
    Made r bound (ps.insert (.ofStr s) (.plain v)) where
  nodup := nodup_insert h.nodup _ _
  shown q hq := (mem_of_mem_insert hq).elim (h.shown q) fun e => ⟨s, v, j, e, shown⟩

theorem exists_shows (h : Made r bound ps) : (ks : List Key) → (∀ k ∈ ks, k ∈ ps.keys) →
    ∃ members, r.ShowsMembers bound ps members ks
  | [], _ => ⟨[], by rw [Realm.ShowsMembers]⟩
  | k :: ks, there => by
    obtain ⟨p, found⟩ := exists_get? (there k (by simp))
    obtain ⟨s, v, j, e, shown⟩ := h.shown _ (mem_of_get? found)
    obtain ⟨rfl, rfl⟩ := Prod.mk.inj e
    obtain ⟨members, more⟩ := exists_shows h ks fun k hk => there k (by simp [hk])
    refine ⟨(s, j) :: members, ?_⟩
    rw [Realm.ShowsMembers]
    exact ⟨v, ks, rfl, found, shown, more⟩

end Properties.Made

theorem Realm.keys_of_forall₂ {bound : Nat} {members : List (Str × Json)} {entries : List (Key × Property)}
    (h : List.Forall₂ (r.ShowsMember bound) members entries) : entries.map (·.1) = Json.memberKeys members := by
  induction h with
  | nil => rfl
  | cons first more ih =>
    obtain ⟨v, rfl, -⟩ := first
    exact congrArg (Key.ofStr _ :: ·) ih

theorem Realm.showsMembers_of_forall₂ {bound : Nat} {ps : Properties} (nodup : ps.keys.Nodup)
    {members : List (Str × Json)} {entries : List (Key × Property)}
    (h : List.Forall₂ (r.ShowsMember bound) members entries) (there : ∀ q ∈ entries, q ∈ ps.toList) :
    r.ShowsMembers bound ps members (entries.map (·.1)) := by
  induction h with
  | nil => rw [Realm.ShowsMembers]; rfl
  | @cons m q members entries first more ih =>
    obtain ⟨v, rfl, shown⟩ := first
    obtain ⟨s, j⟩ := m
    rw [Realm.ShowsMembers]
    exact ⟨v, _, rfl, Properties.get?_of_mem nodup (there _ (by simp)), shown, ih fun q hq => there q (by simp [hq])⟩

theorem Realm.ofJson_object (r : Realm) (members : List (Str × Json)) :
    r.ofJson (.object members) =
      (.object (r.ofJsonMembers (.ofMembers #[]) members).2.objects.size,
        ((r.ofJsonMembers (.ofMembers #[]) members).2.allocate (r.ofJsonMembers (.ofMembers #[]) members).1).2) := by
  rw [Realm.ofJson]
  rfl

mutual

/-- The value of a tree shows a tree, and this one if it is in the form for that. -/
theorem Realm.ofJson_shows (r : Realm) : (j : Json) → r.Grows (r.ofJson j).2 ∧
    ∃ j', (r.ofJson j).2.Shows (r.ofJson j).2.objects.size (r.ofJson j).1 j' ∧ (j.Tidy → j' = j)
  | .null => by rw [Realm.ofJson]; exact ⟨.refl r, .null, by rw [Realm.Shows], fun _ => rfl⟩
  | .bool b => by rw [Realm.ofJson]; exact ⟨.refl r, .bool b, by rw [Realm.Shows], fun _ => rfl⟩
  | .number x => by rw [Realm.ofJson]; exact ⟨.refl r, .number x, by rw [Realm.Shows], fun _ => rfl⟩
  | .string s => by rw [Realm.ofJson]; exact ⟨.refl r, .string s, by rw [Realm.Shows], fun _ => rfl⟩
  | .array items => by
    obtain ⟨grows, vs, list, shows⟩ := ofJsonItems_shows r #[] items
    obtain ⟨items', shown, same⟩ := shows 0
    rw [Realm.ofJson]
    generalize r.ofJsonItems #[] items = made at *
    obtain ⟨acc, r'⟩ := made
    dsimp only at *
    have allocated := Realm.Grows.allocate r' (Obj.ofItems acc)
    refine ⟨grows.trans allocated, .array items', ?_, fun tidy => by rw [same tidy]⟩
    rw [Realm.Shows]
    refine ⟨r'.objects.size, acc, rfl, ?_, r'.getElem?_allocate _, ?_⟩
    · show r'.objects.size < (r'.objects.push _).size
      simp
    · rw [list]
      exact Realm.ShowsItems.mono allocated (Nat.le_refl _) items' 0 _ shown
  | .object members => by
    obtain ⟨grows, ps, obj, all, each⟩ := ofJsonMembers_shows r #[] members
    have made := all (.empty r _)
    rw [r.ofJson_object]
    generalize r.ofJsonMembers (Obj.ofMembers #[]) members = pair at *
    obtain ⟨o, r'⟩ := pair
    dsimp only at *
    subst obj
    have allocated := Realm.Grows.allocate r' (Obj.ofMembers ps)
    have shows (members' : List (Str × Json))
        (h : r'.ShowsMembers r'.objects.size ps members' (Key.ordered ps.keys)) :
        (r'.allocate (Obj.ofMembers ps)).2.Shows (r'.allocate (Obj.ofMembers ps)).2.objects.size
          (.object r'.objects.size) (.object members') := by
      rw [Realm.Shows]
      refine ⟨r'.objects.size, ps, rfl, ?_, r'.getElem?_allocate _, made.nodup, ?_⟩
      · show r'.objects.size < (r'.objects.push _).size
        simp
      · exact Realm.ShowsMembers.mono allocated (Nat.le_refl _) members' _ h
    refine ⟨grows.trans allocated, ?_⟩
    by_cases tidy : (Json.object members).Tidy
    · obtain ⟨nodup, order, parts⟩ := tidy
      obtain ⟨entries, list, entry⟩ := each parts nodup
      have keys : ps.keys = Json.memberKeys members := by
        rw [Properties.keys, list]
        exact keys_of_forall₂ entry
      refine ⟨.object members, shows members ?_, fun _ => rfl⟩
      have shown := Realm.showsMembers_of_forall₂ made.nodup entry fun q hq => list ▸ hq
      rwa [keys, order, ← keys, Properties.keys, list]
    · obtain ⟨members', shown⟩ := made.exists_shows (Key.ordered ps.keys) fun k hk =>
        (Key.ordered_perm _).mem_iff.mp hk
      exact ⟨.object members', shows members' shown, fun h => absurd h tidy⟩

theorem Realm.ofJsonItems_shows (r : Realm) (acc : Array Value) : (items : List Json) →
    r.Grows (r.ofJsonItems acc items).2 ∧ ∃ vs, (r.ofJsonItems acc items).1.toList = acc.toList ++ vs ∧
      ∀ i, ∃ items', (r.ofJsonItems acc items).2.ShowsItems (r.ofJsonItems acc items).2.objects.size items' i vs ∧
        (Json.ItemsTidy items i → items' = items)
  | [] => by
    rw [Realm.ofJsonItems]
    exact ⟨.refl r, [], (List.append_nil _).symm, fun i => ⟨[], by rw [Realm.ShowsItems], fun _ => rfl⟩⟩
  | j :: items => by
    obtain ⟨grows, j', shown, same⟩ := ofJson_shows r j
    rw [Realm.ofJsonItems]
    generalize r.ofJson j = made at *
    obtain ⟨v, r'⟩ := made
    dsimp only at *
    obtain ⟨grows', vs, list, shows⟩ := ofJsonItems_shows r' (acc.push v) items
    refine ⟨grows.trans grows', v :: vs, by rw [list, Array.toList_push, List.append_assoc]; rfl, fun i => ?_⟩
    obtain ⟨items', more, same'⟩ := shows (i + 1)
    refine ⟨(if i < Key.indices then j' else .null) :: items', ?_, fun tidy => ?_⟩
    · rw [Realm.ShowsItems]
      refine ⟨v, vs, rfl, ?_, more⟩
      split
      · exact Realm.Shows.mono grows' grows'.size_le j' shown
      · rfl
    · obtain ⟨first, tidy⟩ := tidy
      rw [same' tidy]
      congr 1
      split
      · rename_i hi
        rw [if_pos hi] at first
        exact same first
      · rename_i hi
        rw [if_neg hi] at first
        exact first.symm

theorem Realm.ofJsonMembers_shows (r : Realm) (ps : Properties) : (members : List (Str × Json)) →
    r.Grows (r.ofJsonMembers (.ofMembers ps) members).2 ∧
    ∃ ps', (r.ofJsonMembers (.ofMembers ps) members).1 = .ofMembers ps' ∧
      (Properties.Made r r.objects.size ps → Properties.Made (r.ofJsonMembers (.ofMembers ps) members).2
        (r.ofJsonMembers (.ofMembers ps) members).2.objects.size ps') ∧
      (Json.MembersTidy members → (ps.keys ++ Json.memberKeys members).Nodup →
        ∃ entries, ps'.toList = ps.toList ++ entries ∧
          List.Forall₂ ((r.ofJsonMembers (.ofMembers ps) members).2.ShowsMember
            (r.ofJsonMembers (.ofMembers ps) members).2.objects.size) members entries)
  | [] => by
    rw [Realm.ofJsonMembers]
    exact ⟨.refl r, ps, rfl, id, fun _ _ => ⟨[], (List.append_nil _).symm, .nil⟩⟩
  | (s, j) :: members => by
    obtain ⟨grows, j', shown, same⟩ := ofJson_shows r j
    rw [Realm.ofJsonMembers]
    generalize r.ofJson j = made at *
    obtain ⟨v, r'⟩ := made
    dsimp only at *
    obtain ⟨grows', ps', obj, all, each⟩ := ofJsonMembers_shows r' (ps.insert (.ofStr s) (.plain v)) members
    refine ⟨grows.trans grows', ps', obj, fun made => all ((made.mono grows grows.size_le).insert s shown),
      fun tidy nodup => ?_⟩
    obtain ⟨first, tidy⟩ := tidy
    have new : Key.ofStr s ∉ ps.keys := fun there =>
      (List.nodup_append.mp nodup).2.2 _ there _ List.mem_cons_self rfl
    have keys : (ps.insert (.ofStr s) (.plain v)).keys ++ Json.memberKeys members
        = ps.keys ++ Json.memberKeys ((s, j) :: members) := by
      rw [Properties.insert_new new, Properties.keys, Array.toList_push, List.map_append, List.append_assoc]
      rfl
    obtain ⟨entries, list, entry⟩ := each tidy (keys ▸ nodup)
    refine ⟨(.ofStr s, .plain v) :: entries, ?_, .cons ⟨v, rfl, ?_⟩ entry⟩
    · rw [list, Properties.insert_new new, Array.toList_push, List.append_assoc]
      rfl
    · rw [← same first]
      exact Realm.Shows.mono grows' grows'.size_le j' shown

end

end BrainHost.Script
