import BrainHost.Proofs.Json.Shown
import BrainHost.Script.Lookup

/-! # Prototypes that no script touched

Writing the value of a tree asks the prototypes of objects and of arrays for a few keys. As long as
these have none of them, whatever else a script did, asking leads nowhere and changes nothing. -/

namespace BrainHost.Script

open Script.Act

variable {r r' : Realm} {o : Obj} {k : Key} {ref : Nat}

/-! ## Keys that are sought -/

/-- The keys that writing the value of a tree seeks beyond its objects: the name of the function that
replaces a value, and the names of places in arrays that are no indices. -/
def Key.Sought (k : Key) : Prop := k = .text "toJSON" ∨ ∃ n, Key.indices ≤ n ∧ k = .ofNat n

/-- A name that is not sought: it is no number and not that of the replacing function. -/
def Unsought (name : String) : Prop := name ≠ "toJSON" ∧ name.toList.any (!·.isDigit) = true

instance (name : String) : Decidable (Unsought name) := inferInstanceAs (Decidable (_ ∧ _))

theorem Key.ofNat_large {n : Nat} (h : Key.indices ≤ n) : Key.ofNat n = .text (toString n) :=
  if_neg (Nat.not_lt.mpr h)

theorem Key.ofNat_small {n : Nat} (h : n < Key.indices) : Key.ofNat n = .index n := if_pos h

theorem Unsought.not_sought {name : String} (h : Unsought name) : ¬ (Key.text name).Sought := by
  obtain ⟨other, c, hc, noDigit⟩ : name ≠ "toJSON" ∧ ∃ c ∈ name.toList, c.isDigit = false := by
    simpa [Unsought] using h
  have injective {s : String} (e : Key.text name = .text s) : name = s := Str.ofString_injective (Key.name.inj e)
  rintro (e | ⟨n, large, e⟩)
  · exact other (injective e)
  · rw [injective (e.trans (Key.ofNat_large large)), Nat.toString_eq_ofList_toDigits, String.toList_ofList] at hc
    rw [Nat.isDigit_of_mem_toDigits (by decide) (by decide) hc] at noDigit
    cases noDigit

theorem Key.Sought.exists_name (h : k.Sought) : ∃ s, k = .name s := by
  obtain rfl | ⟨n, large, rfl⟩ := h
  · exact ⟨_, rfl⟩
  · exact ⟨_, Key.ofNat_large large⟩

theorem Key.Sought.ne_length (h : k.Sought) : k ≠ lengthKey :=
  fun e => (by decide : Unsought "length").not_sought (show lengthKey.Sought from e ▸ h)

/-! ## Objects that are read without asking -/

/-- An ordinary object or an array: its properties are read without asking anyone. -/
def Kind.Quiet (kind : Kind) : Prop := kind = .ordinary ∨ ∃ dense length writable, kind = .array dense length writable

/-- An object that is read without asking anyone and has none of the keys that are sought. -/
structure Obj.Bare (o : Obj) : Prop where
  quiet : o.kind.Quiet
  unset : ∀ k : Key, k.Sought → o.properties.get? k = none

theorem Realm.object_of_getElem? (found : r.objects[ref]? = some o) : r.object ref = o := by
  unfold Realm.object
  rw [found]
  rfl

theorem Act.bind_of_ok {α β : Type} {m : Act α} {a : α} (h : m r = .ok a r') (f : α → Act β) :
    (m >>= f) r = f a r' := by
  change (m r).bind (fun a => f a) = _
  rw [h]
  rfl

theorem Act.read_bind {α β : Type} (f : Realm → α) (g : α → Act β) (r : Realm) : (Act.read f >>= g) r = g (f r) r := rfl

theorem getObject_bind {β : Type} (found : r.objects[ref]? = some o) (g : Obj → Act β) :
    (getObject ref >>= g) r = g o r := by
  rw [getObject, Act.read_bind, Realm.object_of_getElem? found]

theorem getFrom_quiet (found : r.objects[ref]? = some o) (quiet : o.kind.Quiet) (n : Nat) (k : Key) (v : Value) :
    getFrom (n + 1) ref k v r = getFrom.ordinary n o ref k v r := by
  rw [getFrom, getObject_bind found]
  obtain quiet | ⟨dense, length, writable, quiet⟩ := quiet <;> rw [quiet]

theorem getFrom_data (found : r.objects[ref]? = some o) (quiet : o.kind.Quiet) {v : Value} {w e c : Bool}
    (own : r.ownProperty ref k = some ⟨.data v w, e, c⟩) (n : Nat) (receiver : Value) :
    getFrom (n + 1) ref k receiver r = .ok v r := by
  rw [getFrom_quiet found quiet, getFrom.ordinary, Act.read_bind, own]
  rfl

theorem ownProperty_sought (found : r.objects[ref]? = some o) (quiet : o.kind.Quiet) (sought : k.Sought) :
    r.ownProperty ref k = o.properties.get? k := by
  have noLength := sought.ne_length
  obtain ⟨s, rfl⟩ := sought.exists_name
  unfold Realm.ownProperty
  rw [Realm.object_of_getElem? found]
  obtain quiet | ⟨dense, length, writable, quiet⟩ := quiet
  · simp only [quiet]
  · simp only [quiet, beq_eq_false_iff_ne.mpr noLength]
    rfl

theorem getFrom_unset (found : r.objects[ref]? = some o) (quiet : o.kind.Quiet) (unset : o.properties.get? k = none)
    (sought : k.Sought) (n : Nat) (v : Value) :
    getFrom (n + 1) ref k v r = match o.proto with
      | some p => getFrom n p k v r
      | none => .ok .undefined r := by
  have own := (ownProperty_sought found quiet sought).trans unset
  rw [getFrom_quiet found quiet, getFrom.ordinary, Act.read_bind, own]
  cases o.proto <;> rfl

/-! ## Pristine realms -/

/-- The prototypes of objects and of arrays have none of the keys that writing the value of a tree
seeks. Whatever else scripts did to a realm is of no account. -/
structure Realm.Pristine (r : Realm) : Prop where
  objects : ∃ o, r.objects[Intrinsic.objectPrototype.ref]? = some o ∧ o.Bare ∧ o.proto = none
  arrays : ∃ o, r.objects[Intrinsic.arrayPrototype.ref]? = some o ∧ o.Bare ∧
    (o.proto = none ∨ o.proto = some Intrinsic.objectPrototype.ref)

namespace Realm.Pristine

theorem grows (h : r.Pristine) (h' : r.Grows r') : r'.Pristine where
  objects := by
    obtain ⟨o, found, rest⟩ := h.objects
    exact ⟨o, h' _ _ found, rest⟩
  arrays := by
    obtain ⟨o, found, rest⟩ := h.arrays
    exact ⟨o, h' _ _ found, rest⟩

theorem getFrom_objects (h : r.Pristine) (sought : k.Sought) (n : Nat) (v : Value) :
    getFrom (n + 1) Intrinsic.objectPrototype.ref k v r = .ok .undefined r := by
  obtain ⟨o, found, bare, root⟩ := h.objects
  rw [getFrom_unset found bare.quiet (bare.unset k sought) sought, root]

theorem getFrom_arrays (h : r.Pristine) (sought : k.Sought) (n : Nat) (v : Value) :
    getFrom (n + 2) Intrinsic.arrayPrototype.ref k v r = .ok .undefined r := by
  obtain ⟨o, found, bare, root | root⟩ := h.arrays
  · rw [getFrom_unset found bare.quiet (bare.unset k sought) sought, root]
  · rw [getFrom_unset found bare.quiet (bare.unset k sought) sought, root]
    exact h.getFrom_objects sought n v

end Realm.Pristine

end BrainHost.Script
