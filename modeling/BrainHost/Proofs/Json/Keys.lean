import BrainHost.Proofs.Json.Numbers
import BrainHost.Script.Own

/-! # Keys of members

The key of a string tells the string: an index is written with the digits that it was read from. The
keys of an object come in one order, whatever the order of its properties: the indices by size, then
the names as they came. -/

namespace BrainHost.Script

open Number

/-! ## Strings -/

theorem Str.ofString_injective {a b : String} (h : Str.ofString a = Str.ofString b) : a = b := by
  have same := congrArg Str.toText h
  rwa [toText_of_units (units_ofString a), toText_of_units (units_ofString b), String.ofList_toList,
    String.ofList_toList] at same

theorem isDigitOf_ten {u : UInt16} (h : isDigitOf 10 u = true) : 48 ≤ u.toNat ∧ u.toNat ≤ 57 := by
  unfold isDigitOf at h
  split at h
  · rename_i d value
    have small := of_decide_eq_true h
    unfold digitValue? at value
    dsimp only at value
    split at value
    · rename_i range
      simpa using range
    · split at value
      · injection value
        omega
      · split at value
        · injection value
          omega
        · cases value
  · cases h

theorem exists_digits {us : List UInt16} (h : ∀ u ∈ us, isDigitOf 10 u = true) :
    ∃ cs, Digits cs ∧ us = unitsOf cs := by
  induction us with
  | nil => exact ⟨[], fun c hc => absurd hc List.not_mem_nil, rfl⟩
  | cons u us ih =>
    obtain ⟨cs, hd, rfl⟩ := ih fun v hv => h v (by simp [hv])
    obtain ⟨low, high⟩ := isDigitOf_ten (h u (by simp))
    have value : (Char.ofNat u.toNat).toNat = u.toNat := toNat_charOfNat (.inl (by omega))
    refine ⟨Char.ofNat u.toNat :: cs, fun c hc => ?_, ?_⟩
    · rcases List.mem_cons.mp hc with rfl | hc
      · simp only [Char.isDigit, Bool.and_eq_true, decide_eq_true_eq, ge_iff_le, UInt32.le_iff_toNat_le]
        show 48 ≤ (Char.ofNat u.toNat).toNat ∧ (Char.ofNat u.toNat).toNat ≤ 57
        omega
      · exact hd c hc
    · rw [unitsOf_cons_ascii (by omega), unitOf, value]
      exact congrArg (· :: unitsOf cs) (UInt16.toNat_inj.mp (toNat_toUInt16 u.toNat_lt)).symm

theorem Key.toString_of_indexOf? {s : Str} {n : Nat} (h : Key.indexOf? s = some n) :
    Str.ofString (toString n) = s := by
  unfold Key.indexOf? at h
  split at h
  · cases h
  rename_i digits
  dsimp only at h
  split at h
  · cases h
  rename_i canonical
  split at h
  · injection h with value
    simp only [Bool.or_eq_true, decide_eq_true_eq, Bool.not_eq_true', not_or, Bool.not_eq_false] at digits
    obtain ⟨⟨nonempty, -⟩, all⟩ := digits
    obtain ⟨cs, hd, e⟩ := exists_digits fun u hu =>
      Array.all_eq_true_iff_forall_mem.mp all u (Array.mem_toList_iff.mp hu)
    have size : s.size = cs.length := by
      rw [Str.size, ← Array.length_toList, e, unitsOf_digits hd, List.length_map]
    cases cs with
    | nil => exact absurd size nonempty
    | cons c cs =>
      have alone : c = '0' → cs = [] := by
        rintro rfl
        have first : s.units[0]? = some (unitOf '0') := by
          rw [← Array.getElem?_toList, e, unitsOf_cons_ascii (by decide)]
          rfl
        simp only [first, beq_self_eq_true, Bool.true_and, decide_eq_true_eq, size, List.length_cons] at canonical
        exact List.length_eq_zero_iff.mp (by omega)
      apply Str.ext_units
      rw [units_ofString, Nat.toString_eq_ofList_toDigits, String.toList_ofList, ← value, e, numberOf_unitsOf hd,
        toDigits_ofDigitChars hd alone]
  · cases h

theorem Key.toStr?_ofStr (s : Str) : (Key.ofStr s).toStr? = some s := by
  unfold Key.ofStr
  cases h : Key.indexOf? s with
  | none => rfl
  | some n => exact congrArg some (toString_of_indexOf? h)

/-! ## The order of keys -/

namespace Key

def index? : Key → Option Nat
  | index n => some n
  | _ => none

def name? : Key → Option Key
  | name s => some (name s)
  | _ => none

def symbol? : Key → Option Key
  | symbol id => some (symbol id)
  | _ => none

/-- Keys in the order in which an object shows them. -/
def ordered (ks : List Key) : List Key :=
  ((ks.filterMap index?).mergeSort (· ≤ ·)).map index ++ ks.filterMap name? ++ ks.filterMap symbol?

theorem ordered_perm (ks : List Key) : (ordered ks).Perm ks := by
  have sorted : (ordered ks).Perm ((ks.filterMap index?).map index ++ ks.filterMap name? ++ ks.filterMap symbol?) :=
    (((List.mergeSort_perm _ _).map index).append_right _).append_right _
  refine sorted.trans ?_
  clear sorted
  induction ks with
  | nil => exact .nil
  | cons k ks ih =>
    cases k with
    | index n => exact ih.cons _
    | name s =>
      refine .trans ?_ (ih.cons _)
      have middle : ((ks.filterMap index?).map index ++ name s :: ks.filterMap name?).Perm
          (name s :: ((ks.filterMap index?).map index ++ ks.filterMap name?)) := List.perm_middle
      exact middle.append_right _
    | symbol id => exact List.perm_middle.trans (ih.cons _)

theorem ordered_ordered (ks : List Key) : ordered (ordered ks) = ordered ks := by
  obtain ⟨ns, hns⟩ : ∃ ns, ns = (ks.filterMap index?).mergeSort (· ≤ ·) := ⟨_, rfl⟩
  have parts : ordered ks = ns.map index ++ ks.filterMap name? ++ ks.filterMap symbol? := by rw [hns]; rfl
  have again {α : Type} {f : Key → Option Key} {g h : Key → Option α} (heq : ∀ k, (f k).bind g = h k) :
      (ks.filterMap f).filterMap g = ks.filterMap h := by
    rw [List.filterMap_filterMap]
    exact congrArg (List.filterMap · ks) (funext heq)
  have nothing {α : Type} : ks.filterMap (fun _ => (none : Option α)) = [] := by simp
  have indices : (ordered ks).filterMap index? = ns := by
    rw [parts, List.filterMap_append, List.filterMap_append, List.filterMap_map,
      again (h := fun _ => none) (by rintro (_ | _ | _) <;> rfl),
      again (h := fun _ => none) (by rintro (_ | _ | _) <;> rfl), nothing, List.append_nil, List.append_nil]
    exact List.filterMap_some
  have names : (ordered ks).filterMap name? = ks.filterMap name? := by
    rw [parts, List.filterMap_append, List.filterMap_append, List.filterMap_map,
      again (h := name?) (by rintro (_ | _ | _) <;> rfl),
      again (h := fun _ => none) (by rintro (_ | _ | _) <;> rfl), nothing, List.append_nil]
    simp [Function.comp_def, name?]
  have symbols : (ordered ks).filterMap symbol? = ks.filterMap symbol? := by
    rw [parts, List.filterMap_append, List.filterMap_append, List.filterMap_map,
      again (h := fun _ => none) (by rintro (_ | _ | _) <;> rfl),
      again (h := symbol?) (by rintro (_ | _ | _) <;> rfl), nothing, List.append_nil]
    simp [Function.comp_def, symbol?]
  have sorted : ns.mergeSort (· ≤ ·) = ns := by
    rw [hns]
    exact List.mergeSort_of_pairwise (List.pairwise_mergeSort (by simpa using fun a b c => Nat.le_trans)
      (by simpa using Nat.le_total) _)
  rw [ordered, indices, names, symbols, sorted, parts]

end Key

theorem Realm.orderKeys_toList (ps : Properties) :
    (Realm.orderKeys #[] ps).toList = Key.ordered (ps.toList.map (·.1)) := by
  have parts {α : Type} {f : Key × Property → Option α} {g : Key → Option α} (h : ∀ k p, f (k, p) = g k) :
      (ps.filterMap f).toList = (ps.toList.map (·.1)).filterMap g := by
    rw [Array.toList_filterMap, List.filterMap_map]
    exact congrArg (List.filterMap · ps.toList) (funext fun ⟨k, p⟩ => h k p)
  unfold Realm.orderKeys Realm.sortNumbers Key.ordered
  simp only [Array.toList_append, Array.toList_map, List.nil_append]
  rw [parts (g := Key.index?) (by rintro (_ | _ | _) _ <;> rfl),
    parts (g := Key.name?) (by rintro (_ | _ | _) _ <;> rfl),
    parts (g := Key.symbol?) (by rintro (_ | _ | _) _ <;> rfl)]

/-! ## Properties -/

namespace Properties

variable {ps : Properties} {k : Key} {p : Property}

def keys (ps : Properties) : List Key := ps.toList.map (·.1)

theorem position?_eq_none : ps.position? k = none ↔ k ∉ ps.keys := by
  unfold position? keys
  rw [Array.findIdx?_eq_none_iff, List.mem_map]
  constructor
  · rintro h ⟨q, hq, rfl⟩
    simpa using h q (Array.mem_toList_iff.mp hq)
  · intro h q hq
    exact beq_eq_false_iff_ne.mpr fun e => h ⟨q, Array.mem_toList_iff.mpr hq, e⟩

theorem insert_new (h : k ∉ ps.keys) (p : Property) : ps.insert k p = ps.push (k, p) := by
  unfold insert
  rw [position?_eq_none.mpr h]

theorem insert_old {i : Nat} (h : ps.position? k = some i) (p : Property) :
    (ps.insert k p).toList = ps.toList.set i (k, p) ∧ ps.keys[i]? = some k := by
  obtain ⟨hi, found, -⟩ := Array.findIdx?_eq_some_iff_getElem.mp h
  constructor
  · unfold insert
    rw [h]
    dsimp only
    rw [Array.set!_eq_setIfInBounds, Array.toList_setIfInBounds]
  · unfold keys
    rw [List.getElem?_map, Array.getElem?_toList, Array.getElem?_eq_getElem hi]
    exact congrArg some (eq_of_beq found)

theorem keys_insert_old {i : Nat} (h : ps.position? k = some i) (p : Property) : (ps.insert k p).keys = ps.keys := by
  obtain ⟨list, key⟩ := insert_old h p
  obtain ⟨hi, same⟩ := List.getElem?_eq_some_iff.mp key
  have set : (ps.insert k p).keys = ps.keys.set i k := by
    unfold keys
    rw [list, List.map_set]
  rw [set, ← same, List.set_getElem_self]

theorem mem_of_mem_insert {q : Key × Property} (h : q ∈ (ps.insert k p).toList) : q ∈ ps.toList ∨ q = (k, p) := by
  cases hi : ps.position? k with
  | none =>
    rw [insert_new (position?_eq_none.mp hi), Array.toList_push] at h
    exact (List.mem_append.mp h).imp id List.mem_singleton.mp
  | some i =>
    rw [(insert_old hi p).1] at h
    exact List.mem_or_eq_of_mem_set h

theorem nodup_insert (h : ps.keys.Nodup) (k : Key) (p : Property) : (ps.insert k p).keys.Nodup := by
  cases hi : ps.position? k with
  | none =>
    have new := position?_eq_none.mp hi
    unfold keys at h new ⊢
    rw [insert_new new, Array.toList_push, List.map_append, List.nodup_append]
    exact ⟨h, by simp, fun a ha b hb e => by simp at hb; exact new (hb ▸ e ▸ ha)⟩
  | some i => rwa [keys_insert_old hi]

theorem mem_of_get? (h : ps.get? k = some p) : (k, p) ∈ ps.toList := by
  obtain ⟨⟨k', p'⟩, found, rfl⟩ := Option.map_eq_some_iff.mp h
  rw [← Array.find?_toList] at found
  obtain rfl : k' = k := by simpa using List.find?_some found
  exact List.mem_of_find?_eq_some found

theorem exists_get? (h : k ∈ ps.keys) : ∃ p, ps.get? k = some p := by
  obtain ⟨q, hq, rfl⟩ := List.mem_map.mp h
  cases found : ps.get? q.1 with
  | some p => exact ⟨p, rfl⟩
  | none =>
    have absent := Option.map_eq_none_iff.mp found
    rw [← Array.find?_toList, List.find?_eq_none] at absent
    exact absurd (beq_self_eq_true q.1) (absent q hq)

theorem get?_of_mem (h : ps.keys.Nodup) (hp : (k, p) ∈ ps.toList) : ps.get? k = some p := by
  obtain ⟨p', found⟩ := exists_get? (List.mem_map_of_mem hp)
  have same := List.inj_on_of_nodup_map h (mem_of_get? found) hp rfl
  rw [found, (Prod.mk.inj same).2]

theorem get?_eq_none (h : k ∉ ps.keys) : ps.get? k = none := by
  cases found : ps.get? k with
  | none => rfl
  | some p => exact absurd (List.mem_map_of_mem (mem_of_get? found)) h

/-! What is inserted is found under its key, and nothing else changes. -/

theorem get?_eq_find? (ps : Properties) (k : Key) : ps.get? k = (ps.toList.find? (·.1 == k)).map (·.2) := by
  unfold get?
  rw [Array.find?_toList]

theorem get?_insert_self (ps : Properties) (k : Key) (p : Property) : (ps.insert k p).get? k = some p := by
  rw [get?_eq_find?]
  cases hi : ps.position? k with
  | none =>
    have new := position?_eq_none.mp hi
    have absent : ps.toList.find? (·.1 == k) = none :=
      List.find?_eq_none.mpr fun q hq same => new (List.mem_map.mpr ⟨q, hq, eq_of_beq same⟩)
    rw [insert_new new, Array.toList_push, List.find?_append, absent]
    simp
  | some i =>
    obtain ⟨there, -, first⟩ := Array.findIdx?_eq_some_iff_getElem.mp hi
    have found : (ps.toList.set i (k, p)).find? (·.1 == k) = some (k, p) := by
      refine List.find?_eq_some_iff_getElem.mpr ⟨by simp, i, by simpa using there, by simp, fun j hj => ?_⟩
      rw [List.getElem_set_of_ne (Nat.ne_of_gt hj)]
      simpa using first j hj
    rw [(insert_old hi p).1, found]
    rfl

theorem get?_insert_of_ne {k' : Key} (h : k ≠ k') (ps : Properties) (p : Property) :
    (ps.insert k p).get? k' = ps.get? k' := by
  rw [get?_eq_find?, get?_eq_find?]
  have other : (k == k') = false := beq_eq_false_iff_ne.mpr h
  cases hi : ps.position? k with
  | none =>
    rw [insert_new (position?_eq_none.mp hi), Array.toList_push, List.find?_append]
    simp [other]
  | some i =>
    obtain ⟨there, found, -⟩ := Array.findIdx?_eq_some_iff_getElem.mp hi
    rw [← Array.length_toList] at there
    have old : (ps.toList[i].1 == k') = false := by rwa [show ps.toList[i].1 = k from eq_of_beq found]
    have split : ps.toList = ps.toList.take i ++ ps.toList[i] :: ps.toList.drop (i + 1) := by
      rw [← List.drop_eq_getElem_cons there, List.take_append_drop]
    rw [(insert_old hi p).1, List.set_eq_take_append_cons_drop, if_pos there]
    conv_rhs => rw [split]
    rw [List.find?_append, List.find?_append, List.find?_cons_of_neg (by simp [other]),
      List.find?_cons_of_neg (by simp only [old, Bool.false_eq_true, not_false_eq_true])]

end Properties

end BrainHost.Script
