import BrainHost.Script.Numeric
import Mathlib.Data.List.Basic

/-! # Units of characters

The units of a text's characters one after the other are the units of the text as a script string,
and a script string of such units stands for the text. -/

namespace BrainHost.Script

/-- The units of a character. -/
def charUnits (c : Char) : List UInt16 :=
  if c.toNat < 0x10000 then [c.toNat.toUInt16]
  else [(0xD800 + (c.toNat - 0x10000) / 0x400).toUInt16, (0xDC00 + (c.toNat - 0x10000) % 0x400).toUInt16]

/-- The units of characters one after the other. -/
def unitsOf (cs : List Char) : List UInt16 := cs.flatMap charUnits

@[simp] theorem unitsOf_nil : unitsOf [] = [] := rfl

theorem unitsOf_cons (c : Char) (cs : List Char) : unitsOf (c :: cs) = charUnits c ++ unitsOf cs := rfl

theorem unitsOf_append (cs ds : List Char) : unitsOf (cs ++ ds) = unitsOf cs ++ unitsOf ds := List.flatMap_append

theorem charUnits_of_lt {c : Char} (h : c.toNat < 0x10000) : charUnits c = [unitOf c] := if_pos h

theorem charUnits_ne_nil (c : Char) : charUnits c ≠ [] := by
  unfold charUnits
  split <;> simp

theorem char_ranges (c : Char) : c.toNat < 0xD800 ∨ (0xE000 ≤ c.toNat ∧ c.toNat < 0x110000) := by
  have h : c.toNat < 0xD800 ∨ (0xDFFF < c.toNat ∧ c.toNat < 0x110000) := c.valid
  omega

theorem toNat_toUInt16 {n : Nat} (h : n < 0x10000) : n.toUInt16.toNat = n := by
  show n % 0x10000 = n
  omega

theorem toNat_charOfNat {n : Nat} (h : n.isValidChar) : (Char.ofNat n).toNat = n := by
  unfold Char.ofNat
  rw [dif_pos h]
  rfl

theorem toNat_unitOf {c : Char} (h : c.toNat < 0x10000) : (unitOf c).toNat = c.toNat := toNat_toUInt16 h

theorem toNat_lt_of_ascii {c : Char} (h : c.toNat < 0x80) : c.toNat < 0x10000 := by omega

theorem charUnits_ascii {c : Char} (h : c.toNat < 0x80) : charUnits c = [unitOf c] :=
  charUnits_of_lt (toNat_lt_of_ascii h)

theorem unitsOf_ascii {cs : List Char} (h : ∀ c ∈ cs, c.toNat < 0x80) : unitsOf cs = cs.map unitOf := by
  induction cs with
  | nil => rfl
  | cons c cs ih =>
    rw [unitsOf_cons, charUnits_ascii (h c (by simp)), ih fun d hd => h d (by simp [hd])]
    rfl

theorem unitsOf_cons_ascii {c : Char} {cs : List Char} (h : c.toNat < 0x80) :
    unitsOf (c :: cs) = unitOf c :: unitsOf cs := by
  rw [unitsOf_cons, charUnits_ascii h]
  rfl

theorem unitsOf_ne_nil {cs : List Char} (h : cs ≠ []) : unitsOf cs ≠ [] := by
  obtain ⟨c, cs, rfl⟩ := List.exists_cons_of_ne_nil h
  rw [unitsOf_cons]
  simp [charUnits_ne_nil]

theorem head?_unitsOf {u : UInt16} {cs : List Char} (h : (unitsOf cs).head? = some u) :
    ∃ c, cs.head? = some c ∧ (c.toNat < 0x80 → u = unitOf c) := by
  cases cs with
  | nil => cases h
  | cons c cs =>
    refine ⟨c, rfl, fun ascii => ?_⟩
    rw [unitsOf_cons_ascii ascii] at h
    injection h with h
    exact h.symm

theorem head_unitsOf_false {p : UInt16 → Bool} {cs : List Char}
    (h : ∀ c, cs.head? = some c → c.toNat < 0x80 ∧ p (unitOf c) = false) :
    ∀ u, (unitsOf cs).head? = some u → p u = false := by
  intro u hu
  obtain ⟨c, hc, e⟩ := head?_unitsOf hu
  obtain ⟨ascii, hp⟩ := h c hc
  rw [e ascii, hp]

theorem units_push (s : Str) (c : Char) : (s.push c).units.toList = s.units.toList ++ charUnits c := by
  unfold Str.push Str.pushPoint charUnits
  split
  · rw [Array.toList_push]
  · simp only [Array.toList_push, List.append_assoc, List.cons_append, List.nil_append]

theorem units_foldl_push (cs : List Char) (s : Str) :
    (cs.foldl Str.push s).units.toList = s.units.toList ++ unitsOf cs := by
  induction cs generalizing s with
  | nil => simp
  | cons c cs ih => rw [List.foldl_cons, ih, units_push, unitsOf_cons, List.append_assoc]

theorem units_ofString (text : String) : (Str.ofString text).units.toList = unitsOf text.toList := by
  unfold Str.ofString
  rw [String.foldl_eq_foldl_toList, units_foldl_push]
  simp [Str.empty]

theorem Str.ext_units {s t : Str} (h : s.units.toList = t.units.toList) : s = t := by
  obtain ⟨a⟩ := s
  obtain ⟨b⟩ := t
  exact congrArg Str.mk (Array.toList_inj.mp h)

/-! ## Back to characters -/

theorem getElem?_of_drop {s : Str} {i : Nat} {u : UInt16} {rest : List UInt16}
    (h : s.units.toList.drop i = u :: rest) : s.units[i]? = some u ∧ s.units.toList.drop (i + 1) = rest := by
  constructor
  · rw [← Array.getElem?_toList, ← List.head?_drop, h, List.head?_cons]
  · rw [← List.drop_drop, h, List.drop_one, List.tail_cons]

theorem getElem?_of_drop_nil {s : Str} {i : Nat} (h : s.units.toList.drop i = []) : s.units[i]? = none := by
  rw [← Array.getElem?_toList, ← List.head?_drop, h, List.head?_nil]

theorem toStringFrom?_single {s : Str} {i count : Nat} {acc : String} {c : Char} (hc : c.toNat < 0x10000)
    (h : s.units[i]? = some (unitOf c)) :
    s.toStringFrom? (count + 1) i acc = s.toStringFrom? count (i + 1) (acc.push c) := by
  have alone : (unitOf c < 0xD800 || 0xE000 ≤ unitOf c) = true := by
    simp only [Bool.or_eq_true, decide_eq_true_eq, UInt16.lt_iff_toNat_lt, UInt16.le_iff_toNat_le, toNat_unitOf hc]
    exact (char_ranges c).imp id And.left
  rw [Str.toStringFrom?]
  simp only [h]
  rw [if_pos alone, toNat_unitOf hc, Char.ofNat_toNat]

theorem toStringFrom?_pair {s : Str} {i count : Nat} {acc : String} {c : Char} {u v : UInt16}
    (hc : ¬ c.toNat < 0x10000) (hu : u.toNat = 0xD800 + (c.toNat - 0x10000) / 0x400)
    (hv : v.toNat = 0xDC00 + (c.toNat - 0x10000) % 0x400) (h : s.units[i]? = some u) (h' : s.units[i + 1]? = some v) :
    s.toStringFrom? (count + 1) i acc = s.toStringFrom? count (i + 2) (acc.push c) := by
  have range := char_ranges c
  have paired : ¬ ((u < 0xD800 || 0xE000 ≤ u) = true) := by
    simp only [Bool.or_eq_true, decide_eq_true_eq, UInt16.lt_iff_toNat_lt, UInt16.le_iff_toNat_le, hu]
    show ¬ (_ < 0xD800 ∨ 0xE000 ≤ _)
    omega
  have lead : ¬ (isTrail u = true) := by
    simp only [isTrail, Bool.and_eq_true, decide_eq_true_eq, UInt16.lt_iff_toNat_lt, UInt16.le_iff_toNat_le, hu]
    show ¬ (0xDC00 ≤ _ ∧ _ < 0xE000)
    omega
  have trail : isTrail v = true := by
    simp only [isTrail, Bool.and_eq_true, decide_eq_true_eq, UInt16.lt_iff_toNat_lt, UInt16.le_iff_toNat_le, hv]
    show 0xDC00 ≤ _ ∧ _ < 0xE000
    omega
  have join : joinSurrogates u v = c.toNat := by
    unfold joinSurrogates
    rw [hu, hv]
    omega
  rw [Str.toStringFrom?]
  simp only [h, h']
  rw [if_neg paired, if_neg lead, if_pos trail, join, Char.ofNat_toNat]

theorem toStringFrom?_unitsOf {s : Str} (cs : List Char) {count i : Nat} (acc : String)
    (h : s.units.toList.drop i = unitsOf cs) (enough : cs.length ≤ count) :
    s.toStringFrom? count i acc = some (acc ++ String.ofList cs) := by
  induction cs generalizing count i acc with
  | nil =>
    cases count with
    | zero => simp [Str.toStringFrom?]
    | succ count =>
      rw [Str.toStringFrom?]
      simp [getElem?_of_drop_nil h]
  | cons c cs ih =>
    obtain ⟨count, rfl⟩ : ∃ k, count = k + 1 := ⟨count - 1, by simp at enough; omega⟩
    have enough : cs.length ≤ count := by simpa using enough
    have pushed : acc.push c ++ String.ofList cs = acc ++ String.ofList (c :: cs) := by
      apply String.toList_inj.mp
      simp
    rw [unitsOf_cons] at h
    by_cases hc : c.toNat < 0x10000
    · rw [charUnits_of_lt hc] at h
      obtain ⟨first, rest⟩ := getElem?_of_drop h
      rw [toStringFrom?_single hc first, ih (acc.push c) rest enough, pushed]
    · rw [charUnits, if_neg hc] at h
      obtain ⟨first, rest⟩ := getElem?_of_drop h
      obtain ⟨second, rest⟩ := getElem?_of_drop rest
      have range := char_ranges c
      rw [toStringFrom?_pair hc (toNat_toUInt16 (by omega)) (toNat_toUInt16 (by omega)) first second,
        ih (acc.push c) rest enough, pushed]

theorem length_le_unitsOf (cs : List Char) : cs.length ≤ (unitsOf cs).length := by
  induction cs with
  | nil => exact Nat.le_refl _
  | cons c cs ih =>
    have := List.length_pos_of_ne_nil (charUnits_ne_nil c)
    rw [unitsOf_cons, List.length_append, List.length_cons]
    omega

theorem toString?_of_units {s : Str} {cs : List Char} (h : s.units.toList = unitsOf cs) :
    s.toString? = some (String.ofList cs) := by
  unfold Str.toString?
  rw [toStringFrom?_unitsOf cs (i := 0) "" (by rw [List.drop_zero, h])]
  · simp
  · rw [Str.size, ← Array.length_toList, h]
    exact length_le_unitsOf cs

theorem toText_of_units {s : Str} {cs : List Char} (h : s.units.toList = unitsOf cs) : s.toText = String.ofList cs := by
  rw [Str.toText, toString?_of_units h, Option.getD_some]

theorem toString?_ofString (text : String) : (Str.ofString text).toString? = some text := by
  rw [toString?_of_units (units_ofString text), String.ofList_toList]

/-! ## What stands for a text -/

theorem drop_of_getElem? {s : Str} {i : Nat} {u : UInt16} (h : s.units[i]? = some u) :
    s.units.toList.drop i = u :: s.units.toList.drop (i + 1) := by
  rw [← Array.getElem?_toList] at h
  obtain ⟨hi, rfl⟩ := List.getElem?_eq_some_iff.mp h
  exact List.drop_eq_getElem_cons hi

theorem charUnits_alone {u : UInt16} (h : u < 0xD800 ∨ 0xE000 ≤ u) : charUnits (Char.ofNat u.toNat) = [u] := by
  rw [UInt16.lt_iff_toNat_lt, UInt16.le_iff_toNat_le] at h
  have hlt : u.toNat < 0x10000 := u.toNat_lt
  have back : (Char.ofNat u.toNat).toNat = u.toNat := by
    apply toNat_charOfNat
    change _ ∨ _
    have : u.toNat < 0xD800 ∨ 0xE000 ≤ u.toNat := h
    omega
  rw [charUnits_of_lt (by rw [back]; exact hlt), unitOf, back]
  exact congrArg (fun n => [n]) (UInt16.ofNat_toNat)

theorem charUnits_pair {u v : UInt16} (hu : ¬ (u < 0xD800 ∨ 0xE000 ≤ u)) (hlead : isTrail u = false)
    (htrail : isTrail v = true) : charUnits (Char.ofNat (joinSurrogates u v)) = [u, v] := by
  simp only [isTrail, Bool.and_eq_true, Bool.and_eq_false_iff, decide_eq_true_eq, decide_eq_false_iff_not,
    UInt16.lt_iff_toNat_lt, UInt16.le_iff_toNat_le] at hu hlead htrail
  have hu : ¬ (u.toNat < 0xD800 ∨ 0xE000 ≤ u.toNat) := hu
  have hlead : ¬ 0xDC00 ≤ u.toNat ∨ ¬ u.toNat < 0xE000 := hlead
  have htrail : 0xDC00 ≤ v.toNat ∧ v.toNat < 0xE000 := htrail
  have join : joinSurrogates u v = 0x10000 + (u.toNat - 0xD800) * 0x400 + (v.toNat - 0xDC00) := rfl
  have back : (Char.ofNat (joinSurrogates u v)).toNat = joinSurrogates u v := by
    apply toNat_charOfNat
    change _ ∨ _
    omega
  have first : (0xD800 + (joinSurrogates u v - 0x10000) / 0x400).toUInt16 = u := by
    apply UInt16.toNat_inj.mp
    rw [toNat_toUInt16 (by omega)]
    omega
  have second : (0xDC00 + (joinSurrogates u v - 0x10000) % 0x400).toUInt16 = v := by
    apply UInt16.toNat_inj.mp
    rw [toNat_toUInt16 (by omega)]
    omega
  rw [charUnits, back, if_neg (by omega), first, second]

theorem unitsOf_push (acc : String) (c : Char) : unitsOf (acc.push c).toList = unitsOf acc.toList ++ charUnits c := by
  rw [String.toList_push, unitsOf_append, unitsOf_cons, unitsOf_nil, List.append_nil]

theorem units_of_toStringFrom? {s : Str} {count i : Nat} {acc text : String} (enough : s.size ≤ i + count)
    (h : s.toStringFrom? count i acc = some text) :
    unitsOf text.toList = unitsOf acc.toList ++ s.units.toList.drop i := by
  induction count generalizing i acc with
  | zero =>
    cases h
    rw [List.drop_eq_nil_of_le (by simpa [Str.size] using enough), List.append_nil]
  | succ count ih =>
    rw [Str.toStringFrom?] at h
    cases hu : s.units[i]? with
    | none =>
      simp only [hu] at h
      cases h
      have past : s.units.size ≤ i := Array.getElem?_eq_none_iff.mp hu
      rw [List.drop_eq_nil_of_le (by simpa using past), List.append_nil]
    | some u =>
      simp only [hu] at h
      rw [drop_of_getElem? hu]
      by_cases alone : (u < 0xD800 || 0xE000 ≤ u) = true
      · rw [if_pos alone] at h
        rw [Bool.or_eq_true, decide_eq_true_eq, decide_eq_true_eq] at alone
        rw [ih (by omega) h, unitsOf_push, charUnits_alone alone, List.append_assoc, List.singleton_append]
      · rw [if_neg alone] at h
        rw [Bool.or_eq_true, decide_eq_true_eq, decide_eq_true_eq] at alone
        cases hlead : isTrail u with
        | true =>
          rw [hlead, if_pos rfl] at h
          cases h
        | false =>
          rw [hlead, if_neg Bool.false_ne_true] at h
          cases hv : s.units[i + 1]? with
          | none =>
            simp only [hv] at h
            cases h
          | some v =>
            simp only [hv] at h
            rw [Option.ite_none_right_eq_some] at h
            obtain ⟨htrail, h⟩ := h
            rw [drop_of_getElem? hv, ih (by omega) h, unitsOf_push, charUnits_pair alone hlead htrail,
              List.append_assoc]
            rfl

theorem Str.eq_ofString {s : Str} {text : String} (h : s.toString? = some text) : s = Str.ofString text := by
  apply Str.ext_units
  have units := units_of_toStringFrom? (by omega) h
  rw [units_ofString, units, List.drop_zero]
  rfl

end BrainHost.Script
