import BrainHost.Proofs.Json.Units
import BrainHost.Proofs.Number.Numeral
import BrainHost.Script.Json
import Mathlib.Data.Bool.AllAny

/-! # The written text of a tree

The characters of a tree's text without indentation, part by part. They are what the writer adds to
its output, and none of them is a control character. -/

namespace BrainHost.Script

open Number

namespace Json

/-! ## Strings -/

def escapeChars (u : UInt16) : List Char :=
  let n := u.toNat
  ['\\', 'u', Nat.digitChar (n / 0x1000), Nat.digitChar (n / 0x100 % 0x10), Nat.digitChar (n / 0x10 % 0x10),
    Nat.digitChar (n % 0x10)]

/-- How a unit that stands alone is written. -/
def unitChars (u : UInt16) : List Char :=
  if u ≥ 0xD800 && u < 0xE000 then escapeChars u
  else
    match shortEscape? u with
    | some c => ['\\', c]
    | none => if u < 0x20 then escapeChars u else [Char.ofNat u.toNat]

/-- How the units of a string are written. -/
def quotedChars : List UInt16 → List Char
  | [] => []
  | [u] => unitChars u
  | u :: v :: rest =>
    if isLead u && isTrail v then Char.ofNat (joinSurrogates u v) :: quotedChars rest
    else unitChars u ++ quotedChars (v :: rest)

def stringChars (s : Str) : List Char := '"' :: (quotedChars s.units.toList ++ ['"'])

/-! ## Trees -/

mutual

/-- The characters of a tree's text. -/
def chars : Json → List Char
  | null => "null".toList
  | bool b => (if b then "true" else "false").toList
  | number x => (if x.isFinite then Number.text x else "null").toList
  | string s => stringChars s
  | array items => '[' :: ((itemsChars items).tail ++ [']'])
  | object members => '{' :: ((membersChars members).tail ++ ['}'])

def itemsChars : List Json → List Char
  | [] => []
  | j :: items => ',' :: (j.chars ++ itemsChars items)

def membersChars : List (Str × Json) → List Char
  | [] => []
  | (key, j) :: members => ',' :: (stringChars key ++ ':' :: (j.chars ++ membersChars members))

end

/-! ## What the writer adds -/

theorem digitChar_ascii (n : Nat) (h : n < 16) : 0x20 ≤ (Nat.digitChar n).toNat ∧ (Nat.digitChar n).toNat < 0x80 := by
  decide +revert

theorem toList_pushText (out : Array UInt16) {text : String} (h : ∀ c ∈ text.toList, c.toNat < 0x80) :
    (pushText out text).toList = out.toList ++ unitsOf text.toList := by
  rw [unitsOf_ascii h]
  unfold pushText
  rw [String.foldl_eq_foldl_toList]
  generalize text.toList = cs
  induction cs generalizing out with
  | nil => simp
  | cons c cs ih => rw [List.foldl_cons, ih, Array.toList_push, List.append_assoc]; rfl

theorem escapeChars_visible (u : UInt16) : ∀ c ∈ escapeChars u, 0x20 ≤ c.toNat ∧ c.toNat < 0x80 := by
  have hu : u.toNat < 0x10000 := u.toNat_lt
  intro c hc
  simp only [escapeChars, List.mem_cons, List.not_mem_nil, or_false] at hc
  rcases hc with rfl | rfl | rfl | rfl | rfl | rfl
  · decide
  · decide
  all_goals exact digitChar_ascii _ (by omega)

theorem toList_pushEscape (out : Array UInt16) (u : UInt16) :
    (pushEscape out u).toList = out.toList ++ unitsOf (escapeChars u) := by
  rw [unitsOf_ascii fun c hc => (escapeChars_visible u c hc).2]
  simp [pushEscape, escapeChars, hexUnit]

theorem shortEscape?_eq {u : UInt16} {c : Char} (h : shortEscape? u = some c) :
    (u = 8 ∧ c = 'b') ∨ (u = 9 ∧ c = 't') ∨ (u = 10 ∧ c = 'n') ∨ (u = 12 ∧ c = 'f') ∨ (u = 13 ∧ c = 'r')
      ∨ (u = 0x22 ∧ c = '"') ∨ (u = 0x5C ∧ c = '\\') := by
  unfold shortEscape? at h
  split at h <;> first | injection h with h; subst h; rename_i hu; simp [← UInt16.toNat_inj, hu] | cases h

theorem toNat_ofNat_unit {u : UInt16} (h : ¬ (u ≥ 0xD800 && u < 0xE000) = true) :
    (Char.ofNat u.toNat).toNat = u.toNat := by
  have hu : u.toNat < 0x10000 := u.toNat_lt
  simp only [Bool.and_eq_true, decide_eq_true_eq, ge_iff_le, UInt16.le_iff_toNat_le, UInt16.lt_iff_toNat_lt] at h
  have h : ¬ (0xD800 ≤ u.toNat ∧ u.toNat < 0xE000) := h
  apply toNat_charOfNat
  show u.toNat < 0xD800 ∨ (0xDFFF < u.toNat ∧ u.toNat < 0x110000)
  omega

theorem charUnits_ofNat {u : UInt16} (h : ¬ (u ≥ 0xD800 && u < 0xE000) = true) :
    charUnits (Char.ofNat u.toNat) = [u] := by
  have hu : u.toNat < 0x10000 := u.toNat_lt
  have toNat := toNat_ofNat_unit h
  rw [charUnits_of_lt (by omega), unitOf, toNat]
  exact congrArg (fun u => [u]) (UInt16.toNat_inj.mp (toNat_toUInt16 hu))

theorem toList_pushUnit (out : Array UInt16) (u : UInt16) (h : ¬ (u ≥ 0xD800 && u < 0xE000) = true) :
    (match shortEscape? u with
      | some c => (out.push (unitOf '\\')).push (unitOf c)
      | none => if u < 0x20 then pushEscape out u else out.push u).toList = out.toList ++ unitsOf (unitChars u) := by
  unfold unitChars
  rw [if_neg h]
  cases hs : shortEscape? u with
  | some c =>
    have ascii : ∀ d ∈ ['\\', c], d.toNat < 0x80 := by
      -- Checked member by member: deciding it as it stands would go through every character.
      refine List.all_iff_forall_prop.mp ?_
      rcases shortEscape?_eq hs with h | h | h | h | h | h | h <;> obtain ⟨-, rfl⟩ := h <;> decide
    dsimp only
    rw [unitsOf_ascii ascii]
    simp
  | none =>
    dsimp only
    split
    · exact toList_pushEscape out u
    · rw [Array.toList_push, unitsOf_cons, charUnits_ofNat h]
      rfl

theorem isPair_iff {u v : UInt16} : (isLead u && isTrail v) = true
    ↔ (0xD800 ≤ u.toNat ∧ u.toNat < 0xDC00) ∧ 0xDC00 ≤ v.toNat ∧ v.toNat < 0xE000 := by
  simp only [isLead, isTrail, Bool.and_eq_true, decide_eq_true_eq, UInt16.le_iff_toNat_le, UInt16.lt_iff_toNat_lt]
  exact Iff.rfl

theorem toNat_joinSurrogates {u v : UInt16} (h : (isLead u && isTrail v) = true) :
    (Char.ofNat (joinSurrogates u v)).toNat = joinSurrogates u v := by
  obtain ⟨hu, hv⟩ := isPair_iff.mp h
  apply toNat_charOfNat
  show joinSurrogates u v < 0xD800 ∨ (0xDFFF < joinSurrogates u v ∧ joinSurrogates u v < 0x110000)
  unfold joinSurrogates
  omega

theorem charUnits_joinSurrogates {u v : UInt16} (h : (isLead u && isTrail v) = true) :
    charUnits (Char.ofNat (joinSurrogates u v)) = [u, v] := by
  obtain ⟨hu, hv⟩ := isPair_iff.mp h
  have toNat := toNat_joinSurrogates h
  unfold charUnits
  rw [toNat, if_neg (by unfold joinSurrogates; omega)]
  have lead : (0xD800 + (joinSurrogates u v - 0x10000) / 0x400).toUInt16 = u := by
    apply UInt16.toNat_inj.mp
    rw [toNat_toUInt16 (by unfold joinSurrogates; omega)]
    unfold joinSurrogates
    omega
  have trail : (0xDC00 + (joinSurrogates u v - 0x10000) % 0x400).toUInt16 = v := by
    apply UInt16.toNat_inj.mp
    rw [toNat_toUInt16 (by unfold joinSurrogates; omega)]
    unfold joinSurrogates
    omega
  rw [lead, trail]

theorem quotedChars_cons {u : UInt16} {rest : List UInt16}
    (h : ∀ v, rest.head? = some v → ¬ (isLead u && isTrail v) = true) :
    quotedChars (u :: rest) = unitChars u ++ quotedChars rest := by
  cases rest with
  | nil => rw [quotedChars, quotedChars, List.append_nil]
  | cons v rest => rw [quotedChars, if_neg (h v rfl)]

theorem unitChars_surrogate {u : UInt16} (h : (u ≥ 0xD800 && u < 0xE000) = true) : unitChars u = escapeChars u :=
  if_pos h

theorem not_pair_of_not_surrogate {u v : UInt16} (h : ¬ (u ≥ 0xD800 && u < 0xE000) = true) :
    ¬ (isLead u && isTrail v) = true := by
  rw [isPair_iff]
  simp only [Bool.and_eq_true, decide_eq_true_eq, ge_iff_le, UInt16.le_iff_toNat_le, UInt16.lt_iff_toNat_lt] at h
  have h : ¬ (0xD800 ≤ u.toNat ∧ u.toNat < 0xE000) := h
  omega

theorem pushQuoted_unit {s : Array UInt16} {count i : Nat} {out : Array UInt16} {u : UInt16} (hu : s[i]? = some u)
    (h : ¬ (u ≥ 0xD800 && u < 0xE000) = true) :
    pushQuoted s (count + 1) i out = pushQuoted s count (i + 1)
      (match shortEscape? u with
        | some c => (out.push (unitOf '\\')).push (unitOf c)
        | none => if u < 0x20 then pushEscape out u else out.push u) := by
  rw [pushQuoted]
  simp only [hu]
  rw [if_neg h]
  cases shortEscape? u with
  | some c => rfl
  | none =>
    dsimp only
    split <;> rfl

theorem toList_pushQuoted (s : Array UInt16) (count i : Nat) (out : Array UInt16) (enough : s.size ≤ i + count) :
    (pushQuoted s count i out).toList = out.toList ++ unitsOf (quotedChars (s.toList.drop i)) := by
  have finished {i : Nat} (h : s.size ≤ i) : s.toList.drop i = [] := List.drop_eq_nil_of_le (by simpa using h)
  induction count generalizing i out with
  | zero =>
    rw [pushQuoted, finished (by omega)]
    simp [quotedChars]
  | succ count ih =>
    cases hu : s[i]? with
    | none =>
      rw [pushQuoted, finished (Array.getElem?_eq_none_iff.mp hu)]
      simp [hu, quotedChars]
    | some u =>
      have here : (s.toList.drop i).head? = some u := by rw [List.head?_drop, Array.getElem?_toList, hu]
      have next : (s.toList.drop (i + 1)).head? = s[i + 1]? := by rw [List.head?_drop, Array.getElem?_toList]
      have drop : s.toList.drop i = u :: s.toList.drop (i + 1) := by
        rw [← List.drop_drop, List.drop_one]
        exact (List.cons_head?_tail here).symm
      by_cases surrogate : (u ≥ 0xD800 && u < 0xE000) = true
      · rw [pushQuoted]
        simp only [hu]
        rw [if_pos surrogate, drop]
        cases hv : s[i + 1]? with
        | none =>
          rw [hv] at next
          rw [List.head?_eq_none_iff.mp next, quotedChars, unitChars_surrogate surrogate]
          exact toList_pushEscape out u
        | some v =>
          rw [hv] at next
          dsimp only
          split
          · rename_i pair
            have drop' : s.toList.drop (i + 1) = v :: s.toList.drop (i + 2) := by
              rw [← List.drop_drop (j := i + 1) (i := 1), List.drop_one]
              exact (List.cons_head?_tail next).symm
            rw [ih (i + 2) _ (by omega), drop', quotedChars, if_pos pair, unitsOf_cons,
              charUnits_joinSurrogates pair]
            simp
          · rename_i apart
            rw [ih (i + 1) _ (by omega), toList_pushEscape, quotedChars_cons, unitsOf_append,
              unitChars_surrogate surrogate, List.append_assoc]
            intro w hw
            rw [next] at hw
            injection hw with hw
            rwa [← hw]
      · rw [pushQuoted_unit hu surrogate, ih (i + 1) _ (by omega), toList_pushUnit out u surrogate,
          drop, quotedChars_cons fun v _ => not_pair_of_not_surrogate surrogate, unitsOf_append, List.append_assoc]

theorem toList_pushString (out : Array UInt16) (s : Str) :
    (pushString out s).toList = out.toList ++ unitsOf (stringChars s) := by
  unfold pushString stringChars
  rw [Array.toList_push, toList_pushQuoted _ _ _ _ (by rw [Str.size]; omega), Array.toList_push, List.drop_zero,
    unitsOf_cons, unitsOf_append]
  simp [charUnits_ascii (c := '"') (by decide), unitsOf_cons]

theorem numeral_ascii (n : Numeral) : ∀ c ∈ n.chars, 0x20 ≤ c.toNat ∧ c.toNat < 0x80 := by
  have digits {cs : List Char} (h : Digits cs) : ∀ c ∈ cs, 0x20 ≤ c.toNat ∧ c.toNat < 0x80 := by
    intro c hc
    have := isDigit_bounds (h c hc)
    omega
  have point : ∀ c ∈ n.pointed, 0x20 ≤ c.toNat ∧ c.toNat < 0x80 := by
    unfold Numeral.pointed
    split
    · simp
    · rintro c (_ | ⟨_, hc⟩)
      · decide
      · exact digits n.isFraction c hc
  have power : ∀ c ∈ n.tail, 0x20 ≤ c.toNat ∧ c.toNat < 0x80 := by
    unfold Numeral.tail
    cases n.power with
    | none => simp
    | some p =>
      intro c hc
      simp only [Option.map_some, Option.getD_some, Power.chars, List.mem_cons, List.mem_append] at hc
      rcases hc with rfl | hc | hc
      · rcases p.mark_eq with e | e <;> rw [e] <;> decide
      · unfold Power.sign at hc
        split at hc <;> simp at hc <;> subst hc <;> decide
      · exact digits p.isDigits c hc
  intro c hc
  simp only [Numeral.chars, List.mem_append] at hc
  rcases hc with ((hc | hc) | hc) | hc
  · unfold Numeral.sign at hc
    split at hc <;> simp at hc
    subst hc
    decide
  · exact digits n.isWhole c hc
  · exact point c hc
  · exact power c hc

theorem number_ascii (x : Float) :
    ∀ c ∈ (if x.isFinite then Number.text x else "null").toList, 0x20 ≤ c.toNat ∧ c.toNat < 0x80 := by
  split
  · rename_i finite
    rw [isFinite_eq] at finite
    obtain ⟨b, hb⟩ := Option.isSome_iff_exists.mp finite
    obtain ⟨n, text, -⟩ := exists_numeral hb
    rw [text]
    exact numeral_ascii n
  · exact List.all_iff_forall_prop.mp (by decide)

/-! ## The whole text -/

section Compact

variable (out indent : Array UInt16)

theorem pushBreak_empty : pushBreak #[] indent out = out := if_pos rfl

theorem toList_pushKey (key : Str) :
    (pushKey #[] out key).toList = out.toList ++ unitsOf (stringChars key ++ [':']) := by
  unfold pushKey
  dsimp only
  rw [if_pos (by rfl), Array.toList_push, toList_pushString, unitsOf_append, List.append_assoc]
  rfl

theorem toList_push_ascii {c : Char} (h : c.toNat < 0x80) :
    (out.push (unitOf c)).toList = out.toList ++ unitsOf [c] := by
  rw [Array.toList_push, unitsOf_cons, charUnits_ascii h]
  rfl

end Compact

mutual

theorem toList_push (indent out : Array UInt16) : (j : Json) →
    (push #[] indent out j).toList = out.toList ++ unitsOf j.chars
  | null => by
    rw [push, toList_pushText _ (List.all_iff_forall_prop.mp (by decide)), chars]
  | bool b => by
    rw [push, toList_pushText _ (List.all_iff_forall_prop.mp (by cases b <;> decide)), chars]
  | number x => by
    rw [push, toList_pushText _ fun c hc => (number_ascii x c hc).2, chars]
  | string s => by
    rw [push, toList_pushString, chars]
  | array [] => by
    rw [push, toList_pushText _ (List.all_iff_forall_prop.mp (by decide)), chars, itemsChars]
    rfl
  | array (j :: items) => by
    rw [push, chars, itemsChars, List.tail_cons]
    simp only [pushBreak_empty]
    rw [toList_push_ascii _ (by decide), toList_pushItems, toList_push, toList_push_ascii _ (by decide)]
    simp only [unitsOf_cons, unitsOf_append, List.append_assoc, unitsOf_nil, List.append_nil]
  | object [] => by
    rw [push, toList_pushText _ (List.all_iff_forall_prop.mp (by decide)), chars, membersChars]
    rfl
  | object ((key, j) :: members) => by
    rw [push, chars, membersChars, List.tail_cons]
    simp only [pushBreak_empty]
    rw [toList_push_ascii _ (by decide), toList_pushMembers, toList_push, toList_pushKey,
      toList_push_ascii _ (by decide)]
    simp only [unitsOf_cons, unitsOf_append, List.append_assoc, unitsOf_nil, List.append_nil]

theorem toList_pushItems (inner out : Array UInt16) : (items : List Json) →
    (pushItems #[] inner out items).toList = out.toList ++ unitsOf (itemsChars items)
  | [] => by
    rw [pushItems, itemsChars]
    simp
  | j :: items => by
    rw [pushItems, pushBreak_empty, toList_pushItems, toList_push, toList_push_ascii _ (by decide), itemsChars]
    simp only [unitsOf_cons, unitsOf_append, List.append_assoc, unitsOf_nil, List.append_nil]

theorem toList_pushMembers (inner out : Array UInt16) : (members : List (Str × Json)) →
    (pushMembers #[] inner out members).toList = out.toList ++ unitsOf (membersChars members)
  | [] => by
    rw [pushMembers, membersChars]
    simp
  | (key, j) :: members => by
    rw [pushMembers, pushBreak_empty, toList_pushMembers, toList_push, toList_pushKey, toList_push_ascii _ (by decide),
      membersChars]
    simp only [unitsOf_cons, unitsOf_append, List.append_assoc, unitsOf_nil, List.append_nil]

end

theorem units_render (j : Json) : (render .empty j).units.toList = unitsOf j.chars := by
  show (push #[] #[] #[] j).toList = _
  rw [toList_push]
  rfl

theorem toText_render (j : Json) : (render .empty j).toText = String.ofList j.chars :=
  toText_of_units (units_render j)

/-! ## No control characters -/

theorem unitChars_ge (u : UInt16) : ∀ c ∈ unitChars u, 0x20 ≤ c.toNat := by
  unfold unitChars
  split
  · exact fun c hc => (escapeChars_visible u c hc).1
  · rename_i plain
    split
    · rename_i c hs
      refine List.all_iff_forall_prop.mp ?_
      rcases shortEscape?_eq hs with h | h | h | h | h | h | h <;> obtain ⟨-, rfl⟩ := h <;> decide
    · split
      · exact fun c hc => (escapeChars_visible u c hc).1
      · rename_i high
        intro c hc
        simp only [List.mem_singleton] at hc
        subst hc
        rw [toNat_ofNat_unit plain]
        exact UInt16.le_iff_toNat_le.mp (UInt16.not_lt.mp high)

theorem quotedChars_ge (us : List UInt16) : ∀ c ∈ quotedChars us, 0x20 ≤ c.toNat := by
  induction us using quotedChars.induct with
  | case1 => simp [quotedChars]
  | case2 u => exact unitChars_ge u
  | case3 u v rest pair ih =>
    rw [quotedChars, if_pos pair]
    intro c hc
    rcases List.mem_cons.mp hc with first | hc
    · rw [first, toNat_joinSurrogates pair]
      unfold joinSurrogates
      omega
    · exact ih c hc
  | case4 u v rest apart ih =>
    rw [quotedChars, if_neg apart]
    intro c hc
    rcases List.mem_append.mp hc with hc | hc
    · exact unitChars_ge u c hc
    · exact ih c hc

theorem stringChars_ge (s : Str) : ∀ c ∈ stringChars s, 0x20 ≤ c.toNat := by
  intro c hc
  simp only [stringChars, List.mem_cons, List.mem_append, List.not_mem_nil, or_false] at hc
  rcases hc with rfl | hc | rfl
  · decide
  · exact quotedChars_ge _ c hc
  · decide

mutual

theorem chars_ge : (j : Json) → ∀ c ∈ j.chars, 0x20 ≤ c.toNat
  | null => by rw [chars]; exact List.all_iff_forall_prop.mp (by decide)
  | bool b => by rw [chars]; exact List.all_iff_forall_prop.mp (by cases b <;> decide)
  | number x => fun c hc => (number_ascii x c (by rwa [chars] at hc)).1
  | string s => by rw [chars]; exact stringChars_ge s
  | array items => by
    rw [chars]
    intro c hc
    simp only [List.mem_cons, List.mem_append, List.not_mem_nil, or_false] at hc
    rcases hc with rfl | hc | rfl
    · decide
    · exact itemsChars_ge items c (List.mem_of_mem_tail hc)
    · decide
  | object members => by
    rw [chars]
    intro c hc
    simp only [List.mem_cons, List.mem_append, List.not_mem_nil, or_false] at hc
    rcases hc with rfl | hc | rfl
    · decide
    · exact membersChars_ge members c (List.mem_of_mem_tail hc)
    · decide

theorem itemsChars_ge : (items : List Json) → ∀ c ∈ itemsChars items, 0x20 ≤ c.toNat
  | [] => by simp [itemsChars]
  | j :: items => by
    rw [itemsChars]
    intro c hc
    simp only [List.mem_cons, List.mem_append] at hc
    rcases hc with rfl | hc | hc
    · decide
    · exact chars_ge j c hc
    · exact itemsChars_ge items c hc

theorem membersChars_ge : (members : List (Str × Json)) → ∀ c ∈ membersChars members, 0x20 ≤ c.toNat
  | [] => by simp [membersChars]
  | (key, j) :: members => by
    rw [membersChars]
    intro c hc
    simp only [List.mem_cons, List.mem_append] at hc
    rcases hc with rfl | hc | rfl | hc | hc
    · decide
    · exact stringChars_ge key c hc
    · decide
    · exact chars_ge j c hc
    · exact membersChars_ge members c hc

end

end Json

end BrainHost.Script
