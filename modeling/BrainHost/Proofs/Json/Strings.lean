import BrainHost.Proofs.Json.Numbers

/-! # Reading strings

The inside of a string that the strict reader admits is made of pieces: characters and escapes. The
engine reads each of them too, and reads a string that it wrote as the same units. -/

namespace BrainHost.Script

open Number Document

/-- A part of the inside of a string. -/
inductive Piece
  | plain (c : Char) (visible : 0x20 ≤ c.toNat) (notQuote : c ≠ '"') (notSlash : c ≠ '\\')
  | short (c : Char) (known : c ∈ ['"', '\\', '/', 'b', 'f', 'n', 'r', 't'])
  | hex (a b c d : Char) (n : Nat) (isHex : hexNumber? [a, b, c, d] = some n)

namespace Piece

def chars : Piece → List Char
  | plain c _ _ _ => [c]
  | short c _ => ['\\', c]
  | hex a b c d _ _ => ['\\', 'u', a, b, c, d]

/-- The code point of an escape of one letter. -/
def shortPoint (c : Char) : Nat :=
  match c with
  | 'b' => 8
  | 'f' => 12
  | 'n' => 10
  | 'r' => 13
  | 't' => 9
  | c => c.toNat

/-- What the engine adds to a string for a piece. -/
def addTo (s : Str) : Piece → Str
  | plain c _ _ _ => s.push c
  | short c _ => s.pushPoint (shortPoint c)
  | hex _ _ _ _ n _ => s.pushPoint n

end Piece

/-- The text of pieces one after the other. -/
def piecesChars (ps : List Piece) : List Char := ps.flatMap Piece.chars

theorem piecesChars_cons (p : Piece) (ps : List Piece) : piecesChars (p :: ps) = p.chars ++ piecesChars ps := rfl

/-! ## The strict reader -/

section Strict

variable {cs rest : List Char}

theorem readJsonString_plain (r : Reading) {c : Char} (visible : 0x20 ≤ c.toNat) (notQuote : c ≠ '"')
    (notSlash : c ≠ '\\') : readJsonString r (c :: cs) = readJsonString (r.push c) cs := by
  have never {p : Prop} : c = '\\' → p := fun h => absurd h notSlash
  rw [readJsonString.eq_13 r c cs notQuote (fun _ => never) (fun _ => never) (fun _ => never) (fun _ => never)
    (fun _ => never) (fun _ => never) (fun _ => never) (fun _ => never) (fun _ _ _ _ _ => never) never,
    if_neg (by omega)]

theorem exists_readJsonString_piece (p : Piece) (r : Reading) (cs : List Char) :
    ∃ r', readJsonString r (p.chars ++ cs) = readJsonString r' cs := by
  cases p with
  | plain c visible notQuote notSlash => exact ⟨_, readJsonString_plain r visible notQuote notSlash⟩
  | short c known =>
    simp only [List.mem_cons, List.not_mem_nil, or_false] at known
    rcases known with rfl | rfl | rfl | rfl | rfl | rfl | rfl | rfl
    all_goals exact ⟨_, by rw [Piece.chars, List.cons_append, List.singleton_append, readJsonString]⟩
  | hex a b c d n isHex =>
    refine ⟨r.pushUnit n, ?_⟩
    simp only [Piece.chars, List.cons_append, List.nil_append]
    rw [readJsonString, isHex]

theorem exists_readJsonString (ps : List Piece) (r : Reading) (rest : List Char) :
    ∃ s, readJsonString r (piecesChars ps ++ '"' :: rest) = some (s, rest) := by
  induction ps generalizing r with
  | nil => exact ⟨r.finish, by rw [show piecesChars [] ++ '"' :: rest = '"' :: rest from rfl, readJsonString]⟩
  | cons p ps ih =>
    obtain ⟨r', h⟩ := exists_readJsonString_piece p r (piecesChars ps ++ '"' :: rest)
    obtain ⟨s, hs⟩ := ih r'
    exact ⟨s, by rw [piecesChars_cons, List.append_assoc, h, hs]⟩

theorem exists_pieces (r : Reading) {s : Option String} (h : readJsonString r cs = some (s, rest)) :
    ∃ ps, cs = piecesChars ps ++ '"' :: rest := by
  have short {c : Char} {cs : List Char} (known : c ∈ ['"', '\\', '/', 'b', 'f', 'n', 'r', 't'])
      (h : ∃ ps, cs = piecesChars ps ++ '"' :: rest) : ∃ ps, '\\' :: c :: cs = piecesChars ps ++ '"' :: rest := by
    obtain ⟨ps, rfl⟩ := h
    exact ⟨.short c known :: ps, rfl⟩
  induction r, cs using readJsonString.induct with
  | case1 => rw [readJsonString] at h; cases h
  | case2 r rest' =>
    rw [readJsonString] at h
    injection h with h
    injection h with _ h
    exact ⟨[], by rw [h]; rfl⟩
  | case3 r cs ih => exact short (by simp) (ih (by rwa [readJsonString] at h))
  | case4 r cs ih => exact short (by simp) (ih (by rwa [readJsonString] at h))
  | case5 r cs ih => exact short (by simp) (ih (by rwa [readJsonString] at h))
  | case6 r cs ih => exact short (by simp) (ih (by rwa [readJsonString] at h))
  | case7 r cs ih => exact short (by simp) (ih (by rwa [readJsonString] at h))
  | case8 r cs ih => exact short (by simp) (ih (by rwa [readJsonString] at h))
  | case9 r cs ih => exact short (by simp) (ih (by rwa [readJsonString] at h))
  | case10 r cs ih => exact short (by simp) (ih (by rwa [readJsonString] at h))
  | case11 r a b c d cs isHex =>
    rw [readJsonString, isHex] at h
    cases h
  | case12 r a b c d cs n isHex ih =>
    rw [readJsonString, isHex] at h
    obtain ⟨ps, rfl⟩ := ih h
    exact ⟨.hex a b c d n isHex :: ps, rfl⟩
  | case13 r tail h₁ h₂ h₃ h₄ h₅ h₆ h₇ h₈ h₉ =>
    rw [readJsonString.eq_12 r tail h₁ h₂ h₃ h₄ h₅ h₆ h₇ h₈ h₉] at h
    cases h
  | case14 r c cs h₁ h₂ h₃ h₄ h₅ h₆ h₇ h₈ h₉ h₁₀ h₁₁ control =>
    rw [readJsonString.eq_13 r c cs h₁ h₂ h₃ h₄ h₅ h₆ h₇ h₈ h₉ h₁₀ h₁₁, if_pos control] at h
    cases h
  | case15 r c cs notQuote _ _ _ _ _ _ _ _ _ notSlash visible ih =>
    rw [readJsonString_plain r (by omega) notQuote notSlash] at h
    obtain ⟨ps, rfl⟩ := ih h
    exact ⟨.plain c (by omega) notQuote notSlash :: ps, rfl⟩

end Strict

/-! ## The engine's reader -/

section Engine

open Json

theorem hexDigit?_eq_some {c : Char} {k : Nat} (h : hexDigit? c = some k) :
    c.toNat < 0x80 ∧ k < 16 ∧ hexValue? (unitOf c) = some k := by
  have ranges : (48 ≤ c.toNat ∧ c.toNat ≤ 57 ∧ k = c.toNat - 48) ∨ (97 ≤ c.toNat ∧ c.toNat ≤ 102 ∧ k = c.toNat - 97 + 10)
      ∨ (65 ≤ c.toNat ∧ c.toNat ≤ 70 ∧ k = c.toNat - 65 + 10) := by
    unfold hexDigit? at h
    simp only [Bool.and_eq_true, decide_eq_true_eq, Char.le_def, UInt32.le_iff_toNat_le] at h
    have n : c.val.toNat = c.toNat := rfl
    rw [n] at h
    split at h
    · rename_i range
      injection h with h
      exact .inl ⟨range.1, range.2, h.symm⟩
    · split at h
      · rename_i range
        injection h with h
        exact .inr (.inl ⟨range.1, range.2, h.symm⟩)
      · split at h
        · rename_i range
          injection h with h
          exact .inr (.inr ⟨range.1, range.2, h.symm⟩)
        · cases h
  have ascii : c.toNat < 0x80 := by omega
  refine ⟨ascii, by omega, ?_⟩
  have digit : digitValue? (unitOf c) = some k := by
    unfold digitValue?
    rw [toNat_unitOf_ascii ascii]
    simp only [Bool.and_eq_true, decide_eq_true_eq]
    rcases ranges with ⟨low, high, rfl⟩ | ⟨low, high, rfl⟩ | ⟨low, high, rfl⟩
    · rw [if_pos ⟨low, high⟩]
    · rw [if_neg (by omega), if_pos (by omega)]
    · rw [if_neg (by omega), if_neg (by omega), if_pos (by omega)]
  unfold hexValue?
  rw [digit]
  exact if_pos (by omega)

theorem hexNumber?_eq_some {a b c d : Char} {n : Nat} (h : hexNumber? [a, b, c, d] = some n) :
    ∃ i j k l, hexDigit? a = some i ∧ hexDigit? b = some j ∧ hexDigit? c = some k ∧ hexDigit? d = some l
      ∧ n = ((i * 16 + j) * 16 + k) * 16 + l := by
  unfold hexNumber? at h
  simp only [List.foldlM_cons, List.foldlM_nil, Option.bind_eq_bind, Option.pure_def, Option.bind_eq_some_iff,
    Option.map_eq_some_iff, Option.some.injEq] at h
  obtain ⟨_, ⟨i, hi, rfl⟩, _, ⟨j, hj, rfl⟩, _, ⟨k, hk, rfl⟩, _, ⟨l, hl, rfl⟩, rfl⟩ := h
  exact ⟨i, j, k, l, hi, hj, hk, hl, by omega⟩

theorem readHexEscape_units {a b c d : Char} {n : Nat} {us : List UInt16} (h : hexNumber? [a, b, c, d] = some n) :
    readHexEscape 4 (unitOf a :: unitOf b :: unitOf c :: unitOf d :: us) = some (n, us) := by
  obtain ⟨i, j, k, l, hi, hj, hk, hl, rfl⟩ := hexNumber?_eq_some h
  obtain ⟨asciiA, -, valueA⟩ := hexDigit?_eq_some hi
  obtain ⟨-, -, valueB⟩ := hexDigit?_eq_some hj
  obtain ⟨-, -, valueC⟩ := hexDigit?_eq_some hk
  obtain ⟨-, -, valueD⟩ := hexDigit?_eq_some hl
  have open' : ¬ isUnit (unitOf a) '{' = true := by
    intro e
    rw [eq_of_beq e] at valueA
    cases valueA
  unfold readHexEscape
  dsimp only
  rw [if_neg open', if_neg (by simp)]
  simp [List.foldlM_cons, valueA, valueB, valueC, valueD]

theorem readEscape_short {c : Char} {us : List UInt16} (known : c ∈ ['"', '\\', '/', 'b', 'f', 'n', 'r', 't']) :
    readEscape (unitOf c :: us) = some (.point (Piece.shortPoint c), us) := by
  simp only [List.mem_cons, List.not_mem_nil, or_false] at known
  rcases known with rfl | rfl | rfl | rfl | rfl | rfl | rfl | rfl <;> rfl

theorem readEscape_hex {a b c d : Char} {n : Nat} {us : List UInt16} (h : hexNumber? [a, b, c, d] = some n) :
    readEscape (unitOf 'u' :: unitOf a :: unitOf b :: unitOf c :: unitOf d :: us) = some (.point n, us) := by
  have hex : readHexEscape 4 (unitOf a :: unitOf b :: unitOf c :: unitOf d :: us) = _ := readHexEscape_units h
  unfold readEscape
  show (readHexEscape 4 _).map _ = _
  rw [hex]
  rfl

theorem readString_unit {fuel : Nat} {acc : Str} {u : UInt16} {us : List UInt16} (visible : ¬ u < 0x20)
    (notQuote : ¬ isUnit u '"' = true) (notSlash : ¬ isUnit u '\\' = true) :
    readString (fuel + 1) acc (u :: us) = readString fuel (acc.pushUnit u) us := by
  rw [readString.eq_def]
  dsimp only
  rw [if_neg visible, if_neg notQuote, if_neg notSlash]

theorem readString_escape {fuel : Nat} {acc : Str} {us after : List UInt16} {n : Nat}
    (h : readEscape us = some (.point n, after)) :
    readString (fuel + 1) acc (unitOf '\\' :: us) = readString fuel (acc.pushPoint n) after := by
  have ne : us ≠ [] := by
    rintro rfl
    cases h
  obtain ⟨u, us, rfl⟩ := List.exists_cons_of_ne_nil ne
  rw [readString.eq_def]
  dsimp only
  rw [if_neg (by decide), if_neg (by decide), if_pos (by decide), h]

theorem readString_char {fuel : Nat} {acc : Str} {c : Char} {us : List UInt16} (visible : 0x20 ≤ c.toNat)
    (notQuote : c ≠ '"') (notSlash : c ≠ '\\') :
    readString (fuel + (charUnits c).length) acc (charUnits c ++ us) = readString fuel (acc.push c) us := by
  have high {u : UInt16} (h : 0x80 ≤ u.toNat) : ¬ u < 0x20 ∧ ¬ isUnit u '"' = true ∧ ¬ isUnit u '\\' = true := by
    refine ⟨?_, ?_, ?_⟩
    · rw [UInt16.lt_iff_toNat_lt]
      show ¬ u.toNat < 0x20
      omega
    · intro e
      rw [eq_of_beq e] at h
      exact absurd h (by decide)
    · intro e
      rw [eq_of_beq e] at h
      exact absurd h (by decide)
  have range := char_ranges c
  by_cases small : c.toNat < 0x10000
  · have toNat := toNat_unitOf small
    have push : acc.push c = acc.pushUnit (unitOf c) := by
      unfold Str.push Str.pushPoint
      rw [if_pos small]
      rfl
    have visible : ¬ unitOf c < 0x20 := by
      rw [UInt16.lt_iff_toNat_lt, toNat]
      exact Nat.not_lt.mpr visible
    have other {d : Char} (ne : c ≠ d) (hd : d.toNat < 0x10000) : ¬ isUnit (unitOf c) d = true := by
      intro e
      apply ne
      have e : (unitOf c).toNat = (unitOf d).toNat := by rw [eq_of_beq e]
      rw [toNat, toNat_unitOf hd] at e
      exact Char.toNat_inj.mp e
    rw [charUnits_of_lt small, push]
    exact readString_unit visible (other notQuote (by decide)) (other notSlash (by decide))
  · have push : acc.push c = (acc.pushUnit (0xD800 + (c.toNat - 0x10000) / 0x400).toUInt16).pushUnit
        (0xDC00 + (c.toNat - 0x10000) % 0x400).toUInt16 := by
      unfold Str.push Str.pushPoint
      rw [if_neg small]
      rfl
    obtain ⟨visible, notQuote, notSlash⟩ := high (u := (0xD800 + (c.toNat - 0x10000) / 0x400).toUInt16) (by
      rw [toNat_toUInt16 (by omega)]
      omega)
    obtain ⟨visible', notQuote', notSlash'⟩ := high (u := (0xDC00 + (c.toNat - 0x10000) % 0x400).toUInt16) (by
      rw [toNat_toUInt16 (by omega)]
      omega)
    rw [charUnits, if_neg small, push]
    show readString (fuel + 2) acc (_ :: _ :: us) = _
    rw [readString_unit visible notQuote notSlash, readString_unit visible' notQuote' notSlash']

theorem readString_piece (p : Piece) : ∃ used ≤ (unitsOf p.chars).length, ∀ fuel acc cs,
    readString (fuel + used) acc (unitsOf (p.chars ++ cs)) = readString fuel (p.addTo acc) (unitsOf cs) := by
  have one (p : Piece) : 1 ≤ (unitsOf p.chars).length := by
    have ne : p.chars ≠ [] := by cases p <;> simp [Piece.chars]
    exact List.length_pos_of_ne_nil (unitsOf_ne_nil ne)
  cases p with
  | plain c visible notQuote notSlash =>
    refine ⟨(charUnits c).length, by simp [Piece.chars, unitsOf_cons], fun fuel acc cs => ?_⟩
    simp only [Piece.chars, List.singleton_append, unitsOf_cons]
    exact readString_char visible notQuote notSlash
  | short c known =>
    have ascii : c.toNat < 0x80 := by
      revert known
      simp only [List.mem_cons, List.not_mem_nil, or_false]
      rintro (rfl | rfl | rfl | rfl | rfl | rfl | rfl | rfl) <;> decide
    refine ⟨1, one _, fun fuel acc cs => ?_⟩
    simp only [Piece.chars, List.cons_append, List.nil_append]
    rw [unitsOf_cons_ascii (by decide), unitsOf_cons_ascii ascii, readString_escape (readEscape_short known)]
    rfl
  | hex a b c d n isHex =>
    obtain ⟨i, j, k, l, hi, hj, hk, hl, -⟩ := hexNumber?_eq_some isHex
    refine ⟨1, one _, fun fuel acc cs => ?_⟩
    simp only [Piece.chars, List.cons_append, List.nil_append]
    rw [unitsOf_cons_ascii (by decide), unitsOf_cons_ascii (by decide), unitsOf_cons_ascii (hexDigit?_eq_some hi).1,
      unitsOf_cons_ascii (hexDigit?_eq_some hj).1, unitsOf_cons_ascii (hexDigit?_eq_some hk).1,
      unitsOf_cons_ascii (hexDigit?_eq_some hl).1, readString_escape (readEscape_hex isHex)]
    rfl

theorem readString_pieces (ps : List Piece) {fuel : Nat} {acc : Str} {rest : List Char}
    (enough : (unitsOf (piecesChars ps)).length < fuel) :
    readString fuel acc (unitsOf (piecesChars ps ++ '"' :: rest)) = .ok (ps.foldl Piece.addTo acc, unitsOf rest) := by
  induction ps generalizing fuel acc with
  | nil =>
    obtain ⟨fuel, rfl⟩ : ∃ k, fuel = k + 1 := ⟨fuel - 1, by omega⟩
    rw [show piecesChars [] ++ '"' :: rest = '"' :: rest from rfl, unitsOf_cons_ascii (by decide), readString.eq_def]
    dsimp only
    rw [if_neg (by decide), if_pos (by decide)]
    rfl
  | cons p ps ih =>
    rw [piecesChars_cons, unitsOf_append, List.length_append] at enough
    obtain ⟨used, few, step⟩ := readString_piece p
    obtain ⟨fuel, rfl⟩ : ∃ k, fuel = k + used := ⟨fuel - used, by omega⟩
    rw [piecesChars_cons, List.append_assoc, List.foldl_cons, step, ih (by omega)]

/-! ## Written strings -/

theorem hexDigit?_digitChar (k : Nat) (h : k < 16) : hexDigit? (Nat.digitChar k) = some k := by
  decide +revert

theorem hexNumber?_escapeChars (u : UInt16) :
    hexNumber? [Nat.digitChar (u.toNat / 0x1000), Nat.digitChar (u.toNat / 0x100 % 0x10),
      Nat.digitChar (u.toNat / 0x10 % 0x10), Nat.digitChar (u.toNat % 0x10)] = some u.toNat := by
  have hu : u.toNat < 0x10000 := u.toNat_lt
  unfold hexNumber?
  simp only [List.foldlM_cons, List.foldlM_nil, Option.bind_eq_bind, Option.pure_def]
  rw [hexDigit?_digitChar _ (by omega), hexDigit?_digitChar _ (by omega), hexDigit?_digitChar _ (by omega),
    hexDigit?_digitChar _ (by omega)]
  simp only [Option.map_some, Option.bind_some, Option.some.injEq]
  omega

theorem pushPoint_toNat (s : Str) (u : UInt16) : s.pushPoint u.toNat = ⟨s.units.push u⟩ := by
  have hu : u.toNat < 0x10000 := u.toNat_lt
  unfold Str.pushPoint
  rw [if_pos hu, UInt16.toNat_inj.mp (toNat_toUInt16 hu)]

theorem exists_piece_unit (u : UInt16) : ∃ p : Piece, unitChars u = p.chars ∧ ∀ acc, p.addTo acc = ⟨acc.units.push u⟩ := by
  have escaped : ∃ p : Piece, escapeChars u = p.chars ∧ ∀ acc, p.addTo acc = ⟨acc.units.push u⟩ :=
    ⟨.hex _ _ _ _ _ (hexNumber?_escapeChars u), rfl, fun acc => pushPoint_toNat acc u⟩
  unfold unitChars
  split
  · exact escaped
  · rename_i plain
    cases hs : shortEscape? u with
    | some c =>
      have known := shortEscape?_eq hs
      have mem : c ∈ ['"', '\\', '/', 'b', 'f', 'n', 'r', 't'] := by
        rcases known with h | h | h | h | h | h | h <;> simp [h.2]
      have point : Piece.shortPoint c = u.toNat := by
        rcases known with h | h | h | h | h | h | h <;> obtain ⟨rfl, rfl⟩ := h <;> rfl
      exact ⟨.short c mem, rfl, fun acc => by rw [Piece.addTo, point, pushPoint_toNat]⟩
    | none =>
      dsimp only
      split
      · exact escaped
      · rename_i high
        have toNat := toNat_ofNat_unit plain
        have other {v : UInt16} {c : Char} (hv : shortEscape? v ≠ none) (e : c.toNat = v.toNat) :
            Char.ofNat u.toNat ≠ c := by
          intro h
          apply hv
          rw [← h, toNat] at e
          rw [← UInt16.toNat_inj.mp e, hs]
        have visible : 0x20 ≤ (Char.ofNat u.toNat).toNat := by
          rw [toNat]
          exact UInt16.le_iff_toNat_le.mp (UInt16.not_lt.mp high)
        refine ⟨.plain (Char.ofNat u.toNat) visible (other (v := 0x22) (by decide) (by decide))
          (other (v := 0x5C) (by decide) (by decide)), rfl, fun acc => ?_⟩
        rw [Piece.addTo, Str.push, toNat, pushPoint_toNat]

theorem exists_pieces_quoted (us : List UInt16) :
    ∃ ps, quotedChars us = piecesChars ps ∧ ∀ acc, (ps.foldl Piece.addTo acc).units.toList = acc.units.toList ++ us := by
  have alone {u : UInt16} {us : List UInt16}
      (h : ∃ ps, quotedChars us = piecesChars ps
        ∧ ∀ acc, (ps.foldl Piece.addTo acc).units.toList = acc.units.toList ++ us) :
      ∃ ps, unitChars u ++ quotedChars us = piecesChars ps
        ∧ ∀ acc, (ps.foldl Piece.addTo acc).units.toList = acc.units.toList ++ u :: us := by
    obtain ⟨ps, chars, read⟩ := h
    obtain ⟨p, chars', read'⟩ := exists_piece_unit u
    exact ⟨p :: ps, by rw [chars, chars', piecesChars_cons], fun acc => by
      rw [List.foldl_cons, read, read', Array.toList_push, List.append_assoc, List.singleton_append]⟩
  have done : ∃ ps, quotedChars [] = piecesChars ps
      ∧ ∀ acc, (ps.foldl Piece.addTo acc).units.toList = acc.units.toList ++ [] := ⟨[], rfl, by simp⟩
  induction us using quotedChars.induct with
  | case1 => exact done
  | case2 u =>
    have := alone (u := u) done
    rwa [quotedChars, List.append_nil] at this
  | case3 u v rest pair ih =>
    obtain ⟨ps, chars, read⟩ := ih
    have toNat := toNat_joinSurrogates pair
    have big : 0x10000 ≤ joinSurrogates u v := by
      unfold joinSurrogates
      omega
    have other {c : Char} (hc : c.toNat < 0x10000) : Char.ofNat (joinSurrogates u v) ≠ c := by
      intro e
      rw [← e] at hc
      omega
    refine ⟨.plain (Char.ofNat (joinSurrogates u v)) (by omega) (other (by decide)) (other (by decide)) :: ps, ?_,
      fun acc => ?_⟩
    · rw [quotedChars, if_pos pair, chars]
      rfl
    · rw [List.foldl_cons, read, Piece.addTo, units_push, charUnits_joinSurrogates pair, List.append_assoc]
      rfl
  | case4 u v rest apart ih =>
    rw [quotedChars, if_neg apart]
    exact alone ih

end Engine

end BrainHost.Script
