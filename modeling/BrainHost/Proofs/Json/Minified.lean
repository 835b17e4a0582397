import BrainHost.Proofs.Json.RoundTrip
import BrainHost.Proofs.Number.Integer

/-! # Minified states

A tree whose numbers are integers has one rendering without blanks, with the fewest escapes and the fewest digits.
Whatever text spells the tree comes back as this rendering, and is not shorter. -/

namespace BrainHost

namespace Script

open Number

/-- An ordered tree whose numbers are integers. -/
inductive Tree
  | null
  | bool (b : Bool)
  | integer (n : Int)
  | string (s : Str)
  | array (items : List Tree)
  | object (members : List (Str × Tree))

namespace Tree

mutual

/-- The minified rendering of a tree. -/
def minified : Tree → List Char
  | null => "null".toList
  | bool b => (if b then "true" else "false").toList
  | integer n => (toString n).toList
  | string s => Json.stringChars s
  | array items => '[' :: ((itemsMinified items).tail ++ [']'])
  | object members => '{' :: ((membersMinified members).tail ++ ['}'])

def itemsMinified : List Tree → List Char
  | [] => []
  | t :: items => ',' :: (t.minified ++ itemsMinified items)

def membersMinified : List (Str × Tree) → List Char
  | [] => []
  | (name, t) :: members => ',' :: (Json.stringChars name ++ ':' :: (t.minified ++ membersMinified members))

end

/-- Whether a name is an array index in its canonical form. -/
def IsIndex (name : Str) : Prop := ∃ n : Nat, n < 2 ^ 32 - 1 ∧ name = Str.ofString (toString n)

mutual

/-- In every object the names are distinct, and none is an array index. -/
def Plain : Tree → Prop
  | null => True
  | bool _ => True
  | integer _ => True
  | string _ => True
  | array items => ItemsPlain items
  | object members => (members.map (·.1)).Nodup ∧ (∀ m ∈ members, ¬ IsIndex m.1) ∧ MembersPlain members

def ItemsPlain : List Tree → Prop
  | [] => True
  | t :: items => t.Plain ∧ ItemsPlain items

def MembersPlain : List (Str × Tree) → Prop
  | [] => True
  | (_, t) :: members => t.Plain ∧ MembersPlain members

end

end Tree

namespace Spelling

mutual

/-- A value spells a tree: its numbers are integers that doubles tell apart, without fractions and exponents. -/
def Spells : Spelling → Tree → Prop
  | null, t => t = .null
  | bool b, t => t = .bool b
  | number n, t => n.fraction = [] ∧ n.power = none ∧ n.integer.natAbs ≤ 2 ^ 53 - 1 ∧ t = .integer n.integer
  | string ps, t => t = .string (piecesStr ps)
  | array items _, t => ∃ ts, t = .array ts ∧ ItemsSpell items ts
  | object members _, t => ∃ ts, t = .object ts ∧ MembersSpell members ts

def ItemsSpell : List (Spaced Spelling) → List Tree → Prop
  | [], ts => ts = []
  | ⟨_, s, _⟩ :: items, ts => ∃ t rest, ts = t :: rest ∧ s.Spells t ∧ ItemsSpell items rest

def MembersSpell : List (Spaced (List Piece) × Spaced Spelling) → List (Str × Tree) → Prop
  | [], ts => ts = []
  | (⟨_, name, _⟩, ⟨_, s, _⟩) :: members, ts =>
    ∃ t rest, ts = (piecesStr name, t) :: rest ∧ s.Spells t ∧ MembersSpell members rest

end

/-! ## The tree that is read -/

mutual

theorem chars_tree : (s : Spelling) → (t : Tree) → s.Spells t → s.tree.chars = t.minified
  | null, t, h => by
    rw [Spells] at h
    rw [h, tree, Json.chars, Tree.minified]
  | bool b, t, h => by
    rw [Spells] at h
    rw [h, tree, Json.chars, Tree.minified]
  | number n, t, h => by
    rw [Spells] at h
    obtain ⟨hfraction, hpower, small, rfl⟩ := h
    rw [tree, Json.chars, Tree.minified, if_pos (n.isFinite_integer hfraction hpower (by omega)),
      n.text_integer hfraction hpower (by omega)]
  | string ps, t, h => by
    rw [Spells] at h
    rw [h, tree, Json.chars, Tree.minified]
  | array items close, t, h => by
    rw [Spells] at h
    obtain ⟨ts, rfl, h⟩ := h
    rw [tree, Json.chars, Tree.minified, chars_items items ts h]
  | object members close, t, h => by
    rw [Spells] at h
    obtain ⟨ts, rfl, h⟩ := h
    rw [tree, Json.chars, Tree.minified, chars_members members ts h]

theorem chars_items : (items : List (Spaced Spelling)) → (ts : List Tree) → ItemsSpell items ts →
    Json.itemsChars (itemsTrees items) = Tree.itemsMinified ts
  | [], ts, h => by
    rw [ItemsSpell] at h
    rw [h, itemsTrees, Json.itemsChars, Tree.itemsMinified]
  | ⟨_, s, _⟩ :: items, ts, h => by
    rw [ItemsSpell] at h
    obtain ⟨t, rest, rfl, first, more⟩ := h
    rw [itemsTrees, Json.itemsChars, Tree.itemsMinified, chars_tree s t first, chars_items items rest more]

theorem chars_members : (members : List (Spaced (List Piece) × Spaced Spelling)) → (ts : List (Str × Tree)) →
    MembersSpell members ts → Json.membersChars (membersTrees members) = Tree.membersMinified ts
  | [], ts, h => by
    rw [MembersSpell] at h
    rw [h, membersTrees, Json.membersChars, Tree.membersMinified]
  | (⟨_, name, _⟩, ⟨_, s, _⟩) :: members, ts, h => by
    rw [MembersSpell] at h
    obtain ⟨t, rest, rfl, first, more⟩ := h
    rw [membersTrees, Json.membersChars, Tree.membersMinified, chars_tree s t first, chars_members members rest more]

end

end Spelling

/-! ## Names and places -/

theorem Key.indexOf?_lt {s : Str} {n : Nat} (h : Key.indexOf? s = some n) : n < 2 ^ 32 - 1 := by
  unfold Key.indexOf? at h
  split at h
  · cases h
  · dsimp only at h
    split at h
    · cases h
    · split at h
      · rename_i small
        exact Option.some.inj h ▸ small
      · cases h

theorem Key.ofStr_name {s : Str} (h : ¬ Tree.IsIndex s) : Key.ofStr s = .name s := by
  unfold Key.ofStr
  cases index : Key.indexOf? s with
  | none => rfl
  | some n => exact absurd ⟨n, Key.indexOf?_lt index, (Key.toString_of_indexOf? index).symm⟩ h

theorem Tree.not_isIndex {name : Str} (h : ∃ u ∈ name.units.toList, isDigitOf 10 u = false) : ¬ IsIndex name := by
  rintro ⟨n, -, rfl⟩
  obtain ⟨u, hu, other⟩ := h
  rw [units_ofString, Nat.toString_eq_ofList_toDigits, String.toList_ofList, unitsOf_digits (digits_toDigits n)] at hu
  obtain ⟨c, hc, rfl⟩ := List.mem_map.mp hu
  rw [isDigitOf_unitOf (digits_toDigits n c hc)] at other
  cases other

theorem Key.ordered_names (names : List Str) : Key.ordered (names.map .name) = names.map .name := by
  have indices : (names.map Key.name).filterMap Key.index? = [] := by
    rw [List.filterMap_map]
    exact List.filterMap_eq_nil_iff.mpr fun _ _ => rfl
  have symbols : (names.map Key.name).filterMap Key.symbol? = [] := by
    rw [List.filterMap_map]
    exact List.filterMap_eq_nil_iff.mpr fun _ _ => rfl
  have same : (names.map Key.name).filterMap Key.name? = names.map .name := by
    rw [List.filterMap_map]
    exact congrFun List.filterMap_eq_map names
  rw [Key.ordered, indices, symbols, same, List.append_nil, List.mergeSort_nil]
  rfl

namespace Spelling

theorem memberKeys_spelled {members : List (Spaced (List Piece) × Spaced Spelling)} {ts : List (Str × Tree)}
    (h : MembersSpell members ts) (names : ∀ m ∈ ts, ¬ Tree.IsIndex m.1) :
    Json.memberKeys (membersTrees members) = (ts.map (·.1)).map .name := by
  induction members generalizing ts with
  | nil =>
    rw [MembersSpell] at h
    rw [h, membersTrees]
    rfl
  | cons member members ih =>
    obtain ⟨⟨_, name, _⟩, _, s, _⟩ := member
    rw [MembersSpell] at h
    obtain ⟨t, rest, rfl, -, more⟩ := h
    rw [membersTrees]
    exact congrArg₂ List.cons (Key.ofStr_name (names _ List.mem_cons_self))
      (ih more fun m hm => names m (List.mem_cons_of_mem _ hm))

mutual

theorem tidy_tree : (s : Spelling) → (t : Tree) → s.Spells t → t.Plain → t.minified.length ≤ Key.indices → s.tree.Tidy
  | null, _, _, _, _ => by rw [tree]; trivial
  | bool b, _, _, _, _ => by rw [tree]; trivial
  | number n, _, _, _, _ => by rw [tree]; trivial
  | string ps, _, _, _, _ => by rw [tree]; trivial
  | array items close, t, h, plain, short => by
    rw [Spells] at h
    obtain ⟨ts, rfl, h⟩ := h
    rw [Tree.minified, List.length_cons, List.length_append, List.length_tail] at short
    rw [tree, Json.Tidy]
    exact tidy_items items ts 0 h plain (by simp only [List.length_singleton] at short; omega)
  | object members close, t, h, plain, short => by
    rw [Spells] at h
    obtain ⟨ts, rfl, h⟩ := h
    rw [Tree.Plain] at plain
    obtain ⟨distinct, names, plain⟩ := plain
    have keys := memberKeys_spelled h names
    rw [Tree.minified, List.length_cons, List.length_append, List.length_tail] at short
    rw [tree, Json.Tidy, keys]
    refine ⟨distinct.map fun _ _ same => Key.name.inj same, Key.ordered_names _, ?_⟩
    exact tidy_members members ts h plain (by simp only [List.length_singleton] at short; omega)

theorem tidy_items : (items : List (Spaced Spelling)) → (ts : List Tree) → (i : Nat) → ItemsSpell items ts →
    Tree.ItemsPlain ts → i + (Tree.itemsMinified ts).length ≤ Key.indices → Json.ItemsTidy (itemsTrees items) i
  | [], _, _, _, _, _ => by rw [itemsTrees]; trivial
  | ⟨_, s, _⟩ :: items, ts, i, h, plain, short => by
    rw [ItemsSpell] at h
    obtain ⟨t, rest, rfl, first, more⟩ := h
    obtain ⟨plain, plains⟩ := plain
    rw [Tree.itemsMinified, List.length_cons, List.length_append] at short
    rw [itemsTrees, Json.ItemsTidy, if_pos (by omega)]
    exact ⟨tidy_tree s t first plain (by omega), tidy_items items rest (i + 1) more plains (by omega)⟩

theorem tidy_members : (members : List (Spaced (List Piece) × Spaced Spelling)) → (ts : List (Str × Tree)) →
    MembersSpell members ts → Tree.MembersPlain ts → (Tree.membersMinified ts).length ≤ Key.indices →
      Json.MembersTidy (membersTrees members)
  | [], _, _, _, _ => by rw [membersTrees]; trivial
  | (⟨_, name, _⟩, ⟨_, s, _⟩) :: members, ts, h, plain, short => by
    rw [MembersSpell] at h
    obtain ⟨t, rest, rfl, first, more⟩ := h
    obtain ⟨plain, plains⟩ := plain
    rw [Tree.membersMinified, List.length_cons, List.length_append, List.length_cons, List.length_append] at short
    rw [membersTrees, Json.MembersTidy]
    exact ⟨tidy_tree s t first plain (by omega), tidy_members members rest more plains (by omega)⟩

end

end Spelling

/-! ## The length of a rendering -/

section Length

open Json

theorem utf8Len_ascii {cs : List Char} (h : ∀ c ∈ cs, c.toNat < 0x80) : String.utf8Len cs = cs.length := by
  induction cs with
  | nil => rfl
  | cons c cs ih =>
    have one : c.utf8Size = 1 := Char.utf8Size_eq_one_iff.mpr (by
      have := h c List.mem_cons_self
      rw [UInt32.le_iff_toNat_le]
      exact Nat.le_of_lt_succ this)
    rw [String.utf8Len_cons, ih fun d hd => h d (List.mem_cons_of_mem _ hd), one, List.length_cons]

theorem length_le_utf8Len (cs : List Char) : cs.length ≤ String.utf8Len cs := by
  rw [← String.utf8ByteSize_ofList]
  exact length_le_utf8ByteSize cs

theorem utf8Len_escapeChars (u : UInt16) : String.utf8Len (escapeChars u) = 6 :=
  utf8Len_ascii fun c hc => (escapeChars_visible u c hc).2

theorem utf8Len_unitChars (u : UInt16) : String.utf8Len (unitChars u) ≤ 6 := by
  have escaped := utf8Len_escapeChars u
  unfold unitChars
  split
  · exact escaped.le
  · split
    · rename_i c _
      have := c.utf8Size_le_four
      rw [String.utf8Len_cons, String.utf8Len_cons, String.utf8Len_nil, show '\\'.utf8Size = 1 from rfl]
      omega
    · split
      · exact escaped.le
      · have := (Char.ofNat u.toNat).utf8Size_le_four
        rw [String.utf8Len_cons, String.utf8Len_nil]
        omega

theorem utf8Len_quotedChars_cons (u : UInt16) (us : List UInt16) :
    String.utf8Len (quotedChars (u :: us)) ≤ String.utf8Len (unitChars u) + String.utf8Len (quotedChars us) := by
  cases us with
  | nil => rw [quotedChars, quotedChars]; exact Nat.le_add_right _ _
  | cons v us =>
    by_cases pair : (isLead u && isTrail v) = true
    · obtain ⟨lead, trail⟩ := isPair_iff.mp pair
      have surrogate : (u ≥ 0xD800 && u < 0xE000) = true := by
        simp only [Bool.and_eq_true, decide_eq_true_eq, ge_iff_le, UInt16.le_iff_toNat_le, UInt16.lt_iff_toNat_lt]
        exact ⟨lead.1, Nat.lt_trans lead.2 (by decide)⟩
      have alone : quotedChars (v :: us) = unitChars v ++ quotedChars us :=
        quotedChars_cons fun w _ => by
          rw [isPair_iff]
          omega
      have := (Char.ofNat (joinSurrogates u v)).utf8Size_le_four
      rw [alone, quotedChars, if_pos pair, String.utf8Len_cons, unitChars_surrogate surrogate, utf8Len_escapeChars,
        String.utf8Len_append]
      omega
    · rw [quotedChars, if_neg pair, String.utf8Len_append]

theorem unitChars_unitOf {c : Char} (small : c.toNat < 0x10000) (visible : 0x20 ≤ c.toNat) (notQuote : c ≠ '"')
    (notSlash : c ≠ '\\') : unitChars (unitOf c) = [c] := by
  have range := char_ranges c
  have toNat := toNat_unitOf small
  have other {u : UInt16} {d : Char} (ne : c ≠ d) (e : unitOf c = u) (hd : d.toNat = u.toNat) : False := by
    apply ne
    rw [← e, toNat] at hd
    exact (Char.toNat_inj.mp hd).symm
  have low {u : UInt16} (e : unitOf c = u) (hu : u.toNat < 0x20) : False := by
    rw [← e, toNat] at hu
    omega
  have plain : ¬ (unitOf c ≥ 0xD800 && unitOf c < 0xE000) = true := by
    simp only [Bool.and_eq_true, decide_eq_true_eq, ge_iff_le, UInt16.le_iff_toNat_le, UInt16.lt_iff_toNat_lt, toNat]
    show ¬ (0xD800 ≤ c.toNat ∧ c.toNat < 0xE000)
    omega
  have unescaped : shortEscape? (unitOf c) = none := by
    cases hs : shortEscape? (unitOf c) with
    | none => rfl
    | some d =>
      rcases shortEscape?_eq hs with ⟨h, -⟩ | ⟨h, -⟩ | ⟨h, -⟩ | ⟨h, -⟩ | ⟨h, -⟩ | ⟨h, -⟩ | ⟨h, -⟩
      · exact (low h (by decide)).elim
      · exact (low h (by decide)).elim
      · exact (low h (by decide)).elim
      · exact (low h (by decide)).elim
      · exact (low h (by decide)).elim
      · exact (other notQuote h rfl).elim
      · exact (other notSlash h rfl).elim
  unfold unitChars
  rw [if_neg plain, unescaped]
  dsimp only
  rw [if_neg (by rw [UInt16.lt_iff_toNat_lt, toNat]; exact Nat.not_lt.mpr visible), toNat, Char.ofNat_toNat]

theorem quotedChars_pair {c : Char} (large : ¬ c.toNat < 0x10000) (rest : List UInt16) :
    quotedChars (charUnits c ++ rest) = c :: quotedChars rest := by
  have range := char_ranges c
  have lead : (0xD800 + (c.toNat - 0x10000) / 0x400).toUInt16.toNat = 0xD800 + (c.toNat - 0x10000) / 0x400 :=
    toNat_toUInt16 (by omega)
  have trail : (0xDC00 + (c.toNat - 0x10000) % 0x400).toUInt16.toNat = 0xDC00 + (c.toNat - 0x10000) % 0x400 :=
    toNat_toUInt16 (by omega)
  rw [charUnits, if_neg large]
  generalize (0xD800 + (c.toNat - 0x10000) / 0x400).toUInt16 = u at *
  generalize (0xDC00 + (c.toNat - 0x10000) % 0x400).toUInt16 = v at *
  have pair : (isLead u && isTrail v) = true := by
    rw [isPair_iff]
    omega
  have joined : joinSurrogates u v = c.toNat := by
    unfold joinSurrogates
    omega
  show quotedChars (u :: v :: rest) = _
  rw [quotedChars, if_pos pair, joined, Char.ofNat_toNat]

theorem utf8Len_quotedChars_charUnits {c : Char} (visible : 0x20 ≤ c.toNat) (notQuote : c ≠ '"') (notSlash : c ≠ '\\')
    (rest : List UInt16) :
    String.utf8Len (quotedChars (charUnits c ++ rest)) ≤ c.utf8Size + String.utf8Len (quotedChars rest) := by
  by_cases small : c.toNat < 0x10000
  · have := utf8Len_quotedChars_cons (unitOf c) rest
    rw [unitChars_unitOf small visible notQuote notSlash, String.utf8Len_cons, String.utf8Len_nil, Nat.zero_add] at this
    rw [charUnits_of_lt small]
    exact this
  · rw [quotedChars_pair small, String.utf8Len_cons, Nat.add_comm]

theorem units_pushPoint (s : Str) {n : Nat} (h : n < 0x10000) :
    (s.pushPoint n).units.toList = s.units.toList ++ [n.toUInt16] := by
  unfold Str.pushPoint
  rw [if_pos h]
  exact Array.toList_push

theorem exists_units_piece (p : Piece) : ∃ us, (∀ acc, (p.addTo acc).units.toList = acc.units.toList ++ us) ∧
    ∀ rest, String.utf8Len (quotedChars (us ++ rest)) ≤ String.utf8Len p.chars + String.utf8Len (quotedChars rest) := by
  cases p with
  | plain c visible notQuote notSlash =>
    refine ⟨charUnits c, fun acc => units_push acc c, fun rest => ?_⟩
    rw [Piece.chars, String.utf8Len_cons, String.utf8Len_nil, Nat.zero_add]
    exact utf8Len_quotedChars_charUnits visible notQuote notSlash rest
  | short c known =>
    have written : Piece.shortPoint c < 0x10000 ∧
        String.utf8Len (unitChars (Piece.shortPoint c).toUInt16) ≤ String.utf8Len ['\\', c] := by
      simp only [List.mem_cons, List.not_mem_nil, or_false] at known
      rcases known with rfl | rfl | rfl | rfl | rfl | rfl | rfl | rfl <;> decide
    refine ⟨[(Piece.shortPoint c).toUInt16], fun acc => units_pushPoint acc written.1, fun rest => ?_⟩
    have := utf8Len_quotedChars_cons (Piece.shortPoint c).toUInt16 rest
    have := written.2
    rw [Piece.chars, List.singleton_append]
    omega
  | hex a b c d n isHex =>
    obtain ⟨i, j, k, l, hi, hj, hk, hl, value⟩ := hexNumber?_eq_some isHex
    have small : n < 0x10000 := by
      have := (hexDigit?_eq_some hi).2.1
      have := (hexDigit?_eq_some hj).2.1
      have := (hexDigit?_eq_some hk).2.1
      have := (hexDigit?_eq_some hl).2.1
      omega
    refine ⟨[n.toUInt16], fun acc => units_pushPoint acc small, fun rest => ?_⟩
    have := utf8Len_quotedChars_cons n.toUInt16 rest
    have := utf8Len_unitChars n.toUInt16
    have : 6 ≤ String.utf8Len (Piece.hex a b c d n isHex).chars := length_le_utf8Len ['\\', 'u', a, b, c, d]
    rw [List.singleton_append]
    omega

theorem utf8Len_piecesStr (ps : List Piece) :
    String.utf8Len (stringChars (piecesStr ps)) ≤ String.utf8Len (quotedPieces ps []) := by
  have written : ∃ us, (∀ acc, (ps.foldl Piece.addTo acc).units.toList = acc.units.toList ++ us) ∧
      String.utf8Len (quotedChars us) ≤ String.utf8Len (piecesChars ps) := by
    induction ps with
    | nil => exact ⟨[], fun acc => (List.append_nil _).symm, Nat.le_refl _⟩
    | cons p ps ih =>
      obtain ⟨us, units, short⟩ := exists_units_piece p
      obtain ⟨us', units', short'⟩ := ih
      refine ⟨us ++ us', fun acc => by rw [List.foldl_cons, units', units, List.append_assoc], ?_⟩
      have := short us'
      rw [piecesChars_cons, String.utf8Len_append]
      omega
  obtain ⟨us, units, short⟩ := written
  have same : (piecesStr ps).units.toList = us := units .empty
  rw [stringChars, quotedPieces, same]
  simp only [String.utf8Len_cons, String.utf8Len_append]
  omega

end Length

namespace Spelling

mutual

/-- No text that spells a tree is shorter than the tree's rendering. -/
theorem utf8Len_minified : (s : Spelling) → (t : Tree) → s.Spells t → String.utf8Len t.minified ≤ String.utf8Len s.chars
  | null, t, h => by
    rw [Spells] at h
    rw [h, chars, Tree.minified]
  | bool b, t, h => by
    rw [Spells] at h
    rw [h, chars, Tree.minified]
  | number n, t, h => by
    rw [Spells] at h
    obtain ⟨hfraction, hpower, -, rfl⟩ := h
    obtain ⟨sign, suffix⟩ := n.toString_integer_suffix hfraction hpower
    rw [chars, Tree.minified, ← suffix, String.utf8Len_append]
    exact Nat.le_add_left _ _
  | string ps, t, h => by
    rw [Spells] at h
    rw [h, chars, Tree.minified]
    exact utf8Len_piecesStr ps
  | array items close, t, h => by
    rw [Spells] at h
    obtain ⟨ts, rfl, h⟩ := h
    have := utf8Len_items items ts h
    rw [chars, Tree.minified]
    simp only [String.utf8Len_cons, String.utf8Len_append]
    omega
  | object members close, t, h => by
    rw [Spells] at h
    obtain ⟨ts, rfl, h⟩ := h
    have := utf8Len_members members ts h
    rw [chars, Tree.minified]
    simp only [String.utf8Len_cons, String.utf8Len_append]
    omega

theorem utf8Len_items : (items : List (Spaced Spelling)) → (ts : List Tree) → ItemsSpell items ts →
    String.utf8Len (Tree.itemsMinified ts).tail ≤ String.utf8Len (itemsChars items).tail ∧
      String.utf8Len (Tree.itemsMinified ts) ≤ String.utf8Len (itemsChars items)
  | [], ts, h => by
    rw [ItemsSpell] at h
    rw [h, itemsChars, Tree.itemsMinified]
    exact ⟨Nat.le_refl _, Nat.le_refl _⟩
  | ⟨before, s, after⟩ :: items, ts, h => by
    rw [ItemsSpell] at h
    obtain ⟨t, rest, rfl, first, more⟩ := h
    have := utf8Len_minified s t first
    have := (utf8Len_items items rest more).2
    have shorter : String.utf8Len (t.minified ++ Tree.itemsMinified rest) ≤
        String.utf8Len (before.chars ++ (s.chars ++ (after.chars ++ itemsChars items))) := by
      simp only [String.utf8Len_append]
      omega
    rw [itemsChars, Tree.itemsMinified]
    exact ⟨shorter, Nat.add_le_add_right shorter _⟩

theorem utf8Len_members : (members : List (Spaced (List Piece) × Spaced Spelling)) → (ts : List (Str × Tree)) →
    MembersSpell members ts →
      String.utf8Len (Tree.membersMinified ts).tail ≤ String.utf8Len (membersChars members).tail ∧
        String.utf8Len (Tree.membersMinified ts) ≤ String.utf8Len (membersChars members)
  | [], ts, h => by
    rw [MembersSpell] at h
    rw [h, membersChars, Tree.membersMinified]
    exact ⟨Nat.le_refl _, Nat.le_refl _⟩
  | (⟨before, name, colon⟩, ⟨before', s, after⟩) :: members, ts, h => by
    rw [MembersSpell] at h
    obtain ⟨t, rest, rfl, first, more⟩ := h
    have := utf8Len_minified s t first
    have := utf8Len_piecesStr name
    have := (utf8Len_members members rest more).2
    have shorter : String.utf8Len (Json.stringChars (piecesStr name) ++ ':' :: (t.minified ++ Tree.membersMinified rest))
        ≤ String.utf8Len (before.chars ++ quotedPieces name (colon.chars ++
          ':' :: (before'.chars ++ (s.chars ++ (after.chars ++ membersChars members))))) := by
      simp only [quotedPieces, String.utf8Len_cons, String.utf8Len_append, String.utf8Len_nil] at *
      omega
    rw [membersChars, Tree.membersMinified]
    exact ⟨shorter, Nat.add_le_add_right shorter _⟩

end

/-! ## Renderings as texts -/

mutual

theorem exists_minified : (s : Spelling) → (t : Tree) → s.Spells t → ∃ s' : Spelling, s'.chars = t.minified ∧ s'.Spells t
  | null, t, h => ⟨null, by rw [Spells] at h; rw [h, chars, Tree.minified], h⟩
  | bool b, t, h => ⟨bool b, by rw [Spells] at h; rw [h, chars, Tree.minified], h⟩
  | number n, t, h => by
    rw [Spells] at h
    obtain ⟨-, -, small, rfl⟩ := h
    refine ⟨number (.ofInt n.integer), ?_, ?_⟩
    · rw [chars, Tree.minified, Numeral.chars_ofInt]
    · rw [Spells, Numeral.integer_ofInt]
      exact ⟨rfl, rfl, small, rfl⟩
  | string ps, t, h => by
    rw [Spells] at h
    obtain ⟨ps', same, quoted⟩ := Json.exists_quotedPieces (piecesStr ps)
    refine ⟨string ps', ?_, ?_⟩
    · rw [h, chars, Tree.minified, quoted]
    · rw [Spells, same, h]
  | array items close, t, h => by
    rw [Spells] at h
    obtain ⟨ts, rfl, h⟩ := h
    obtain ⟨items', text, spells⟩ := exists_minified_items items ts h
    refine ⟨array items' .none, ?_, ?_⟩
    · rw [chars, Tree.minified, text]
      rfl
    · rw [Spells]
      exact ⟨ts, rfl, spells⟩
  | object members close, t, h => by
    rw [Spells] at h
    obtain ⟨ts, rfl, h⟩ := h
    obtain ⟨members', text, spells⟩ := exists_minified_members members ts h
    refine ⟨object members' .none, ?_, ?_⟩
    · rw [chars, Tree.minified, text]
      rfl
    · rw [Spells]
      exact ⟨ts, rfl, spells⟩

theorem exists_minified_items : (items : List (Spaced Spelling)) → (ts : List Tree) → ItemsSpell items ts →
    ∃ items', itemsChars items' = Tree.itemsMinified ts ∧ ItemsSpell items' ts
  | [], ts, h => by
    rw [ItemsSpell] at h
    exact ⟨[], by rw [h, itemsChars, Tree.itemsMinified], by rw [ItemsSpell, h]⟩
  | ⟨_, s, _⟩ :: items, ts, h => by
    rw [ItemsSpell] at h
    obtain ⟨t, rest, rfl, first, more⟩ := h
    obtain ⟨s', text, spells⟩ := exists_minified s t first
    obtain ⟨items', texts, spell⟩ := exists_minified_items items rest more
    refine ⟨⟨.none, s', .none⟩ :: items', ?_, ?_⟩
    · rw [itemsChars, Tree.itemsMinified, ← text, ← texts]
      rfl
    · rw [ItemsSpell]
      exact ⟨t, rest, rfl, spells, spell⟩

theorem exists_minified_members : (members : List (Spaced (List Piece) × Spaced Spelling)) → (ts : List (Str × Tree)) →
    MembersSpell members ts → ∃ members', membersChars members' = Tree.membersMinified ts ∧ MembersSpell members' ts
  | [], ts, h => by
    rw [MembersSpell] at h
    exact ⟨[], by rw [h, membersChars, Tree.membersMinified], by rw [MembersSpell, h]⟩
  | (⟨_, name, _⟩, ⟨_, s, _⟩) :: members, ts, h => by
    rw [MembersSpell] at h
    obtain ⟨t, rest, rfl, first, more⟩ := h
    obtain ⟨ps, same, quoted⟩ := Json.exists_quotedPieces (piecesStr name)
    obtain ⟨s', text, spells⟩ := exists_minified s t first
    obtain ⟨members', texts, spell⟩ := exists_minified_members members rest more
    refine ⟨(⟨.none, ps, .none⟩, ⟨.none, s', .none⟩) :: members', ?_, ?_⟩
    · rw [membersChars, Tree.membersMinified, quoted, quotedPieces_append, ← text, ← texts]
      rfl
    · rw [MembersSpell, same]
      exact ⟨t, rest, rfl, spells, spell⟩

end

end Spelling

end Script

end BrainHost
