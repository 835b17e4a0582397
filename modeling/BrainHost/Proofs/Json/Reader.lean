import BrainHost.Proofs.Json.Steps
import Mathlib.Data.List.DropRight

/-! # Steps of the engine's reader

The engine's reader on the units of a text, one step at a time. -/

namespace BrainHost.Script

open Number Document

theorem charUnits_high {c : Char} (h : ¬ c.toNat < 0x80) : ∀ u ∈ charUnits c, 0x80 ≤ u.toNat := by
  have range := char_ranges c
  unfold charUnits
  split
  · intro u hu
    rw [List.mem_singleton.mp hu, toNat_toUInt16 (by assumption)]
    omega
  · intro u hu
    simp only [List.mem_cons, List.not_mem_nil, or_false] at hu
    rcases hu with rfl | rfl <;> rw [toNat_toUInt16 (by omega)] <;> omega

namespace Json

theorem isBlank_unitOf {c : Char} (h : c.toNat < 0x80) : isBlank (unitOf c) = isJsonBlank c := by
  have toNat := toNat_unitOf_ascii h
  have same (d : Char) (hd : d.toNat < 0x80) : unitOf c = unitOf d ↔ c = d := by
    rw [← UInt16.toNat_inj, toNat, toNat_unitOf_ascii hd]
    exact ⟨fun e => Char.toNat_inj.mp e, fun e => e ▸ rfl⟩
  have space := same ' ' (by decide)
  have tab := same '\t' (by decide)
  have line := same '\n' (by decide)
  have ret := same '\r' (by decide)
  unfold isBlank isJsonBlank
  rw [show (0x20 : UInt16) = unitOf ' ' from rfl, show (0x09 : UInt16) = unitOf '\t' from rfl,
    show (0x0A : UInt16) = unitOf '\n' from rfl, show (0x0D : UInt16) = unitOf '\r' from rfl]
  simp only [space, tab, line, ret]
  cases decide (c = ' ') <;> cases decide (c = '\t') <;> cases decide (c = '\n') <;> rfl

theorem isBlank_high {u : UInt16} (h : 0x80 ≤ u.toNat) : isBlank u = false := by
  have other {n : UInt16} (hn : n.toNat < 0x80) : u ≠ n := by
    rintro rfl
    omega
  simp [isBlank, other (n := 0x20) (by decide), other (n := 0x09) (by decide), other (n := 0x0A) (by decide),
    other (n := 0x0D) (by decide)]

theorem dropWhile_isBlank (cs : List Char) : (unitsOf cs).dropWhile isBlank = unitsOf (cs.dropWhile isJsonBlank) := by
  induction cs with
  | nil => rfl
  | cons c cs ih =>
    by_cases ascii : c.toNat < 0x80
    · rw [unitsOf_cons_ascii ascii, List.dropWhile_cons, List.dropWhile_cons, isBlank_unitOf ascii]
      split
      · exact ih
      · rw [unitsOf_cons_ascii ascii]
    · have visible : isJsonBlank c = false := by
        have other {d : Char} (hd : d.toNat < 0x80) : c ≠ d := by
          rintro rfl
          exact ascii hd
        simp [isJsonBlank, other (d := ' ') (by decide), other (d := '\n') (by decide), other (d := '\t') (by decide),
          other (d := '\r') (by decide)]
      obtain ⟨u, us, hu⟩ := List.exists_cons_of_ne_nil (charUnits_ne_nil c)
      have high := charUnits_high ascii u (by simp [hu])
      rw [List.dropWhile_cons_of_neg (by simp [visible]), unitsOf_cons, hu, List.cons_append,
        List.dropWhile_cons_of_neg (by simp [isBlank_high high])]

variable {n depth : Nat} {stack : List Open} {closable : Bool} {cs rest : List Char} {us tail : List UInt16} {u : UInt16}

theorem read_blank (n depth : Nat) (stack : List Open) (task : Task) (cs : List Char) :
    read (n + 1) depth stack task (unitsOf (cs.dropWhile isJsonBlank)) = read (n + 1) depth stack task (unitsOf cs) := by
  have same : (unitsOf (cs.dropWhile isJsonBlank)).dropWhile isBlank = (unitsOf cs).dropWhile isBlank := by
    rw [← dropWhile_isBlank]
    exact List.dropWhile_idempotent _ _
  unfold read
  rw [same]

theorem read_value (visible : us.dropWhile isBlank = u :: tail) :
    read (n + 1) depth stack (.value closable) us =
      if isUnit u ']' && closable then
        match stack with
        | .array items :: stack => read n (depth - 1) stack (.place (.array items.reverse)) tail
        | _ => .error (unexpected (u :: tail), u :: tail)
      else if isUnit u '[' then
        if depth ≥ maxDepth then .error (.tooDeep, u :: tail)
        else read n (depth + 1) (.array [] :: stack) (.value true) tail
      else if isUnit u '{' then
        if depth ≥ maxDepth then .error (.tooDeep, u :: tail) else read n depth stack (.key [] true) tail
      else if isUnit u '"' then
        match readString (u :: tail).length .empty tail with
        | .error e => .error (e, u :: tail)
        | .ok (s, rest) => read n depth stack (.place (.string s)) rest
      else if isWordUnit u && !isDigitOf 10 u then
        match ofWord? ((u :: tail).takeWhile isWordUnit) with
        | some j => read n depth stack (.place j) ((u :: tail).dropWhile isWordUnit)
        | none => .error (unexpected (u :: tail), u :: tail)
      else
        match readNumber? (u :: tail) with
        | some (x, rest) => read n depth stack (.place (.number x)) rest
        | none => .error (unexpected (u :: tail), u :: tail) := by
  conv_lhs => unfold read
  rewrite [visible]
  rfl

theorem read_name {members : List (Str × Json)} (visible : us.dropWhile isBlank = u :: tail) :
    read (n + 1) depth stack (.key members closable) us =
      if isUnit u '}' && closable then read n depth stack (.place (.object members.reverse)) tail
      else if isUnit u '"' then
        match readString (u :: tail).length .empty tail with
        | .error e => .error (e, u :: tail)
        | .ok (key, rest) =>
          match rest.dropWhile isBlank with
          | [] => .error (.expecting ':', rest.dropWhile isBlank)
          | colon :: after =>
            if isUnit colon ':' then read n (depth + 1) (.object members key :: stack) (.value false) after
            else .error (if colon ≥ 0x80 then .unexpectedCharacter else .expecting ':', rest.dropWhile isBlank)
      else .error (if u ≥ 0x80 then .unexpectedCharacter else .expectingName, u :: tail) := by
  conv_lhs => unfold read
  rewrite [visible]
  rfl

theorem read_afterItem {items : List Json} {j : Json} (visible : us.dropWhile isBlank = u :: tail) :
    read (n + 1) depth (.array items :: stack) (.place j) us =
      if isUnit u ',' then read n depth (.array (j :: items) :: stack) (.value false) tail
      else if isUnit u ']' then read n (depth - 1) stack (.place (.array (j :: items).reverse)) tail
      else .error (if u ≥ 0x80 then .unexpectedCharacter else .expecting ']', u :: tail) := by
  conv_lhs => unfold read
  rw [visible]

theorem read_afterMember {members : List (Str × Json)} {key : Str} {j : Json}
    (visible : us.dropWhile isBlank = u :: tail) :
    read (n + 1) depth (.object members key :: stack) (.place j) us =
      if isUnit u ',' then read n (depth - 1) stack (.key ((key, j) :: members) false) tail
      else if isUnit u '}' then read n (depth - 1) stack (.place (.object ((key, j) :: members).reverse)) tail
      else .error (if u ≥ 0x80 then .unexpectedCharacter else .expecting '}', u :: tail) := by
  conv_lhs => unfold read
  rw [visible]

theorem units_visible {c : Char} (ascii : c.toNat < 0x80) (visible : isJsonBlank c = false) (rest : List Char) :
    (unitsOf (c :: rest)).dropWhile isBlank = unitOf c :: unitsOf rest := by
  rw [dropWhile_isBlank, List.dropWhile_cons_of_neg (by simp [visible]), unitsOf_cons_ascii ascii]

theorem read_openArray (h : depth < maxDepth) :
    read (n + 1) depth stack (.value closable) (unitsOf ('[' :: rest))
      = read n (depth + 1) (.array [] :: stack) (.value true) (unitsOf rest) := by
  rw [read_value (units_visible (by decide) (by decide) _),
    if_neg (by rw [show isUnit (unitOf '[') ']' = false by decide]; simp), if_pos (by decide), if_neg (by omega)]

theorem read_openObject (h : depth < maxDepth) :
    read (n + 1) depth stack (.value closable) (unitsOf ('{' :: rest))
      = read n depth stack (.key [] true) (unitsOf rest) := by
  rw [read_value (units_visible (by decide) (by decide) _),
    if_neg (by rw [show isUnit (unitOf '{') ']' = false by decide]; simp), if_neg (by decide), if_pos (by decide),
    if_neg (by omega)]

theorem read_emptyArray {items : List Json} :
    read (n + 1) depth (.array items :: stack) (.value true) (unitsOf (']' :: rest))
      = read n (depth - 1) stack (.place (.array items.reverse)) (unitsOf rest) := by
  rw [read_value (units_visible (by decide) (by decide) _)]
  rfl

theorem read_emptyObject {members : List (Str × Json)} :
    read (n + 1) depth stack (.key members true) (unitsOf ('}' :: rest))
      = read n depth stack (.place (.object members.reverse)) (unitsOf rest) := by
  rw [read_name (units_visible (by decide) (by decide) _)]
  rfl

theorem read_key {members : List (Str × Json)} {key : Str} {after : List Char}
    (h : readString (unitsOf ('"' :: cs)).length .empty (unitsOf cs) = .ok (key, unitsOf after))
    (colon : after.dropWhile isJsonBlank = ':' :: rest) :
    read (n + 1) depth stack (.key members closable) (unitsOf ('"' :: cs))
      = read n (depth + 1) (.object members key :: stack) (.value false) (unitsOf rest) := by
  rw [unitsOf_cons_ascii (by decide)] at h
  rw [read_name (units_visible (by decide) (by decide) _),
    if_neg (by rw [show isUnit (unitOf '"') '}' = false by decide]; simp), if_pos (by decide), h]
  dsimp only
  rw [dropWhile_isBlank, colon, unitsOf_cons_ascii (by decide)]
  rfl

theorem read_nextItem {items : List Json} {j : Json} :
    read (n + 1) depth (.array items :: stack) (.place j) (unitsOf (',' :: rest))
      = read n depth (.array (j :: items) :: stack) (.value false) (unitsOf rest) := by
  rw [read_afterItem (units_visible (by decide) (by decide) _)]
  rfl

theorem read_closeArray {items : List Json} {j : Json} :
    read (n + 1) depth (.array items :: stack) (.place j) (unitsOf (']' :: rest))
      = read n (depth - 1) stack (.place (.array (j :: items).reverse)) (unitsOf rest) := by
  rw [read_afterItem (units_visible (by decide) (by decide) _)]
  rfl

theorem read_nextMember {members : List (Str × Json)} {key : Str} {j : Json} :
    read (n + 1) depth (.object members key :: stack) (.place j) (unitsOf (',' :: rest))
      = read n (depth - 1) stack (.key ((key, j) :: members) false) (unitsOf rest) := by
  rw [read_afterMember (units_visible (by decide) (by decide) _)]
  rfl

theorem read_closeObject {members : List (Str × Json)} {key : Str} {j : Json} :
    read (n + 1) depth (.object members key :: stack) (.place j) (unitsOf ('}' :: rest))
      = read n (depth - 1) stack (.place (.object ((key, j) :: members).reverse)) (unitsOf rest) := by
  rw [read_afterMember (units_visible (by decide) (by decide) _)]
  rfl

theorem read_end {j : Json} (h : cs.dropWhile isJsonBlank = []) :
    read (n + 1) depth [] (.place j) (unitsOf cs) = .ok j := by
  unfold read
  rw [dropWhile_isBlank, h]
  rfl

theorem read_string {s : Str} (h : readString (unitsOf ('"' :: cs)).length .empty (unitsOf cs) = .ok (s, unitsOf rest)) :
    read (n + 1) depth stack (.value closable) (unitsOf ('"' :: cs))
      = read n depth stack (.place (.string s)) (unitsOf rest) := by
  rw [unitsOf_cons_ascii (by decide)] at h
  rw [read_value (units_visible (by decide) (by decide) _),
    if_neg (by rw [show isUnit (unitOf '"') ']' = false by decide]; simp), if_neg (by decide), if_neg (by decide),
    if_pos (by decide), h]

/-- A word of the standard: its text and what it stands for. -/
inductive Word : List Char → Json → Prop
  | null : Word "null".toList .null
  | true : Word "true".toList (.bool Bool.true)
  | false : Word "false".toList (.bool Bool.false)

theorem ofWord?_units {word : List Char} {j : Json} (isWord : Word word j) : ofWord? (unitsOf word) = some j := by
  unfold ofWord?
  simp only [units_ofString]
  cases isWord with
  | null => rw [if_pos rfl]
  | true => rw [if_neg (by decide), if_pos rfl]
  | false => rw [if_neg (by decide), if_neg (by decide), if_pos rfl]

theorem read_word {word : List Char} {j : Json} (isWord : Word word j) (after : AfterValue rest) :
    read (n + 1) depth stack (.value closable) (unitsOf (word ++ rest)) = read n depth stack (.place j) (unitsOf rest) := by
  have stop := after.units_false (p := isWordUnit) (List.all_iff_forall_prop.mp (by decide))
  have inWord : ∀ u ∈ unitsOf word, isWordUnit u = true :=
    List.all_iff_forall_prop.mp (by cases isWord <;> decide)
  have taken : (unitsOf (word ++ rest)).takeWhile isWordUnit = unitsOf word := by
    rw [unitsOf_append, takeWhile_append_of_stop inWord stop]
  have left : (unitsOf (word ++ rest)).dropWhile isWordUnit = unitsOf rest := by
    rw [unitsOf_append, dropWhile_append_of_stop inWord stop]
  have known := ofWord?_units isWord
  obtain ⟨c, tail, e, ascii, visible, notClose, others⟩ : ∃ c tail, word ++ rest = c :: tail ∧ c.toNat < 0x80
      ∧ isJsonBlank c = false ∧ isUnit (unitOf c) ']' = false ∧ (isUnit (unitOf c) '[' = false
      ∧ isUnit (unitOf c) '{' = false ∧ isUnit (unitOf c) '"' = false)
      ∧ (isWordUnit (unitOf c) && !isDigitOf 10 (unitOf c)) = true := by
    cases isWord <;> exact ⟨_, _, rfl, by decide, by decide, by decide, by decide, by decide⟩
  obtain ⟨⟨notArray, notObject, notQuote⟩, letter⟩ := others
  rw [e] at taken left ⊢
  rw [unitsOf_cons_ascii ascii] at taken left
  rw [read_value (units_visible ascii visible _),
    if_neg (by simp [notClose]), if_neg (by simp [notArray]), if_neg (by simp [notObject]),
    if_neg (by simp [notQuote]), if_pos letter, taken, known, left]

theorem read_number (numeral : Numeral) (after : AfterValue rest) :
    read (n + 1) depth stack (.value closable) (unitsOf (numeral.chars ++ rest))
      = read n depth stack (.place (.number numeral.float)) (unitsOf rest) := by
  have number := readNumber?_append numeral after
  obtain ⟨c, tail, e, start⟩ := exists_head_numeral numeral rest
  obtain ⟨ascii, visible⟩ := visible_of_start start
  have other {d : Char} (hd : isDigitOf 10 (unitOf d) = false) (hm : isUnit (unitOf '-') d = false) :
      isUnit (unitOf c) d = false := by
    rcases start with rfl | digit
    · exact hm
    · simpa using isUnit_digit digit hd
  have noLetter : (isWordUnit (unitOf c) && !isDigitOf 10 (unitOf c)) = false := by
    rcases start with rfl | digit
    · decide
    · rw [isDigitOf_unitOf digit]
      simp
  rw [e] at number ⊢
  rw [unitsOf_cons_ascii ascii] at number
  rw [read_value (units_visible ascii visible _),
    if_neg (by simp [other (d := ']') (by decide) (by decide)]),
    if_neg (by simp [other (d := '[') (by decide) (by decide)]),
    if_neg (by simp [other (d := '{') (by decide) (by decide)]),
    if_neg (by simp [other (d := '"') (by decide) (by decide)]),
    if_neg (by simp [noLetter]), number]

end Json

end BrainHost.Script
