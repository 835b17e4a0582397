import BrainHost.Proofs.Json.Strings

/-! # Steps of the strict reader

What the strict reader does in one step, as a relation of what is open, what is expected and what is
left of the text. A text that it accepts is read by such steps to the end. -/

namespace BrainHost.Document

open Number
open Script (AfterValue)

/-- A value without parts at the start of a text, and what follows it. -/
inductive Token : Document → List Char → List Char → Prop
  | string {s : Option String} {cs rest : List Char} (read : readJsonString {} cs = some (s, rest)) :
    Token (.text s) ('"' :: cs) rest
  | true {rest : List Char} : Token (.bool true) ('t' :: 'r' :: 'u' :: 'e' :: rest) rest
  | false {rest : List Char} : Token (.bool false) ('f' :: 'a' :: 'l' :: 's' :: 'e' :: rest) rest
  | null {rest : List Char} : Token .null ('n' :: 'u' :: 'l' :: 'l' :: rest) rest
  | number {d : Document} {rest : List Char} (n : Numeral) (read : readJsonNumber (n.chars ++ rest) = some (d, rest)) :
    Token d (n.chars ++ rest) rest

/-- A step of the strict reader, on a text without blanks at its start. -/
inductive Step : List Open → Task → List Char → List Open → Task → List Char → Prop
  | token {stack closable cs d rest} (token : Token d cs rest) :
    Step stack (.value closable) cs stack (.place d) rest
  | openArray {stack closable rest} : Step stack (.value closable) ('[' :: rest) (.array [] :: stack) (.value true) rest
  | openTable {stack closable rest} : Step stack (.value closable) ('{' :: rest) stack (.key [] true) rest
  | emptyArray {stack items rest} :
    Step (.array items :: stack) (.value true) (']' :: rest) stack (.place (.array items.reverse)) rest
  | emptyTable {stack members rest} :
    Step stack (.key members true) ('}' :: rest) stack (.place (.table members.reverse)) rest
  | key {stack members closable cs key after rest} (read : readJsonString {} cs = some (key, after))
    (colon : after.dropWhile isJsonBlank = ':' :: rest) :
    Step stack (.key members closable) ('"' :: cs) (.table members key :: stack) (.value false) rest
  | nextItem {stack items d rest} :
    Step (.array items :: stack) (.place d) (',' :: rest) (.array (d :: items) :: stack) (.value false) rest
  | closeArray {stack items d rest} :
    Step (.array items :: stack) (.place d) (']' :: rest) stack (.place (.array (d :: items).reverse)) rest
  | nextMember {stack members key d rest} :
    Step (.table members key :: stack) (.place d) (',' :: rest) stack (.key ((key, d) :: members) false) rest
  | closeTable {stack members key d rest} :
    Step (.table members key :: stack) (.place d) ('}' :: rest) stack
      (.place (.table ((key, d) :: members).reverse)) rest

variable {stack stack' : List Open} {task task' : Task} {cs rest : List Char} {d : Document} {n : Nat}

theorem exists_head_numeral (n : Numeral) (rest : List Char) :
    ∃ c cs, n.chars ++ rest = c :: cs ∧ (c = '-' ∨ c.isDigit = true) := by
  rw [Script.chars_append]
  unfold Numeral.sign
  cases n.negative with
  | true => exact ⟨'-', _, rfl, .inl rfl⟩
  | false =>
    obtain ⟨d, ds, hds⟩ := List.exists_cons_of_ne_nil n.whole_ne
    exact ⟨d, _, by rw [hds]; rfl, .inr (n.isWhole d (by simp [hds]))⟩

theorem visible_of_start {c : Char} (start : c = '-' ∨ c.isDigit = true) : c.toNat < 0x80 ∧ isJsonBlank c = false := by
  rcases start with rfl | digit
  · decide
  · have bounds := isDigit_bounds digit
    have other {d : Char} (hd : d.toNat < 48) : c ≠ d := by
      rintro rfl
      omega
    refine ⟨by omega, ?_⟩
    simp [isJsonBlank, other (d := ' ') (by decide), other (d := '\n') (by decide), other (d := '\t') (by decide),
      other (d := '\r') (by decide)]

theorem readJson_eq_some (h : readJson (n + 1) stack task cs = some d) :
    (∃ stack' task' rest, Step stack task (cs.dropWhile isJsonBlank) stack' task' rest
        ∧ readJson n stack' task' rest = some d)
      ∨ (stack = [] ∧ task = .place d ∧ cs.dropWhile isJsonBlank = []) := by
  unfold readJson at h
  dsimp only at h
  generalize cs.dropWhile isJsonBlank = cs at *
  cases task with
  | value closable =>
    left
    dsimp only at h
    split at h
    · split at h
      · exact ⟨_, _, _, .emptyArray, h⟩
      · cases h
    · exact ⟨_, _, _, .openArray, h⟩
    · exact ⟨_, _, _, .openTable, h⟩
    · split at h
      · cases h
      · rename_i read
        exact ⟨_, _, _, .token (.string read), h⟩
    · exact ⟨_, _, _, .token .true, h⟩
    · exact ⟨_, _, _, .token .false, h⟩
    · exact ⟨_, _, _, .token .null, h⟩
    · split at h
      · cases h
      · rename_i read
        obtain ⟨numeral, rfl⟩ := Script.exists_numeral_of_readJsonNumber read
        exact ⟨_, _, _, .token (.number numeral read), h⟩
  | key members closable =>
    left
    dsimp only at h
    split at h
    · split at h
      · rename_i closable
        subst closable
        exact ⟨_, _, _, .emptyTable, h⟩
      · cases h
    · split at h
      · cases h
      · rename_i read
        split at h
        · rename_i colon
          exact ⟨_, _, _, .key read colon, h⟩
        · cases h
    · cases h
  | place e =>
    dsimp only at h
    split at h
    · right
      split at h
      · rename_i empty
        injection h with h
        exact ⟨rfl, by rw [h], by simpa using empty⟩
      · cases h
    · left
      split at h
      · exact ⟨_, _, _, .nextItem, h⟩
      · exact ⟨_, _, _, .closeArray, h⟩
      · cases h
    · left
      split at h
      · exact ⟨_, _, _, .nextMember, h⟩
      · exact ⟨_, _, _, .closeTable, h⟩
      · cases h

theorem Step.readJson (h : Step stack task cs stack' task' rest) (trimmed : cs.dropWhile isJsonBlank = cs) (n : Nat) :
    readJson (n + 1) stack task cs = readJson n stack' task' rest := by
  conv_lhs => unfold Document.readJson
  dsimp only
  rw [trimmed]
  cases h with
  | token token =>
    cases token with
    | string read => simp only [read]
    | true => rfl
    | false => rfl
    | null => rfl
    | number numeral read =>
      obtain ⟨c, tail, e, start⟩ := exists_head_numeral numeral rest
      rw [e] at read ⊢
      have other {x : Char} (hx : x ≠ '-') (hx' : x.isDigit = Bool.false) : c ≠ x := by
        rintro rfl
        rcases start with start | start
        · exact hx start
        · rw [hx'] at start
          cases start
      dsimp only
      split
      case h_8 => simp only [read]
      all_goals
        rename_i e
        injection e with e
        exact absurd e (other (by decide) (by decide))
  | openArray => rfl
  | openTable => rfl
  | emptyArray => rfl
  | emptyTable => rfl
  | key read colon => simp only [read, colon]
  | nextItem => rfl
  | closeArray => rfl
  | nextMember => rfl
  | closeTable => rfl

end BrainHost.Document
