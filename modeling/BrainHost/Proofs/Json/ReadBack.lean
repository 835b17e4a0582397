import BrainHost.Proofs.Json.Spelling

/-! # Reading written texts

The engine reads the text of a tree that is not too deep as the tree, but for the numbers that
texts cannot tell: a zero loses its sign and what is not finite is `null`. The tree that is read has
the same text. -/

namespace BrainHost.Script

open Number Document

namespace Json

mutual

/-- The tree that is read from the text of a tree. -/
def settled : Json → Json
  | null => null
  | bool b => bool b
  | number x =>
    match toBinary? x with
    | none => null
    | some b => number (settledFloat x b)
  | string s => string s
  | array items => array (settledItems items)
  | object members => object (settledMembers members)

def settledItems : List Json → List Json
  | [] => []
  | j :: items => j.settled :: settledItems items

def settledMembers : List (Str × Json) → List (Str × Json)
  | [] => []
  | (key, j) :: members => (key, j.settled) :: settledMembers members

end

/-! ## The tree that is read -/

theorem toBinary?_zero : toBinary? (zero false) = some ⟨false, 0, -1074⟩ := by
  have bits : (zero false).toBits = 0 := toBits_ofBits (b := 0) (by unfold Number.Finite; decide)
  unfold toBinary?
  rw [bits]
  rfl

theorem text_settledFloat {x : Float} {b : Binary} (h : toBinary? x = some b) :
    Number.text (settledFloat x b) = Number.text x ∧ (settledFloat x b).isFinite = true := by
  unfold settledFloat
  split
  · rename_i hm
    refine ⟨?_, by rw [isFinite_eq, toBinary?_zero]; rfl⟩
    unfold Number.text
    rw [toBinary?_zero, h]
    simp [hm]
  · exact ⟨rfl, by rw [isFinite_eq, h]; rfl⟩

mutual

theorem chars_settled : (j : Json) → j.settled.chars = j.chars
  | null => by rw [settled]
  | bool b => by rw [settled]
  | number x => by
    rw [settled, chars, isFinite_eq]
    cases h : toBinary? x with
    | none => rw [chars]; rfl
    | some b =>
      obtain ⟨text, finite⟩ := text_settledFloat h
      dsimp only
      rw [chars, finite, text]
      rfl
  | string s => by rw [settled]
  | array items => by rw [settled, chars, chars, itemsChars_settled]
  | object members => by rw [settled, chars, chars, membersChars_settled]

theorem itemsChars_settled : (items : List Json) → itemsChars (settledItems items) = itemsChars items
  | [] => by rw [settledItems]
  | j :: items => by rw [settledItems, itemsChars, itemsChars, chars_settled, itemsChars_settled]

theorem membersChars_settled : (members : List (Str × Json)) →
    membersChars (settledMembers members) = membersChars members
  | [] => by rw [settledMembers]
  | (key, j) :: members => by
    rw [settledMembers, membersChars, membersChars, chars_settled, membersChars_settled]

end

mutual

theorem level_settled : (j : Json) → j.settled.level = j.level
  | null => by rw [settled]
  | bool b => by rw [settled]
  | number x => by
    rw [settled, level]
    cases toBinary? x <;> simp only [level]
  | string s => by rw [settled]
  | array items => by rw [settled, level, level, itemsLevel_settled]
  | object members => by rw [settled, level, level, membersLevel_settled]

theorem itemsLevel_settled : (items : List Json) → itemsLevel (settledItems items) = itemsLevel items
  | [] => by rw [settledItems]
  | j :: items => by rw [settledItems, itemsLevel, itemsLevel, level_settled, itemsLevel_settled]

theorem membersLevel_settled : (members : List (Str × Json)) →
    membersLevel (settledMembers members) = membersLevel members
  | [] => by rw [settledMembers]
  | (key, j) :: members => by
    rw [settledMembers, membersLevel, membersLevel, level_settled, membersLevel_settled]

end

mutual

theorem steps_settled : (j : Json) → j.settled.steps = j.steps
  | null => by rw [settled]
  | bool b => by rw [settled]
  | number x => by
    rw [settled, steps]
    cases toBinary? x <;> simp only [steps]
  | string s => by rw [settled]
  | array [] => by rw [settled, settledItems]
  | array (j :: items) => by rw [settled, settledItems, steps, steps, steps_settled, itemsSteps_settled]
  | object [] => by rw [settled, settledMembers]
  | object ((key, j) :: members) => by
    rw [settled, settledMembers, steps, steps, steps_settled, membersSteps_settled]

theorem itemsSteps_settled : (items : List Json) → itemsSteps (settledItems items) = itemsSteps items
  | [] => by rw [settledItems]
  | j :: items => by rw [settledItems, itemsSteps, itemsSteps, steps_settled, itemsSteps_settled]

theorem membersSteps_settled : (members : List (Str × Json)) →
    membersSteps (settledMembers members) = membersSteps members
  | [] => by rw [settledMembers]
  | (key, j) :: members => by
    rw [settledMembers, membersSteps, membersSteps, steps_settled, membersSteps_settled]

end

/-! ## Reading -/

theorem exists_quotedPieces (s : Str) : ∃ ps, piecesStr ps = s ∧ stringChars s = quotedPieces ps [] := by
  obtain ⟨ps, quoted, read⟩ := exists_pieces_quoted s.units.toList
  exact ⟨ps, Str.ext_units (read .empty), by rw [stringChars, quotedPieces, quoted]⟩

theorem exists_spelling_number (x : Float) : ∃ s : Spelling, s.chars = (number x).chars ∧ s.tree = (number x).settled := by
  rw [chars, settled, isFinite_eq]
  cases h : toBinary? x with
  | none => exact ⟨.null, by rw [Spelling.chars]; rfl, by rw [Spelling.tree]⟩
  | some b =>
    obtain ⟨numeral, text, float⟩ := exists_numeral h
    refine ⟨.number numeral, ?_, ?_⟩
    · rw [Spelling.chars, ← text]
      rfl
    · rw [Spelling.tree, float]

mutual

/-- The text of a tree is spelled, and what it spells is the tree that is read. -/
theorem exists_spelling : (j : Json) → ∃ s : Spelling, s.chars = j.chars ∧ s.tree = j.settled
  | null => ⟨.null, by rw [Spelling.chars, chars], by rw [Spelling.tree, settled]⟩
  | bool b => ⟨.bool b, by rw [Spelling.chars, chars], by rw [Spelling.tree, settled]⟩
  | number x => exists_spelling_number x
  | string s => by
    obtain ⟨ps, str, quoted⟩ := exists_quotedPieces s
    exact ⟨.string ps, by rw [Spelling.chars, chars, quoted], by rw [Spelling.tree, settled, str]⟩
  | array items => by
    obtain ⟨items', text, trees⟩ := exists_spelling_items items
    exact ⟨.array items' .none, by rw [Spelling.chars, chars, text]; rfl, by rw [Spelling.tree, settled, trees]⟩
  | object members => by
    obtain ⟨members', text, trees⟩ := exists_spelling_members members
    exact ⟨.object members' .none, by rw [Spelling.chars, chars, text]; rfl, by rw [Spelling.tree, settled, trees]⟩

theorem exists_spelling_items : (items : List Json) → ∃ items' : List (Spaced Spelling),
    Spelling.itemsChars items' = itemsChars items ∧ Spelling.itemsTrees items' = settledItems items
  | [] => ⟨[], by rw [Spelling.itemsChars, itemsChars], by rw [Spelling.itemsTrees, settledItems]⟩
  | j :: items => by
    obtain ⟨s, text, tree⟩ := exists_spelling j
    obtain ⟨items', texts, trees⟩ := exists_spelling_items items
    refine ⟨⟨.none, s, .none⟩ :: items', ?_, ?_⟩
    · rw [Spelling.itemsChars, itemsChars, ← text, ← texts]
      rfl
    · rw [Spelling.itemsTrees, settledItems, tree, trees]

theorem exists_spelling_members : (members : List (Str × Json)) →
    ∃ members' : List (Spaced (List Piece) × Spaced Spelling),
      Spelling.membersChars members' = membersChars members ∧ Spelling.membersTrees members' = settledMembers members
  | [] => ⟨[], by rw [Spelling.membersChars, membersChars], by rw [Spelling.membersTrees, settledMembers]⟩
  | (key, j) :: members => by
    obtain ⟨ps, str, quoted⟩ := exists_quotedPieces key
    obtain ⟨s, text, tree⟩ := exists_spelling j
    obtain ⟨members', texts, trees⟩ := exists_spelling_members members
    refine ⟨(⟨.none, ps, .none⟩, ⟨.none, s, .none⟩) :: members', ?_, ?_⟩
    · rw [Spelling.membersChars, membersChars, quoted, quotedPieces_append, ← text, ← texts]
      rfl
    · rw [Spelling.membersTrees, settledMembers, str, tree, trees]

end

theorem steps_le (j : Json) : j.steps ≤ 2 * j.chars.length := by
  obtain ⟨s, text, tree⟩ := exists_spelling j
  rw [← steps_settled, ← tree, ← text]
  exact s.steps_le

theorem chars_length_pos (j : Json) : 0 < j.chars.length := by
  have := j.steps_pos
  have := j.steps_le
  omega

theorem ofUnits?_chars {j : Json} (shallow : j.level ≤ maxDepth) : ofUnits? (unitsOf j.chars) = .ok j.settled := by
  obtain ⟨s, text, tree⟩ := exists_spelling j
  have back := Spaced.ofUnits?_chars ⟨.none, s, .none⟩ (by rw [tree, level_settled]; exact shallow)
  rwa [Spaced.chars_none, text, tree] at back

end Json

end BrainHost.Script
