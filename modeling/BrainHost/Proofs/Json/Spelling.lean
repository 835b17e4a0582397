import BrainHost.Proofs.Json.Reader

/-! # Spelled texts

The texts of the standard, with the blanks, the escapes and the numerals that they are spelled with. The engine
reads each of them that does not nest too deep. -/

namespace BrainHost.Script

open Number Document

/-- Blanks between the tokens of a text. -/
structure Blanks where
  chars : List Char
  blank : ∀ c ∈ chars, isJsonBlank c = true

def Blanks.none : Blanks := ⟨[], nofun⟩

/-- A part of a text with the blanks around it. -/
structure Spaced (α : Type) where
  before : Blanks
  inner : α
  after : Blanks

/-- A value as texts of the standard spell it. -/
inductive Spelling
  | null
  | bool (b : Bool)
  | number (n : Numeral)
  | string (pieces : List Piece)
  | array (items : List (Spaced Spelling)) (close : Blanks)
  | object (members : List (Spaced (List Piece) × Spaced Spelling)) (close : Blanks)

/-- The string that pieces spell. -/
def piecesStr (ps : List Piece) : Str := ps.foldl Piece.addTo .empty

/-- The text of a string's pieces between its quotes, with any text behind it. -/
def quotedPieces (ps : List Piece) (rest : List Char) : List Char := '"' :: (piecesChars ps ++ '"' :: rest)

namespace Spelling

mutual

/-- The characters of a value. -/
def chars : Spelling → List Char
  | null => "null".toList
  | bool b => (if b then "true" else "false").toList
  | number n => n.chars
  | string ps => quotedPieces ps []
  | array items close => '[' :: ((itemsChars items).tail ++ (close.chars ++ [']']))
  | object members close => '{' :: ((membersChars members).tail ++ (close.chars ++ ['}']))

def itemsChars : List (Spaced Spelling) → List Char
  | [] => []
  | ⟨before, s, after⟩ :: items => ',' :: (before.chars ++ (s.chars ++ (after.chars ++ itemsChars items)))

def membersChars : List (Spaced (List Piece) × Spaced Spelling) → List Char
  | [] => []
  | (⟨before, name, colon⟩, ⟨before', s, after⟩) :: members =>
    ',' :: (before.chars ++ quotedPieces name (colon.chars ++
      ':' :: (before'.chars ++ (s.chars ++ (after.chars ++ membersChars members)))))

end

mutual

/-- The tree that a value is read as. -/
def tree : Spelling → Json
  | null => .null
  | bool b => .bool b
  | number n => .number n.float
  | string ps => .string (piecesStr ps)
  | array items _ => .array (itemsTrees items)
  | object members _ => .object (membersTrees members)

def itemsTrees : List (Spaced Spelling) → List Json
  | [] => []
  | ⟨_, s, _⟩ :: items => s.tree :: itemsTrees items

def membersTrees : List (Spaced (List Piece) × Spaced Spelling) → List (Str × Json)
  | [] => []
  | (⟨_, name, _⟩, ⟨_, s, _⟩) :: members => (piecesStr name, s.tree) :: membersTrees members

end

end Spelling

/-! ## Between the parts -/

variable {cs rest : List Char}

theorem dropWhile_blanks (b : Blanks) (cs : List Char) :
    (b.chars ++ cs).dropWhile isJsonBlank = cs.dropWhile isJsonBlank := List.dropWhile_append_of_pos b.blank

theorem trimmed_cons {c : Char} {cs : List Char} (h : isJsonBlank c = false) :
    (c :: cs).dropWhile isJsonBlank = c :: cs := List.dropWhile_cons_of_neg (by simp [h])

theorem AfterValue.blanks (b : Blanks) (h : AfterValue cs) : AfterValue (b.chars ++ cs) := by
  intro c hc
  cases hb : b.chars with
  | nil =>
    rw [hb] at hc
    exact h c hc
  | cons d ds =>
    rw [hb] at hc
    obtain rfl : d = c := Option.some.inj hc
    exact .inr (.inr (.inr (b.blank d (by simp [hb]))))

theorem quotedPieces_append (ps : List Piece) (cs rest : List Char) :
    quotedPieces ps cs ++ rest = quotedPieces ps (cs ++ rest) := by
  unfold quotedPieces
  rw [List.cons_append, List.append_assoc, List.cons_append]

theorem readString_quotedPieces (ps : List Piece) (rest : List Char) :
    Json.readString (unitsOf ('"' :: (piecesChars ps ++ '"' :: rest))).length .empty
      (unitsOf (piecesChars ps ++ '"' :: rest)) = .ok (piecesStr ps, unitsOf rest) := by
  apply readString_pieces
  rw [unitsOf_cons_ascii (by decide), List.length_cons, unitsOf_append, List.length_append]
  omega

namespace Json

mutual

/-- How many steps a reader takes over the text of a tree. -/
def steps : Json → Nat
  | array [] => 2
  | array (j :: items) => 1 + j.steps + itemsSteps items
  | object [] => 2
  | object ((_, j) :: members) => 2 + j.steps + membersSteps members
  | null => 1
  | bool _ => 1
  | number _ => 1
  | string _ => 1

def itemsSteps : List Json → Nat
  | [] => 1
  | j :: items => 1 + j.steps + itemsSteps items

def membersSteps : List (Str × Json) → Nat
  | [] => 1
  | (_, j) :: members => 2 + j.steps + membersSteps members

end

variable {n depth : Nat} {stack : List Json.Open}

theorem read_blanks (b : Blanks) (task : Task) (cs : List Char) (hn : 0 < n) :
    read n depth stack task (unitsOf (b.chars ++ cs)) = read n depth stack task (unitsOf cs) := by
  obtain ⟨n, rfl⟩ := Nat.exists_eq_succ_of_ne_zero hn.ne'
  rw [← read_blank, dropWhile_blanks, read_blank]

theorem steps_pos (j : Json) : 0 < j.steps := by
  cases j with
  | array items =>
    cases items with
    | nil => rw [steps]; decide
    | cons j items => rw [steps]; omega
  | object members =>
    cases members with
    | nil => rw [steps]; decide
    | cons m members => rw [steps]; omega
  | null => rw [steps]; decide
  | bool b => rw [steps]; decide
  | number x => rw [steps]; decide
  | string s => rw [steps]; decide

theorem itemsSteps_pos (items : List Json) : 0 < itemsSteps items := by
  cases items with
  | nil => rw [itemsSteps]; decide
  | cons j items => rw [itemsSteps]; omega

theorem membersSteps_pos (members : List (Str × Json)) : 0 < membersSteps members := by
  cases members with
  | nil => rw [membersSteps]; decide
  | cons m members => rw [membersSteps]; omega

mutual

/-- How deep a tree nests: one level for each container around a part and one for the part. -/
def level : Json → Nat
  | null => 1
  | bool _ => 1
  | number _ => 1
  | string _ => 1
  | array items => 1 + itemsLevel items
  | object members => 1 + membersLevel members

def itemsLevel : List Json → Nat
  | [] => 0
  | j :: items => max j.level (itemsLevel items)

def membersLevel : List (Str × Json) → Nat
  | [] => 0
  | (_, j) :: members => max j.level (membersLevel members)

end

end Json

/-! ## Reading -/

namespace Spelling

open Json

theorem after_item (between : Blanks) (items : List (Spaced Spelling)) (close : Blanks) (rest : List Char) :
    AfterValue (between.chars ++ (itemsChars items ++ (close.chars ++ ']' :: rest))) := by
  refine .blanks between ?_
  cases items with
  | nil => exact .blanks close (.cons (.inr (.inl rfl)))
  | cons item items =>
    rw [itemsChars]
    exact .cons (.inl rfl)

theorem after_member (between : Blanks) (members : List (Spaced (List Piece) × Spaced Spelling)) (close : Blanks)
    (rest : List Char) : AfterValue (between.chars ++ (membersChars members ++ (close.chars ++ '}' :: rest))) := by
  refine .blanks between ?_
  cases members with
  | nil => exact .blanks close (.cons (.inr (.inr rfl)))
  | cons member members =>
    rw [membersChars]
    exact .cons (.inl rfl)

section Counts

variable (before between before' colon close : Blanks) (name : List Piece) (s : Spelling) (n : Nat)

theorem steps_array_add (items : List (Spaced Spelling)) :
    (array (⟨before, s, between⟩ :: items) close).tree.steps + n
      = s.tree.steps + (itemsSteps (itemsTrees items) + n) + 1 := by
  rw [tree, itemsTrees, steps]
  omega

theorem itemsSteps_add (items : List (Spaced Spelling)) :
    itemsSteps (itemsTrees (⟨before, s, between⟩ :: items)) + n
      = s.tree.steps + (itemsSteps (itemsTrees items) + n) + 1 := by
  rw [itemsTrees, itemsSteps]
  omega

theorem steps_object_add (members : List (Spaced (List Piece) × Spaced Spelling)) :
    (object ((⟨before, name, colon⟩, ⟨before', s, between⟩) :: members) close).tree.steps + n
      = s.tree.steps + (membersSteps (membersTrees members) + n) + 1 + 1 := by
  rw [tree, membersTrees, steps]
  omega

theorem membersSteps_add (members : List (Spaced (List Piece) × Spaced Spelling)) :
    membersSteps (membersTrees ((⟨before, name, colon⟩, ⟨before', s, between⟩) :: members)) + n
      = s.tree.steps + (membersSteps (membersTrees members) + n) + 1 + 1 := by
  rw [membersTrees, membersSteps]
  omega

end Counts

theorem read_member {n depth : Nat} {stack : List Json.Open} {closable : Bool} {members : List (Str × Json)}
    (before : Blanks) (name : List Piece) (colon : Blanks) (rest : List Char) :
    Json.read (n + 1) depth stack (.key members closable)
        (unitsOf (before.chars ++ quotedPieces name (colon.chars ++ ':' :: rest)))
      = Json.read n (depth + 1) (.object members (piecesStr name) :: stack) (.value false) (unitsOf rest) := by
  rw [read_blanks before _ _ (Nat.succ_pos n)]
  exact read_key (readString_quotedPieces name _) ((dropWhile_blanks colon _).trans (trimmed_cons rfl))

mutual

theorem read_chars (stack : List Json.Open) (closable : Bool) (rest : List Char) (after : AfterValue rest)
    (n depth : Nat) : (s : Spelling) → depth + s.tree.level ≤ maxDepth →
      Json.read (s.tree.steps + n) depth stack (.value closable) (unitsOf (s.chars ++ rest))
        = Json.read n depth stack (.place s.tree) (unitsOf rest)
  | null, _ => by
    rw [chars, tree, steps, Nat.add_comm]
    exact read_word .null after
  | bool true, _ => by
    rw [chars, tree, steps, Nat.add_comm]
    exact read_word .true after
  | bool false, _ => by
    rw [chars, tree, steps, Nat.add_comm]
    exact read_word .false after
  | number m, _ => by
    rw [chars, tree, steps, Nat.add_comm]
    exact read_number m after
  | string ps, _ => by
    rw [chars, tree, steps, quotedPieces_append, List.nil_append, Nat.add_comm]
    exact read_string (readString_quotedPieces ps rest)
  | array [] close, room => by
    rw [tree, itemsTrees, level] at room
    rw [chars, itemsChars, tree, itemsTrees, steps, List.tail_nil, List.nil_append, List.cons_append,
      List.append_assoc, Nat.add_comm, read_openArray (by omega), read_blanks close _ _ (Nat.succ_pos n)]
    exact read_emptyArray
  | array (⟨before, s, between⟩ :: items) close, room => by
    rw [tree, itemsTrees, level, itemsLevel] at room
    have first := read_chars (.array [] :: stack) true _ (after_item between items close rest)
      (itemsSteps (itemsTrees items) + n) (depth + 1) s (by omega)
    have more := read_items stack [] s.tree close rest n depth items (by omega)
    rw [steps_array_add, chars, itemsChars, List.tail_cons]
    simp only [List.cons_append, List.append_assoc, List.nil_append]
    rw [read_openArray (by omega), read_blanks before _ _ (Nat.add_pos_left s.tree.steps_pos _), first,
      read_blanks between _ _ (Nat.add_pos_left (itemsSteps_pos _) _), more, tree, itemsTrees]
    rfl
  | object [] close, room => by
    rw [tree, membersTrees, level] at room
    rw [chars, membersChars, tree, membersTrees, steps, List.tail_nil, List.nil_append, List.cons_append,
      List.append_assoc, Nat.add_comm, read_openObject (by omega), read_blanks close _ _ (Nat.succ_pos n)]
    exact read_emptyObject
  | object ((⟨before, name, colon⟩, ⟨before', s, between⟩) :: members) close, room => by
    rw [tree, membersTrees, level, membersLevel] at room
    have first := read_chars (.object [] (piecesStr name) :: stack) false _ (after_member between members close rest)
      (membersSteps (membersTrees members) + n) (depth + 1) s (by omega)
    have more := read_members stack [] (piecesStr name) s.tree close rest n depth members (by omega)
    rw [steps_object_add, chars, membersChars, List.tail_cons]
    simp only [List.cons_append, List.append_assoc, List.nil_append, quotedPieces_append]
    rw [read_openObject (by omega), read_member, read_blanks before' _ _ (Nat.add_pos_left s.tree.steps_pos _), first,
      read_blanks between _ _ (Nat.add_pos_left (membersSteps_pos _) _), more, tree, membersTrees]
    rfl

theorem read_items (stack : List Json.Open) (items' : List Json) (j' : Json) (close : Blanks) (rest : List Char)
    (n depth : Nat) : (items : List (Spaced Spelling)) → depth + 1 + itemsLevel (itemsTrees items) ≤ maxDepth →
      Json.read (itemsSteps (itemsTrees items) + n) (depth + 1) (.array items' :: stack) (.place j')
          (unitsOf (itemsChars items ++ (close.chars ++ ']' :: rest)))
        = Json.read n depth stack (.place (.array ((j' :: items').reverse ++ itemsTrees items))) (unitsOf rest)
  | [], _ => by
    rw [itemsTrees, itemsSteps, itemsChars, List.nil_append, List.append_nil, Nat.add_comm,
      read_blanks close _ _ (Nat.succ_pos n)]
    exact read_closeArray
  | ⟨before, s, between⟩ :: items, room => by
    rw [itemsTrees, itemsLevel] at room
    have next := read_chars (.array (j' :: items') :: stack) false _ (after_item between items close rest)
      (itemsSteps (itemsTrees items) + n) (depth + 1) s (by omega)
    have more := read_items stack (j' :: items') s.tree close rest n depth items (by omega)
    rw [itemsSteps_add, itemsChars]
    simp only [List.cons_append, List.append_assoc]
    rw [read_nextItem, read_blanks before _ _ (Nat.add_pos_left s.tree.steps_pos _), next,
      read_blanks between _ _ (Nat.add_pos_left (itemsSteps_pos _) _), more, itemsTrees]
    simp

theorem read_members (stack : List Json.Open) (members' : List (Str × Json)) (key' : Str) (j' : Json) (close : Blanks)
    (rest : List Char) (n depth : Nat) : (members : List (Spaced (List Piece) × Spaced Spelling)) →
      depth + 1 + membersLevel (membersTrees members) ≤ maxDepth →
      Json.read (membersSteps (membersTrees members) + n) (depth + 1) (.object members' key' :: stack) (.place j')
          (unitsOf (membersChars members ++ (close.chars ++ '}' :: rest)))
        = Json.read n depth stack (.place (.object (((key', j') :: members').reverse ++ membersTrees members)))
            (unitsOf rest)
  | [], _ => by
    rw [membersTrees, membersSteps, membersChars, List.nil_append, List.append_nil, Nat.add_comm,
      read_blanks close _ _ (Nat.succ_pos n)]
    exact read_closeObject
  | (⟨before, name, colon⟩, ⟨before', s, between⟩) :: members, room => by
    rw [membersTrees, membersLevel] at room
    have next := read_chars (.object ((key', j') :: members') (piecesStr name) :: stack) false _
      (after_member between members close rest) (membersSteps (membersTrees members) + n) (depth + 1) s (by omega)
    have more := read_members stack ((key', j') :: members') (piecesStr name) s.tree close rest n depth members
      (by omega)
    rw [membersSteps_add, membersChars]
    simp only [List.cons_append, List.append_assoc, quotedPieces_append]
    rw [read_nextMember, Nat.add_sub_cancel, read_member, read_blanks before' _ _ (Nat.add_pos_left s.tree.steps_pos _),
      next, read_blanks between _ _ (Nat.add_pos_left (membersSteps_pos _) _), more, membersTrees]
    simp

end

/-! ## Whole texts -/

mutual

/-- The reader takes two steps for each character at most. -/
theorem steps_le : (s : Spelling) → s.tree.steps ≤ 2 * s.chars.length
  | null => by rw [tree, chars, steps]; decide
  | bool b => by rw [tree, chars, steps]; cases b <;> decide
  | number n => by
    obtain ⟨c, cs, start, -⟩ := exists_head_numeral n []
    rw [List.append_nil] at start
    rw [tree, chars, steps, start, List.length_cons]
    omega
  | string ps => by
    rw [tree, chars, steps, quotedPieces, List.length_cons]
    omega
  | array [] close => by
    rw [tree, itemsTrees, steps, chars, List.length_cons]
    omega
  | array (⟨before, s, between⟩ :: items) close => by
    have := steps_le s
    have := itemsSteps_le items
    rw [tree, itemsTrees, steps, chars, itemsChars, List.tail_cons]
    simp only [List.length_cons, List.length_append, List.length_nil]
    omega
  | object [] close => by
    rw [tree, membersTrees, steps, chars, List.length_cons]
    omega
  | object ((⟨before, name, colon⟩, ⟨before', s, between⟩) :: members) close => by
    have := steps_le s
    have := membersSteps_le members
    rw [tree, membersTrees, steps, chars, membersChars, List.tail_cons]
    simp only [quotedPieces, List.length_cons, List.length_append, List.length_nil]
    omega

theorem itemsSteps_le : (items : List (Spaced Spelling)) →
    itemsSteps (itemsTrees items) ≤ 2 * (itemsChars items).length + 1
  | [] => by rw [itemsTrees, itemsSteps]; omega
  | ⟨before, s, between⟩ :: items => by
    have := steps_le s
    have := itemsSteps_le items
    rw [itemsTrees, itemsSteps, itemsChars]
    simp only [List.length_cons, List.length_append]
    omega

theorem membersSteps_le : (members : List (Spaced (List Piece) × Spaced Spelling)) →
    membersSteps (membersTrees members) ≤ 2 * (membersChars members).length + 1
  | [] => by rw [membersTrees, membersSteps]; omega
  | (⟨before, name, colon⟩, ⟨before', s, between⟩) :: members => by
    have := steps_le s
    have := membersSteps_le members
    rw [membersTrees, membersSteps, membersChars]
    simp only [quotedPieces, List.length_cons, List.length_append]
    omega

end

end Spelling

def Spaced.chars (t : Spaced Spelling) : List Char := t.before.chars ++ (t.inner.chars ++ t.after.chars)

theorem Spaced.chars_none (s : Spelling) : Spaced.chars ⟨.none, s, .none⟩ = s.chars := List.append_nil s.chars

theorem Blanks.atEnd (b : Blanks) : AfterValue b.chars ∧ b.chars.dropWhile isJsonBlank = [] := by
  constructor
  · rw [← List.append_nil b.chars]
    exact .blanks b .nil
  · rw [← List.append_nil b.chars, dropWhile_blanks]
    rfl

theorem Spaced.exists_steps (t : Spaced Spelling) {length : Nat} (h : t.chars.length ≤ length) :
    ∃ k, 2 * length + 2 = t.inner.tree.steps + (k + 1) := by
  have := t.inner.steps_le
  rw [Spaced.chars] at h
  simp only [List.length_append] at h
  exact ⟨2 * length + 2 - t.inner.tree.steps - 1, by omega⟩

theorem Spaced.ofUnits?_chars (t : Spaced Spelling) (shallow : t.inner.tree.level ≤ Json.maxDepth) :
    Json.ofUnits? (unitsOf t.chars) = .ok t.inner.tree := by
  obtain ⟨after, atEnd⟩ := t.after.atEnd
  obtain ⟨k, enough⟩ := t.exists_steps (length_le_unitsOf t.chars)
  unfold Json.ofUnits?
  rw [enough, Spaced.chars, Json.read_blanks t.before _ _ (by omega),
    t.inner.read_chars [] false _ after (k + 1) 0 (by omega)]
  exact Json.read_end atEnd

end BrainHost.Script
