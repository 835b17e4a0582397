import BrainHost.Proofs.Json.ReadBack

/-! # Spelled texts are the strict ones

The strict reader accepts the texts of the standard, however deep they nest, and no others. So it accepts what the
engine writes. -/

namespace BrainHost.Script

open Document Json

variable {stack : List Document.Open} {task : Document.Task} {closable : Bool} {cs rest : List Char} {n : Nat}

theorem readJson_blanks (b : Blanks) (cs : List Char) :
    readJson n stack task (b.chars ++ cs) = readJson n stack task cs := by
  cases n with
  | zero => rfl
  | succ n =>
    unfold readJson
    rw [dropWhile_blanks]

theorem readJson_token {d : Document} (token : Token d cs rest) (trimmed : cs.dropWhile isJsonBlank = cs) (n : Nat) :
    ∃ d, readJson (1 + n) stack (.value closable) cs = readJson n stack (.place d) rest :=
  ⟨d, by rw [Nat.add_comm]; exact Step.readJson (.token token) trimmed n⟩

namespace Spelling

theorem exists_readJson_member (stack : List Document.Open) (members : List (Option String × Document))
    (closable : Bool) (before : Blanks) (name : List Piece) (colon : Blanks) (rest : List Char) : ∃ key, ∀ n,
      readJson (n + 1) stack (.key members closable) (before.chars ++ quotedPieces name (colon.chars ++ ':' :: rest))
        = readJson n (.table members key :: stack) (.value false) rest := by
  obtain ⟨key, read⟩ := exists_readJsonString name {} (colon.chars ++ ':' :: rest)
  have next : (colon.chars ++ ':' :: rest).dropWhile isJsonBlank = ':' :: rest :=
    (dropWhile_blanks colon _).trans (trimmed_cons rfl)
  exact ⟨key, fun n => (readJson_blanks before _).trans (Step.readJson (.key read next) (trimmed_cons rfl) n)⟩

mutual

theorem readJson_chars (stack : List Document.Open) (closable : Bool) (rest : List Char) (after : AfterValue rest)
    (n : Nat) : (s : Spelling) → ∃ d, readJson (s.tree.steps + n) stack (.value closable) (s.chars ++ rest)
      = readJson n stack (.place d) rest
  | null => by
    rw [chars, tree, steps]
    exact readJson_token .null (trimmed_cons rfl) n
  | bool true => by
    rw [chars, tree, steps]
    exact readJson_token .true (trimmed_cons rfl) n
  | bool false => by
    rw [chars, tree, steps]
    exact readJson_token .false (trimmed_cons rfl) n
  | number m => by
    obtain ⟨d, read⟩ := readJsonNumber_append m after
    obtain ⟨c, tail, head, start⟩ := exists_head_numeral m rest
    rw [chars, tree, steps]
    refine readJson_token (.number m read) ?_ n
    rw [head]
    exact trimmed_cons (visible_of_start start).2
  | string ps => by
    obtain ⟨s, read⟩ := exists_readJsonString ps {} rest
    rw [chars, tree, steps, quotedPieces_append, List.nil_append]
    exact readJson_token (.string read) (trimmed_cons rfl) n
  | array [] close => by
    refine ⟨.array [].reverse, ?_⟩
    rw [chars, itemsChars, tree, itemsTrees, steps, List.tail_nil, List.nil_append, List.cons_append,
      List.append_assoc, Nat.add_comm, Step.readJson .openArray (trimmed_cons rfl), readJson_blanks close]
    exact Step.readJson .emptyArray (trimmed_cons rfl) n
  | array (⟨before, s, between⟩ :: items) close => by
    obtain ⟨d, first⟩ := readJson_chars (.array [] :: stack) true _ (after_item between items close rest)
      (itemsSteps (itemsTrees items) + n) s
    obtain ⟨e, more⟩ := readJson_items stack [] d close rest n items
    refine ⟨e, ?_⟩
    rw [steps_array_add, chars, itemsChars, List.tail_cons]
    simp only [List.cons_append, List.append_assoc, List.nil_append]
    rw [Step.readJson .openArray (trimmed_cons rfl), readJson_blanks before, first, readJson_blanks between, more]
  | object [] close => by
    refine ⟨.table [].reverse, ?_⟩
    rw [chars, membersChars, tree, membersTrees, steps, List.tail_nil, List.nil_append, List.cons_append,
      List.append_assoc, Nat.add_comm, Step.readJson .openTable (trimmed_cons rfl), readJson_blanks close]
    exact Step.readJson .emptyTable (trimmed_cons rfl) n
  | object ((⟨before, name, colon⟩, ⟨before', s, between⟩) :: members) close => by
    obtain ⟨key, named⟩ := exists_readJson_member stack [] true before name colon
      (before'.chars ++ (s.chars ++ (between.chars ++ (membersChars members ++ (close.chars ++ '}' :: rest)))))
    obtain ⟨d, first⟩ := readJson_chars (.table [] key :: stack) false _ (after_member between members close rest)
      (membersSteps (membersTrees members) + n) s
    obtain ⟨e, more⟩ := readJson_members stack [] key d close rest n members
    refine ⟨e, ?_⟩
    rw [steps_object_add, chars, membersChars, List.tail_cons]
    simp only [List.cons_append, List.append_assoc, List.nil_append, quotedPieces_append]
    rw [Step.readJson .openTable (trimmed_cons rfl), named, readJson_blanks before', first, readJson_blanks between,
      more]

theorem readJson_items (stack : List Document.Open) (items' : List Document) (d : Document) (close : Blanks)
    (rest : List Char) (n : Nat) : (items : List (Spaced Spelling)) → ∃ e,
      readJson (itemsSteps (itemsTrees items) + n) (.array items' :: stack) (.place d)
        (itemsChars items ++ (close.chars ++ ']' :: rest)) = readJson n stack (.place e) rest
  | [] => by
    refine ⟨.array (d :: items').reverse, ?_⟩
    rw [itemsTrees, itemsSteps, itemsChars, List.nil_append, Nat.add_comm, readJson_blanks close]
    exact Step.readJson .closeArray (trimmed_cons rfl) n
  | ⟨before, s, between⟩ :: items => by
    obtain ⟨d', next⟩ := readJson_chars (.array (d :: items') :: stack) false _ (after_item between items close rest)
      (itemsSteps (itemsTrees items) + n) s
    obtain ⟨e, more⟩ := readJson_items stack (d :: items') d' close rest n items
    refine ⟨e, ?_⟩
    rw [itemsSteps_add, itemsChars]
    simp only [List.cons_append, List.append_assoc]
    rw [Step.readJson .nextItem (trimmed_cons rfl), readJson_blanks before, next, readJson_blanks between, more]

theorem readJson_members (stack : List Document.Open) (members' : List (Option String × Document))
    (key' : Option String) (d : Document) (close : Blanks) (rest : List Char) (n : Nat) :
    (members : List (Spaced (List Piece) × Spaced Spelling)) → ∃ e,
      readJson (membersSteps (membersTrees members) + n) (.table members' key' :: stack) (.place d)
        (membersChars members ++ (close.chars ++ '}' :: rest)) = readJson n stack (.place e) rest
  | [] => by
    refine ⟨.table ((key', d) :: members').reverse, ?_⟩
    rw [membersTrees, membersSteps, membersChars, List.nil_append, Nat.add_comm, readJson_blanks close]
    exact Step.readJson .closeTable (trimmed_cons rfl) n
  | (⟨before, name, colon⟩, ⟨before', s, between⟩) :: members => by
    obtain ⟨key, named⟩ := exists_readJson_member stack ((key', d) :: members') false before name colon
      (before'.chars ++ (s.chars ++ (between.chars ++ (membersChars members ++ (close.chars ++ '}' :: rest)))))
    obtain ⟨d', next⟩ := readJson_chars (.table ((key', d) :: members') key :: stack) false _
      (after_member between members close rest) (membersSteps (membersTrees members) + n) s
    obtain ⟨e, more⟩ := readJson_members stack ((key', d) :: members') key d' close rest n members
    refine ⟨e, ?_⟩
    rw [membersSteps_add, membersChars]
    simp only [List.cons_append, List.append_assoc, quotedPieces_append]
    rw [Step.readJson .nextMember (trimmed_cons rfl), named, readJson_blanks before', next, readJson_blanks between,
      more]

end

end Spelling

theorem Spaced.isJson_chars (t : Spaced Spelling) : isJson (String.ofList t.chars) = true := by
  obtain ⟨after, atEnd⟩ := t.after.atEnd
  obtain ⟨k, enough⟩ := t.exists_steps (Nat.le_refl _)
  obtain ⟨d, read⟩ := t.inner.readJson_chars [] false t.after.chars after (k + 1)
  unfold isJson ofJson?
  rw [String.toList_ofList]
  dsimp only
  rw [enough, Spaced.chars, readJson_blanks, read]
  unfold readJson
  rw [atEnd]
  rfl

/-! ## Strict texts -/

/-- What is left of a text after a part of the open containers. -/
inductive Rest : List Document.Open → List Char → Prop
  | nil (after : Blanks) : Rest [] after.chars
  | array {stack : List Document.Open} {items' : List Document} {rest : List Char} (between : Blanks)
    (items : List (Spaced Spelling)) (close : Blanks) (around : Rest stack rest) :
    Rest (.array items' :: stack) (between.chars ++ (Spelling.itemsChars items ++ (close.chars ++ ']' :: rest)))
  | table {stack : List Document.Open} {members' : List (Option String × Document)} {key : Option String}
    {rest : List Char} (between : Blanks) (members : List (Spaced (List Piece) × Spaced Spelling)) (close : Blanks)
    (around : Rest stack rest) :
    Rest (.table members' key :: stack)
      (between.chars ++ (Spelling.membersChars members ++ (close.chars ++ '}' :: rest)))

/-- What is left of a text before a value. -/
def ValueThen (stack : List Document.Open) (cs : List Char) : Prop :=
  ∃ (before : Blanks) (s : Spelling) (rest : List Char), cs = before.chars ++ (s.chars ++ rest) ∧ Rest stack rest

/-- What is left of a text at a task of the reader. -/
def Left : List Document.Open → Document.Task → List Char → Prop
  | stack, .place _, cs => Rest stack cs
  | stack, .value closable, cs => ValueThen stack cs ∨ closable = true ∧ ∃ (close : Blanks) (items : List Document)
      (around : List Document.Open) (rest : List Char),
      stack = .array items :: around ∧ cs = close.chars ++ ']' :: rest ∧ Rest around rest
  | stack, .key members closable, cs =>
    (∃ (before : Blanks) (name : List Piece) (colon : Blanks) (key : Option String) (rest : List Char),
      cs = before.chars ++ quotedPieces name (colon.chars ++ ':' :: rest) ∧ ValueThen (.table members key :: stack) rest) ∨
    closable = true ∧ ∃ (close : Blanks) (rest : List Char), cs = close.chars ++ '}' :: rest ∧ Rest stack rest

def Blanks.append (b b' : Blanks) : Blanks :=
  ⟨b.chars ++ b'.chars, fun c hc => (List.mem_append.mp hc).elim (b.blank c) (b'.blank c)⟩

/-- The blanks at the start of a text. -/
def Blanks.ahead (cs : List Char) : Blanks := ⟨cs.takeWhile isJsonBlank, fun _ => List.mem_takeWhile_imp⟩

theorem Blanks.ahead_append (cs : List Char) : (Blanks.ahead cs).chars ++ cs.dropWhile isJsonBlank = cs :=
  List.takeWhile_append_dropWhile

theorem Blanks.chars_append (b b' : Blanks) (cs : List Char) : b.chars ++ (b'.chars ++ cs) = (b.append b').chars ++ cs :=
  (List.append_assoc ..).symm

theorem Rest.blanks (b : Blanks) (h : Rest stack cs) : Rest stack (b.chars ++ cs) := by
  cases h with
  | nil after => exact .nil (b.append after)
  | array between items close around => exact b.chars_append between _ ▸ .array (b.append between) items close around
  | table between members close around => exact b.chars_append between _ ▸ .table (b.append between) members close around

theorem ValueThen.blanks (b : Blanks) (h : ValueThen stack cs) : ValueThen stack (b.chars ++ cs) := by
  obtain ⟨before, s, rest, rfl, around⟩ := h
  exact ⟨b.append before, s, rest, b.chars_append before _, around⟩

theorem Left.blanks (b : Blanks) (h : Left stack task cs) : Left stack task (b.chars ++ cs) := by
  cases task with
  | place d => exact Rest.blanks b h
  | value closable =>
    rcases h with h | ⟨closed, close, items, around, rest, e, rfl, more⟩
    · exact .inl (h.blanks b)
    · exact .inr ⟨closed, b.append close, items, around, rest, e, b.chars_append close _, more⟩
  | key members closable =>
    rcases h with ⟨before, name, colon, key, rest, rfl, more⟩ | ⟨closed, close, rest, rfl, more⟩
    · exact .inl ⟨b.append before, name, colon, key, rest, b.chars_append before _, more⟩
    · exact .inr ⟨closed, b.append close, rest, b.chars_append close _, more⟩

theorem exists_token_spelling {d : Document} (token : Token d cs rest) : ∃ s : Spelling, cs = s.chars ++ rest := by
  cases token with
  | string read =>
    obtain ⟨ps, rfl⟩ := exists_pieces {} read
    exact ⟨.string ps, by rw [Spelling.chars, quotedPieces_append]; rfl⟩
  | true => exact ⟨.bool true, by rw [Spelling.chars]; rfl⟩
  | false => exact ⟨.bool false, by rw [Spelling.chars]; rfl⟩
  | null => exact ⟨.null, by rw [Spelling.chars]; rfl⟩
  | number n _ => exact ⟨.number n, by rw [Spelling.chars]⟩

theorem ValueThen.items {items' : List Document} (h : ValueThen (.array items' :: stack) cs) :
    ∃ (items : List (Spaced Spelling)) (close : Blanks) (rest : List Char),
      Spelling.itemsChars items ++ (close.chars ++ ']' :: rest) = ',' :: cs ∧
        (Spelling.itemsChars items).tail ++ (close.chars ++ ']' :: rest) = cs ∧ Rest stack rest := by
  obtain ⟨before, s, _, rfl, around⟩ := h
  cases around with
  | array between items close around =>
    refine ⟨⟨before, s, between⟩ :: items, close, _, ?_, ?_, around⟩
    all_goals
      rw [Spelling.itemsChars]
      simp only [List.tail_cons, List.cons_append, List.append_assoc]

theorem ValueThen.members {members' : List (Option String × Document)} {key : Option String} (before : Blanks)
    (name : List Piece) (colon : Blanks) (h : ValueThen (.table members' key :: stack) cs) :
    let named := before.chars ++ quotedPieces name (colon.chars ++ ':' :: cs)
    ∃ (members : List (Spaced (List Piece) × Spaced Spelling)) (close : Blanks) (rest : List Char),
      Spelling.membersChars members ++ (close.chars ++ '}' :: rest) = ',' :: named ∧
        (Spelling.membersChars members).tail ++ (close.chars ++ '}' :: rest) = named ∧ Rest stack rest := by
  obtain ⟨before', s, _, rfl, around⟩ := h
  cases around with
  | table between members close around =>
    refine ⟨(⟨before, name, colon⟩, ⟨before', s, between⟩) :: members, close, _, ?_, ?_, around⟩
    all_goals
      rw [Spelling.membersChars]
      simp only [List.tail_cons, List.cons_append, List.append_assoc, quotedPieces_append]

/-- What is left before a step is what the step goes over and what is left after it. -/
theorem Left.step {stack' : List Document.Open} {task' : Document.Task} (step : Step stack task cs stack' task' rest)
    (h : Left stack' task' rest) : Left stack task cs := by
  cases step with
  | token token =>
    obtain ⟨s, rfl⟩ := exists_token_spelling token
    exact .inl ⟨.none, s, rest, rfl, h⟩
  | openArray =>
    rcases h with h | ⟨-, close, _, _, rest, e, rfl, h⟩
    · obtain ⟨items, close, rest, -, e, h⟩ := h.items
      refine .inl ⟨.none, .array items close, rest, ?_, h⟩
      rw [Spelling.chars, ← e]
      simp only [Blanks.none, List.nil_append, List.cons_append, List.append_assoc]
    · cases e
      refine .inl ⟨.none, .array [] close, rest, ?_, h⟩
      rw [Spelling.chars, Spelling.itemsChars]
      simp only [Blanks.none, List.tail_nil, List.nil_append, List.cons_append, List.append_assoc]
  | openTable =>
    rcases h with ⟨before, name, colon, key, _, rfl, h⟩ | ⟨-, close, rest, rfl, h⟩
    · obtain ⟨members, close, rest, -, e, h⟩ := h.members before name colon
      refine .inl ⟨.none, .object members close, rest, ?_, h⟩
      rw [Spelling.chars, ← e]
      simp only [Blanks.none, List.nil_append, List.cons_append, List.append_assoc]
    · refine .inl ⟨.none, .object [] close, rest, ?_, h⟩
      rw [Spelling.chars, Spelling.membersChars]
      simp only [Blanks.none, List.tail_nil, List.nil_append, List.cons_append, List.append_assoc]
  | emptyArray => exact .inr ⟨rfl, .none, _, _, rest, rfl, rfl, h⟩
  | emptyTable => exact .inr ⟨rfl, .none, rest, rfl, h⟩
  | @key _ _ _ _ _ after _ read colon =>
    rcases h with h | ⟨closed, -⟩
    · obtain ⟨ps, rfl⟩ := exists_pieces {} read
      refine .inl ⟨.none, ps, .ahead after, _, rest, ?_, h⟩
      rw [← colon, Blanks.ahead_append]
      rfl
    · cases closed
  | nextItem =>
    rcases h with h | ⟨closed, -⟩
    · obtain ⟨items, close, rest, e, -, h⟩ := h.items
      exact e ▸ Rest.array .none items close h
    · cases closed
  | closeArray => exact Rest.array .none [] .none h
  | nextMember =>
    rcases h with ⟨before, name, colon, key, _, rfl, h⟩ | ⟨closed, -⟩
    · obtain ⟨members, close, rest, e, -, h⟩ := h.members before name colon
      exact e ▸ Rest.table .none members close h
    · cases closed
  | closeTable => exact Rest.table .none [] .none h

theorem left_of_readJson {d : Document} (h : readJson n stack task cs = some d) : Left stack task cs := by
  induction n generalizing stack task cs with
  | zero => cases h
  | succ n ih =>
    rw [← Blanks.ahead_append cs]
    refine Left.blanks (.ahead cs) ?_
    rcases readJson_eq_some h with ⟨stack', task', rest, step, h⟩ | ⟨rfl, rfl, finished⟩
    · exact .step step (ih h)
    · rw [finished]
      exact Rest.nil .none

theorem isJson_iff {text : String} : isJson text = true ↔ ∃ t : Spaced Spelling, text = String.ofList t.chars := by
  constructor
  · intro h
    obtain ⟨d, read⟩ := Option.isSome_iff_exists.mp h
    rcases left_of_readJson read with ⟨before, s, rest, e, around⟩ | ⟨closed, -⟩
    · cases around with
      | nil after => exact ⟨⟨before, s, after⟩, by rw [Spaced.chars, ← e, String.ofList_toList]⟩
    · cases closed
  · rintro ⟨t, rfl⟩
    exact t.isJson_chars

theorem Json.isJson_chars (j : Json) : isJson (String.ofList j.chars) = true := by
  obtain ⟨s, text, -⟩ := exists_spelling j
  have strict := Spaced.isJson_chars ⟨.none, s, .none⟩
  rwa [Spaced.chars_none, text] at strict

end BrainHost.Script
