import BrainHost.Diagnostic
import BrainHost.Proofs.Number.Numeral
import BrainHost.Proofs.Text.Class
import Mathlib.Data.List.DropRight

/-! # The underline of a code line

A column is underlined with the name that starts there, and a line without a column from its first character to
its last, blanks apart. No underline leaves the line. -/

namespace BrainHost

open Text

/-- A letter or a digit of any script, an underscore or a dollar sign. -/
def IsNameChar (c : Char) : Prop := (∃ r ∈ alphanumericRanges, Holds r c.toNat) ∨ c = '_' ∨ c = '$'

/-- What of a line is underlined, by what stands before, in and after it. -/
inductive Underlined : List Char → Option Nat → Nat → Nat → Prop
  /-- The longest run of characters of names from the column on. -/
  | name (front run rest : List Char) (filled : run ≠ []) (all : ∀ c ∈ run, IsNameChar c)
      (ends : ∀ c ∈ rest.head?, ¬ IsNameChar c) :
    Underlined (front ++ run ++ rest) (some (front.length + 1)) front.length (front.length + run.length)
  /-- The character at the column, where no name starts. -/
  | character (front : List Char) (c : Char) (rest : List Char) (other : ¬ IsNameChar c) :
    Underlined (front ++ c :: rest) (some (front.length + 1)) front.length (front.length + 1)
  /-- The line without the blanks around it. -/
  | line (indent code tail : List Char) (filled : code ≠ []) (before : ∀ c ∈ indent, isBlank c = true)
      (first : ∀ c ∈ code.head?, isBlank c = false) (last : ∀ c ∈ code.getLast?, isBlank c = false)
      (after : ∀ c ∈ tail, isBlank c = true) :
    Underlined (indent ++ code ++ tail) none indent.length (indent.length + code.length)

namespace Underlined

variable {code : List Char} {column : Option Nat} {first last : Nat}

theorem bounds (h : Underlined code column first last) : first < last ∧ last ≤ code.length := by
  cases h with
  | name front run rest filled =>
    have := List.length_pos_of_ne_nil filled
    simp only [List.length_append]
    omega
  | character front c rest =>
    simp only [List.length_append, List.length_cons]
    omega
  | line indent code tail filled =>
    have := List.length_pos_of_ne_nil filled
    simp only [List.length_append]
    omega

end Underlined

namespace Diagnostic

theorem isWord_iff (c : Char) : isWord c = true ↔ IsNameChar c := by
  simp [isWord, IsNameChar, isAlphanumeric_iff, or_assoc]

/-! ## Blanks -/

theorem trimEnd_eq {body tail : List Char} (last : ∀ c ∈ body.getLast?, isBlank c = false)
    (after : ∀ c ∈ tail, isBlank c = true) : trimEnd (body ++ tail) = body := by
  have blank : ∀ c ∈ tail.reverse, isBlank c = true := fun c mem => after c (List.mem_reverse.mp mem)
  have kept : body.reverse.dropWhile isBlank = body.reverse := by
    cases e : body.reverse with
    | nil => rfl
    | cons c cs =>
      have final : body.getLast? = some c := by rw [← List.head?_reverse, e, List.head?_cons]
      exact List.dropWhile_cons_of_neg (by simp [last c final])
  unfold trimEnd
  rw [List.reverse_append, List.dropWhile_append_of_pos blank, kept, List.reverse_reverse]

/-! ## The columns -/

theorem underlineIn_line {indent code tail : List Char} (filled : code ≠ []) (before : ∀ c ∈ indent, isBlank c = true)
    (first : ∀ c ∈ code.head?, isBlank c = false) (last : ∀ c ∈ code.getLast?, isBlank c = false)
    (after : ∀ c ∈ tail, isBlank c = true) :
    underlineIn (indent ++ code ++ tail) none = some (indent.length, indent.length + code.length) := by
  have final : ∀ c ∈ (indent ++ code).getLast?, isBlank c = false := by
    rw [List.getLast?_append_of_ne_nil _ filled]
    exact last
  have room := List.length_pos_of_ne_nil filled
  unfold underlineIn
  dsimp only
  rw [trimEnd_eq final after, takeWhile_append_of_stop before first, List.length_append, if_neg (by omega)]

theorem underlined_line {code : List Char} (filled : ∃ c ∈ code, isBlank c = false) :
    ∃ first last, underlineIn code none = some (first, last) ∧ Underlined code none first last := by
  obtain ⟨c, mem, dark⟩ := filled
  -- The line falls into its indent, the code and what the trimming drops.
  have indented := List.takeWhile_append_dropWhile (p := isBlank) (l := trimEnd code)
  have trimmed : trimEnd code ++ code.rtakeWhile isBlank = code := List.rdropWhile_append_rtakeWhile ..
  have before : ∀ c ∈ (trimEnd code).takeWhile isBlank, isBlank c = true := fun c => List.mem_takeWhile_imp
  have after : ∀ c ∈ code.rtakeWhile isBlank, isBlank c = true := fun c => List.mem_rtakeWhile_imp
  have filled : (trimEnd code).dropWhile isBlank ≠ [] := by
    intro e
    rw [← trimmed, List.mem_append] at mem
    rcases mem with mem | mem
    · exact absurd (List.dropWhile_eq_nil_iff.mp e c mem) (by simp [dark])
    · exact absurd (after c mem) (by simp [dark])
  have last : ∀ c ∈ ((trimEnd code).dropWhile isBlank).getLast?, isBlank c = false := by
    intro c final
    have kept : trimEnd code ≠ [] := fun e => filled (by rw [e]; rfl)
    have whole : (trimEnd code).getLast? = some c := by
      rw [← indented, List.getLast?_append_of_ne_nil _ filled]
      exact final
    have dark := List.rdropWhile_last_not isBlank code kept
    rw [List.getLast?_eq_some_getLast kept] at whole
    injection whole with whole
    rw [← whole]
    exact Bool.eq_false_iff.mpr dark
  have first : ∀ c ∈ ((trimEnd code).dropWhile isBlank).head?, isBlank c = false := fun c => head_dropWhile_false
  have parts : (trimEnd code).takeWhile isBlank ++ (trimEnd code).dropWhile isBlank ++ code.rtakeWhile isBlank
      = code := by rw [indented, trimmed]
  have shown := underlineIn_line filled before first last after
  have marked := Underlined.line _ _ _ filled before first last after
  rw [parts] at shown marked
  exact ⟨_, _, shown, marked⟩

theorem underlineIn_blank {code : List Char} (blank : ∀ c ∈ code, isBlank c = true) : underlineIn code none = none := by
  have trimmed : trimEnd code = [] := List.rdropWhile_eq_nil_iff.mpr blank
  unfold underlineIn
  dsimp only
  rw [trimmed]
  rfl

theorem underlineIn_column (front : List Char) (c : Char) (rest : List Char) :
    underlineIn (front ++ c :: rest) (some (front.length + 1)) =
      some (front.length, front.length + max ((c :: rest).takeWhile isWord).length 1) := by
  unfold underlineIn
  dsimp only
  rw [List.drop_left]

theorem underlined_column (front : List Char) (c : Char) (rest : List Char) :
    Underlined (front ++ c :: rest) (some (front.length + 1)) front.length
      (front.length + max ((c :: rest).takeWhile isWord).length 1) := by
  cases e : (c :: rest).takeWhile isWord with
  | nil =>
    refine .character front c rest fun named => ?_
    rw [List.takeWhile_cons_of_pos ((isWord_iff c).mpr named)] at e
    exact nomatch e
  | cons d run =>
    have whole := List.takeWhile_append_dropWhile (p := isWord) (l := c :: rest)
    rw [e] at whole
    have filled : max (d :: run).length 1 = (d :: run).length := Nat.max_eq_left (Nat.le_add_left 1 run.length)
    rw [filled, ← whole, ← List.append_assoc]
    refine .name front (d :: run) _ (List.cons_ne_nil _ _) (fun c mem => ?_) fun c mem named => ?_
    · exact (isWord_iff c).mp (List.mem_takeWhile_imp (e ▸ mem))
    · exact absurd (head_dropWhile_false mem) (by simp [(isWord_iff c).mpr named])

theorem underlineIn_past {code : List Char} {column : Nat} (past : code.length < column) :
    underlineIn code (some column) = none := by
  match column with
  | start + 1 =>
    unfold underlineIn
    dsimp only
    rw [List.drop_eq_nil_of_le (Nat.le_of_lt_succ past)]

theorem exists_at {code : List Char} {start : Nat} (inside : start < code.length) :
    ∃ front c rest, code = front ++ c :: rest ∧ start = front.length :=
  ⟨code.take start, code[start], code.drop (start + 1), by simp, by simp [Nat.le_of_lt inside]⟩

theorem underlineIn_eq_some {code : List Char} {column : Option Nat} {first last : Nat} :
    underlineIn code column = some (first, last) ↔ Underlined code column first last := by
  constructor
  · intro marked
    match column with
    | some 0 => exact nomatch marked
    | some (start + 1) =>
      rcases Nat.lt_or_ge start code.length with inside | past
      · obtain ⟨front, c, rest, rfl, rfl⟩ := exists_at inside
        rw [underlineIn_column] at marked
        cases marked
        exact underlined_column front c rest
      · rw [underlineIn_past (Nat.lt_succ_of_le past)] at marked
        exact nomatch marked
    | none =>
      by_cases filled : ∃ c ∈ code, isBlank c = false
      · obtain ⟨first', last', shown, underlined⟩ := underlined_line filled
        cases shown.symm.trans marked
        exact underlined
      · rw [underlineIn_blank fun c mem => Bool.eq_true_of_not_eq_false fun dark => filled ⟨c, mem, dark⟩] at marked
        exact nomatch marked
  · intro h
    cases h with
    | name front run rest filled all ends =>
      obtain ⟨c, run, rfl⟩ := List.exists_cons_of_ne_nil filled
      have taken : (c :: (run ++ rest)).takeWhile isWord = c :: run :=
        takeWhile_append_of_stop (fun c mem => (isWord_iff c).mpr (all c mem)) fun c mem =>
          Bool.eq_false_iff.mpr fun word => ends c mem ((isWord_iff c).mp word)
      rw [List.append_assoc, List.cons_append, underlineIn_column, taken]
      simp
    | character front c rest other =>
      have none_taken : (c :: rest).takeWhile isWord = [] :=
        List.takeWhile_cons_of_neg fun word => other ((isWord_iff c).mp word)
      rw [underlineIn_column, none_taken]
      rfl
    | line indent code tail filled before first last after => exact underlineIn_line filled before first last after

theorem isSome_underlineIn_column (code : List Char) (column : Nat) :
    (underlineIn code (some column)).isSome ↔ 1 ≤ column ∧ column ≤ code.length := by
  match column with
  | 0 => exact ⟨(nomatch ·), (nomatch ·.1)⟩
  | start + 1 =>
    rcases Nat.lt_or_ge start code.length with inside | past
    · obtain ⟨front, c, rest, rfl, rfl⟩ := exists_at inside
      rw [underlineIn_column]
      exact ⟨fun _ => ⟨Nat.le_add_left 1 _, inside⟩, fun _ => rfl⟩
    · rw [underlineIn_past (Nat.lt_succ_of_le past)]
      exact ⟨(nomatch ·), fun h => absurd h.2 (Nat.not_le.mpr (Nat.lt_succ_of_le past))⟩

theorem isSome_underlineIn_none (code : List Char) :
    (underlineIn code none).isSome ↔ ∃ c ∈ code, isBlank c = false := by
  constructor
  · intro some_mark
    by_contra blank
    rw [underlineIn_blank fun c mem => Bool.eq_true_of_not_eq_false fun dark => blank ⟨c, mem, dark⟩] at some_mark
    exact nomatch some_mark
  · intro filled
    obtain ⟨first, last, shown, -⟩ := underlined_line filled
    rw [shown]
    rfl

/-! ## The diagnostic -/

/-- The row under a line of code: blanks up to the first column and a caret for each column from there. -/
def caretRow (first last : Nat) : String :=
  String.ofList (List.replicate first ' ' ++ List.replicate (last - first) '^')

theorem snippet_underlined {d : Diagnostic} {code : String} {first last : Nat} (quoted : d.sourceLine = some code)
    (marked : d.underline = some (first, last)) :
    d.snippet = "The code:\n" ++ code ++ "\n" ++ caretRow first last ++ "\n" := by
  have row : "".pushn ' ' first ++ "".pushn '^' (last - first) = caretRow first last := by
    rw [← String.toList_inj, String.toList_append, Number.toList_pushn, Number.toList_pushn]
    simp [caretRow]
  unfold snippet
  rw [quoted, marked]
  dsimp only
  rw [row]
  simp only [String.append_assoc]

/-- **Underlines.** What is underlined of the line that a diagnostic quotes is the name at its column, or the
character there where no name starts, or without a column the line without the blanks around it. There is an
underline exactly where the column lies in the line, or where the line is not blank. It is not empty and ends with
the line at the latest, and the row of carets takes as many characters as the line has up to there. -/
theorem underline_in_line (d : Diagnostic) :
    (d.sourceLine = none → d.underline = none) ∧
    ∀ code, d.sourceLine = some code →
      (∀ first last, d.underline = some (first, last) ↔ Underlined code.toList d.column first last) ∧
      (∀ column, d.column = some column → (d.underline.isSome ↔ 1 ≤ column ∧ column ≤ code.toList.length)) ∧
      (d.column = none → (d.underline.isSome ↔ ∃ c ∈ code.toList, isBlank c = false)) ∧
      ∀ first last, d.underline = some (first, last) →
        first < last ∧ last ≤ code.toList.length ∧
        d.snippet = "The code:\n" ++ code ++ "\n" ++ caretRow first last ++ "\n" ∧
        (caretRow first last).toList.length = last := by
  refine ⟨fun unquoted => ?_, fun code quoted => ?_⟩
  · unfold underline
    rw [unquoted]
    rfl
  · have here : d.underline = underlineIn code.toList d.column := by
      unfold underline
      rw [quoted]
      rfl
    refine ⟨fun first last => ?_, fun column placed => ?_, fun free => ?_, fun first last marked => ?_⟩
    · rw [here]
      exact underlineIn_eq_some
    · rw [here, placed]
      exact isSome_underlineIn_column code.toList column
    · rw [here, free]
      exact isSome_underlineIn_none code.toList
    · obtain ⟨nonempty, inside⟩ := (underlineIn_eq_some.mp (here ▸ marked)).bounds
      refine ⟨nonempty, inside, snippet_underlined quoted marked, ?_⟩
      simp only [caretRow, String.toList_ofList, List.length_append, List.length_replicate]
      omega

end Diagnostic

end BrainHost
