import BrainHost.Diagnostic
import BrainHost.Proofs.Number.Numeral
import BrainHost.Proofs.Text.Class
import BrainHost.Proofs.Text.Lines

/-! # Stacks

The place that a diagnostic shows is read back from the text of a stack. It is the place of the first frame
that has one, as long as names do not break lines and files do not open parentheses. -/

namespace BrainHost

open Text

/-- A frame of a stack: the name of a function, and its place unless it is a function of the engine. -/
structure StackFrame where
  name : String
  place : Option Location

def Location.text (p : Location) : String :=
  p.file ++ ":" ++ toString p.line ++ p.column.elim "" fun column => ":" ++ toString column

def StackFrame.inner (f : StackFrame) : String := f.place.elim "native" Location.text

def StackFrame.line (f : StackFrame) : String := "    at " ++ f.name ++ " (" ++ f.inner ++ ")"

/-- The text of a stack: a line for each frame. -/
def stackText : List StackFrame → String
  | [] => ""
  | f :: frames => f.line ++ "\n" ++ stackText frames

/-- A place whose text can be read back: its file does not break the line and opens no parenthesis, and where no
column follows the file does not end like a line. -/
structure Location.Legible (p : Location) : Prop where
  file : ∀ c ∈ p.file.toList, c ≠ '\n' ∧ c ≠ '('
  line : p.line < 2 ^ 32
  column : ∀ column ∈ p.column, column < 2 ^ 32
  ending : p.column = none → ∀ front last, splitLast ':' p.file.toList = some (front, last) → readLineNumber last = none

structure StackFrame.Legible (f : StackFrame) : Prop where
  name : '\n' ∉ f.name.toList
  place : ∀ p ∈ f.place, p.Legible

/-- The place of the first frame that has one. -/
inductive Shows : List StackFrame → Location → Prop
  | here {f : StackFrame} {p : Location} (legible : f.Legible) (placed : f.place = some p) (rest : List StackFrame) :
    Shows (f :: rest) p
  | native {f : StackFrame} {p : Location} {rest : List StackFrame} (legible : f.Legible) (native : f.place = none)
    (next : Shows rest p) : Shows (f :: rest) p

/-! ## Numbers -/

theorem readLineNumber_toDigits {n : Nat} (h : n < 2 ^ 32) : readLineNumber (Nat.toDigits 10 n) = some n := by
  have digits := Number.digits_toDigits n
  have value := Number.foldl_toDigits n
  have filled : (Nat.toDigits 10 n).isEmpty = false := List.isEmpty_eq_false_iff.mpr Nat.toDigits_ne_nil
  have all : (Nat.toDigits 10 n).all Char.isDigit = true := List.all_eq_true.mpr digits
  unfold readLineNumber
  dsimp only
  split
  · next e => exact absurd (digits '+' (e ▸ List.mem_cons_self)) (by decide)
  · rw [filled, all, value]
    exact if_pos h

/-! ## Places -/

theorem splitLast_eq {c : Char} {back : List Char} (h : c ∉ back) (front : List Char) :
    splitLast c (front ++ c :: back) = some (front, back) := by
  have other : ∀ d ∈ back.reverse, (decide (d ≠ c)) = true := fun d hd =>
    decide_eq_true fun e => h (e ▸ List.mem_reverse.mp hd)
  have cut : (front ++ c :: back).reverse = back.reverse ++ c :: front.reverse := by simp
  unfold splitLast
  dsimp only
  rw [cut, List.takeWhile_append_of_pos other, List.dropWhile_append_of_pos other]
  simp

theorem not_mem_toDigits {c : Char} (h : c.isDigit = false) (n : Nat) : c ∉ Nat.toDigits 10 n := fun m =>
  absurd (Number.digits_toDigits n c m) (by simp [h])

theorem splitLast_number (front : List Char) (n : Nat) :
    splitLast ':' (front ++ ':' :: Nat.toDigits 10 n) = some (front, Nat.toDigits 10 n) :=
  splitLast_eq (not_mem_toDigits (by decide) n) front

theorem Location.ofText?_text {p : Location} (h : p.Legible) : ofText? p.text.toList = some p := by
  obtain ⟨file, line, column⟩ := p
  cases column with
  | none =>
    have written : (text ⟨file, line, none⟩).toList = file.toList ++ ':' :: Nat.toDigits 10 line := by
      simp [text]
    have unnumbered : ((splitLast ':' file.toList).bind fun cut => (readLineNumber cut.2).map (cut.1, ·)) = none := by
      cases e : splitLast ':' file.toList with
      | none => rfl
      | some cut => simp [h.ending rfl cut.1 cut.2 e]
    unfold ofText?
    simp [written, splitLast_number, readLineNumber_toDigits h.line, unnumbered]
  | some column =>
    have written : (text ⟨file, line, some column⟩).toList =
        (file.toList ++ ':' :: Nat.toDigits 10 line) ++ ':' :: Nat.toDigits 10 column := by
      simp [text]
    have read := readLineNumber_toDigits (h.column column rfl)
    have whole : ((splitLast ':' (file.toList ++ ':' :: Nat.toDigits 10 line)).bind fun cut =>
        (readLineNumber cut.2).map (cut.1, ·)) = some (file.toList, line) := by
      simp [splitLast_number, readLineNumber_toDigits h.line]
    unfold ofText?
    rw [written, splitLast_number]
    simp [read, whole, -List.append_assoc]

theorem Location.not_mem_text {c : Char} (digit : c.isDigit = false) (colon : c ≠ ':') {p : Location}
    (file : c ∉ p.file.toList) : c ∉ p.text.toList := by
  cases e : p.column with
  | none => simp [text, e, file, colon, not_mem_toDigits digit]
  | some column => simp [text, e, file, colon, not_mem_toDigits digit]

/-! ## Frames -/

theorem frameLocation_parens {inner : List Char} (h : '(' ∉ inner) (before : List Char) :
    frameLocation (before ++ '(' :: (inner ++ [')'])) = inner := by
  have opened : splitLast '(' (before ++ '(' :: (inner ++ [')'])) = some (before, inner ++ [')']) :=
    splitLast_eq (by simpa using h) before
  have closed : splitLast ')' (before ++ '(' :: (inner ++ [')'])) = some (before ++ '(' :: inner, []) := by
    simpa using splitLast_eq (c := ')') (List.not_mem_nil) (before ++ '(' :: inner)
  unfold frameLocation
  rw [opened, closed]
  simp

theorem trimEnd_append {c : Char} (h : isBlank c = false) (cs : List Char) : trimEnd (cs ++ [c]) = cs ++ [c] := by
  simp [trimEnd, h]

theorem StackFrame.toList_line (f : StackFrame) :
    f.line.toList =
      "    ".toList ++ ("at ".toList ++ (f.name.toList ++ [' ']) ++ '(' :: (f.inner.toList ++ [')'])) := by
  simp [line]

theorem StackFrame.trim_line (f : StackFrame) :
    trim f.line.toList = 'a' :: 't' :: ' ' :: ((f.name.toList ++ [' ']) ++ '(' :: (f.inner.toList ++ [')'])) := by
  have indented : f.line.toList.dropWhile isBlank =
      ('a' :: 't' :: ' ' :: ((f.name.toList ++ [' ']) ++ '(' :: f.inner.toList)) ++ [')'] := by
    rw [toList_line]
    have blank : isBlank ' ' = true := by decide
    have letter : isBlank 'a' = false := by decide
    simp [blank, letter]
  unfold trim
  rw [indented, trimEnd_append (by decide)]
  simp

theorem StackFrame.not_mem_inner {c : Char} (digit : c.isDigit = false) (colon : c ≠ ':') (native : c ∉ "native".toList)
    {f : StackFrame} (file : ∀ p ∈ f.place, c ∉ p.file.toList) : c ∉ f.inner.toList := by
  cases e : f.place with
  | none => simpa [inner, e] using native
  | some p => simpa [inner, e] using Location.not_mem_text digit colon (file p e)

theorem Location.ofFrame?_line {f : StackFrame} (h : f.Legible) : ofFrame? f.line.toList = f.place := by
  have parens : '(' ∉ f.inner.toList :=
    StackFrame.not_mem_inner (by decide) (by decide) (by decide) fun p hp m => ((h.place p hp).file _ m).2 rfl
  unfold ofFrame?
  rw [f.trim_line]
  change ofText? (frameLocation _) = _
  rw [frameLocation_parens parens]
  cases e : f.place with
  | none =>
    have named : f.inner = "native" := by simp [StackFrame.inner, e]
    rw [named]
    decide
  | some p =>
    have placed : f.inner = p.text := by simp [StackFrame.inner, e]
    rw [placed, ofText?_text (h.place p e)]

/-! ## Lines -/

theorem linesOf_stackText {f : StackFrame} (h : f.Legible) (frames : List StackFrame) :
    linesOf (stackText (f :: frames)).toList = f.line.toList :: linesOf (stackText frames).toList := by
  have inner : '\n' ∉ f.inner.toList :=
    StackFrame.not_mem_inner (by decide) (by decide) (by decide) fun p hp m => ((h.place p hp).file _ m).1 rfl
  have unbroken : '\n' ∉ f.line.toList := by
    rw [f.toList_line]
    simp [h.name, inner]
  have written : (stackText (f :: frames)).toList = f.line.toList ++ '\n' :: (stackText frames).toList := by
    simp [stackText]
  have closed : f.line.toList = ("    at " ++ f.name ++ " (" ++ f.inner).toList ++ [')'] := by simp [StackFrame.line]
  have bare : f.line.toList.getLast? ≠ some '\r' := by
    rw [closed, List.getLast?_concat]
    decide
  rw [written]
  exact linesOf_fed unbroken bare _

theorem Shows.ofStack?_eq {frames : List StackFrame} {p : Location} (h : Shows frames p) :
    Location.ofStack? (stackText frames) = some p := by
  unfold Location.ofStack?
  induction h with
  | here legible placed rest =>
    rw [linesOf_stackText legible, List.findSome?_cons, Location.ofFrame?_line legible, placed]
  | native legible native _ ih =>
    rw [linesOf_stackText legible, List.findSome?_cons, Location.ofFrame?_line legible, native]
    exact ih

/-! ## Rows

A stack has a row for each frame: a function with its place or of the engine, or a place alone. Whatever the
functions are called, the place that is read from the stack is that of the first frame that has one. -/

inductive Frame
  /-- A function and where it was in its file. -/
  | function (name : String) (place : Location)
  /-- A place without a function. -/
  | bare (place : Location)
  /-- A function of the engine. -/
  | native (name : String)

namespace Frame

def line : Frame → String
  | function name place => "    at " ++ name ++ " (" ++ place.text ++ ")"
  | bare place => "    at " ++ place.text
  | native name => "    at " ++ name ++ " (native)"

def place : Frame → Option Location
  | function _ place => some place
  | bare place => some place
  | native _ => none

/-- The rows of a stack, with or without an end of the last one. -/
def Rows (frames : List Frame) (stack : String) : Prop :=
  ∃ tail ∈ ["", "\n"], stack = "\n".intercalate (frames.map line) ++ tail

end Frame

/-- The file is a text without line feeds and parentheses, line and column are 32-bit numbers, and a file without a
column behind it does not end in a colon and such a number. -/
structure Location.Clear (p : Location) : Prop where
  file : ∀ c ∈ p.file.toList, c ≠ '\n' ∧ c ≠ '(' ∧ c ≠ ')'
  line : p.line < 2 ^ 32
  column : ∀ column ∈ p.column, column < 2 ^ 32
  ending : p.column = none → ∀ front last, p.file.toList = front ++ ':' :: last → readLineNumber last = none

/-- The name does not break the line, and the place is clear. -/
inductive Frame.Clear : Frame → Prop
  | function {name : String} {place : Location} (named : '\n' ∉ name.toList) (placed : place.Clear) :
    Clear (.function name place)
  | bare {place : Location} (placed : place.Clear) : Clear (.bare place)
  | native {name : String} (named : '\n' ∉ name.toList) : Clear (.native name)

/-! ## One frame -/

theorem splitLast_eq_some {c : Char} {cs front back : List Char} (h : splitLast c cs = some (front, back)) :
    cs = front ++ c :: back := by
  unfold splitLast at h
  dsimp only at h
  split at h
  · cases h
  · next d rest e =>
    cases h
    have here : d = c := by
      have := head_dropWhile_false (p := fun x => decide (x ≠ c)) (by rw [e, List.head?_cons])
      simpa using this
    have whole := List.takeWhile_append_dropWhile (p := fun x => decide (x ≠ c)) (l := cs.reverse)
    rw [e, here] at whole
    have turned := congrArg List.reverse whole
    simpa using turned.symm

theorem splitLast_eq_none {c : Char} {cs : List Char} (h : c ∉ cs) : splitLast c cs = none := by
  cases e : splitLast c cs with
  | none => rfl
  | some cut => exact absurd (splitLast_eq_some e ▸ by simp) h

theorem Location.Clear.legible {p : Location} (h : p.Clear) : p.Legible where
  file := fun c mem => ⟨(h.file c mem).1, (h.file c mem).2.1⟩
  line := h.line
  column := h.column
  ending := fun none_behind front last cut => h.ending none_behind front last (splitLast_eq_some cut)

/-! ## The ends of rows -/

theorem isBlank_digit {c : Char} (h : c.isDigit = true) : isBlank c = false := by
  obtain ⟨low, high⟩ := Number.isDigit_bounds h
  unfold isBlank
  simp only [Bool.or_eq_false_iff, Bool.and_eq_false_iff, decide_eq_false_iff_not]
  omega

theorem toDigits_ends (n : Nat) : ∃ front c, Nat.toDigits 10 n = front ++ [c] ∧ isBlank c = false := by
  rcases List.eq_nil_or_concat' (Nat.toDigits 10 n) with e | ⟨front, c, e⟩
  · exact absurd e Nat.toDigits_ne_nil
  · refine ⟨front, c, e, isBlank_digit (Number.digits_toDigits n c ?_)⟩
    rw [e]
    simp

theorem Location.text_ends (p : Location) : ∃ front c, p.text.toList = front ++ [c] ∧ isBlank c = false := by
  obtain ⟨file, line, column⟩ := p
  cases column with
  | none =>
    obtain ⟨front, c, e, dark⟩ := toDigits_ends line
    exact ⟨file.toList ++ ':' :: front, c, by simp [text, e], dark⟩
  | some column =>
    obtain ⟨front, c, e, dark⟩ := toDigits_ends column
    exact ⟨file.toList ++ ':' :: (Nat.toDigits 10 line ++ ':' :: front), c, by simp [text, e], dark⟩

namespace Frame

theorem line_ends (f : Frame) : ∃ front c, f.line.toList = front ++ [c] ∧ isBlank c = false := by
  cases f with
  | function name place =>
    exact ⟨("    at " ++ name ++ " (" ++ place.text).toList, ')', by simp [line], by decide⟩
  | bare place =>
    obtain ⟨front, c, e, dark⟩ := place.text_ends
    exact ⟨"    at ".toList ++ front, c, by simp [line, e], dark⟩
  | native name =>
    exact ⟨("    at " ++ name ++ " (native").toList, ')', by simp [line], by decide⟩

theorem Clear.unbroken {f : Frame} (h : f.Clear) : '\n' ∉ f.line.toList := by
  have place {p : Location} (clear : p.Clear) : '\n' ∉ p.text.toList :=
    Location.not_mem_text (by decide) (by decide) fun mem => (clear.file _ mem).1 rfl
  cases h with
  | function named placed => simp [line, named, place placed]
  | bare placed => simp [line, place placed]
  | native named => simp [line, named]

end Frame

/-! ## One row -/

theorem frameLocation_bare {cs : List Char} (h : '(' ∉ cs) : frameLocation cs = cs := by
  unfold frameLocation
  rw [splitLast_eq_none h]

theorem Location.ofFrame?_bare {p : Location} (h : p.Clear) : ofFrame? (Frame.bare p).line.toList = some p := by
  obtain ⟨front, c, e, dark⟩ := p.text_ends
  have trimmed : trim (Frame.bare p).line.toList = 'a' :: 't' :: ' ' :: p.text.toList := by
    have indented : (Frame.bare p).line.toList.dropWhile isBlank = ('a' :: 't' :: ' ' :: front) ++ [c] := by
      have blank : isBlank ' ' = true := by decide
      have letter : isBlank 'a' = false := by decide
      simp [Frame.line, e, blank, letter]
    unfold trim
    rw [indented, trimEnd_append dark, e]
    rfl
  have parens : '(' ∉ p.text.toList := not_mem_text (by decide) (by decide) fun mem => (h.file _ mem).2.1 rfl
  unfold ofFrame?
  rw [trimmed]
  change ofText? (frameLocation p.text.toList) = some p
  rw [frameLocation_bare parens, ofText?_text h.legible]

theorem Location.ofFrame?_frame {f : Frame} (h : f.Clear) : ofFrame? f.line.toList = f.place := by
  cases h with
  | @function name place named placed =>
    exact ofFrame?_line (f := ⟨name, some place⟩) ⟨named, fun p mem => Option.some.inj mem ▸ placed.legible⟩
  | bare placed => exact ofFrame?_bare placed
  | @native name named =>
    have same : (Frame.native name).line = (StackFrame.mk name none).line := by
      simp [← String.toList_inj, Frame.line, StackFrame.line, StackFrame.inner]
    rw [same]
    exact ofFrame?_line (f := ⟨name, none⟩) ⟨named, nofun⟩

/-! ## The stack -/

theorem Frame.Clear.linesOf_last {f : Frame} (h : f.Clear) : linesOf f.line.toList = [f.line.toList] := by
  obtain ⟨front, c, e, -⟩ := f.line_ends
  exact Text.linesOf_last (by simp [e]) h.unbroken

theorem Frame.Clear.linesOf_row {f : Frame} (h : f.Clear) (rest : List Char) :
    linesOf (f.line.toList ++ '\n' :: rest) = f.line.toList :: linesOf rest := by
  obtain ⟨front, c, e, dark⟩ := f.line_ends
  have bare : f.line.toList.getLast? ≠ some '\r' := by
    rw [e, List.getLast?_concat]
    rintro ⟨⟩
    exact absurd dark (by decide)
  exact linesOf_fed h.unbroken bare rest

theorem linesOf_rows {frames : List Frame} (clear : ∀ f ∈ frames, f.Clear) {stack : String}
    (rows : Frame.Rows frames stack) (filled : frames ≠ []) :
    linesOf stack.toList = frames.map fun f => f.line.toList := by
  obtain ⟨tail, ending, rfl⟩ := rows
  induction frames with
  | nil => exact absurd rfl filled
  | cons f frames ih =>
    have here := clear f List.mem_cons_self
    cases frames with
    | nil =>
      simp only [List.mem_cons, List.not_mem_nil, or_false] at ending
      rcases ending with rfl | rfl
      · simpa using here.linesOf_last
      · simpa [linesOf, linesFrom] using here.linesOf_row []
    | cons g frames =>
      have split : ("\n".intercalate ((f :: g :: frames).map Frame.line) ++ tail).toList =
          f.line.toList ++ '\n' :: ("\n".intercalate ((g :: frames).map Frame.line) ++ tail).toList := by
        rw [List.map_cons, List.map_cons, String.intercalate_cons_cons]
        simp
      rw [split, here.linesOf_row, ih (fun f mem => clear f (List.mem_cons_of_mem _ mem)) (List.cons_ne_nil _ _)]
      rfl

theorem findSome?_rows {frames : List Frame} (clear : ∀ f ∈ frames, f.Clear) :
    (frames.map fun f => f.line.toList).findSome? Location.ofFrame? = frames.findSome? Frame.place := by
  induction frames with
  | nil => rfl
  | cons f frames ih =>
    rw [List.map_cons, List.findSome?_cons, List.findSome?_cons, Location.ofFrame?_frame (clear f List.mem_cons_self),
      ih fun f mem => clear f (List.mem_cons_of_mem _ mem)]

/-- **Frames.** The place of a stack is that of its first frame that has one, with the file, the line and the
column that its row says; a stack whose frames are all of the engine has none. -/
theorem first_frame_places (frames : List Frame) (clear : ∀ f ∈ frames, f.Clear) (stack : String)
    (rows : Frame.Rows frames stack) : Location.ofStack? stack = (frames.filterMap Frame.place).head? := by
  unfold Location.ofStack?
  rw [List.head?_filterMap]
  cases frames with
  | nil =>
    obtain ⟨tail, ending, rfl⟩ := rows
    simp only [List.mem_cons, List.not_mem_nil, or_false] at ending
    rcases ending with rfl | rfl <;> decide
  | cons f frames =>
    rw [linesOf_rows clear rows (List.cons_ne_nil _ _), findSome?_rows clear]

/-- A call of the engine's under a name that looks like a place, from a function with parentheses in its name in a
file with a drive. -/
def strangeFrames : List Frame :=
  [.native "at (a:1:2)", .function "(b) c:3" ⟨"C:\\mod.js", 4, none⟩, .bare ⟨"d", 5, none⟩]

theorem strangeFrames_place :
    (∀ f ∈ strangeFrames, f.Clear) ∧
      Frame.Rows strangeFrames "    at at (a:1:2) (native)\n    at (b) c:3 (C:\\mod.js:4)\n    at d:5\n" ∧
      Location.ofStack? "    at at (a:1:2) (native)\n    at (b) c:3 (C:\\mod.js:4)\n    at d:5\n" =
        some ⟨"C:\\mod.js", 4, none⟩ := by
  have clear : ∀ f ∈ strangeFrames, f.Clear := by
    intro f mem
    simp only [strangeFrames, List.mem_cons, List.not_mem_nil, or_false] at mem
    rcases mem with rfl | rfl | rfl
    · exact .native (by decide)
    · refine .function (by decide) ⟨by simp, by decide, by simp, fun _ front last cut => ?_⟩
      have suffix : ':' :: last ∈ "C:\\mod.js".toList.tails := (List.mem_tails ..).mpr ⟨front, cut.symm⟩
      simp at suffix
      rw [suffix]
      decide
    · refine .bare ⟨by simp, by decide, by simp, fun _ front last cut => ?_⟩
      have colon : ':' ∈ "d".toList := cut ▸ by simp
      exact absurd colon (by decide)
  have rows : Frame.Rows strangeFrames
      "    at at (a:1:2) (native)\n    at (b) c:3 (C:\\mod.js:4)\n    at d:5\n" :=
    ⟨"\n", by simp, by decide⟩
  exact ⟨clear, rows, first_frame_places _ clear _ rows⟩

end BrainHost
