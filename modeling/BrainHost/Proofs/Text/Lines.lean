import BrainHost.Text.Line
import Mathlib.Data.List.Basic

/-! # Lines

What the lines of a text are, by where its line feeds stand, and that the lines which are found are these. -/

namespace BrainHost.Text

/-- The lines of a text. A line feed ends a line, and so does one with a carriage return right before it. The last
line may lack its end if it is not empty. -/
inductive Lined : List Char → List (List Char) → Prop
  | nil : Lined [] []
  | last {line : List Char} (filled : line ≠ []) (unbroken : '\n' ∉ line) : Lined line [line]
  | fed {line rest : List Char} {lines : List (List Char)} (unbroken : '\n' ∉ line) (bare : line.getLast? ≠ some '\r')
    (next : Lined rest lines) : Lined (line ++ '\n' :: rest) (line :: lines)
  | returned {line rest : List Char} {lines : List (List Char)} (unbroken : '\n' ∉ line) (next : Lined rest lines) :
    Lined (line ++ '\r' :: '\n' :: rest) (line :: lines)

theorem Lined.unbroken {cs : List Char} {ls : List (List Char)} (h : Lined cs ls) : ∀ line ∈ ls, '\n' ∉ line := by
  induction h with
  | nil => simp
  | last _ unbroken => simpa using unbroken
  | fed unbroken _ _ ih => exact List.forall_mem_cons.mpr ⟨unbroken, ih⟩
  | returned unbroken _ ih => exact List.forall_mem_cons.mpr ⟨unbroken, ih⟩

/-! ## From one line on -/

theorem linesFrom_done (done : List (List Char)) (acc cs : List Char) :
    linesFrom done acc cs = done.reverse ++ linesFrom [] acc cs := by
  induction cs generalizing done acc with
  | nil => cases acc <;> simp [linesFrom]
  | cons c rest ih =>
    unfold linesFrom
    split
    · rw [ih (finishLine acc :: done), ih [finishLine acc]]
      simp
    · exact ih done (c :: acc)

theorem linesFrom_line {line : List Char} (h : '\n' ∉ line) (acc rest : List Char) :
    linesFrom [] acc (line ++ '\n' :: rest) = finishLine (line.reverse ++ acc) :: linesOf rest := by
  induction line generalizing acc with
  | nil =>
    simp only [List.nil_append, linesFrom, if_true, List.reverse_nil]
    rw [linesFrom_done]
    rfl
  | cons c cs ih =>
    obtain ⟨here, there⟩ : '\n' ≠ c ∧ '\n' ∉ cs := by simpa using h
    simp only [List.cons_append, linesFrom, if_neg (Ne.symm here)]
    rw [ih there]
    simp

theorem linesFrom_unbroken {line : List Char} (h : '\n' ∉ line) (acc : List Char) :
    linesFrom [] acc line = linesFrom [] (line.reverse ++ acc) [] := by
  induction line generalizing acc with
  | nil => rfl
  | cons c cs ih =>
    obtain ⟨here, there⟩ : '\n' ≠ c ∧ '\n' ∉ cs := by simpa using h
    simp only [linesFrom, if_neg (Ne.symm here)]
    rw [ih there]
    simp [linesFrom]

/-! ## The lines -/

theorem linesOf_last {line : List Char} (filled : line ≠ []) (unbroken : '\n' ∉ line) : linesOf line = [line] := by
  unfold linesOf
  rw [linesFrom_unbroken unbroken]
  simp [linesFrom, filled]

theorem linesOf_fed {line : List Char} (unbroken : '\n' ∉ line) (bare : line.getLast? ≠ some '\r') (rest : List Char) :
    linesOf (line ++ '\n' :: rest) = line :: linesOf rest := by
  have finished : finishLine line.reverse = line := by
    unfold finishLine
    split
    · next front turned =>
      have final : line.getLast? = some '\r' := by rw [← List.head?_reverse, turned, List.head?_cons]
      exact absurd final bare
    · exact List.reverse_reverse line
  unfold linesOf
  rw [linesFrom_line unbroken, List.append_nil, finished]
  rfl

theorem linesOf_returned {line : List Char} (unbroken : '\n' ∉ line) (rest : List Char) :
    linesOf (line ++ '\r' :: '\n' :: rest) = line :: linesOf rest := by
  have whole : '\n' ∉ line ++ ['\r'] := by simp [unbroken]
  have cut := linesFrom_line whole [] rest
  simpa [finishLine, linesOf] using cut

theorem Lined.linesOf_eq {cs : List Char} {ls : List (List Char)} (h : Lined cs ls) : linesOf cs = ls := by
  induction h with
  | nil => rfl
  | last filled unbroken => exact linesOf_last filled unbroken
  | fed unbroken bare _ ih => rw [linesOf_fed unbroken bare, ih]
  | returned unbroken _ ih => rw [linesOf_returned unbroken, ih]

theorem lined_linesOf (cs : List Char) : Lined cs (linesOf cs) := by
  by_cases broken : '\n' ∈ cs
  · obtain ⟨line, rest, rfl, unbroken⟩ := List.eq_append_cons_of_mem broken
    have next := lined_linesOf rest
    by_cases bare : line.getLast? = some '\r'
    · -- The carriage return belongs to the end.
      obtain ⟨front, rfl⟩ := List.getLast?_eq_some_iff.mp bare
      have clean : '\n' ∉ front := fun mem => unbroken (List.mem_append_left _ mem)
      rw [List.append_assoc, List.singleton_append, linesOf_returned clean]
      exact .returned clean next
    · rw [linesOf_fed unbroken bare]
      exact .fed unbroken bare next
  · rcases eq_or_ne cs [] with rfl | filled
    · exact .nil
    · rw [linesOf_last filled broken]
      exact .last filled broken
termination_by cs.length

theorem linesOf_eq_iff {cs : List Char} {ls : List (List Char)} : linesOf cs = ls ↔ Lined cs ls :=
  ⟨fun h => h ▸ lined_linesOf cs, Lined.linesOf_eq⟩

end BrainHost.Text
