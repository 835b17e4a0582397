import BrainHost.Proofs.Act.Blame
import BrainHost.Proofs.Message.Stack

/-! # Places of errors

A diagnostic quotes its line from the source that is found for its file. That of an error whose stack names a place
is about this place. -/

namespace BrainHost

variable {E : Engine} {K : HostKind} {c c' : E.Context} {thrown : E.Value} {frames : List StackFrame} {p : Location}

/-! ## Quoted lines -/

/-- A diagnostic with a line quotes it from the source that is found for its file, if that has such a line. -/
def Diagnostic.QuotesFrom (d : Diagnostic) (lookup : Option String → Option String) : Prop :=
  ∀ number, d.line = some number → d.sourceLine = (lookup d.file).bind fun source => (Text.lines source)[number - 1]?

namespace Diagnostic

variable {lookup : Option String → Option String}

theorem QuotesFrom.of_unplaced {d : Diagnostic} (h : d.line = none) : d.QuotesFrom lookup :=
  fun _ here => nomatch h.symm.trans here

theorem withSource_file (d : Diagnostic) : (d.withSource lookup).file = d.file := by
  unfold withSource
  split <;> rfl

theorem withSource_line (d : Diagnostic) : (d.withSource lookup).line = d.line := by
  unfold withSource
  split <;> rfl

theorem quotesFrom_withSource (d : Diagnostic) : (d.withSource lookup).QuotesFrom lookup := by
  intro number here
  rw [withSource_line] at here
  unfold withSource
  rw [here]

end Diagnostic

theorem Inside.diagnose_quotesFrom {s : Surroundings E} {lookup : Option String → Option String} {link : Link E K}
    {w v : World E K} {d : Diagnostic}
    (ran : (Inside.diagnose s thrown lookup : Inside E K Diagnostic).run c link w = .done (.ok d, c') v) :
    d.QuotesFrom lookup := by
  obtain ⟨isError, c₁, w₁, -, ran⟩ := Inside.bind_ok ran
  split at ran
  · obtain ⟨d₀, c₂, w₂, -, ended⟩ := Inside.bind_ok ran
    cases ended
    exact d₀.quotesFrom_withSource
  · obtain ⟨headline, c₂, w₂, -, ended⟩ := Inside.bind_ok ran
    cases ended
    exact .of_unplaced rfl

/-! ## Errors with a place -/

/-- An error whose properties say where it was thrown: its stack consists of frames, and nothing disagrees with
the first place in it. -/
structure Located (E : Engine) (c : E.Context) (thrown : E.Value) (frames : List StackFrame) : Prop where
  error : E.isError c thrown = true
  stack : ∃ read, E.property thrown "stack" c = .done (c, .ok read) ∧ E.isAbsent read = false ∧
    E.toText read c = .done (c, some (stackText frames))
  file : ∃ read, E.property thrown "fileName" c = .done (c, .ok read) ∧ E.text? read = none
  line : ∃ read, E.property thrown "lineNumber" c = .done (c, .ok read) ∧
    ∀ p, Shows frames p → ∀ line, (E.integer? read).bind Int.toNat? = some line → line = p.line
  column : ∃ read, E.property thrown "columnNumber" c = .done (c, .ok read)

theorem Diagnostic.located_place {d : Diagnostic} (file : d.file = none) (line : ∀ l, d.line = some l → l = p.line) :
    (d.located (some p)).file = some p.file ∧ (d.located (some p)).line = some p.line := by
  unfold located
  cases e : d.line with
  | none => exact ⟨rfl, rfl⟩
  | some l => exact ⟨by simp [file], by simp [line l e]⟩

namespace Located

variable (h : Located E c thrown frames) (shown : Shows frames p) {s : Surroundings E} {link : Link E K}
  {w v : World E K} {d : Diagnostic}
include h shown

theorem describe (ran : (Inside.describe s thrown : Inside E K Diagnostic).run c link w = .done (.ok d, c') v) :
    d.file = some p.file ∧ d.line = some p.line := by
  obtain ⟨stack, hstack, there, text⟩ := h.stack
  obtain ⟨file, hfile, unnamed⟩ := h.file
  obtain ⟨line, hline, agrees⟩ := h.line
  obtain ⟨column, hcolumn⟩ := h.column
  have stackTold := Inside.Tells.textProperty (K := K) (s := s) hstack there text
  have fileTold := Inside.Tells.stringProperty (K := K) (s := s) hfile
  have lineTold := Inside.Tells.numberProperty (K := K) (s := s) hline
  have columnTold := Inside.Tells.numberProperty (K := K) (s := s) hcolumn
  unfold Inside.describe at ran
  rw [stackTold.run_bind, fileTold.run_bind, lineTold.run_bind, columnTold.run_bind] at ran
  obtain ⟨headline, c₁, w₁, -, ended⟩ | ⟨failure, -, failed⟩ := Inside.run_bind_eq_done ran
  · cases ended
    rw [Option.bind_some, shown.ofStack?_eq]
    exact Diagnostic.located_place unnamed (agrees p shown)
  · cases failed

theorem diagnose {lookup : Option String → Option String}
    (ran : (Inside.diagnose s thrown lookup : Inside E K Diagnostic).run c link w = .done (.ok d, c') v) :
    d.file = some p.file ∧ d.line = some p.line ∧
      d.sourceLine = (lookup (some p.file)).bind fun source => (Text.lines source)[p.line - 1]? := by
  have quotes := Inside.diagnose_quotesFrom ran
  have told : Inside.Tells (Inside.inspect fun c => E.isError c thrown : Inside E K Bool) c true :=
    h.error ▸ .inspect _
  unfold Inside.diagnose at ran
  rw [told.run_bind, if_pos rfl] at ran
  obtain ⟨d₀, c₁, w₁, described, ended⟩ | ⟨failure, -, failed⟩ := Inside.run_bind_eq_done ran
  · cases ended
    obtain ⟨file, line⟩ := h.describe shown described
    rw [← d₀.withSource_file] at file
    rw [← d₀.withSource_line] at line
    have quoted := quotes p.line line
    rw [file] at quoted
    exact ⟨file, line, quoted⟩
  · cases failed

end Located

end BrainHost
