import BrainHost.Proofs.Json.Reader

/-! # The engine reads strict texts

The engine's reader accepts every text that the strict reader accepts and that does not nest deeper
than the engine's stack, because it can take a step wherever the strict reader takes one. -/

namespace BrainHost

namespace Document

open Script (AfterValue)

mutual

/-- How many containers of a document are around one another. -/
def nesting : Document → Nat
  | array items => 1 + itemsNesting items
  | table members => 1 + membersNesting members
  | null => 0
  | bool _ => 0
  | number _ => 0
  | text _ => 0
  | date => 0

def itemsNesting : List Document → Nat
  | [] => 0
  | d :: items => max d.nesting (itemsNesting items)

def membersNesting : List (Option String × Document) → Nat
  | [] => 0
  | (_, d) :: members => max d.nesting (membersNesting members)

end

theorem itemsNesting_append (items items' : List Document) :
    itemsNesting (items ++ items') = max (itemsNesting items) (itemsNesting items') := by
  induction items with
  | nil => simp [itemsNesting]
  | cons d items ih => rw [List.cons_append, itemsNesting, itemsNesting, ih, Nat.max_assoc]

theorem itemsNesting_reverse (items : List Document) : itemsNesting items.reverse = itemsNesting items := by
  induction items with
  | nil => rfl
  | cons d items ih =>
    rw [List.reverse_cons, itemsNesting_append, ih, itemsNesting, itemsNesting, itemsNesting]
    omega

theorem membersNesting_append (members members' : List (Option String × Document)) :
    membersNesting (members ++ members') = max (membersNesting members) (membersNesting members') := by
  induction members with
  | nil => simp [membersNesting]
  | cons m members ih =>
    obtain ⟨key, d⟩ := m
    rw [List.cons_append, membersNesting, membersNesting, ih, Nat.max_assoc]

theorem membersNesting_reverse (members : List (Option String × Document)) :
    membersNesting members.reverse = membersNesting members := by
  induction members with
  | nil => rfl
  | cons m members ih =>
    obtain ⟨key, d⟩ := m
    rw [List.reverse_cons, membersNesting_append, ih, membersNesting, membersNesting, membersNesting]
    omega

/-! ## The nesting that is reached -/

/-- The nesting of the open containers around a part that nests `inner` deep. -/
def rising : List Open → Nat → Nat
  | [], inner => inner
  | .array items :: stack, inner => rising stack (1 + max inner (itemsNesting items))
  | .table members _ :: stack, inner => rising stack (1 + max inner (membersNesting members))

/-- The nesting of what the reader is at. -/
def Task.inner : Task → Nat
  | .value _ => 0
  | .key members _ => 1 + membersNesting members
  | .place d => d.nesting

theorem rising_mono {stack : List Open} {a b : Nat} (h : a ≤ b) : rising stack a ≤ rising stack b := by
  induction stack generalizing a b with
  | nil => exact h
  | cons o stack ih =>
    cases o with
    | array items => exact ih (by omega)
    | table members key => exact ih (by omega)

theorem length_le_rising (stack : List Open) (inner : Nat) : stack.length + inner ≤ rising stack inner := by
  induction stack generalizing inner with
  | nil => rw [List.length_nil, rising, Nat.zero_add]
  | cons o stack ih =>
    cases o with
    | array items =>
      have := ih (1 + max inner (itemsNesting items))
      rw [List.length_cons, rising]
      omega
    | table members key =>
      have := ih (1 + max inner (membersNesting members))
      rw [List.length_cons, rising]
      omega

variable {stack stack' : List Open} {task task' : Task} {cs rest : List Char} {d e : Document} {n : Nat}

theorem Step.rising_le (h : Step stack task cs stack' task' rest) :
    rising stack task.inner ≤ rising stack' task'.inner := by
  cases h with
  | token => exact rising_mono (Nat.zero_le _)
  | openArray => exact rising_mono (Nat.zero_le _)
  | openTable => exact rising_mono (Nat.zero_le _)
  | emptyArray =>
    simp only [Task.inner, rising, nesting, itemsNesting_reverse]
    exact rising_mono (by omega)
  | emptyTable =>
    simp only [Task.inner, nesting, membersNesting_reverse]
    exact Nat.le_refl _
  | key =>
    simp only [Task.inner, rising]
    exact rising_mono (by omega)
  | nextItem =>
    simp only [Task.inner, rising, itemsNesting]
    exact rising_mono (by omega)
  | closeArray =>
    simp only [Task.inner, rising, nesting, itemsNesting_reverse, itemsNesting]
    exact Nat.le_refl _
  | nextMember =>
    simp only [Task.inner, rising, membersNesting]
    exact Nat.le_refl _
  | closeTable =>
    simp only [Task.inner, rising, nesting, membersNesting_reverse, membersNesting]
    exact Nat.le_refl _

theorem rising_le_nesting (h : readJson n stack task cs = some d) : rising stack task.inner ≤ d.nesting := by
  induction n generalizing stack task cs with
  | zero => cases h
  | succ n ih =>
    rcases readJson_eq_some h with ⟨stack', task', rest, step, h⟩ | ⟨rfl, rfl, -⟩
    · exact Nat.le_trans step.rising_le (ih h)
    · exact Nat.le_refl _

theorem afterValue_of_place (h : readJson n stack (.place d) cs = some e) : AfterValue cs := by
  have stop : ∀ c, (cs.dropWhile isJsonBlank).head? = some c → c = ',' ∨ c = ']' ∨ c = '}' := by
    cases n with
    | zero => cases h
    | succ n =>
      rcases readJson_eq_some h with ⟨stack', task', rest, step, -⟩ | ⟨-, -, finished⟩
      · generalize cs.dropWhile isJsonBlank = cs at step
        intro c hc
        cases step <;> injection hc with hc <;> simp [← hc]
      · simp [finished]
  intro c hc
  by_cases blank : isJsonBlank c = true
  · exact .inr (.inr (.inr blank))
  · cases cs with
    | nil => cases hc
    | cons c' cs =>
      injection hc with hc
      subst hc
      rw [List.dropWhile_cons_of_neg blank] at stop
      rcases stop c' rfl with h | h | h
      · exact .inl h
      · exact .inr (.inl h)
      · exact .inr (.inr (.inl h))

end Document

namespace Script.Json

open Document (readJson isJsonBlank rising rising_le_nesting)

/-- The two readers have the same containers open. -/
inductive Alike : List Document.Open → List Open → Prop
  | nil : Alike [] []
  | array {stack stack' items items'} (around : Alike stack stack') :
    Alike (.array items :: stack) (.array items' :: stack')
  | object {stack stack' members members' key key'} (around : Alike stack stack') :
    Alike (.table members key :: stack) (.object members' key' :: stack')

/-- The two readers are at the same kind of part. -/
inductive Matching : Document.Task → Task → Prop
  | value {closable} : Matching (.value closable) (.value closable)
  | key {members members' closable} : Matching (.key members closable) (.key members' closable)
  | place {d j} : Matching (.place d) (.place j)

variable {stack stack' : List Document.Open} {task task' : Document.Task} {cs rest : List Char}
  {now : List Open} {next : Task}

theorem exists_readString {s : Option String} (h : Document.readJsonString {} cs = some (s, rest)) :
    ∃ t, readString (unitsOf ('"' :: cs)).length .empty (unitsOf cs) = .ok (t, unitsOf rest) := by
  obtain ⟨ps, rfl⟩ := exists_pieces {} h
  refine ⟨_, readString_pieces ps ?_⟩
  rw [unitsOf_cons_ascii (by decide), List.length_cons, unitsOf_append, List.length_append]
  omega

theorem exists_read_token {d : Document} (token : Document.Token d cs rest) (after : AfterValue rest) :
    ∃ j, ∀ n depth stack closable, read (n + 1) depth stack (.value closable) (unitsOf cs)
      = read n depth stack (.place j) (unitsOf rest) := by
  cases token with
  | string h =>
    obtain ⟨t, read⟩ := exists_readString h
    exact ⟨.string t, fun _ _ _ _ => read_string read⟩
  | true => exact ⟨_, fun _ _ _ _ => read_word .true after⟩
  | false => exact ⟨_, fun _ _ _ _ => read_word .false after⟩
  | null => exact ⟨_, fun _ _ _ _ => read_word .null after⟩
  | number numeral _ => exact ⟨_, fun _ _ _ _ => read_number numeral after⟩

theorem exists_read_step (step : Document.Step stack task cs stack' task' rest)
    (after : ∀ d, task' = .place d → AfterValue rest) (room : rising stack' task'.inner ≤ maxDepth)
    (alike : Alike stack now) (matching : Matching task next) :
    ∃ now' next', Alike stack' now' ∧ Matching task' next' ∧ ∀ n,
      read (n + 1) stack.length now next (unitsOf cs) = read n stack'.length now' next' (unitsOf rest) := by
  have deep := Document.length_le_rising stack' task'.inner
  cases step with
  | token token =>
    cases matching
    obtain ⟨j, read⟩ := exists_read_token token (after _ rfl)
    exact ⟨now, .place j, alike, .place, fun n => read n _ _ _⟩
  | openArray =>
    cases matching
    rw [List.length_cons] at deep
    exact ⟨_, _, .array alike, .value, fun n => read_openArray (by omega)⟩
  | openTable =>
    cases matching
    simp only [Document.Task.inner] at deep room
    exact ⟨_, _, alike, .key, fun n => read_openObject (by omega)⟩
  | emptyArray =>
    cases matching
    cases alike with
    | array around => exact ⟨_, _, around, .place, fun n => read_emptyArray⟩
  | emptyTable =>
    cases matching
    exact ⟨_, _, alike, .place, fun n => read_emptyObject⟩
  | key h colon =>
    cases matching
    obtain ⟨t, read⟩ := exists_readString h
    exact ⟨_, _, .object alike, .value, fun n => read_key read colon⟩
  | nextItem =>
    cases matching
    cases alike with
    | array around => exact ⟨_, _, .array around, .value, fun n => read_nextItem⟩
  | closeArray =>
    cases matching
    cases alike with
    | array around => exact ⟨_, _, around, .place, fun n => read_closeArray⟩
  | nextMember =>
    cases matching
    cases alike with
    | object around => exact ⟨_, _, around, .key, fun n => read_nextMember⟩
  | closeTable =>
    cases matching
    cases alike with
    | object around => exact ⟨_, _, around, .place, fun n => read_closeObject⟩

/-- The engine's reader gets to the end where the strict reader does, with the same number of steps
or more. -/
theorem exists_read {n m : Nat} {d : Document} (h : readJson n stack task cs = some d) (enough : n ≤ m)
    (shallow : d.nesting ≤ maxDepth) (alike : Alike stack now) (matching : Matching task next) :
    ∃ j, read m stack.length now next (unitsOf cs) = .ok j := by
  induction n generalizing m stack task cs now next with
  | zero => cases h
  | succ n ih =>
    obtain ⟨m, rfl⟩ : ∃ k, m = k + 1 := ⟨m - 1, by omega⟩
    rcases Document.readJson_eq_some h with ⟨stack', task', rest, step, h⟩ | ⟨rfl, rfl, finished⟩
    · have room := Nat.le_trans (rising_le_nesting h) shallow
      have after : ∀ d, task' = .place d → AfterValue rest := by
        rintro d rfl
        exact Document.afterValue_of_place h
      obtain ⟨now', next', alike', matching', read⟩ := exists_read_step step after room alike matching
      rw [← read_blank, read]
      exact ih h (by omega) alike' matching'
    · cases matching
      cases alike
      exact ⟨_, read_end finished⟩

theorem exists_ofUnits? {text : String} {d : Document} (strict : Document.ofJson? text = some d)
    (shallow : d.nesting ≤ maxDepth) : ∃ j, ofUnits? (unitsOf text.toList) = .ok j := by
  have enough := length_le_unitsOf text.toList
  exact exists_read strict (by omega) shallow .nil .value

end Script.Json

end BrainHost
