import BrainHost.Config.Load
import Mathlib

/-! # The configuration that is loaded

The files and the environment are told here by what stands in them: a text spells a limit or names a level,
a file gives a configuration or gives none. Loading starts from the first file that gives one, lets every
variable that says something replace its own field, and keeps the result if none of its limits is zero. -/

namespace BrainHost

/-! ## Limits as text -/

/-- A text spells a limit in decimal digits behind an optional plus sign; the limit is below `2 ^ 64`. -/
def SpellsLimit (text : String) (n : Nat) : Prop :=
  ∃ digits : List Char,
    (text.toList = digits ∨ text.toList = '+' :: digits) ∧ digits ≠ [] ∧ (∀ d ∈ digits, d.isDigit) ∧
      n = Nat.ofDigits 10 (digits.reverse.map fun d => d.toNat - '0'.toNat) ∧ n < 2 ^ 64

theorem decimalNumber_eq_ofDigits (digits : List Char) :
    decimalNumber digits = Nat.ofDigits 10 (digits.reverse.map fun d => d.toNat - '0'.toNat) := by
  induction digits using List.reverseRecOn with
  | nil => rfl
  | append_singleton digits d ih =>
    rw [List.reverse_append, List.reverse_singleton, List.singleton_append, List.map_cons, Nat.ofDigits_cons, ← ih]
    unfold decimalNumber
    rw [List.foldl_append, List.foldl_cons, List.foldl_nil]
    ring

namespace Config

/-- The digits of a limit, without the plus sign. -/
def unsigned : List Char → List Char
  | '+' :: rest => rest
  | cs => cs

theorem unsigned_of_digits {digits : List Char} (all : ∀ d ∈ digits, d.isDigit) : unsigned digits = digits := by
  unfold unsigned
  split
  · exact absurd (all '+' List.mem_cons_self) (by decide)
  · rfl

theorem eq_unsigned (cs : List Char) : cs = unsigned cs ∨ cs = '+' :: unsigned cs := by
  unfold unsigned
  split
  · exact .inr rfl
  · exact .inl rfl

theorem readLimit?_eq (text : String) : readLimit? text =
    if unsigned text.toList ≠ [] ∧ (∀ d ∈ unsigned text.toList, d.isDigit) ∧
      decimalNumber (unsigned text.toList) < 2 ^ 64
    then some (decimalNumber (unsigned text.toList)) else none := by
  have same : readLimit? text =
      if (unsigned text.toList).isEmpty || !(unsigned text.toList).all Char.isDigit then none
      else if decimalNumber (unsigned text.toList) < 2 ^ 64 then some (decimalNumber (unsigned text.toList))
      else none := rfl
  rw [same]
  generalize unsigned text.toList = digits
  split_ifs <;> grind

theorem readLimit?_eq_some {text : String} {n : Nat} : readLimit? text = some n ↔ SpellsLimit text n := by
  rw [readLimit?_eq]
  constructor
  · intro read
    split_ifs at read with h
    obtain ⟨some_digit, all, small⟩ := h
    injection read with read
    subst read
    exact ⟨_, eq_unsigned _, some_digit, all, decimalNumber_eq_ofDigits _, small⟩
  · rintro ⟨digits, spelled, some_digit, all, rfl, small⟩
    have bare : unsigned text.toList = digits := by
      rcases spelled with e | e
      · rw [e, unsigned_of_digits all]
      · rw [e]
        rfl
    rw [bare, decimalNumber_eq_ofDigits, if_pos ⟨some_digit, all, small⟩]

end Config

/-! ## Levels as text -/

/-- A text is a name, each of whose small letters may be written as its capital. -/
def InAnyCase (text name : String) : Prop :=
  List.Forall₂ (fun c a => c = a ∨ c = a.toUpper) text.toList name.toList

namespace LogLevel

def names : LogLevel → List String
  | warn => ["warn", "warning"]
  | level => [level.filterName]

/-- A text names a level in any case. -/
def Named (text : String) (level : LogLevel) : Prop := ∃ name ∈ level.names, InAnyCase text name

end LogLevel

theorem toLower_eq_iff {a : Char} (small : a.isLower) (c : Char) : c.toLower = a ↔ c = a ∨ c = a.toUpper := by
  constructor
  · rintro rfl
    by_cases capital : c.isUpper
    · right
      rw [Char.toUpper_toLower_eq_toUpper, Char.toUpper_eq_of_not_isLower (Char.not_isLower_of_isUpper capital)]
    · left
      rw [Char.toLower_eq_of_not_isUpper capital]
  · have own := Char.toLower_eq_of_not_isUpper (Char.not_isUpper_of_isLower small)
    rintro (rfl | rfl)
    · exact own
    · rw [Char.toLower_toUpper_eq_toLower, own]

theorem map_toLower_eq_iff {name : String} (small : ∀ a ∈ name.toList, a.isLower) (text : String) :
    text.map Char.toLower = name ↔ InAnyCase text name := by
  unfold InAnyCase
  rw [← String.toList_inj, String.toList_map]
  generalize text.toList = cs
  generalize name.toList = as at small ⊢
  induction as generalizing cs with
  | nil => simp
  | cons a as ih =>
    cases cs with
    | nil => simp
    | cons c cs =>
      have head := toLower_eq_iff (small a List.mem_cons_self) c
      have tail := ih cs fun b mem => small b (List.mem_cons_of_mem a mem)
      rw [List.map_cons, List.cons_eq_cons, List.forall₂_cons, head, tail]

namespace LogLevel

theorem names_small (level : LogLevel) :
    ∀ name ∈ level.names, ∀ a ∈ name.toList, a.isLower := by
  cases level <;> simp [names, filterName, Char.isLower]

theorem ofText?_eq_some_iff_mem {text : String} {level : LogLevel} :
    ofText? text = some level ↔ text.map Char.toLower ∈ level.names := by
  have read : ofText? text = if text.map Char.toLower = "warning" then some warn
      else all.find? (·.filterName = text.map Char.toLower) := rfl
  rw [read]
  generalize text.map Char.toLower = lower
  by_cases known : lower ∈ ["trace", "debug", "info", "warn", "warning", "error"]
  · simp only [List.mem_cons, List.not_mem_nil, or_false] at known
    rcases known with rfl | rfl | rfl | rfl | rfl | rfl <;> cases level <;> decide
  · simp only [List.mem_cons, List.not_mem_nil, or_false, not_or] at known
    obtain ⟨trace, debug, info, warn, warning, error⟩ := known
    rw [if_neg warning, List.find?_eq_none.mpr]
    · cases level <;> simp [names, filterName, *]
    · intro level _
      cases level <;> simp [filterName, eq_comm, *]

theorem ofText?_eq_some {text : String} {level : LogLevel} : ofText? text = some level ↔ Named text level := by
  rw [ofText?_eq_some_iff_mem]
  constructor
  · intro mem
    exact ⟨_, mem, (map_toLower_eq_iff (names_small level _ mem) text).mp rfl⟩
  · rintro ⟨name, mem, same⟩
    rw [(map_toLower_eq_iff (names_small level _ mem) text).mpr same]
    exact mem

end LogLevel

namespace Config

/-! ## Files -/

/-- A file can be read and gives a configuration. -/
def Gives (files : Files) (format : ConfigFormat) (path : String) (c : Config) : Prop :=
  ∃ text, files path = .ok text ∧ ofText format text = .ok c

/-- A file gives no configuration: it is not there, is no text or is malformed. -/
def GivesNone (files : Files) (format : ConfigFormat) (path : String) : Prop := ∀ c, ¬ Gives files format path c

/-- What loading starts from: the first of the three files that gives a configuration, or the default. -/
inductive Starts (files : Files) (home : Option String) : Config → Prop
  | toml {c : Config} (read : Gives files .toml "brain_runtime.toml" c) : Starts files home c
  | json {c : Config} (noToml : GivesNone files .toml "brain_runtime.toml")
      (read : Gives files .json "brain_runtime.json" c) : Starts files home c
  | home {c : Config} {h : String} (noToml : GivesNone files .toml "brain_runtime.toml")
      (noJson : GivesNone files .json "brain_runtime.json") (set : home = some h)
      (read : Gives files .toml (homePath h) c) : Starts files home c
  | default (noToml : GivesNone files .toml "brain_runtime.toml")
      (noJson : GivesNone files .json "brain_runtime.json")
      (noHome : ∀ h, home = some h → GivesNone files .toml (homePath h)) : Starts files home {}

variable {files : Files} {format : ConfigFormat} {path : String} {c : Config}

theorem ofFile_eq_ok : (ofFile files format path).toOption = some c ↔ Gives files format path c := by
  unfold ofFile Gives
  cases files path with
  | error e => simp [Except.toOption]
  | ok text =>
    simp only [Except.ok.injEq, exists_eq_left']
    cases ofText format text <;> simp [Except.toOption]

theorem ofFile_eq_none : (ofFile files format path).toOption = none ↔ GivesNone files format path := by
  unfold GivesNone
  simp only [← ofFile_eq_ok]
  cases (ofFile files format path).toOption <;> simp

theorem find?_eq (files : Files) (home : Option String) :
    find? files home = (ofFile files .toml "brain_runtime.toml").toOption.or
      ((ofFile files .json "brain_runtime.json").toOption.or
        (home.bind fun h => (ofFile files .toml (homePath h)).toOption)) := by
  unfold find? candidates
  cases home <;>
    cases toml : (ofFile files .toml "brain_runtime.toml").toOption <;>
    cases json : (ofFile files .json "brain_runtime.json").toOption <;> simp [toml, json]

theorem find?_getD {home : Option String} : (find? files home).getD {} = c ↔ Starts files home c := by
  rw [find?_eq]
  constructor
  · rintro rfl
    cases toml : (ofFile files .toml "brain_runtime.toml").toOption with
    | some c => exact .toml (ofFile_eq_ok.mp toml)
    | none =>
      have noToml := ofFile_eq_none.mp toml
      cases json : (ofFile files .json "brain_runtime.json").toOption with
      | some c => exact .json noToml (ofFile_eq_ok.mp json)
      | none =>
        have noJson := ofFile_eq_none.mp json
        cases own : home.bind fun h => (ofFile files .toml (homePath h)).toOption with
        | some c =>
          obtain ⟨h, set, read⟩ := Option.bind_eq_some_iff.mp own
          exact .home noToml noJson set (ofFile_eq_ok.mp read)
        | none => exact .default noToml noJson fun h set => ofFile_eq_none.mp (Option.bind_eq_none_iff.mp own h set)
  · intro start
    cases start with
    | toml read => rw [ofFile_eq_ok.mpr read, Option.some_or, Option.getD_some]
    | json noToml read =>
      rw [ofFile_eq_none.mpr noToml, ofFile_eq_ok.mpr read, Option.none_or, Option.some_or, Option.getD_some]
    | home noToml noJson set read =>
      rw [ofFile_eq_none.mpr noToml, ofFile_eq_none.mpr noJson, set, Option.none_or, Option.none_or, Option.bind_some,
        ofFile_eq_ok.mpr read, Option.getD_some]
    | default noToml noJson noHome =>
      rw [ofFile_eq_none.mpr noToml, ofFile_eq_none.mpr noJson, Option.none_or, Option.none_or,
        Option.bind_eq_none_iff.mpr fun h set => ofFile_eq_none.mpr (noHome h set), Option.getD_none]

/-! ## Variables -/

inductive LimitField
  | memoryLimit | maxStackSize | maxPendingJobs

namespace LimitField

/-- The variable that overrides a limit. -/
def name : LimitField → String
  | memoryLimit => "BRAIN_RUNTIME_MEMORY_LIMIT"
  | maxStackSize => "BRAIN_RUNTIME_MAX_STACK_SIZE"
  | maxPendingJobs => "BRAIN_RUNTIME_MAX_PENDING_JOBS"

def get : LimitField → EngineConfig → Option Nat
  | memoryLimit => (·.memoryLimit)
  | maxStackSize => (·.maxStackSize)
  | maxPendingJobs => (·.maxPendingJobs)

end LimitField

/-- A field after its variable: what the variable says replaces the field, and a variable that says nothing leaves
it as it was. -/
inductive Overridden {α β : Type} (value : Option String) (Spells : String → α → Prop) (put : α → β) (old : β) :
    β → Prop
  | replaced {text : String} {a : α} (set : value = some text) (spelled : Spells text a) :
    Overridden value Spells put old (put a)
  | kept (nothing : ∀ text a, value = some text → ¬ Spells text a) : Overridden value Spells put old old

/-- A configuration after the environment. -/
structure Merged (env : Environment) (start merged : Config) : Prop where
  limits : ∀ f : LimitField,
    Overridden (env f.name) SpellsLimit some (f.get start.engine) (f.get merged.engine)
  level : Overridden (env "BRAIN_RUNTIME_LOG_LEVEL") LogLevel.Named id start.logging.level merged.logging.level
  console : merged.logging.logToConsole = start.logging.logToConsole

variable {α β : Type} {Spells : String → α → Prop} {read : String → Option α} {put : α → β} {old new : β}

theorem overridden_iff {value : Option String} (reads : ∀ {text a}, read text = some a ↔ Spells text a) :
    Overridden value Spells put old new ↔ new = ((value.bind read).map put).getD old := by
  constructor
  · intro overridden
    cases overridden with
    | replaced set spelled => rw [set, Option.bind_some, reads.mpr spelled, Option.map_some, Option.getD_some]
    | kept nothing =>
      rw [Option.bind_eq_none_iff.mpr, Option.map_none, Option.getD_none]
      intro text set
      exact Option.eq_none_iff_forall_ne_some.mpr fun a spelled => nothing text a set (reads.mp spelled)
  · rintro rfl
    cases held : value.bind read with
    | some a =>
      obtain ⟨text, set, spelled⟩ := Option.bind_eq_some_iff.mp held
      exact .replaced set (reads.mp spelled)
    | none =>
      refine .kept fun text a set spelled => ?_
      have unread := Option.bind_eq_none_iff.mp held text set
      rw [reads.mpr spelled] at unread
      exact Option.some_ne_none a unread

theorem overridden_limit_iff {value : Option String} {old new : Option Nat} :
    Overridden value SpellsLimit some old new ↔ new = (value.bind readLimit? <|> old) := by
  rw [overridden_iff readLimit?_eq_some]
  cases value.bind readLimit? <;> rfl

theorem overridden_level_iff {value : Option String} {old new : LogLevel} :
    Overridden value LogLevel.Named id old new ↔ new = (value.bind LogLevel.ofText?).getD old := by
  rw [overridden_iff LogLevel.ofText?_eq_some, Option.map_id_fun, id]

theorem merged_iff {env : Environment} {start merged : Config} :
    Merged env start merged ↔ merged = applyEnvironment env start := by
  constructor
  · rintro ⟨limits, level, console⟩
    have memory := overridden_limit_iff.mp (limits .memoryLimit)
    have stack := overridden_limit_iff.mp (limits .maxStackSize)
    have jobs := overridden_limit_iff.mp (limits .maxPendingJobs)
    have level := overridden_level_iff.mp level
    obtain ⟨⟨_, _, _⟩, ⟨_, _⟩⟩ := merged
    simp only [LimitField.get, LimitField.name] at memory stack jobs level console
    rw [memory, stack, jobs, level, console]
    rfl
  · rintro rfl
    refine ⟨fun f => ?_, overridden_level_iff.mpr rfl, rfl⟩
    cases f <;> exact overridden_limit_iff.mpr rfl

/-! ## Loading -/

/-- None of the limits of a configuration is zero. -/
def Usable (c : Config) : Prop := ∀ f : LimitField, f.get c.engine ≠ some 0

theorem validate_eq_ok : c.validate = .ok () ↔ Usable c := by
  unfold validate EngineConfig.validate
  constructor
  · intro valid f
    split_ifs at valid with memory stack jobs
    cases f
    · exact memory
    · exact stack
    · exact jobs
  · intro usable
    have memory : c.engine.memoryLimit ≠ some 0 := usable .memoryLimit
    have stack : c.engine.maxStackSize ≠ some 0 := usable .maxStackSize
    have jobs : c.engine.maxPendingJobs ≠ some 0 := usable .maxPendingJobs
    rw [if_neg memory, if_neg stack, if_neg jobs]

theorem load_cases (files : Files) (home : Option String) (env : Environment) :
    Usable (applyEnvironment env ((find? files home).getD {})) ∧
        (load files home env).1 = applyEnvironment env ((find? files home).getD {}) ∨
      ¬ Usable (applyEnvironment env ((find? files home).getD {})) ∧ (load files home env).1 = {} := by
  unfold load
  generalize applyEnvironment env ((find? files home).getD {}) = merged
  cases valid : merged.validate with
  | ok _ => exact .inl ⟨validate_eq_ok.mp valid, by simp only [valid]⟩
  | error e =>
    refine .inr ⟨fun usable => ?_, by simp only [valid]⟩
    rw [validate_eq_ok.mpr usable] at valid
    exact nomatch valid

theorem Overridden.ne_zero {value : Option String} {old new : Option Nat}
    (overridden : Overridden value SpellsLimit some old new)
    (nonzero : ∀ text, value = some text → ¬ SpellsLimit text 0)
    (zero : old = some 0 → ∃ text n, value = some text ∧ SpellsLimit text n) : new ≠ some 0 := by
  intro e
  cases overridden with
  | replaced set spelled =>
    injection e with e
    exact nonzero _ set (e ▸ spelled)
  | kept nothing =>
    obtain ⟨text, n, set, spelled⟩ := zero e
    exact nothing text n set spelled

/-- **Loading.** The configuration that is loaded is the first one that a file gives, or the default, after the
environment, unless a limit in it is zero: then it is the default. It is always valid, and a zero in a file does no
harm where the environment says another limit. -/
theorem load_merges (files : Files) (home : Option String) (env : Environment) :
    (∀ c, (load files home env).1 = c ↔
      ∃ start merged, Starts files home start ∧ Merged env start merged ∧
        (Usable merged ∧ c = merged ∨ ¬ Usable merged ∧ c = {})) ∧
    (load files home env).1.validate = .ok () ∧
    ∀ start, Starts files home start →
      (∀ f : LimitField, ∀ text, env f.name = some text → ¬ SpellsLimit text 0) →
      (∀ f : LimitField, f.get start.engine = some 0 → ∃ text n, env f.name = some text ∧ SpellsLimit text n) →
      Merged env start (load files home env).1 := by
  have outcome := load_cases files home env
  refine ⟨fun c => ⟨?_, ?_⟩, ?_, ?_⟩
  · rintro rfl
    exact ⟨_, _, find?_getD.mp rfl, merged_iff.mpr rfl, outcome⟩
  · rintro ⟨start, merged, starts, merges, chosen⟩
    rw [find?_getD.mpr starts, ← merged_iff.mp merges] at outcome
    rcases outcome with ⟨usable, e⟩ | ⟨unusable, e⟩ <;> rcases chosen with ⟨usable', e'⟩ | ⟨unusable', e'⟩
    · rw [e, e']
    · exact absurd usable unusable'
    · exact absurd usable' unusable
    · rw [e, e']
  · rw [validate_eq_ok]
    rcases outcome with ⟨usable, e⟩ | ⟨_, e⟩
    · rwa [e]
    · rw [e]
      exact validate_eq_ok.mp rfl
  · intro start starts nonzero zero
    rw [find?_getD.mpr starts] at outcome
    have merges : Merged env start (applyEnvironment env start) := merged_iff.mpr rfl
    have usable : Usable (applyEnvironment env start) := fun f =>
      (merges.limits f).ne_zero (nonzero f) (zero f)
    rcases outcome with ⟨_, e⟩ | ⟨unusable, _⟩
    · rwa [e]
    · exact absurd usable unusable

def zeroFile : Files := fun path =>
  if path = "brain_runtime.json" then .ok "\x7b\"engine\":\x7b\"memory_limit\":0\x7d\x7d" else .error .notFound

def oneVariable : Environment := fun name => if name = "BRAIN_RUNTIME_MEMORY_LIMIT" then some "+64" else none

theorem zeroFile_overridden :
    Starts zeroFile none { engine := { memoryLimit := some 0 } } ∧
      Merged oneVariable { engine := { memoryLimit := some 0 } } (load zeroFile none oneVariable).1 ∧
      (load zeroFile none oneVariable).1 = { engine := { memoryLimit := some 64 } } := by
  have start : Starts zeroFile none { engine := { memoryLimit := some 0 } } := find?_getD.mp (by decide +kernel)
  refine ⟨start, (load_merges zeroFile none oneVariable).2.2 _ start ?_ ?_, by decide +kernel⟩
  · intro f text set spelled
    have zero := readLimit?_eq_some.mpr spelled
    cases f with
    | memoryLimit =>
      injection set with set
      rw [← set] at zero
      exact absurd zero (by decide +kernel)
    | maxStackSize => exact nomatch set
    | maxPendingJobs => exact nomatch set
  · intro f zero
    cases f with
    | memoryLimit => exact ⟨"+64", 64, rfl, readLimit?_eq_some.mp (by decide +kernel)⟩
    | maxStackSize => exact nomatch zero
    | maxPendingJobs => exact nomatch zero

end Config

end BrainHost
