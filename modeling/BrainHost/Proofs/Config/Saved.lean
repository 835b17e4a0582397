import BrainHost.Proofs.Config.Lines
import BrainHost.Proofs.Config.Loaded

/-! # Saved configurations

A configuration that was saved is read back as it was: every line of its text is an entry or a header that the
reader takes for what was written. -/

namespace BrainHost.Config

open Document Document.Toml

/-! ## The text of a configuration -/

def LimitField.key : LimitField → String
  | memoryLimit => "memory_limit"
  | maxStackSize => "max_stack_size"
  | maxPendingJobs => "max_pending_jobs"

/-- The members that the line of a limit gives. -/
def limitMembers (key : String) : Option Nat → Members
  | none => []
  | some n => [(key, .leaf (.number (some n)))]

theorem reads_limit {root members out : Members} {name key : String} {limit : Option Nat} {rest : List Char}
    (opened : root.lookup name = none) (fresh : members.lookup key = none) (named : BareName key)
    (fits : ∀ n ∈ limit, n < 2 ^ 64)
    (h : Reads (Place.under root name (members ++ limitMembers key limit)) rest out) :
    Reads (Place.under root name members) ((limitLine key limit).toList ++ rest) out := by
  cases limit with
  | none => simpa [limitMembers, limitLine] using h
  | some n =>
    have written : (limitLine key (some n)).toList ++ rest = entryLine key (toString n) rest := by
      simp [limitLine, entryLine]
    rw [written]
    exact .entry opened fresh named (valueReads_number (fits n rfl)) h

def engineMembers (c : EngineConfig) : Members :=
  limitMembers "memory_limit" c.memoryLimit ++ limitMembers "max_stack_size" c.maxStackSize ++
    limitMembers "max_pending_jobs" c.maxPendingJobs

def loggingMembers (c : LoggingConfig) : Members :=
  [("level", .leaf (.text (some c.level.fileName))), ("log_to_console", .leaf (.bool c.logToConsole))]

/-- The tables of the text of a configuration. -/
def sections (c : Config) : Members :=
  [("engine", .table false false (engineMembers c.engine)), ("logging", .table false false (loggingMembers c.logging))]

/-- The limits of a configuration are numbers that a machine has. -/
def Fits (c : Config) : Prop := ∀ f : LimitField, ∀ n ∈ f.get c.engine, n < 2 ^ 64

theorem lookup_limitMembers {key other : String} (ne : other ≠ key) (limit : Option Nat) :
    (limitMembers key limit).lookup other = none := by
  cases limit with
  | none => rfl
  | some n => exact List.lookup_eq_none_iff.mpr fun m mem => by simpa [List.mem_singleton.mp mem] using ne

theorem fileName_plain (level : LogLevel) :
    ∀ c ∈ level.fileName.toList, c ≠ '"' ∧ c ≠ '\\' ∧ isControl c = false := by
  cases level <;> simp [LogLevel.fileName, isControl]

theorem reads_engine {c : EngineConfig} (fits : ∀ f : LimitField, ∀ n ∈ f.get c, n < 2 ^ 64) {rest : List Char}
    {out : Members} (h : Reads (Place.under [] "engine" (engineMembers c)) rest out) :
    Reads {} (headerLine "engine" ((limitLine "memory_limit" c.memoryLimit).toList ++
      ((limitLine "max_stack_size" c.maxStackSize).toList ++
        ((limitLine "max_pending_jobs" c.maxPendingJobs).toList ++ rest)))) out := by
  refine .header (by decide +kernel) rfl ?_
  refine reads_limit rfl rfl (by decide +kernel) (fits .memoryLimit) ?_
  refine reads_limit rfl (lookup_limitMembers (by decide) _) (by decide +kernel) (fits .maxStackSize) ?_
  refine reads_limit rfl ?_ (by decide +kernel) (fits .maxPendingJobs) h
  rw [List.nil_append, List.lookup_append, lookup_limitMembers (by decide), lookup_limitMembers (by decide)]
  rfl

theorem reads_logging {place : Place} (fresh : place.root.lookup "logging" = none) (c : LoggingConfig) :
    Reads place
      (headerLine "logging" (entryLine "level" ("\"" ++ c.level.fileName ++ "\"")
        (entryLine "log_to_console" (if c.logToConsole then "true" else "false") [])))
      (place.root ++ [("logging", .table false false (loggingMembers c))]) := by
  refine .header (by decide +kernel) fresh ?_
  refine .entry fresh rfl (by decide +kernel) (valueReads_text (fileName_plain _)) ?_
  exact .entry fresh rfl (by decide +kernel) (valueReads_flag _) .nil

theorem toList_toToml (c : Config) :
    c.toToml.toList = headerLine "engine" ((limitLine "memory_limit" c.engine.memoryLimit).toList ++
      ((limitLine "max_stack_size" c.engine.maxStackSize).toList ++
        ((limitLine "max_pending_jobs" c.engine.maxPendingJobs).toList ++
          '\n' :: headerLine "logging" (entryLine "level" ("\"" ++ c.logging.level.fileName ++ "\"")
            (entryLine "log_to_console" (if c.logging.logToConsole then "true" else "false") []))))) := by
  have opening : "[engine]\n".toList = '[' :: ("engine".toList ++ [']', '\n']) := by decide
  have between : "\n[logging]\nlevel = \"".toList =
      '\n' :: '[' :: ("logging".toList ++ (']' :: '\n' :: ("level".toList ++ [' ', '=', ' ', '"']))) := by decide
  have closing : "\"\nlog_to_console = ".toList = '"' :: '\n' :: ("log_to_console".toList ++ [' ', '=', ' ']) := by
    decide
  have quote : "\"".toList = ['"'] := by decide
  have feed : "\n".toList = ['\n'] := by decide
  unfold toToml headerLine entryLine
  simp only [String.toList_append, opening, between, closing, quote, feed, List.append_assoc, List.cons_append,
    List.nil_append]

theorem ofToml?_toToml {c : Config} (fits : Fits c) :
    ofToml? c.toToml = some (.table (Node.membersToDocument (sections c))) := by
  have read := reads_engine fits (.blank (reads_logging rfl c.logging))
  refine Reads.ofToml? (toList_toToml c ▸ read) ?_
  rw [toList_toToml]
  show some '[' ≠ some '\uFEFF'
  decide

/-! ## The configuration of the tables -/

theorem level?_fileName (level : LogLevel) : level? .toml (.text (some level.fileName)) = some level := by
  cases level <;> decide

theorem limit?_number {n : Nat} (h : n < 2 ^ 64) : limit? (.number (some n)) = some (some n) := by
  simp [limit?]
  omega

/-- The fields that the members of a table are. -/
def memberFields (members : Members) : List (String × Document) := members.map fun m => (m.1, m.2.toDocument)

theorem fields?_members (format : ConfigFormat) (count : Nat) (members : Members) :
    fields? format count (.table (Node.membersToDocument members)) = some (.named (memberFields members)) := by
  have named : (Node.membersToDocument members).mapM (fun m : Option String × Document => m.1.map (·, m.2)) =
      some (memberFields members) := by
    induction members with
    | nil => rfl
    | cons m members ih =>
      rw [Node.membersToDocument, List.mapM_cons, ih]
      rfl
  unfold fields?
  dsimp only
  rw [named]
  rfl

theorem filter_own (key : String) (limit : Option Nat) :
    (memberFields (limitMembers key limit)).filter (·.1 = key) = memberFields (limitMembers key limit) := by
  cases limit <;> simp [memberFields, limitMembers]

theorem filter_other {key other : String} (ne : other ≠ key) (limit : Option Nat) :
    (memberFields (limitMembers other limit)).filter (·.1 = key) = [] := by
  cases limit <;> simp [memberFields, limitMembers, ne]

theorem filter_engineMembers (c : EngineConfig) (f : LimitField) :
    (memberFields (engineMembers c)).filter (·.1 = f.key) = memberFields (limitMembers f.key (f.get c)) := by
  have all : memberFields (engineMembers c) =
      memberFields (limitMembers LimitField.memoryLimit.key (LimitField.memoryLimit.get c)) ++
        memberFields (limitMembers LimitField.maxStackSize.key (LimitField.maxStackSize.get c)) ++
          memberFields (limitMembers LimitField.maxPendingJobs.key (LimitField.maxPendingJobs.get c)) := by
    simp [memberFields, engineMembers, LimitField.key, LimitField.get]
  rw [all, List.filter_append, List.filter_append]
  cases f with
  | memoryLimit =>
    rw [filter_own, filter_other (by decide), filter_other (by decide), List.append_nil, List.append_nil]
  | maxStackSize =>
    rw [filter_other (by decide), filter_own, filter_other (by decide), List.nil_append, List.append_nil]
  | maxPendingJobs =>
    rw [filter_other (by decide), filter_other (by decide), filter_own, List.nil_append, List.nil_append]

theorem fieldOr_limit {c : EngineConfig} (fits : ∀ f : LimitField, ∀ n ∈ f.get c, n < 2 ^ 64) (f : LimitField)
    (index : Nat) :
    fieldOr (.named (memberFields (engineMembers c))) index f.key (some none) limit? = some (f.get c) := by
  unfold fieldOr field?
  dsimp only
  rw [filter_engineMembers]
  cases e : f.get c with
  | none => rfl
  | some n => exact limit?_number (fits f n e)

theorem engine?_members {c : EngineConfig} (fits : ∀ f : LimitField, ∀ n ∈ f.get c, n < 2 ^ 64) :
    engine? .toml (.table (Node.membersToDocument (engineMembers c))) = some c := by
  have memory := fieldOr_limit fits .memoryLimit
  have stack := fieldOr_limit fits .maxStackSize
  have jobs := fieldOr_limit fits .maxPendingJobs
  simp only [LimitField.key, LimitField.get] at memory stack jobs
  unfold engine?
  rw [fields?_members]
  dsimp only [bind, Option.bind]
  rw [memory, stack, jobs]
  rfl

theorem logging?_members (c : LoggingConfig) :
    logging? .toml (.table (Node.membersToDocument (loggingMembers c))) = some c := by
  unfold logging?
  rw [fields?_members]
  show (level? .toml (.text (some c.level.fileName))).bind _ = _
  rw [level?_fileName]
  rfl

theorem ofDocument?_sections {c : Config} (fits : Fits c) :
    ofDocument? .toml (.table (Node.membersToDocument (sections c))) = some c := by
  unfold ofDocument?
  rw [fields?_members]
  show (engine? .toml (.table (Node.membersToDocument (engineMembers c.engine)))).bind _ = _
  rw [engine?_members fits]
  show (logging? .toml (.table (Node.membersToDocument (loggingMembers c.logging)))).bind _ = _
  rw [logging?_members]
  rfl

/-! ## Saving -/

theorem ofText_toToml {c : Config} (fits : Fits c) : ofText .toml c.toToml = .ok c := by
  unfold ofText
  dsimp only
  rw [ofToml?_toToml fits]
  dsimp only
  rw [ofDocument?_sections fits]

/-- A path under which every text can be written. -/
def Writable (store : FileStore) (path : String) (s : store.State) : Prop :=
  ∀ text, ∃ s', store.write path text s = .ok s'

theorem ofFile_save {store : FileStore} {path : String} {s s' : store.State} {c : Config} (fits : Fits c)
    (saved : save store path c s = .ok s') : ofFile (store.files s') .toml path = .ok c := by
  unfold save at saved
  split at saved
  · cases saved
  · next written =>
    cases saved
    unfold ofFile
    rw [store.files_write written]
    exact ofText_toToml fits

/-- **Saving.** Under a path that can be written every configuration is saved, whatever its limits are, and is read
back from there as it was. Saving fails only for the reason why the path cannot be written. -/
theorem save_reads_back (store : FileStore) (path : String) (s : store.State) (c : Config) (fits : Fits c) :
    (Writable store path s → ∃ s', save store path c s = .ok s') ∧
    (∀ s', save store path c s = .ok s' → ofFile (store.files s') .toml path = .ok c) ∧
    ∀ failure, save store path c s = .error failure →
      ∃ e, store.write path c.toToml s = .error e ∧ failure = .file e.message := by
  refine ⟨fun writable => ?_, fun s' saved => ofFile_save fits saved, fun failure failed => ?_⟩
  · obtain ⟨s', written⟩ := writable c.toToml
    refine ⟨s', ?_⟩
    unfold save
    rw [written]
  · unfold save at failed
    split at failed
    · next e refused =>
      cases failed
      exact ⟨e, refused, rfl⟩
    · cases failed

def openStore : FileStore where
  State := Files
  files := id
  write path text files := .ok fun p => if p = path then .ok text else files p
  files_write := by
    rintro path text s s' written
    cases written
    exact if_pos rfl

def extreme : Config :=
  { engine := { memoryLimit := some (2 ^ 64 - 1), maxPendingJobs := some 0 }
    logging := { level := .warn, logToConsole := false } }

theorem extreme_fits : Fits extreme := by
  intro f n held
  cases f <;> simp_all [LimitField.get, extreme] <;> omega

theorem save_extreme :
    Fits extreme ∧ Writable openStore "brain_runtime.toml" (fun _ => .error .notFound) ∧
      ∃ s', save openStore "brain_runtime.toml" extreme (fun _ => .error .notFound) = .ok s' ∧
        ofFile s' .toml "brain_runtime.toml" = .ok extreme := by
  have fits : Fits extreme := extreme_fits
  have writable : Writable openStore "brain_runtime.toml" (fun _ => .error .notFound) := fun _ => ⟨_, rfl⟩
  have spec := save_reads_back openStore "brain_runtime.toml" (fun _ => .error .notFound) extreme fits
  obtain ⟨s', saved⟩ := spec.1 writable
  exact ⟨fits, writable, s', saved, spec.2.1 s' saved⟩

/-- A limit beyond the signed numbers of 64 bits is no reason to fail. -/
theorem large_limit_saves :
    (∃ n ∈ extreme.engine.memoryLimit, 2 ^ 63 - 1 < n) ∧
      (∀ reason, save openStore "brain_runtime.toml" extreme (fun _ => .error .notFound) ≠ .error (.parse reason)) ∧
      ∃ s', save openStore "brain_runtime.toml" extreme (fun _ => .error .notFound) = .ok s' ∧
        ofFile s' .toml "brain_runtime.toml" = .ok extreme := by
  obtain ⟨s', saved⟩ : ∃ s', save openStore "brain_runtime.toml" extreme (fun _ => .error .notFound) = .ok s' :=
    ⟨_, rfl⟩
  refine ⟨⟨_, rfl, by decide⟩, fun reason failed => ?_, s', saved, ofFile_save extreme_fits saved⟩
  rw [saved] at failed
  cases failed

end BrainHost.Config
