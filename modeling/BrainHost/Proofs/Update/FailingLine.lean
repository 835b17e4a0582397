import BrainHost.Proofs.Message.Located
import BrainHost.Proofs.Module.Reload
import BrainHost.Proofs.Script.Traced
import BrainHost.Proofs.Update.Delivery

/-! # The failing line

The diagnostic of an error that a function of a brain throws quotes a line of a source. The source is looked up
by the file in the error's stack when the error is reported: it is what the last module of that name was set
from, or the brain's own. -/

namespace BrainHost

open Text

variable {E : Engine} {K : HostKind}

/-! ## The source of a brain -/

/-- A brain is made from a source. -/
def Bears (number : Nat) (source : String) (v : World E K) : Prop :=
  ∃ b, v.brains[number]? = some b ∧ b.source = source

theorem Stays.bears {number : Nat} {b : Brain E} {v : World E K} (h : Stays number b v) :
    Bears number b.source v := by
  obtain ⟨context, hv⟩ := h
  exact ⟨_, hv, rfl⟩

section

variable {number : Nat} {link : Link E K} (hl : (held E K number).admits link) {w : World E K} {b : Brain E}
  (hb : w.brains[number]? = some b)
include hl hb

theorem Brain.setModule_bears (id source : String) :
    ((Brain.setModule number id source).run link w).Ends (Bears number b.source) := by
  refine (Brain.setModule_gains hl hb id source).ends fun answer v hv => ?_
  by_cases hok : answer = some (.ok ())
  · obtain ⟨-, namespaceObject, u, -, context, hu⟩ := hv.1 hok
    exact ⟨_, hu, rfl⟩
  · exact (hv.2 hok).bears

theorem History.bears {loads : List (String × StoredModule E.Value)} {v : World E K}
    (h : History link number w loads v) : Bears number b.source v := by
  induction h with
  | start => exact ⟨b, hb, rfl⟩
  | @loaded loads v u x id source namespaceObject h hruns hset ih =>
    obtain ⟨b', hv, same⟩ := ih
    have kept := Brain.setModule_bears hl hv id source
    rw [hset] at kept
    exact same ▸ kept
  | @failed loads v u id source h hleaves hfails ih =>
    obtain ⟨b', hv, same⟩ := ih
    exact same ▸ (Brain.setModule_bears hl hv id source).leaves hleaves
  | @updated loads v u state buffer h hleaves ih =>
    obtain ⟨b', hv, same⟩ := ih
    exact same ▸ ((Brain.runUpdate_stays hl hv state buffer).leaves hleaves).bears
  | @told loads v u id h hleaves ih =>
    obtain ⟨b', hv, same⟩ := ih
    exact same ▸ ((Brain.namespaceJson_stays hl hv id).leaves hleaves).bears
  | aside h hsame ih =>
    obtain ⟨b', hv, same⟩ := ih
    exact ⟨b', hsame.trans hv, same⟩

end

/-! ## Throwing -/

/-- A function of a brain or a job throws in a move. -/
def Move.Throws : Move E → Prop
  | call _ _ (.error _) => True
  | job (.error _) => True
  | _ => False

/-- What an update calls, and what it says where the call fails. -/
inductive Brain.Entry (b : Brain E) : String → E.Value → Prop
  | update : Entry b "Error while calling updateAgent: " b.updateAgent
  | flush {f : E.Value} (h : b.postMessageFlush = some f) : Entry b "Error while calling postMessageFlush: " f

/-- How a cycle throws: never, or at its end. Its failure has the diagnostic that is made there of what a function
threw, and no more than a line of what a job threw. -/
inductive Throwing (b : Brain E) : List (Move E) → Except Failure String → Prop
  | never {moves : List (Move E)} {r : Except Failure String} (quiet : ∀ m ∈ moves, ¬ m.Throws)
    (other : ∀ activity d, r ≠ .error (.script (.exception activity d))) : Throwing b moves r
  | last {moves : List (Move E)} (quiet : ∀ m ∈ moves, ¬ m.Throws) {activity : String} {f : E.Value}
    (entry : b.Entry activity f) (args : List E.Value) (thrown : E.Value) (d : Diagnostic) :
    Throwing b (moves ++ [.call f args (.error thrown), .diagnose thrown d]) (.error (.script (.exception activity d)))
  | job {moves : List (Move E)} (quiet : ∀ m ∈ moves, ¬ m.Throws) (thrown : E.Value) (reason : String) :
    Throwing b (moves ++ failingJob thrown reason) (.error (jobFailure reason))

theorem Decoding.quiet {text : String} {moves : List (Move E)} {r : Except Failure E.Value}
    (h : Decoding text moves r) : ∀ m ∈ moves, ¬ m.Throws := by
  cases h <;> simp [Move.Throws]

theorem Calling.quiet {activity : String} {f : E.Value} {args : List E.Value} {moves : List (Move E)}
    (h : Calling activity f args moves (.ok ())) : ∀ m ∈ moves, ¬ m.Throws := by
  cases h
  simp [Move.Throws]

theorem jobs_quiet (n : Nat) (pending : Bool) : ∀ m ∈ (jobs n ++ [.look pending] : List (Move E)), ¬ m.Throws := by
  intro m hm
  obtain hm | hm := List.mem_append.mp hm
  · obtain rfl | rfl := mem_jobs hm <;> exact id
  · exact List.mem_singleton.mp hm ▸ id

theorem Draining.quiet {b : Brain E} {moves : List (Move E)} {n : Nat} (h : Draining b moves (.ok n)) :
    ∀ m ∈ moves, ¬ m.Throws := by
  cases h
  exact jobs_quiet n false

theorem Flushing.quiet {b : Brain E} {v view : E.Value} {moves : List (Move E)}
    (h : Flushing b v view moves (.ok ())) : ∀ m ∈ moves, ¬ m.Throws := by
  cases h with
  | absent hflush => simp
  | present flush hflush hcall => exact hcall.quiet

theorem Encoding.quiet {v : E.Value} {moves : List (Move E)} {r : Except Failure String} (h : Encoding v moves r) :
    ∀ m ∈ moves, ¬ m.Throws := by
  cases h <;> simp [Move.Throws]

theorem quiet_append {first second : List (Move E)} (h : ∀ m ∈ first, ¬ m.Throws) (h' : ∀ m ∈ second, ¬ m.Throws) :
    ∀ m ∈ first ++ second, ¬ m.Throws := fun m hm => (List.mem_append.mp hm).elim (h m) (h' m)

theorem Cycle.throwing {b : Brain E} {state : String} {view : E.Value} {last : Phase} {moves : List (Move E)}
    {r : Except Failure String} (h : Cycle b state view last moves r) : Throwing b moves r := by
  cases h with
  | decodeFails hread =>
    refine .never hread.quiet ?_
    cases hread
    nofun
  | updateFails hread hcall =>
    cases hcall with
    | threw thrown d => exact .last hread.quiet .update _ thrown d
  | drainFails hread hcall hdrain =>
    have before := quiet_append hread.quiet hcall.quiet
    cases hdrain with
    | limited max hmax => exact .never (quiet_append before (jobs_quiet max true)) nofun
    | failed n hn hbelow thrown reason =>
      have worked : ∀ m ∈ (jobs n : List (Move E)), ¬ m.Throws := fun m hm =>
        jobs_quiet n true m (List.mem_append_left _ hm)
      rw [← List.append_assoc]
      exact .job (quiet_append before worked) thrown reason
  | flushFails hread hcall hdrain hflush =>
    have before := quiet_append (quiet_append hread.quiet hcall.quiet) hdrain.quiet
    cases hflush with
    | present flush hflush hcall =>
      cases hcall with
      | threw thrown d => exact .last before (.flush hflush) _ thrown d
  | encodes hread hcall hdrain hflush hwrite =>
    have before := quiet_append (quiet_append (quiet_append hread.quiet hcall.quiet) hdrain.quiet) hflush.quiet
    refine .never (quiet_append before hwrite.quiet) ?_
    cases hwrite <;> nofun

/-! ## Quoting -/

/-- The source that is found for a file after modules were set, the latest first: that of the last module under
its name, or the brain's own. -/
def quoted (source : String) (loads : List (String × StoredModule E.Value)) (file : String) : String :=
  ((loads.lookup file).map StoredModule.source).getD source

/-- A text is the present one of a file: the brain's script, while no module took the name of its file, or the
text that the module was set from last. -/
inductive Current (source : String) (loads : List (String × StoredModule E.Value)) : String → String → Prop
  | script (untaken : loads.lookup Script.scriptFile = none) : Current source loads Script.scriptFile source
  | module {id : String} {m : StoredModule E.Value} (last : loads.lookup id = some m) :
    Current source loads id m.source

theorem Current.quoted_eq {source file text : String} {loads : List (String × StoredModule E.Value)}
    (h : Current source loads file text) : quoted source loads file = text := by
  unfold quoted
  cases h with
  | script untaken => rw [untaken]; rfl
  | module last => rw [last]; rfl

/-- A diagnostic is about a place, and quotes its line from the source that is found for its file. -/
structure Quotes (source : String) (loads : List (String × StoredModule E.Value)) (p : Location) (d : Diagnostic) :
    Prop where
  file : d.file = some p.file
  line : d.line = some p.line
  sourceLine : d.sourceLine = (lines (quoted source loads p.file))[p.line - 1]?

theorem Brain.sourceOf_eq {b : Brain E} {loads : List (String × StoredModule E.Value)}
    (same : ∀ id, b.modules.lookup id = loads.lookup id) (file : String) :
    b.sourceOf (some file) = some (quoted b.source loads file) := by
  unfold sourceOf quoted
  rw [Option.bind_some, same]
  cases loads.lookup file <;> rfl

theorem Move.Leads.quotes {b : Brain E} {link : Link E K} {x y : Scene E K} {thrown : E.Value} {d : Diagnostic}
    (h : (Move.diagnose thrown d).Leads b link x y) {loads : List (String × StoredModule E.Value)}
    (same : ∀ id, b.modules.lookup id = loads.lookup id) {frames : List StackFrame} {p : Location}
    (located : Located E x.1 thrown frames) (shown : Shows frames p) : Quotes b.source loads p d := by
  obtain ⟨file, line, sourceLine⟩ := located.diagnose shown h
  rw [b.sourceOf_eq same] at sourceLine
  exact ⟨file, line, sourceLine⟩

/-- What is reported of the errors that functions of a brain and jobs throw in an update: if there is one, the
diagnostic of what a function threw, or what the engine has to say in one line of what a job threw. -/
inductive Reporting (b : Brain E) (link : Link E K) (start : Scene E K) (moves : List (Move E))
    (r : Except Failure String) (quotes : Location → Diagnostic → Prop) : Prop
  | quiet (quiet : ∀ m ∈ moves, ¬ m.Throws) (other : ∀ activity d, r ≠ .error (.script (.exception activity d)))
  | threw {first rest : List (Move E)} {activity : String} {f : E.Value} {args : List E.Value} {thrown : E.Value}
    {d : Diagnostic} {scene : Scene E K} (parts : moves = first ++ .call f args (.error thrown) :: rest)
    (quiet : ∀ m ∈ first ++ rest, ¬ m.Throws) (entry : b.Entry activity f)
    (path : Path b link (first ++ [.call f args (.error thrown)]) start scene)
    (reported : r = .error (.script (.exception activity d)))
    (quoting : ∀ frames p, Located E scene.1 thrown frames → Shows frames p → quotes p d)
  | failed {first rest : List (Move E)} {thrown : E.Value} {reason : String} {scene scene' : Scene E K}
    (parts : moves = first ++ .job (.error thrown) :: .headline thrown reason :: rest)
    (quiet : ∀ m ∈ first ++ rest, ¬ m.Throws) (path : Path b link (first ++ [.job (.error thrown)]) start scene)
    (told : (Move.headline thrown reason).Leads b link scene scene') (reported : r = .error (jobFailure reason))

theorem Updating.reporting {b : Brain E} {link : Link E K} {state : String} {buffer bytes : ByteArray}
    {moves : List (Move E)} {r : Except Failure String} {p q : Scene E K}
    (h : Updating b state buffer moves (.ok (r, bytes))) (path : Path b link moves p q)
    {loads : List (String × StoredModule E.Value)} (same : ∀ id, b.modules.lookup id = loads.lookup id) :
    Reporting b link p moves r (Quotes b.source loads) := by
  cases h with
  | @ends view _ moves _ _ cycle =>
    have attached : ∀ m ∈ [Move.attach buffer view], ¬ m.Throws := by simp [Move.Throws]
    have detached : ∀ m ∈ [Move.detach view bytes], ¬ m.Throws := by simp [Move.Throws]
    cases cycle.throwing with
    | never quiet other => exact .quiet (quiet_append (quiet_append attached quiet) detached) other
    | @last moves quiet activity f entry args thrown d =>
      have diagnosed : ∀ m ∈ [Move.diagnose thrown d, .detach view bytes], ¬ m.Throws := by simp [Move.Throws]
      have parts : .attach buffer view :: (moves ++ [.call f args (.error thrown), .diagnose thrown d]) ++
          [.detach view bytes] = (.attach buffer view :: moves) ++ .call f args (.error thrown) ::
            [.diagnose thrown d, .detach view bytes] := by simp
      rw [parts, List.append_cons, Path.append] at path
      obtain ⟨scene, threw, scene', leads, -⟩ := path
      exact .threw parts (quiet_append (quiet_append attached quiet) diagnosed) entry threw rfl
        fun frames p located shown => leads.quotes same located shown
    | @job moves quiet thrown reason =>
      have looked : ∀ m ∈ (moves ++ [.look true] : List (Move E)), ¬ m.Throws :=
        quiet_append quiet (by simp [Move.Throws])
      have parts : .attach buffer view :: (moves ++ failingJob thrown reason) ++ [.detach view bytes] =
          (.attach buffer view :: (moves ++ [.look true])) ++ .job (.error thrown) ::
            [.headline thrown reason, .detach view bytes] := by simp [failingJob]
      rw [parts, List.append_cons, Path.append] at path
      obtain ⟨scene, threw, scene', told, -⟩ := path
      exact .failed parts (quiet_append (quiet_append attached looked) detached) threw told rfl

/-- **The failing line.** A brain is new, and then modules are set in it one after the other, among updates and all
else that may happen. In every update after that which ends, either no function of the brain throws and no
job does, and no exception is reported, or a job throws and one line about that is reported without a place, or a
function throws and the diagnostic of what it threw is reported. If this is an error whose
stack names a place, the diagnostic has the place's line and quotes this line of the source that is then found for
the place's file. So it quotes the line where the error was thrown if the function comes from the brain's script
and no module has the name of its file, or if it comes from what a module was set from last. The errors of the
script engine whose traces were left alone have such stacks. -/
theorem errors_quoted {S : Type} {reach : Reach} (host : Host S) (depth : Nat)
    (hhost : ∀ callback, (host callback).Asks reach.allows) (number : Nat) {w : World E (Minded S)} {b : Brain E}
    (hb : w.brains[number]? = some b) (hnew : b.modules = []) {loads : List (String × StoredModule E.Value)}
    {v : World E (Minded S)} (history : History (host.link depth) number w loads v) :
    (∀ {state buffer r bytes u}, Brain.runUpdate number state buffer (host.link depth) v = .done (r, bytes) u →
      ∃ b' c, v.brains[number]? = some b' ∧ b'.context = some c ∧
        ((Limit.buffer.maxBytes < buffer.size ∧
            r = .error (.marshal (.bufferTooLarge buffer.size Limit.buffer.maxBytes))) ∨
          ∃ moves q, Updating b' state buffer moves (.ok (r, bytes)) ∧
            Path b' (host.link depth) moves (c, busy number v) q ∧
            Reporting b' (host.link depth) (c, busy number v) moves r (Quotes b.source loads))) ∧
    (∀ {p : Location} {d : Diagnostic} {text : String}, Current b.source loads p.file text →
      Quotes b.source loads p d → d.line = some p.line ∧ d.sourceLine = (lines text)[p.line - 1]?) ∧
    ∀ (context : Script.Context) (ref : Nat) (made : Script.Realm) (calls : List Script.Call)
      (frames : List StackFrame), context.realm.Traced ref made calls → List.Forall₂ made.Frames calls frames →
        (∀ call ∈ calls, (Script.Value.nat call.place.line).integer? = some (call.place.line : Int)) →
          Located Script.engine context (.object ref) frames := by
  refine ⟨fun {state buffer r bytes u} ran => ?_, fun current quotes => ?_,
    fun context ref made calls frames traced framed whole => traced.located framed whole⟩
  · have hl : (held E (Minded S) number).admits (host.link depth) := held.admits hhost depth
    obtain ⟨⟨b', hb', same⟩, -⟩ := history.holds hl hb hnew
    obtain ⟨b'', c, q, hb'', hc, inside, -⟩ := Brain.runUpdate_done ran
    obtain rfl := Option.some.inj (hb'.symm.trans hb'')
    obtain ⟨b'', hb'', source⟩ := history.bears hl hb
    obtain rfl := Option.some.inj (hb'.symm.trans hb'')
    refine ⟨b', c, hb', hc, ?_⟩
    by_cases size : buffer.size ≤ Limit.buffer.maxBytes
    · obtain ⟨moves, updating, path⟩ := (Inside.Goes.updateInside state size (c, busy number v) q _).mp inside
      exact .inr ⟨moves, q, updating, path, source ▸ updating.reporting path same⟩
    · have large := Nat.lt_of_not_le size
      rw [Brain.updateInside_tooLarge b' state large] at inside
      have ended := Except.ok.inj (Prod.mk.inj (Outcome.done.inj inside).1).1
      exact .inl ⟨large, (Prod.mk.inj ended).1.symm⟩
  · exact ⟨quotes.line, current.quoted_eq ▸ quotes.sourceLine⟩

/-- An engine whose functions throw, each in the second line of the script. -/
def faultyEngine : Engine :=
  { Engine.idle Unit String () id id with
    call := fun _ _ c => .done (c, .error "thrown")
    isError := fun _ _ => true
    property := fun _ name c => .done (c, .ok (if name = "stack" then "    at updateAgent (eval_script:2)\n" else ""))
    text? := fun _ => none }

def faultyPlace : Location := ⟨Script.scriptFile, 2, none⟩

def faultyStack : List StackFrame := [⟨"updateAgent", some faultyPlace⟩]

def faultyBrain : Brain faultyEngine :=
  { context := some (), source := "var updateAgent = state =>\n  state.missing();\n", bridge := 0
    updateAgent := "updateAgent", maxPendingJobs := none }

def faulty : World faultyEngine (Minded Unit) := { brains := #[faultyBrain], host := { own := () } }

theorem faulty_shows : Shows faultyStack faultyPlace := by
  refine .here ⟨by simp, fun p placed => ?_⟩ rfl []
  cases placed
  exact ⟨by simp [faultyPlace, Script.scriptFile], by decide, nofun, fun _ front last ends => by cases ends⟩

theorem faulty_located (c : Unit) (thrown : String) : Located faultyEngine c thrown faultyStack where
  error := rfl
  stack := ⟨"    at updateAgent (eval_script:2)\n", rfl, rfl, rfl⟩
  file := ⟨"", rfl, rfl⟩
  line := ⟨"", rfl, fun _ _ _ read => by cases read⟩
  column := ⟨"", rfl⟩

/-- The modules of that brain once one of some name was set. -/
def faultyLoads (id : String) : List (String × StoredModule faultyEngine.Value) :=
  [(id, { namespaceObject := ("" : String), source := "export const a = 1;\nexport const b = 2;\n" })]

/-- With another module set, the line of the script is quoted that threw. -/
theorem errors_quoted_faulty :
    (∀ callback, (passive callback).Asks (Reach.allows ⟨fun _ => False, fun _ _ => False⟩)) ∧
    faulty.brains[0]? = some faultyBrain ∧ faultyBrain.modules = [] ∧
    ∃ v d bytes u, History (passive.link 1) 0 faulty (faultyLoads "m") v ∧
      Brain.runUpdate 0 "{}" .empty (passive.link 1) v =
        .done (.error (.script (.exception "Error while calling updateAgent: " d)), bytes) u ∧
      d.line = some 2 ∧ d.sourceLine = some "  state.missing();" := by
  have allowed (callback : Callback) :
      (passive callback).Asks (Reach.allows ⟨fun _ => False, fun _ _ => False⟩) := trivial
  obtain ⟨v, d, bytes, u, history, ran⟩ : ∃ v d bytes u, History (passive.link 1) 0 faulty (faultyLoads "m") v ∧
      Brain.runUpdate 0 "{}" .empty (passive.link 1) v =
        .done (.error (.script (.exception "Error while calling updateAgent: " d)), bytes) u :=
    ⟨_, _, _, _, .loaded .start rfl rfl, rfl⟩
  refine ⟨allowed, rfl, rfl, v, d, bytes, u, history, ran, ?_⟩
  obtain ⟨quoting, current, -⟩ := errors_quoted passive 1 allowed 0 (w := faulty) rfl rfl history
  obtain ⟨b', c, -, -, ⟨large, -⟩ | ⟨moves, q, -, -, reporting⟩⟩ := quoting ran
  · exact absurd large (by decide)
  · cases reporting with
    | quiet _ other => exact absurd rfl (other _ _)
    | failed _ _ _ _ reported => exact absurd reported (by simp [jobFailure])
    | threw _ _ _ _ reported quotes =>
      cases reported
      exact current (p := faultyPlace) (.script rfl) (quotes _ _ (faulty_located _ _) faulty_shows)

/-- With a module set under the name of the script's file, the line of the module is quoted instead. -/
theorem taken_name_misquotes :
    ∃ v d bytes u, History (passive.link 1) 0 faulty (faultyLoads Script.scriptFile) v ∧
      Brain.runUpdate 0 "{}" .empty (passive.link 1) v =
        .done (.error (.script (.exception "Error while calling updateAgent: " d)), bytes) u ∧
      (∀ c thrown, Located faultyEngine c thrown faultyStack) ∧ Shows faultyStack faultyPlace ∧
      d.line = some faultyPlace.line ∧ d.sourceLine = some "export const b = 2;" ∧
      d.sourceLine ≠ (lines faultyBrain.source)[faultyPlace.line - 1]? := by
  have line : (lines faultyBrain.source)[faultyPlace.line - 1]? = some "  state.missing();" := rfl
  rw [line]
  exact ⟨_, _, _, _, .loaded .start rfl rfl, rfl, faulty_located, faulty_shows, rfl, rfl, by decide⟩

end BrainHost
