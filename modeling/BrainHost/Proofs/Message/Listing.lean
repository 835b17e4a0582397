import BrainHost.Proofs.Message.Failure
import BrainHost.Proofs.Message.Located

/-! # Listings

A source that makes no brain is listed with a row for each of its lines, and the failure quotes one of them. Both
count lines alike: what is quoted of a line stands in the row of its number. As no line has a line feed in it, the
rows can be cut apart again whatever the lines are. -/

namespace BrainHost

open Text

namespace Listing

/-- The rows of a text, each of which a line feed ends. What follows the last line feed is no row. -/
def rows (text : String) : List String := ((text.toList.splitOn '\n').dropLast).map String.ofList

/-- The row of a line: its number, a colon, a tab and the line. -/
def row (number : Nat) (line : String) : String := toString number ++ ":\t" ++ line

/-- What a row has after its first tab. -/
def codeOf (row : String) : String := String.ofList ((row.toList.dropWhile (· ≠ '\t')).drop 1)

def code (text : String) : List String := (rows text).map codeOf

end Listing

/-- In a listing the row at the line of a diagnostic is that of the line it quotes. Where it quotes none there is no
such row. -/
def Diagnostic.ListedIn (text : String) (d : Diagnostic) : Prop :=
  ∀ number, 1 ≤ number → d.line = some number →
    (Listing.rows text)[number - 1]? = d.sourceLine.map (Listing.row number)

/-- The diagnostic that a failure of a script has. -/
def Failure.diagnostic? : Failure → Option Diagnostic
  | .script (.compilation _ d) => some d
  | .script (.exception _ d) => some d
  | _ => none

def Failure.ListedIn (text : String) (failure : Failure) : Prop := ∀ d ∈ failure.diagnostic?, d.ListedIn text

/-! ## Rows -/

namespace Listing

theorem rows_join {rs : List String} (unbroken : ∀ r ∈ rs, '\n' ∉ r.toList) :
    rows (String.join (rs.map (· ++ "\n"))) = rs := by
  -- Nothing follows the last line feed, which is what the split leaves at its end.
  have cut : (String.join (rs.map (· ++ "\n"))).toList.splitOn '\n' = rs.map String.toList ++ [[]] := by
    induction rs with
    | nil => rfl
    | cons r rs ih =>
      obtain ⟨here, there⟩ := List.forall_mem_cons.mp unbroken
      have text : (String.join ((r :: rs).map (· ++ "\n"))).toList =
          r.toList ++ '\n' :: (String.join (rs.map (· ++ "\n"))).toList := by simp
      rw [text, List.splitOn_append_cons_self_of_not_mem here, ih there]
      rfl
  unfold rows
  rw [cut, List.dropLast_concat, List.map_map]
  simp

theorem toList_row (number : Nat) (line : String) :
    (row number line).toList = Nat.toDigits 10 number ++ ':' :: '\t' :: line.toList := by
  simp [row]

theorem codeOf_row (number : Nat) (line : String) : codeOf (row number line) = line := by
  -- The first tab is the one behind the number, whatever tabs the line has.
  have numbered : ∀ c ∈ Nat.toDigits 10 number ++ [':'], decide (c ≠ '\t') = true := by
    have untabbed : '\t' ∉ Nat.toDigits 10 number ++ [':'] := by simp [not_mem_toDigits]
    exact fun c mem => decide_eq_true fun tab => untabbed (tab ▸ mem)
  have text : (row number line).toList = (Nat.toDigits 10 number ++ [':']) ++ '\t' :: line.toList := by
    simp [toList_row]
  unfold codeOf
  rw [text, dropWhile_append_of_stop numbered (forall_head?_cons (by simp))]
  simp

theorem listing_eq (source : String) :
    listing source = String.join (((lines source).mapIdx fun i line => row (i + 1) line).map (· ++ "\n")) := by
  unfold listing String.join
  rw [List.mapIdx_eq_zipIdx_map, List.map_map, List.foldl_map]
  congr 1
  funext out ⟨line, i⟩
  simp [row, String.append_assoc]

theorem rows_listing (source : String) :
    rows (listing source) = (lines source).mapIdx fun i line => row (i + 1) line := by
  rw [listing_eq]
  refine rows_join fun r mem => ?_
  obtain ⟨i, inside, rfl⟩ := List.mem_mapIdx.mp mem
  obtain ⟨line, here, same⟩ := List.mem_map.mp (List.getElem_mem inside)
  have unbroken := (lined_linesOf source.toList).unbroken line here
  rw [← same, toList_row]
  simp [unbroken, not_mem_toDigits]

theorem getElem?_rows {number : Nat} (positive : 1 ≤ number) (source : String) :
    (rows (listing source))[number - 1]? = ((lines source)[number - 1]?).map (row number) := by
  rw [rows_listing, List.getElem?_mapIdx, Nat.sub_add_cancel positive]

theorem code_listing (source : String) : code (listing source) = lines source := by
  unfold code
  rw [rows_listing]
  apply List.ext_getElem?
  intro i
  simp [codeOf_row, Function.comp_def]

end Listing

/-! ## Diagnostics -/

namespace Diagnostic

variable {d : Diagnostic} {lookup : Option String → Option String} {source : String}

theorem QuotesFrom.listedIn (h : d.QuotesFrom lookup) (found : lookup d.file = some source) :
    d.ListedIn (listing source) := by
  intro number positive here
  rw [h number here, found]
  exact Listing.getElem?_rows positive source

theorem line_ofNul? (h : ofNul? source = some d) : d.line = none := by
  unfold ofNul? at h
  split at h <;> cases h
  rfl

end Diagnostic

namespace Failure.ListedIn

variable {failure : Failure} {text : String} {d : Diagnostic}

theorem of_some (shown : failure.diagnostic? = some d) (h : d.ListedIn text) : failure.ListedIn text := by
  intro d' shown'
  obtain rfl : d = d' := Option.some.inj (shown.symm.trans shown')
  exact h

theorem of_none (bare : failure.diagnostic? = none) : failure.ListedIn text :=
  fun _ shown => nomatch bare.symm.trans shown

end Failure.ListedIn

namespace Inside

variable {E : Engine} {K : HostKind} {α : Type} {s : Surroundings E} {lookup : Option String → Option String}

namespace Fails

variable {P : Failure → Prop}

theorem failWith_quoting {failure : String → Diagnostic → ScriptFailure} {activity : String}
    (h : ∀ d : Diagnostic, d.QuotesFrom lookup → P (.script (failure activity d))) (thrown : E.Value) :
    Fails P (Inside.failWith s failure activity lookup thrown : Inside E K α) := by
  refine bind_of (infallible (.diagnose s thrown lookup)) ?_
  rintro d ⟨c, link, w, c', v, made⟩
  exact throw (h d (diagnose_quotesFrom made))

theorem evaluate_listed (compiling running source : String) :
    Fails (Failure.ListedIn (listing source)) (Inside.evaluate s compiling running source : Inside E K E.Value) := by
  unfold Inside.evaluate
  split
  · next d nul =>
    have unplaced : d.QuotesFrom fun _ => some source := .of_unplaced (Diagnostic.line_ofNul? nul)
    apply throw_bind
    exact .of_some rfl (unplaced.listedIn rfl)
  · refine bind (perform s _) fun r => ?_
    cases r with
    | ok v => exact pure _
    | error thrown =>
      refine bind (isSyntaxError thrown) fun isSyntaxError => ?_
      split <;> exact failWith_quoting (fun d quotes => .of_some rfl (quotes.listedIn rfl)) thrown

theorem entryPoints_listed (source : String) :
    Fails (Failure.ListedIn (listing source))
      (Brain.entryPoints s source : Inside E K (E.Value × Option E.Value)) := by
  refine bind (evaluate_listed _ _ source) fun _ => bind (readGlobal (.of_none rfl) _) fun update => ?_
  refine bind (inspect _) fun callable => ?_
  dsimp only
  split
  · exact throw_bind (.of_none rfl) _
  · exact bind (readGlobal (.of_none rfl) _) fun _ => bind (inspect _) fun _ => pure _

end Fails

end Inside

/-! ## Resets -/

namespace Attempt.Fails

variable {E : Engine} {K : HostKind}

theorem make_listed (source : String) (config : EngineConfig) :
    Fails (Failure.ListedIn (listing source)) (Brain.make source config : Attempt E K (Brain E)) := by
  unfold Brain.make
  split
  · exact throw (.of_none rfl)
  · refine (lift _).bind fun bridge => inside (Inside.Fails.entryPoints_listed source) (fun r c h => ?_) _
    exact (finish h).bind fun _ => pure _

theorem reset_listed (id source : String) (config : EngineConfig) :
    Fails (fun failure => ∀ text cause, failure = .resetFailed text cause → text = listing source ∧ cause.ListedIn text)
      (Registry.reset id source config : Attempt E K Unit) := by
  -- Before the brain is made nothing fails but the checks of the two texts, and they list nothing.
  refine (orReject_of (fun _ _ _ => nofun) _).bind fun _ => (orReject_of (fun _ _ _ => nofun) _).bind fun _ => ?_
  refine lift_bind ?_
  rintro r ⟨link, w, v, made⟩
  cases r with
  | ok b => exact (lift _).bind fun _ => lift _
  | error cause =>
    refine throw ?_
    rintro _ _ ⟨⟩
    exact ⟨rfl, make_listed source config link w cause v made⟩

end Attempt.Fails

theorem lined_iff_code {source : String} {ls : List (List Char)} :
    Lined source.toList ls ↔ Listing.code (listing source) = ls.map String.ofList := by
  have injective : Function.Injective (List.map String.ofList) :=
    List.map_injective_iff.mpr fun _ _ same => String.ofList_injective same
  rw [← linesOf_eq_iff, Listing.code_listing]
  exact injective.eq_iff.symm

/-- **Listings.** A listing is nothing but rows that end with line feeds. Whatever the source and the line of a
diagnostic: the row of that number has the line that is quoted of the source, behind the number, a colon and a tab,
and where the listing has no such row nothing is quoted. So it is with every diagnostic that is made of what a
script throws and whose file has this source, and with what a reset fails with, which has the listing of its
source. The lines of the source, and no others, are what the rows have behind their first tabs. -/
theorem listing_quotes_lines (source : String) :
    listing source = String.join ((Listing.rows (listing source)).map (· ++ "\n")) ∧
    (∀ (d : Diagnostic) (lookup : Option String → Option String), lookup d.file = some source →
      (d.withSource lookup).ListedIn (listing source)) ∧
    (∀ {E : Engine} {K : HostKind} (s : Surroundings E) (thrown : E.Value) (lookup : Option String → Option String)
      (c c' : E.Context) (link : Link E K) (w v : World E K) (d : Diagnostic),
        (Inside.diagnose s thrown lookup : Inside E K Diagnostic).run c link w = .done (.ok d, c') v →
          lookup d.file = some source → d.ListedIn (listing source)) ∧
    (∀ {E : Engine} {K : HostKind} (id : String) (config : EngineConfig) (link : Link E K) (w v : World E K)
      (text : String) (cause : Failure),
        (Registry.reset id source config : Attempt E K Unit).run link w = .done (.error (.resetFailed text cause)) v →
          text = listing source ∧ cause.ListedIn text) ∧
    ∀ ls, Lined source.toList ls ↔ Listing.code (listing source) = ls.map String.ofList := by
  refine ⟨?_, fun d lookup found => ?_, fun s thrown lookup c c' link w v d made found => ?_,
    fun id config link w v text cause failed => ?_, fun ls => lined_iff_code⟩
  · rw [Listing.rows_listing]
    exact Listing.listing_eq source
  · exact d.quotesFrom_withSource.listedIn (d.withSource_file ▸ found)
  · exact (Inside.diagnose_quotesFrom made).listedIn found
  · exact Attempt.Fails.reset_listed id source config link w _ v failed text cause rfl

/-- An engine whose values are numbers, each of them an error at the line of that number. Scripts throw the one at
the second line. -/
def stumblingEngine : Engine :=
  { Engine.idle Unit Nat () (fun _ => 0) toString with
    evaluate := fun _ _ c => .done (c, .error (2 : Nat))
    isError := fun _ _ => true
    property := fun (v : Nat) name c => .done (c, .ok (if name = "lineNumber" then v else 0 : Nat))
    integer? := fun (v : Nat) => some v
    isAbsent := fun (v : Nat) => v == 0
    text? := fun _ => none }

/-- An empty line, one that looks like a row, and one with carriage returns but no end. -/
def strangeSource : String := "\n1:\ta\r\nb\rc\r"

theorem strangeSource_listed :
    let link : Link stumblingEngine ⟨Unit, Unit⟩ := fun _ w => .done .none w
    let w : World stumblingEngine ⟨Unit, Unit⟩ := { host := () }
    (∃ d v, (Inside.diagnose {} (3 : Nat) fun _ => some strangeSource : Inside stumblingEngine _ _).run () link w =
        .done (.ok d, ()) v ∧ d.line = some 3 ∧ d.sourceLine = some "b\rc\r" ∧
      (Listing.rows (listing strangeSource))[2]? = some "3:\tb\rc\r") ∧
    (∃ d v, (Inside.diagnose {} (4 : Nat) fun _ => some strangeSource : Inside stumblingEngine _ _).run () link w =
        .done (.ok d, ()) v ∧ d.line = some 4 ∧ d.sourceLine = none ∧
      (Listing.rows (listing strangeSource))[3]? = none) ∧
    (∃ text activity d v, (Registry.reset "b" strangeSource {} : Attempt stumblingEngine _ Unit).run link w =
        .done (.error (.resetFailed text (.script (.exception activity d)))) v ∧
      d.line = some 2 ∧ d.sourceLine = some "1:\ta" ∧ (Listing.rows text)[1]? = some "2:\t1:\ta") ∧
    Listing.code (listing strangeSource) = ["", "1:\ta", "b\rc\r"] := by
  intro link w
  obtain ⟨-, -, diagnosed, reset, lined⟩ := listing_quotes_lines strangeSource
  refine ⟨⟨_, _, rfl, rfl, rfl, ?_⟩, ⟨_, _, rfl, rfl, rfl, ?_⟩, ⟨_, _, _, _, rfl, rfl, rfl, ?_⟩, ?_⟩
  · exact diagnosed {} (3 : Nat) (fun _ => some strangeSource) () () link w _ _ rfl rfl 3 (by decide) rfl
  · exact diagnosed {} (4 : Nat) (fun _ => some strangeSource) () () link w _ _ rfl rfl 4 (by decide) rfl
  · exact (reset "b" {} link w _ _ _ rfl).2 _ rfl 2 (by decide) rfl
  · have last : Lined "b\rc\r".toList ["b\rc\r".toList] := .last (by simp) (by simp)
    have second : Lined ("1:\ta".toList ++ '\r' :: '\n' :: "b\rc\r".toList) ["1:\ta".toList, "b\rc\r".toList] :=
      .returned (by simp) last
    exact (lined _).mp (.fed List.not_mem_nil (by simp) second)

end BrainHost
