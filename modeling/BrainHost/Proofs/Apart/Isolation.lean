import BrainHost.Proofs.Apart.Level
import BrainHost.Proofs.Table.Refine

/-! # Brains do not interfere

What the operations on one brain answer does not depend on the operations on other brains and on scratch
scripts in between: they answer the same if those are left out. -/

namespace BrainHost

variable {E : Engine} {K : HostKind} {α : Type}

/-! ## Operations on the brain -/

variable {host : Manners} {id : String} {v w : World E K}

theorem Attempt.Enters.twin {R : World E K → World E K → Prop} {m : Attempt E K α}
    {check : Except Failure Unit} {goes goes' : Attempt E K α → Prop} {link : Link E K}
    (h : m.Enters w check goes) (h' : m.Enters v check goes')
    (hjournal : ∀ journal journal', R { w with journal } { v with journal := journal' })
    (hrest : ∀ rest rest', goes rest → goes' rest' → (rest.run link w).Twin R (rest'.run link v)) :
    (m.run link w).Twin R (m.run link v) := by
  cases check with
  | error failure =>
    obtain ⟨-, journal, hrun⟩ := h
    obtain ⟨-, journal', hrun'⟩ := h'
    rw [hrun, hrun']
    exact .done _ (hjournal journal journal')
  | ok u =>
    obtain ⟨rest, hgoes, hrun⟩ := h
    obtain ⟨rest', hgoes', hrun'⟩ := h'
    rw [hrun, hrun']
    exact hrest rest rest' hgoes hgoes'

theorem Level.find (h : Level id w v) {m : Brain E → Inside E K α} (hm : Brain.Insular host m) :
    ((do Brain.enter (← Registry.find id) m : Attempt E K α).run host.link w).Twin (Level id)
      ((do Brain.enter (← Registry.find id) m : Attempt E K α).run host.link v) := by
  have enters := Registry.find_enters v id fun number => Brain.enter number m
  rw [h.known] at enters
  refine (Registry.find_enters w id fun number => Brain.enter number m).twin enters h.of_journal ?_
  rintro _ _ ⟨i, hi, rfl⟩ ⟨j, hj, rfl⟩
  exact (h.enter hi hj hm).mono fun _ _ h => h.1

/-- An operation on a brain answers the same in runtimes that are level for it, and leaves them so. -/
theorem Errand.levels (errand : Errand) (h : Level id w v) (hnamed : errand.id? = some id) :
    (errand.act host.link w).Twin (Level id) (errand.act host.link v) := by
  cases errand with
  | reset id source =>
    obtain rfl := Option.some.inj hnamed
    refine (Registry.reset_enters w id source).twin (Registry.reset_enters v id source) h.of_journal ?_
    rintro _ _ rfl rfl
    rw [h.config]
    exact h.remake source _
  | setModule id moduleId source =>
    obtain rfl := Option.some.inj hnamed
    have enters := Registry.setModule_enters v id moduleId source
    rw [h.known] at enters
    refine (Registry.setModule_enters w id moduleId source).twin enters h.of_journal ?_
    rintro _ _ ⟨i, hi, rfl⟩ ⟨j, hj, rfl⟩
    rw [Operation.load_apply, Operation.load_apply]
    refine (h.enter hi hj (.runModule moduleId source)).bind (fun r u x h => ?_) fun _ _ h => h.1
    obtain ⟨h, hu, hx⟩ := h
    cases r with
    | ok namespaceObject => exact .done _ (h.touched (hu ▸ hi) (hx ▸ hj) fun _ _ => rfl)
    | error failure => exact .done _ h
  | update id state buffer =>
    obtain rfl := Option.some.inj hnamed
    rw [update_apply, update_apply]
    have known := h.known
    cases hi : w.registry.lookup id with
    | none =>
      rw [hi, Option.isSome_none, Option.isSome_eq_false_iff, Option.isNone_iff_eq_none] at known
      rw [known]
      exact .done _ h
    | some i =>
      rw [hi, Option.isSome_some, Option.isSome_iff_exists] at known
      obtain ⟨j, hj⟩ := known
      rw [hj]
      exact (h.enter hi hj (.updateInside state buffer)).bind (fun _ _ _ h => .done _ h.1) fun _ _ h => h.1
  | drain id =>
    obtain rfl := Option.some.inj hnamed
    exact h.find .drain
  | namespaceJson id moduleId =>
    obtain rfl := Option.some.inj hnamed
    exact h.find (.namespaceInside moduleId)
  | evaluate source => cases hnamed

/-! ## Runs -/

/-- What is to be seen of an operation: its answer, unless there was a panic, and the last service result
of the brain that it names. -/
structure Reading where
  errand : Errand
  answer : Option errand.Answer
  lastResult : Option (Option String)

/-- The last service result of a brain, if it is there. -/
def World.lastResultOf (w : World E K) (id : String) : Option (Option String) :=
  (w.found id).map fun b => resultIn w.results b.bridge

theorem Level.lastResultOf (h : Level id w v) : v.lastResultOf id = w.lastResultOf id := by
  have hfound := h.found
  unfold World.lastResultOf
  generalize w.found id = found, v.found id = found' at hfound
  cases hfound with
  | none => rfl
  | some hsame =>
    obtain ⟨bridge, rfl, hresult⟩ := hsame
    exact congrArg some hresult

namespace Errand

def tried (errand : Errand) : Act E K (Option errand.Answer) :=
  Act.catchFault (do pure (some (← errand.act))) (pure none)

def observe (errand : Errand) : Act E K Reading := do
  let answer ← errand.tried
  pure ⟨errand, answer, errand.id?.bind (← Act.get).lastResultOf⟩

/-- Tries operations one after the other, whatever becomes of each. -/
def observeAll : List Errand → Act E K (List Reading)
  | [] => pure []
  | errand :: rest => do
    let reading ← errand.observe
    let readings ← observeAll rest
    pure (reading :: readings)

theorem tried_apply (errand : Errand) (link : Link E K) (w : World E K) :
    errand.tried link w =
      match errand.act link w with
      | .done a v => .done (some a) v
      | .fault v => .done none v
      | .stuck => .stuck := by
  have answered : (do pure (some (← errand.act)) : Act E K _) link w =
      (errand.act link w).bind fun a v => .done (some a) v := Act.bind_apply ..
  rw [tried, Act.catchFault_apply, answered]
  cases errand.act link w <;> rfl

theorem observe_apply (errand : Errand) (link : Link E K) (w : World E K) :
    errand.observe link w =
      match errand.act link w with
      | .done a v => .done ⟨errand, some a, errand.id?.bind v.lastResultOf⟩ v
      | .fault v => .done ⟨errand, none, errand.id?.bind v.lastResultOf⟩ v
      | .stuck => .stuck := by
  unfold observe
  rw [Act.bind_apply, tried_apply]
  cases errand.act link w <;> rfl

theorem observe_spares (errand : Errand) (hw : w.Rooted) (hother : errand.names id = false) :
    (errand.observe host.link w).Ends (Spared id w) := by
  have ends : (errand.act host.link w).Ends (Spared id w) := errand.spares hw hother
  rw [observe_apply]
  cases hact : errand.act host.link w with
  | stuck => trivial
  | _ =>
    rw [hact] at ends
    exact ends

theorem observe_levels (errand : Errand) (h : Level id w v) (hnamed : errand.id? = some id) :
    (errand.observe host.link w).Twin (Level id) (errand.observe host.link v) := by
  have twin : (errand.act host.link w).Twin (Level id) (errand.act host.link v) := errand.levels h hnamed
  have last {w v : World E K} (h : Level id w v) :
      errand.id?.bind v.lastResultOf = errand.id?.bind w.lastResultOf := by
    rw [hnamed]
    exact h.lastResultOf
  rw [observe_apply, observe_apply]
  generalize errand.act host.link w = o, errand.act host.link v = o' at twin
  cases twin with
  | done a h =>
    dsimp only
    rw [last h]
    exact .done _ h
  | fault h =>
    dsimp only
    rw [last h]
    exact .done _ h
  | stuck => exact .stuck

theorem observe_errand {errand : Errand} {link : Link E K} {reading : Reading}
    (h : errand.observe link w = .done reading v) : reading.errand = errand := by
  rw [observe_apply] at h
  cases hact : errand.act link w with
  | stuck => rw [hact] at h; cases h
  | _ =>
    rw [hact] at h
    cases h
    rfl

theorem observeAll_purged (errands : List Errand) (h : Level id w v) {readings : List Reading}
    {w' : World E K} (hrun : observeAll errands host.link w = .done readings w') :
    ∃ v', observeAll (errands.filter (·.names id)) host.link v =
        .done (readings.filter (·.errand.names id)) v' ∧ Level id w' v' := by
  -- An operation that is left out spares the brain, so that the states stay level; any other does the
  -- same in both.
  induction errands generalizing w v readings with
  | nil =>
    cases hrun
    exact ⟨v, rfl, h⟩
  | cons errand rest ih =>
    rw [observeAll, Act.bind_apply] at hrun
    obtain ⟨reading, u, hfirst, hrun⟩ := Outcome.bind_eq_done.mp hrun
    rw [Act.bind_apply] at hrun
    obtain ⟨readings', u', hrest, hrun⟩ := Outcome.bind_eq_done.mp hrun
    cases hrun
    have herrand := observe_errand hfirst
    cases hnames : errand.names id with
    | true =>
      have hnamed : errand.id? = some id := by simpa [names] using hnames
      have twin : (errand.observe host.link w).Twin (Level id) (errand.observe host.link v) :=
        errand.observe_levels h hnamed
      rw [hfirst] at twin
      obtain ⟨x, hx, hlevel⟩ := twin.of_done
      obtain ⟨v', hv', hend⟩ := ih hlevel hrest
      refine ⟨v', ?_, hend⟩
      rw [List.filter_cons_of_pos hnames, List.filter_cons_of_pos (herrand ▸ hnames), observeAll,
        Act.bind_apply, hx, Outcome.bind_done, Act.bind_apply, hv']
      rfl
    | false =>
      have spared : (errand.observe host.link w).Ends (Spared id w) := errand.observe_spares h.rooted hnames
      rw [hfirst] at spared
      obtain ⟨v', hv', hend⟩ := ih (h.spared spared (.refl id h.rooted')) hrest
      refine ⟨v', ?_, hend⟩
      rw [List.filter_cons_of_neg (by simp [hnames]), List.filter_cons_of_neg (by simp [herrand, hnames])]
      exact hv'

end Errand

/-- **Brains do not interfere.** Two sequences of operations are given that have the same operations on
one brain in the same order, while those on other brains and the scratch scripts differ in any way. Where
the host's functions start nothing and answer from what they are asked alone, the operations on the brain
have the same answers in both: result or error, bytes, namespace, number of jobs and last service result.
And the next operation on the brain answers the same after the one as after the other, or does not end
after either. -/
theorem brains_do_not_interfere (host : Manners) (id : String) {w : World E K} (hw : w.Sound)
    {errands errands' : List Errand}
    (hsame : errands.filter (·.names id) = errands'.filter (·.names id))
    {readings readings' : List Reading} {v v' : World E K}
    (hrun : Errand.observeAll errands host.link w = .done readings v)
    (hrun' : Errand.observeAll errands' host.link w = .done readings' v') :
    readings.filter (·.errand.names id) = readings'.filter (·.errand.names id) ∧
    ∀ errand : Errand, errand.names id = true →
      (errand.observe host.link v).Twin (fun _ _ => True) (errand.observe host.link v') := by
  have level := Level.refl id hw.rooted
  obtain ⟨u, hpurged, hlevel⟩ := Errand.observeAll_purged errands level hrun
  obtain ⟨u', hpurged', hlevel'⟩ := Errand.observeAll_purged errands' level hrun'
  -- What is left of both runs without the other operations is one and the same run.
  rw [hsame, hpurged'] at hpurged
  obtain ⟨hreadings, rfl⟩ := Outcome.done.inj hpurged
  refine ⟨hreadings.symm, fun errand hnames => ?_⟩
  have hnamed : errand.id? = some id := by simpa [Errand.names] using hnames
  exact (errand.observe_levels hlevel hnamed).meet (errand.observe_levels hlevel' hnamed)

/-- A host that reports the arguments of a call as its result. -/
def echoing : Manners where
  reports _ args := [args]
  reply _ := some .none
  blind _ _ _ _ := rfl

def vacant : World callingEngine ⟨Unit, Empty⟩ where
  hooks := ⟨[.callService]⟩
  life := some ⟨"main", some ()⟩
  host := ()

theorem vacant_sound : vacant.Sound where
  stopped h := nomatch h
  keys := List.nodup_nil
  numbers h := nomatch h
  bridges h := nomatch h
  apart h := nomatch h
  owners h := nomatch h
  closed _ := by simp [IsOpenIn, vacant]

def alone : List Errand := [.reset "a" "s", .update "a" "5" .empty, .drain "a"]

def amongOthers : List Errand :=
  [.reset "b" "t", .reset "a" "s", .evaluate "u", .drain "c", .update "a" "5" .empty, .reset "b" "", .drain "a"]

/-- Another brain takes the first bridge here and a reset of it fails later, and a script of no brain asks
for a service. The brain has the result of its own call in either run. -/
theorem brains_do_not_interfere_among_others :
    vacant.Sound ∧ alone.filter (·.names "a") = amongOthers.filter (·.names "a") ∧
    ∃ readings readings' v v', Errand.observeAll alone echoing.link vacant = .done readings v ∧
      Errand.observeAll amongOthers echoing.link vacant = .done readings' v' ∧
      readings'.length = 7 ∧ readings.map Reading.lastResult = List.replicate 3 (some (some "1")) ∧
      readings.filter (·.errand.names "a") = readings'.filter (·.errand.names "a") := by
  have same : alone.filter (·.names "a") = amongOthers.filter (·.names "a") := rfl
  refine ⟨vacant_sound, same, _, _, _, _, rfl, rfl, rfl, rfl, ?_⟩
  exact (brains_do_not_interfere echoing "a" vacant_sound same rfl rfl).1

end BrainHost
